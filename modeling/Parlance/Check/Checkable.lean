/-!
# What checks are about

A check compares what comes of a call, or a value, with what it expects. It is made with values of
any type that say how they are spelled out, which of them are equal, what items they have, and what
they stand for where an error is expected: the class of the error, an error of the same class with
equal arguments, or the text that spells the error out.
-/

namespace Parlance.Check

/-- A class of errors, which is told by its name, and the names of the classes that it belongs to
besides itself. -/
structure ErrorClass where
  name : String
  ancestors : List String
  deriving DecidableEq, Repr

namespace ErrorClass

/-- The class of all errors. -/
def any : ErrorClass := ⟨"Exception", []⟩

/-- Errors of what is looked up. -/
def lookup : ErrorClass := ⟨"LookupError", ["Exception"]⟩

/-- A key that is missing. -/
def key : ErrorClass := ⟨"KeyError", ["LookupError", "Exception"]⟩

/-- An index that is out of range. -/
def index : ErrorClass := ⟨"IndexError", ["LookupError", "Exception"]⟩

/-- A value that does not fit. -/
def value : ErrorClass := ⟨"ValueError", ["Exception"]⟩

/-- A value of a type that does not fit. -/
def type : ErrorClass := ⟨"TypeError", ["Exception"]⟩

/-- The class of this name among these. -/
def named? (name : String) : Option ErrorClass :=
  [any, lookup, key, index, value, type].find? (·.name == name)

/-- Are the two classes the same? -/
def same (first second : ErrorClass) : Bool := first.name == second.name

/-- Does the first class belong to the second? -/
def isA (first second : ErrorClass) : Bool :=
  first.same second || first.ancestors.contains second.name

end ErrorClass

/-- An error that has been raised. It is spelled with its class and its arguments unless it has a
spelling of its own. -/
structure Raised (ν : Type) where
  errorClass : ErrorClass
  arguments : List ν
  spelling? : Option String := none
  deriving Repr

namespace Raised

variable {μ ν : Type}

/-- The error with its arguments changed. -/
def map (change : ν → μ) (raised : Raised ν) : Raised μ :=
  { raised with arguments := raised.arguments.map change }

/-- The text that spells the error out, given how values are. -/
def spell (describe : ν → String) (raised : Raised ν) : String :=
  raised.spelling?.getD
    (s!"{raised.errorClass.name}(" ++ ", ".intercalate (raised.arguments.map describe) ++ ")")

end Raised

/-- What a value stands for where an error is expected. -/
inductive ErrorForm (ν : Type) where
  /-- The text that spells the error out. -/
  | spelled (text : String)
  /-- The class of the error. -/
  | errorClass (expected : ErrorClass)
  /-- An error of the same class with equal arguments. -/
  | error (expected : Raised ν)
  /-- No error at all. -/
  | none

/-- Values that checks can be made with. -/
class Checkable (ν : Type) where
  /-- The text that spells a value out. -/
  describe : ν → String
  /-- Are the two values equal? -/
  same : ν → ν → Bool
  /-- Are the two values equal as parts of larger ones, where a value is always equal to itself? -/
  alike : ν → ν → Bool
  /-- The items of a value; listing them may raise an error. -/
  items : ν → Except (Raised ν) (List ν)
  /-- What a value stands for where an error is expected. -/
  errorForm : ν → ErrorForm ν

export Checkable (describe same alike items errorForm)

section

variable {ν : Type} [Checkable ν]

/-- The text that spells an error out. -/
def Raised.describe (raised : Raised ν) : String := raised.spell Check.describe

/-- The text that spells a list of items out. -/
def describeItems (values : List ν) : String :=
  "[" ++ ", ".intercalate (values.map describe) ++ "]"

/-- Are the items equal one by one? -/
def sameItems (first second : List ν) : Bool := first.isEqv second alike

/-- Is this error what the value stands for? -/
def admits (expected : ν) (raised : Raised ν) : Bool :=
  match errorForm expected with
  | .spelled text => text == raised.describe
  | .errorClass expected => raised.errorClass.isA expected
  | .error expected =>
    expected.errorClass.same raised.errorClass && sameItems expected.arguments raised.arguments
  | .none => false

end

end Parlance.Check
