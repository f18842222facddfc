import Parlance.Check.Checkable
import Parlance.Literal

/-!
# Data that checks are made with

Literal values, classes of errors, errors, and what yields its items one by one and may raise an
error in the end.
-/

namespace Parlance.Check

/-- A value of a check. -/
inductive Datum where
  | literal (value : Literal)
  | errorClass (value : ErrorClass)
  | error (value : Raised Literal)
  /-- Yields the items of a literal, and may raise an error after the last. -/
  | stream (source : Literal) (failure : Option (Raised Literal))
  deriving Repr

/-- The name of the type of a scalar. -/
def typeName : Scalar → String
  | .none => "NoneType"
  | .bool _ => "bool"
  | .int _ => "int"
  | .real _ => "float"
  | .text _ => "str"

/-- The error for a value of this type that has no items. -/
def notIterable (typeName : String) : Raised Literal :=
  ⟨.type, [.text s!"'{typeName}' object is not iterable"], none⟩

/-- The items of a literal: those of a list, the characters of a text, the names of a record. -/
def literalItems : Literal → Except (Raised Literal) (List Literal)
  | .list items => .ok items
  | .scalar (.text text) => .ok (text.toList.map fun c => .text (String.singleton c))
  | .record fields => .ok (fields.map fun (name, _) => .text name)
  | .scalar value => .error (notIterable (typeName value))

namespace Datum

/-- The text that spells the value out. -/
def describe : Datum → String
  | literal value => value.describe
  | errorClass value => s!"<class '{value.name}'>"
  | error value => value.spell Literal.describe
  | stream _ _ => "<generator object>"

/-- Are the two values equal, given when literals are? Errors and what yields items are equal to
themselves only. -/
def sameBy (sameLiteral : Literal → Literal → Bool) : Datum → Datum → Bool
  | literal first, literal second => sameLiteral first second
  | errorClass first, errorClass second => first.same second
  | _, _ => false

/-- The items of the value. -/
def listItems : Datum → Except (Raised Literal) (List Literal)
  | literal value => literalItems value
  | errorClass _ => .error (notIterable "type")
  | error value => .error (notIterable value.errorClass.name)
  | stream source failure => do
    let items ← literalItems source
    match failure with
    | none => return items
    | some raised => throw raised

/-- What the value stands for where an error is expected. -/
def errorForm : Datum → ErrorForm Datum
  | literal (.scalar (.text text)) => .spelled text
  | literal _ => .none
  | errorClass value => .errorClass value
  | error value => .error (value.map literal)
  | stream _ _ => .none

instance : Checkable Datum where
  describe := describe
  same := sameBy Literal.same
  alike := sameBy Literal.alike
  items value :=
    match value.listItems with
    | .ok items => .ok (items.map literal)
    | .error raised => .error (raised.map literal)
  errorForm := errorForm

end Datum

end Parlance.Check
