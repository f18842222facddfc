import Parlance.Number.Binary64
import Parlance.Number.Digits
import Parlance.Number.Integer
import Parlance.Text.Quoted

/-!
# Literal values

The values that a definition can be given and that a check can compare, with the text that spells
them out. Numbers are equal when their values are, whatever their type; the two truth values count
as one and zero.
-/

namespace Parlance

/-- A value without parts. -/
inductive Scalar where
  | none
  | bool (value : Bool)
  | int (value : Int)
  | real (value : Binary64)
  | text (value : String)
  deriving DecidableEq, Repr, Inhabited

namespace Scalar

/-- The text that spells the value out. -/
def describe : Scalar → String
  | none => "None"
  | bool value => if value then "True" else "False"
  | int value => toString value
  | real value => value.describe
  | text value => Text.quote value

/-- The number that a numeral writes: a real one if it has a fraction or an exponent, or if it is
the name of what is no finite number. -/
def ofNumeral (numeral : String) : Scalar :=
  let chars := numeral.toList
  if numeral = "NaN" then .real .undefined
  else if numeral = "Infinity" then .real (.infinite false)
  else if numeral = "-Infinity" then .real (.infinite true)
  else
    let isMark := fun (c : Char) => c = 'e' || c = 'E'
    let mantissa := chars.takeWhile (!isMark ·)
    let power := (chars.dropWhile (!isMark ·)).drop 1
    if mantissa.contains '.' || chars.any isMark then
      let digits := mantissa.filter Char.isDigit
      let fraction := ((mantissa.dropWhile (· ≠ '.')).drop 1).length
      let exponent := (Text.readInt? power).getD 0
      .real (.ofDecimal (chars.head? == some '-') (Text.inBase 10 digits) (exponent - fraction))
    else .int ((Text.readInt? chars).getD 0)

/-- The integer that an exact number is; a truth value is one as well. -/
def toInt? : Scalar → Option Int
  | bool value => some (if value then 1 else 0)
  | int value => some value
  | _ => Option.none

/-- Are the two values equal? -/
def same (first second : Scalar) : Bool :=
  match first, second with
  | none, none => true
  | text first, text second => first == second
  | real first, real second => first.sameValue second
  | real first, second => second.toInt?.any first.isInt
  | first, real second => first.toInt?.any second.isInt
  | first, second => first.toInt?.isSome && first.toInt? == second.toInt?

end Scalar

/-- A value: a scalar, a list, or a record of named fields in order. -/
inductive Literal where
  | scalar (value : Scalar)
  | list (items : List Literal)
  | record (fields : List (String × Literal))
  deriving Repr, Inhabited

namespace Literal

/-- A text as a value. -/
def text (value : String) : Literal := .scalar (.text value)

mutual

/-- The text that spells the value out. -/
def describe : Literal → String
  | scalar value => value.describe
  | list items => "[" ++ ", ".intercalate (describeItems items) ++ "]"
  | record fields => "\x7b" ++ ", ".intercalate (describeFields fields) ++ "\x7d"

/-- The texts of the items. -/
def describeItems : List Literal → List String
  | [] => []
  | item :: rest => describe item :: describeItems rest

/-- The texts of the fields. -/
def describeFields : List (String × Literal) → List String
  | [] => []
  | (name, value) :: rest => (Text.quote name ++ ": " ++ describe value) :: describeFields rest

end

mutual

/-- Are the two values equal as parts of larger ones? Lists are by their items in order, records by
their fields in any order, and there what is no number equals itself. -/
def alike : Literal → Literal → Bool
  | scalar first, scalar second =>
    first.same second || (first == .real .undefined && second == .real .undefined)
  | list first, list second => sameItems first second
  | record first, record second => first.length == second.length && sameFields first second
  | _, _ => false

/-- Are the items equal one by one? -/
def sameItems : List Literal → List Literal → Bool
  | [], [] => true
  | first :: firsts, second :: seconds => alike first second && sameItems firsts seconds
  | _, _ => false

/-- Has each field an equal among the others? -/
def sameFields : List (String × Literal) → List (String × Literal) → Bool
  | [], _ => true
  | (name, value) :: rest, others =>
    (match others.lookup name with
      | some other => alike value other
      | none => false) && sameFields rest others

end

/-- Are the two values equal? -/
def same (first second : Literal) : Bool :=
  match first, second with
  | scalar first, scalar second => first.same second
  | _, _ => first.alike second

end Literal

end Parlance
