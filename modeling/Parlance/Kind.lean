import Parlance.Literal
import Parlance.Token

/-!
# Kinds chosen at run time

A grammar that is put together at run time takes its token kinds from this one type.
-/

namespace Parlance

/-- A token kind. -/
inductive Kind where
  | none
  | number (value : Int)
  | text (value : String)
  /-- A member of a family of kinds, with the value that it stands for. -/
  | member (family name : String) (value : Scalar)
  /-- Anything else: what it calls itself, and the text that shows it. -/
  | object (name : Scalar) (shown : String)
  deriving DecidableEq, Repr, Inhabited

namespace Kind

/-- What messages call the kind: its name if it has one, else the text that shows it. -/
def describe : Kind → String
  | none => "None"
  | number value => toString value
  | text value => value
  | member _ name _ => name
  | object (.text name) _ => name
  | object _ shown => shown

/-- The kind spelled out. -/
def literal : Kind → String
  | none => "None"
  | number value => toString value
  | text value => Text.quote value
  | member family name value => s!"<{family}.{name}: {value.describe}>"
  | object _ shown => shown

instance : KindText Kind := ⟨describe, literal⟩

end Kind

end Parlance
