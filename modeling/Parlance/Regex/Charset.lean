import Parlance.Unicode.Blank
import Parlance.Unicode.CaseFolding
import Parlance.Unicode.Digit
import Parlance.Unicode.Uppercase
import Parlance.Unicode.Word

/-!
# Character sets of regular expressions

A set lists letters, spans of code points and properties, or everything but these. A character is
held exactly as it stands or up to case; properties do not depend on case.

Case is folded in full within the basic plane. Beyond it the lower case of the character is compared
with the letters of the set as they are written, so that a capital among several entries holds
nothing; a span that leaves the plane is also compared with the capital of the character. A set of
one letter alone holds all cases of it, wherever it lies.
-/

namespace Parlance.Regex

/-- Which characters count as the same. -/
inductive Folding where
  /-- Each character is the same as itself only. -/
  | exact
  /-- The two cases of a letter from A to Z are the same. -/
  | ascii
  /-- All cases of a letter are the same. -/
  | unicode
  deriving DecidableEq, Repr

/-- The code points that count as the same as this one. -/
def Folding.variants (folding : Folding) (code : Nat) : List Nat :=
  match folding with
  | .exact => [code]
  | .ascii =>
    if 0x41 ≤ code ∧ code ≤ 0x5a then [code, code + 32]
    else if 0x61 ≤ code ∧ code ≤ 0x7a then [code, code - 32]
    else [code]
  | .unicode => Unicode.caseVariants code

/-- The code point that stands for this one when two texts are compared up to case. -/
def Folding.lower (folding : Folding) (code : Nat) : Nat :=
  match folding with
  | .exact => code
  | .ascii => if 0x41 ≤ code ∧ code ≤ 0x5a then code + 32 else code
  | .unicode => Unicode.lowerCode code

/-- The capital of a character, as far as case does not count. -/
def Folding.capital (folding : Folding) (code : Nat) : Nat :=
  match folding with
  | .exact => code
  | .ascii | .unicode => Unicode.upperCode (folding.lower code)

/-- Has the character another case? -/
def Folding.isCased (folding : Folding) (code : Nat) : Bool :=
  match folding with
  | .exact => false
  | .ascii => (0x41 ≤ code && code ≤ 0x5a) || (0x61 ≤ code && code ≤ 0x7a)
  | .unicode => Unicode.isCased code

/-- Has some character from the first to the last another case? -/
def Folding.anyCased (folding : Folding) (first last : Nat) : Bool :=
  match folding with
  | .exact => false
  | .ascii => (first ≤ 0x5a && 0x41 ≤ last) || (first ≤ 0x7a && 0x61 ≤ last)
  | .unicode => Unicode.anyCased first last

/-- The last code point of the basic plane. -/
def lastOfPlane : Nat := 0xffff

/-- The characters that properties draw from. -/
inductive Repertoire where
  | unicode
  | ascii
  deriving DecidableEq, Repr

/-- A property of characters. -/
inductive Property where
  | digit
  | blank
  | word
  deriving DecidableEq, Repr

/-- Has the character this property, within the repertoire? -/
def Property.holds (property : Property) (repertoire : Repertoire) (c : Char) : Bool :=
  match repertoire, property with
  | .unicode, .digit => Unicode.isDigit c
  | .unicode, .blank => Unicode.isBlank c
  | .unicode, .word => Unicode.isWord c
  | .ascii, .digit => c.isDigit
  | .ascii, .blank => c == ' ' || ('\t' ≤ c && c ≤ '\r')
  | .ascii, .word => c.isAlphanum || c == '_'

/-- One entry of a set. -/
inductive Member where
  /-- One code point. -/
  | letter (code : Nat)
  /-- The code points from the first to the last. -/
  | span (first last : Nat)
  /-- The characters that have the property, or those that lack it. -/
  | property (which : Property) (repertoire : Repertoire) (positive : Bool)
  deriving DecidableEq, Repr

/-- Does the entry, as one of several, hold this character? -/
def Member.holds (folding : Folding) (member : Member) (c : Char) : Bool :=
  match member with
  | .letter code =>
    if code ≤ lastOfPlane then (folding.variants c.toNat).contains code
    else folding.lower c.toNat == code
  | .span first last =>
    let inside := fun code => first ≤ code && code ≤ last
    (folding.variants c.toNat).any inside ||
      (lastOfPlane < last && inside (folding.capital c.toNat))
  | .property which repertoire positive => which.holds repertoire c == positive

/-- Does case matter to the entry, as one of several? Beyond the basic plane it always may. -/
def Member.isCased (folding : Folding) : Member → Bool
  | .letter code => lastOfPlane < code || folding.isCased code
  | .span first last => lastOfPlane < last || folding.anyCased first last
  | .property _ _ _ => false

/-- A set of characters: those of its members, or all others if it is negated. -/
structure Charset where
  members : List Member
  negated : Bool := false
  folding : Folding := .exact
  deriving DecidableEq, Repr

namespace Charset

/-- Is the character one of the listed ones? -/
def lists (set : Charset) (c : Char) : Bool :=
  match set.members with
  | [.letter code] => (set.folding.variants c.toNat).contains code
  | members => members.any fun member => member.holds set.folding c

/-- Does the set hold this character? -/
def holds (set : Charset) (c : Char) : Bool := set.lists c != set.negated

/-- The set of these members, up to case if case matters to one of them. -/
def ofMembers (folding : Folding) (members : List Member) (negated : Bool := false) : Charset :=
  let cased : Bool :=
    match members with
    | [.letter code] => folding.isCased code
    | members => folding != .exact && members.any (·.isCased folding)
  ⟨members, negated, if cased then folding else .exact⟩

/-- The set of one code point. -/
def single (folding : Folding) (code : Nat) : Charset := ofMembers folding [.letter code]

/-- Every character. -/
def all : Charset := ⟨[], true, .exact⟩

/-- Every character but the line end. -/
def inLine : Charset := ⟨[.letter 10], true, .exact⟩

/-- The letter that is the only character of the set, if there is one. -/
def letter? (set : Charset) : Option Nat :=
  match set with
  | ⟨[.letter code], false, .exact⟩ => some code
  | _ => none

/-- Does the set list characters to which case does not matter? A set of all characters, or of all
but one, does not. -/
def isChoice (set : Charset) : Bool :=
  match set with
  | ⟨[], _, _⟩ | ⟨[.letter _], true, _⟩ => false
  | ⟨_, _, folding⟩ => folding == .exact

end Charset

end Parlance.Regex
