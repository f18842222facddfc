import Parlance.Unicode.Lowercase
import Parlance.Unicode.Uppercase

/-!
# Case folding

Two characters are the same up to case if their lower-case forms are equal or share a capital. The
lower-case letters that share a capital with another one are few; they are listed by families.
-/

namespace Parlance.Unicode

/-- The families of lower-case letters that share a capital. -/
def caseFamilies : List (List Nat) :=
  [[0x69, 0x131], [0x73, 0x17f], [0xb5, 0x3bc], [0x345, 0x3b9, 0x1fbe], [0x390, 0x1fd3],
   [0x3b0, 0x1fe3], [0x3b2, 0x3d0], [0x3b5, 0x3f5], [0x3b8, 0x3d1], [0x3ba, 0x3f0],
   [0x3c0, 0x3d6], [0x3c1, 0x3f1], [0x3c2, 0x3c3], [0x3c6, 0x3d5], [0x432, 0x1c80],
   [0x434, 0x1c81], [0x43e, 0x1c82], [0x441, 0x1c83], [0x442, 0x1c84, 0x1c85], [0x44a, 0x1c86],
   [0x463, 0x1c87], [0x1c88, 0xa64b], [0x1e61, 0x1e9b], [0xfb05, 0xfb06]]

/-- The code points that are the same as this one up to case; it is one of them. -/
def caseVariants (code : Nat) : List Nat :=
  let lower := lowerCode code
  let family := (caseFamilies.find? (·.contains lower)).getD [lower]
  family.flatMap lowerSources

/-- Has the character another case? -/
def isCased (code : Nat) : Bool := lowerCode code != code || upperCode code != code

/-- Has some character from the first to the last another case? -/
def anyCased (first last : Nat) : Bool := (caseRuns ++ smallRuns).any (·.meets first last)

end Parlance.Unicode
