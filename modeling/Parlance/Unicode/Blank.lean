import Parlance.Unicode.Runs

/-!
# Blank characters

The characters that separate words: spaces of every width, line and paragraph ends, and the
separators among the control characters.
-/

namespace Parlance.Unicode

/-- The runs of blank characters, in order of code point. -/
def blankRuns : List (Nat × Nat) :=
  [(0x9, 0xd), (0x1c, 0x20), (0x85, 0x85), (0xa0, 0xa0), (0x1680, 0x1680), (0x2000, 0x200a),
   (0x2028, 0x2029), (0x202f, 0x202f), (0x205f, 0x205f), (0x3000, 0x3000)]

/-- Is this a blank character? -/
def isBlank (c : Char) : Bool := inRuns blankRuns c.toNat

end Parlance.Unicode
