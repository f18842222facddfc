import Parlance.Unicode.Blank
import Parlance.Unicode.Digit

/-!
# Integers in text

An integer is written as an optional sign and decimal digits of any script; a single low line may
stand between two digits.
-/

namespace Parlance.Text

/-- The text without the characters of a sort at its ends. -/
def trimOf (accepts : Char → Bool) (chars : List Char) : List Char :=
  ((chars.dropWhile accepts).reverse.dropWhile accepts).reverse

/-- The text without the blank characters at its ends. -/
def trim (chars : List Char) : List Char := trimOf Unicode.isBlank chars

/-- Reads digits after those that give `value`; each may follow a low line. -/
def readDigits? (value : Nat) : List Char → Option Nat
  | [] => some value
  | '_' :: c :: rest => do readDigits? (10 * value + (← Unicode.digitValue? c)) rest
  | c :: rest => do readDigits? (10 * value + (← Unicode.digitValue? c)) rest

/-- The natural number that a text writes, if it starts with a digit. -/
def readNat? : List Char → Option Nat
  | [] => none
  | c :: rest => do readDigits? (← Unicode.digitValue? c) rest

/-- The integer that a text writes. -/
def readInt? : List Char → Option Int
  | '-' :: rest => (readNat? rest).map fun value => -(value : Int)
  | '+' :: rest => (readNat? rest).map fun value => (value : Int)
  | chars => (readNat? chars).map fun value => (value : Int)

/-- May the character stand around an integer? Blank characters may, but for the separators among
the control characters. -/
def isPadding (c : Char) : Bool := Unicode.isBlank c && !('\x1c' ≤ c && c ≤ '\x1f')

/-- The integer that a text writes, with or without padding. -/
def readPadded? (chars : List Char) : Option Int := readInt? (trimOf isPadding chars)

end Parlance.Text
