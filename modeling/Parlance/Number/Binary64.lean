/-!
# Binary floating-point numbers and their decimal texts

A number of 64 bits is a significand of at most 53 bits times a power of two. Reading takes the
nearest number to a decimal, and of two equally near ones the one with an even significand. Writing
takes the fewest decimal digits that read back, and of those the nearest.

All computation is on naturals and integers, so both directions are exact.
-/

namespace Parlance

/-- A binary floating-point number of 64 bits. -/
inductive Binary64 where
  /-- `significand * 2 ^ exponent`, negated if `negative`. -/
  | finite (negative : Bool) (significand : Nat) (exponent : Int)
  | infinite (negative : Bool)
  /-- What is no number and equals nothing. -/
  | undefined
  deriving DecidableEq, Repr

namespace Binary64

/-- The least exponent. -/
def minExponent : Int := -1074

/-- The greatest exponent. -/
def maxExponent : Int := 971

/-- A fraction of naturals times a power of the base, as a fraction of naturals. -/
def scaled (numerator denominator base : Nat) (exponent : Int) : Nat × Nat :=
  if 0 ≤ exponent then (numerator * base.pow exponent.toNat, denominator)
  else (numerator, denominator * base.pow (-exponent).toNat)

/-- The natural nearest to a fraction; of two the even one. -/
def nearest (numerator denominator : Nat) : Nat :=
  let quotient := numerator / denominator
  let double := 2 * (numerator % denominator)
  if double < denominator then quotient
  else if denominator < double then quotient + 1
  else quotient + quotient % 2

/-- The number nearest to a positive fraction. -/
def ofFraction (negative : Bool) (numerator denominator : Nat) : Binary64 :=
  let guess : Int := (numerator.log2 : Int) - denominator.log2 - 52
  let (top, bottom) := scaled numerator denominator 2 (-guess)
  let fitting := if top / bottom < 1 <<< 52 then guess - 1 else guess
  let exponent := max fitting minExponent
  let (top, bottom) := scaled numerator denominator 2 (-exponent)
  let significand := nearest top bottom
  let (significand, exponent) :=
    if significand = 1 <<< 53 then (1 <<< 52, exponent + 1) else (significand, exponent)
  if maxExponent < exponent then .infinite negative else .finite negative significand exponent

/-- The number nearest to `digits * 10 ^ exponent`. Decimals that are out of range by far are not
expanded. -/
def ofDecimal (negative : Bool) (digits : Nat) (exponent : Int) : Binary64 :=
  let size : Int := digits.log2 / 3 + 1 + exponent
  if digits = 0 ∨ size < -400 then .finite negative 0 minExponent
  else if 400 < exponent then .infinite negative
  else
    let (numerator, denominator) := scaled digits 1 10 exponent
    ofFraction negative numerator denominator

/-- Does the number have this value? -/
def isInt (number : Binary64) (value : Int) : Bool :=
  match number with
  | .finite negative significand exponent =>
    let (numerator, denominator) := scaled significand 1 2 exponent
    let signed : Int := if negative then -numerator else numerator
    signed == value * denominator
  | _ => false

/-- The greatest integer that is not above the number, if it is finite. -/
def floor? : Binary64 → Option Int
  | .finite negative significand exponent =>
    let (numerator, denominator) := scaled significand 1 2 exponent
    let signed : Int := if negative then -numerator else numerator
    some (signed.fdiv denominator)
  | _ => none

/-- Do the two numbers have the same value? The two zeros do. -/
def sameValue : Binary64 → Binary64 → Bool
  | .infinite first, .infinite second => first == second
  | .finite first a x, .finite second b y =>
    let (p, q) := scaled a 1 2 x
    let (r, s) := scaled b 1 2 y
    p * s == r * q && (first == second || a == 0)
  | _, _ => false

/-- The digits and the exponent of the shortest decimal that reads back as a positive number: for
one digit, two digits and so on, the two neighbours of the number on the grid of such decimals are
tried. The interval of the reals that read back has its ends in it if the significand is even. -/
def shortest (significand : Nat) (exponent : Int) : Nat × Int :=
  let closer := significand = 1 <<< 52 ∧ exponent ≠ minExponent
  let (value, unit) := scaled (4 * significand) 4 2 exponent
  let (low, high) :=
    ((scaled (4 * significand - if closer then 1 else 2) 4 2 exponent).1,
      (scaled (4 * significand + 2) 4 2 exponent).1)
  let inside := fun (top bottom : Nat) =>
    if significand % 2 = 0 then low * bottom ≤ top * unit && top * unit ≤ high * bottom
    else low * bottom < top * unit && top * unit < high * bottom
  let magnitude : Int := (Nat.toDigits 10 (value / unit)).length
  let magnitude : Int :=
    if 0 < value / unit then magnitude
    else 1 - (Nat.toDigits 10 (unit / value)).length
  let candidate := fun (count : Nat) =>
    let grid := magnitude - count
    let (top, bottom) := scaled value unit 10 (-grid)
    let lower := top / bottom
    let fits := fun (digits : Nat) =>
      let (p, q) := scaled digits 1 10 grid
      inside p q
    let below := fits lower && 0 < lower
    let above := fits (lower + 1)
    let choice :=
      if below && above then some (nearest top bottom)
      else if below then some lower
      else if above then some (lower + 1)
      else none
    choice.map fun digits => (digits, grid)
  ((List.range 18).findSome? fun count => candidate (count + 1)).getD (significand, exponent)

/-- Drops the zeros at the end of a decimal. -/
def stripZeros : Nat → Nat × Int → Nat × Int
  | 0, decimal => decimal
  | fuel + 1, (digits, exponent) =>
    if digits % 10 = 0 ∧ digits ≠ 0 then stripZeros fuel (digits / 10, exponent + 1)
    else (digits, exponent)

/-- The text of a decimal: positional if the first digit stands for 10⁻⁴ to 10¹⁵, else with an
exponent of at least two digits. A positional text has a digit on both sides of its point. -/
def decimalText (digits : Nat) (exponent : Int) : String :=
  let text := Nat.toDigits 10 digits
  let leading : Int := exponent + text.length - 1
  if -4 ≤ leading ∧ leading < 16 then
    if 0 ≤ exponent then
      String.ofList (text ++ List.replicate exponent.toNat '0' ++ ['.', '0'])
    else if 0 ≤ leading then
      let split := leading.toNat + 1
      String.ofList (text.take split ++ '.' :: text.drop split)
    else
      String.ofList ('0' :: '.' :: List.replicate (-leading - 1).toNat '0' ++ text)
  else
    let fraction := if text.length = 1 then [] else '.' :: text.drop 1
    let power := Nat.toDigits 10 leading.natAbs
    let sign := if leading < 0 then '-' else '+'
    String.ofList (text.take 1 ++ fraction ++ 'e' :: sign ::
      List.replicate (2 - power.length) '0' ++ power)

/-- The shortest text that reads back as this number. -/
def describe : Binary64 → String
  | .undefined => "nan"
  | .infinite negative => if negative then "-inf" else "inf"
  | .finite negative significand exponent =>
    let text :=
      if significand = 0 then "0.0"
      else
        let (digits, exponent) := stripZeros 400 (shortest significand exponent)
        decimalText digits exponent
    if negative then "-" ++ text else text

end Binary64

end Parlance
