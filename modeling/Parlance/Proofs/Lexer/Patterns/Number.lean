import Parlance.Proofs.Lexer.Patterns
import Parlance.Proofs.Sequence

/-!
# Numbers

The pattern of numbers takes each part as soon as it can, and what a matcher takes first is not in
general the longest that there is. Here it is: no part of a number begins with a character that the
part before it could have taken, so that a shorter mantissa leaves no exponent to be taken.
-/

namespace Parlance.Lexer.Patterns

open Regex (Apart Chain Charset Descends Run Single)
open Unicode (isDigit)

/-! ## Forms of numbers -/

/-- One digit or more. -/
def Digits (chars : List Char) : Prop := Run isDigit 1 chars

/-- Digits, or digits with a point after them and any number of digits after that, or a point and
digits. -/
inductive Mantissa : List Char → Prop where
  | whole {digits} : Digits digits → Mantissa digits
  | point {digits fraction} : Digits digits → Run isDigit 0 fraction →
      Mantissa (digits ++ '.' :: fraction)
  | fraction {digits} : Digits digits → Mantissa ('.' :: digits)

/-- Nothing, or a letter, a sign or none, and digits. -/
inductive Exponent : List Char → Prop where
  | none : Exponent []
  | some {letter sign digits} : letter ∈ ['e', 'E'] → sign ∈ [['+'], ['-'], []] → Digits digits →
      Exponent (letter :: (sign ++ digits))

/-- A number as it is written. -/
def Numeral : List Char → Prop := Chain Mantissa Exponent

/-! ## The expression of the pattern -/

/-- The digits of all scripts. -/
def digit : Charset := ⟨[.property .digit .unicode true], false, .exact⟩

/-- The expression of so many digits or more. -/
def digits (least : Nat) : Regex := .rep .more least none (.one digit)

/-- The expression of what may be left out. -/
def optional (body : Regex) : Regex := .rep .more 0 (some 1) body

/-- The expression of a mantissa. -/
def mantissa : Regex :=
  .alt (.cat (digits 1) (optional (.cat (.one (.listing ['.'])) (digits 0))))
    (.cat (.one (.listing ['.'])) (digits 1))

/-- The expression of an exponent. -/
def exponent : Regex :=
  optional (.cat (.one (.listing ['e', 'E']))
    (.cat (optional (.one (.listing ['+', '-']))) (digits 1)))

/-- The pattern of numbers says just this. -/
theorem read_number : Regex.read number.toList = .ok (.cat mantissa exponent) := by
  rw [← toOption_eq_some_iff]
  decide +kernel

/-! ## The parts of a number are apart -/

variable {c : Char} {chars rest letters : List Char} {least : Nat}

/-- A single one of these characters. -/
def OneOf (letters chars : List Char) : Prop := ∃ c ∈ letters, chars = [c]

/-- The characters of numbers that are no digits. -/
def marks : List Char := ['.', 'e', 'E', '+', '-']

/-- No mark is a digit. -/
theorem isDigit_of_mem_marks (h : c ∈ marks) : isDigit c = false := by
  have hall : marks.all (!isDigit ·) = true := by decide +kernel
  simpa using List.all_eq_true.1 hall c h

/-- No mark stands among digits. -/
theorem not_mem_digits (h : Run isDigit least chars) (hc : c ∈ chars) : c ∉ marks := fun hmark => by
  have hdigit := h.2 c hc
  rw [isDigit_of_mem_marks hmark] at hdigit
  cases hdigit

/-- A mark is apart from the digits behind it. -/
theorem oneOf_apart_digits (hmarks : letters ⊆ marks) :
    Apart (OneOf letters) (Run isDigit least) := by
  rintro _ c rest ⟨d, hd, rfl⟩ hc hdigits
  obtain rfl := List.mem_singleton.1 hc
  exact not_mem_digits hdigits (List.mem_cons_self ..) (hmarks hd)

/-- Digits are apart from what begins with a point. -/
theorem digits_apart_fraction {form : List Char → Prop} :
    Apart (Run isDigit least) (Chain (OneOf ['.']) form) := by
  rintro taken c rest htaken hc ⟨_, others, hrest, ⟨d, hd, rfl⟩, -⟩
  obtain rfl := List.mem_singleton.1 hd
  obtain ⟨rfl, -⟩ := List.cons.inj hrest
  exact not_mem_digits htaken hc (by decide)

/-- The letter of an exponent is apart from the sign and the digits behind it. -/
theorem letter_apart_signed :
    Apart (OneOf ['e', 'E']) (Chain (fun chars => OneOf ['+', '-'] chars ∨ chars = []) Digits) := by
  rintro _ c rest ⟨d, hd, rfl⟩ hc ⟨sign, digits, hrest, hsign, hdigits⟩
  obtain rfl := List.mem_singleton.1 hc
  rcases hsign with ⟨d, hsign, rfl⟩ | rfl
  · obtain ⟨rfl, -⟩ := List.cons.inj hrest
    have hletter : c = 'e' ∨ c = 'E' := by simpa using hd
    rcases hletter with rfl | rfl <;> exact absurd hsign (by decide)
  · rw [List.nil_append] at hrest
    subst hrest
    exact not_mem_digits hdigits (List.mem_cons_self ..)
      ((by decide : ['e', 'E'] ⊆ marks) hd)

/-- A mantissa is made of digits and points. -/
theorem Mantissa.mem (h : Mantissa chars) : ∀ c ∈ chars, isDigit c = true ∨ c = '.' := by
  cases h with
  | whole hdigits => exact fun c hc => .inl (hdigits.2 c hc)
  | point hdigits hfraction =>
      intro c hc
      rcases List.mem_append.1 hc with hc | hc
      · exact .inl (hdigits.2 c hc)
      · exact (List.mem_cons.1 hc).symm.imp (hfraction.2 c) id
  | fraction hdigits => exact fun c hc => (List.mem_cons.1 hc).symm.imp (hdigits.2 c) id

/-- An exponent, if there is one, begins with its letter. -/
theorem Exponent.head (h : Exponent (c :: rest)) : c ∈ ['e', 'E'] := by
  cases h with
  | some hletter => exact hletter

/-- No exponent begins with a character of a mantissa. -/
theorem mantissa_apart_exponent : Apart Mantissa Exponent := by
  intro taken c rest htaken hc hexponent
  rcases htaken.mem c hc with hdigit | rfl
  · rw [isDigit_of_mem_marks ((by decide : ['e', 'E'] ⊆ marks) hexponent.head)] at hdigit
    cases hdigit
  · exact absurd hexponent.head (by decide)

/-! ## The parts as chains -/

/-- Nothing is no digits. -/
theorem not_digits_nil : ¬ Digits [] := fun h => Nat.not_succ_le_zero 0 h.1

/-- Nothing is none of some characters. -/
theorem not_oneOf_nil : ¬ OneOf letters [] := fun ⟨_, _, h⟩ => nomatch h

/-- A mantissa is digits and perhaps a fraction, or a point and digits. -/
theorem mantissa_iff : Mantissa chars ↔
    Chain Digits (fun chars => Chain (OneOf ['.']) (Run isDigit 0) chars ∨ chars = []) chars ∨
      Chain (OneOf ['.']) Digits chars := by
  have hpoint : ∀ taken, OneOf ['.'] taken ↔ taken = ['.'] := fun taken => by simp [OneOf]
  constructor
  · intro h
    cases h with
    | whole hdigits => exact .inl ⟨_, [], (List.append_nil _).symm, hdigits, .inr rfl⟩
    | point hdigits hfraction =>
        exact .inl ⟨_, _, rfl, hdigits, .inl ⟨['.'], _, rfl, (hpoint _).2 rfl, hfraction⟩⟩
    | fraction hdigits => exact .inr ⟨['.'], _, rfl, (hpoint _).2 rfl, hdigits⟩
  · rintro (⟨digits, _, rfl, hdigits, ⟨point, fraction, rfl, hdot, hfraction⟩ | rfl⟩ |
      ⟨point, digits, rfl, hdot, hdigits⟩)
    · obtain rfl := (hpoint _).1 hdot
      exact .point hdigits hfraction
    · rw [List.append_nil]
      exact .whole hdigits
    · obtain rfl := (hpoint _).1 hdot
      exact .fraction hdigits

/-- No mantissa is empty. -/
theorem Mantissa.ne_nil (h : Mantissa chars) : chars ≠ [] := by
  rintro rfl
  rcases mantissa_iff.1 h with hwhole | hfraction
  · exact not_digits_nil hwhole.nil_left
  · exact not_oneOf_nil hfraction.nil_left

/-- An exponent is a letter, perhaps a sign, and digits, or nothing. -/
theorem exponent_iff : Exponent chars ↔
    Chain (OneOf ['e', 'E']) (Chain (fun chars => OneOf ['+', '-'] chars ∨ chars = []) Digits)
      chars ∨ chars = [] := by
  have hsign (sign : List Char) :
      sign ∈ [['+'], ['-'], []] ↔ OneOf ['+', '-'] sign ∨ sign = [] := by
    simp [OneOf, or_assoc]
  constructor
  · intro h
    cases h with
    | none => exact .inr rfl
    | some hletter hsigned hdigits =>
        exact .inl ⟨[_], _, rfl, ⟨_, hletter, rfl⟩, _, _, rfl, (hsign _).1 hsigned, hdigits⟩
  · rintro (⟨_, _, rfl, ⟨letter, hletter, rfl⟩, sign, digits, rfl, hsigned, hdigits⟩ | rfl)
    · show Exponent (letter :: (sign ++ digits))
      exact .some hletter ((hsign sign).2 hsigned) hdigits
    · exact .none

/-! ## The pattern -/

/-- A listed character descends through the single ones that are listed. -/
theorem oneOf_descends (letters : List Char) :
    (Regex.one (.listing letters)).Descends (OneOf letters) :=
  (Descends.one _).congr fun chars => by simp [Single, OneOf, Charset.listing_holds]

/-- Digits descend through the runs of digits. -/
theorem digits_descends (least : Nat) : (digits least).Descends (Run isDigit least) := by
  have hholds : digit.holds = isDigit := by
    funext c
    simp [digit, Charset.holds, Charset.lists, Regex.Member.holds, Regex.Property.holds]
  exact hholds ▸ Descends.run digit least

/-- The expression of a mantissa descends through the mantissas. -/
theorem mantissa_descends : mantissa.Descends Mantissa := by
  have hpoint (least : Nat) : (Regex.cat (.one (.listing ['.'])) (digits least)).Descends
      (Chain (OneOf ['.']) (Run isDigit least)) :=
    (oneOf_descends _).cat (digits_descends least) (oneOf_apart_digits (by decide))
  have hwhole := (digits_descends 1).cat ((hpoint 0).optional fun h => not_oneOf_nil h.nil_left)
    digits_apart_fraction.optional_right
  refine (hwhole.alt (hpoint 1) (fun h => not_digits_nil h.nil_left)
    (fun h => not_oneOf_nil h.nil_left) ?_).congr fun chars => mantissa_iff.symm
  rintro c rest others ⟨taken, fraction, htaken, hdigits, -⟩ hother
  cases taken with
  | nil => exact not_digits_nil hdigits
  | cons d digits =>
      obtain ⟨rfl, -⟩ := List.cons.inj htaken
      exact digits_apart_fraction _ _ _ hdigits (List.mem_cons_self ..) hother

/-- The expression of an exponent descends through the exponents. -/
theorem exponent_descends : exponent.Descends Exponent := by
  have hsigned := ((oneOf_descends ['+', '-']).optional not_oneOf_nil).cat (digits_descends 1)
    (oneOf_apart_digits (by decide)).optional_left
  have hletter := ((oneOf_descends ['e', 'E']).cat hsigned letter_apart_signed).optional
    fun h => not_oneOf_nil h.nil_left
  exact hletter.congr fun chars => exponent_iff.symm

/-- The pattern of numbers matches the longest number. -/
theorem number_matchesLongest :
    ∃ regex, Regex.read number.toList = .ok regex ∧ MatchesLongest regex Numeral := by
  have hdescends := mantissa_descends.cat exponent_descends mantissa_apart_exponent
  exact ⟨_, read_number, matchesLongest_of_descends rfl hdescends fun h => h.nil_left.ne_nil rfl⟩

-- A letter and a sign without digits are no exponent, and a point may end a number.
example : spanAt? (.cat mantissa exponent) "1.e+" 0 = some (0, 2) := by decide +kernel

end Parlance.Lexer.Patterns
