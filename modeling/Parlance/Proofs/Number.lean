import Parlance.Number.Integer

/-!
# Numbers and their digits

The decimal digits that a natural number is written with are read back as the number.
-/

namespace Parlance

variable {c : Char} {chars : List Char}

/-- The value of a plain digit is its distance from zero. -/
theorem Unicode.digitValue?_of_isDigit (h : c.isDigit = true) :
    digitValue? c = some (c.toNat - '0'.toNat) := by
  rw [Char.isDigit_iff_toNat] at h
  have hlow : 0x30 ≤ c.toNat := h.1
  have hhigh : c.toNat ≤ 0x39 := h.2
  have hrun : runOf digitRuns c.toNat = some (0x30, 0x39) := by
    rw [digitRuns, runOf, if_pos hhigh, if_pos hlow]
  rw [digitValue?, hrun, Option.map_some, Nat.mod_eq_of_lt (by omega)]
  rfl

namespace Text

/-- Plain digits are read one after the other. -/
theorem readDigits?_of_isDigit {value : Nat} (h : ∀ c ∈ chars, c.isDigit = true) :
    readDigits? value chars = some (Nat.ofDigitChars 10 chars value) := by
  induction chars generalizing value with
  | nil => rfl
  | cons c rest ih =>
      rw [List.forall_mem_cons] at h
      have hread : readDigits? value (c :: rest) =
          (Unicode.digitValue? c).bind fun digit => readDigits? (10 * value + digit) rest := by
        rw [readDigits?]
        · rfl
        · intro d others heq
          cases heq
          cases h.1
      rw [hread, Unicode.digitValue?_of_isDigit h.1, Option.bind_some, ih h.2,
        Nat.ofDigitChars_cons]

/-- A number is read back from its digits. -/
theorem readNat?_toDigits (value : Nat) : readNat? (Nat.toDigits 10 value) = some value := by
  have hdigits : ∀ c ∈ Nat.toDigits 10 value, c.isDigit = true :=
    fun c hmem => Nat.isDigit_of_mem_toDigits (by omega) (by omega) hmem
  cases hchars : Nat.toDigits 10 value with
  | nil => exact (Nat.toDigits_ne_nil hchars).elim
  | cons c rest =>
      rw [hchars, List.forall_mem_cons] at hdigits
      rw [readNat?, Unicode.digitValue?_of_isDigit hdigits.1]
      have hvalue : Nat.ofDigitChars 10 (c :: rest) 0 = value := by
        rw [← hchars, Nat.ofDigitChars_ten_toDigits]
      rw [Nat.ofDigitChars_cons, Nat.mul_zero, Nat.zero_add] at hvalue
      show readDigits? (c.toNat - '0'.toNat) rest = some value
      rw [readDigits?_of_isDigit hdigits.2, hvalue]

end Text

end Parlance
