/-!
# Sequences of steps that can fail

A sequence succeeds if each of its steps does, and fails as the first of them that does not.
-/

namespace Parlance

variable {ε α β : Type}

/-- A sequence that succeeds is two steps that do. -/
theorem bind_eq_ok_iff {first : Except ε α} {next : α → Except ε β} {result : β} :
    first >>= next = .ok result ↔ ∃ value, first = .ok value ∧ next value = .ok result := by
  cases first with
  | error fault => exact ⟨(nomatch ·), fun ⟨_, h, _⟩ => nomatch h⟩
  | ok value =>
      exact ⟨fun h => ⟨value, rfl, h⟩, fun ⟨other, hvalue, h⟩ => by cases hvalue; exact h⟩

/-- A sequence that fails fails in one of its steps. -/
theorem bind_eq_error_iff {first : Except ε α} {next : α → Except ε β} {fault : ε} :
    first >>= next = .error fault ↔
      first = .error fault ∨ ∃ value, first = .ok value ∧ next value = .error fault := by
  cases first with
  | error other =>
      constructor
      · intro h
        cases h
        exact .inl rfl
      · rintro (h | ⟨value, h, -⟩)
        · cases h
          rfl
        · cases h
  | ok value =>
      constructor
      · exact fun h => .inr ⟨value, rfl, h⟩
      · rintro (h | ⟨other, hvalue, h⟩)
        · cases h
        · cases hvalue
          exact h

/-- What is left of a result when the fault is forgotten is its value. -/
theorem toOption_eq_some_iff {result : Except ε α} {value : α} :
    result.toOption = some value ↔ result = .ok value := by
  cases result with
  | error fault => exact ⟨(nomatch ·), (nomatch ·)⟩
  | ok other => simp [Except.toOption]

end Parlance
