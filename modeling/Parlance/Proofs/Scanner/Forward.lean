import Parlance.Proofs.Comparison
import Parlance.Proofs.Scanner.Tape

/-!
# Going forward

No operation of a scanner puts a token back, and none changes how the stream ends: whatever comes
of it, the scanner has come to where it is by consuming tokens. This is kept by sequences, by loops
and by all that is put together from requests.
-/

namespace Parlance.Scanner

variable {κ α β : Type}

/-- However the operation ends, the scanner has gone on by consuming tokens, if at all. -/
def Forward (operation : Scan κ α) : Prop :=
  ∀ start : Scanner κ, start.Passes (Result.last (operation start))

/-! ## Sequences and loops -/

/-- A value on its own leaves the scanner as it is. -/
theorem Forward.pure (value : α) : Forward (pure value : Scan κ α) := Passes.refl

/-- A failure leaves the scanner as it is. -/
theorem Forward.throw (fault : Fault) : Forward (throw fault : Scan κ α) := Passes.refl

/-- Going forward twice is going forward. -/
theorem Forward.bind {first : Scan κ α} {next : α → Scan κ β} (h : Forward first)
    (hnext : ∀ value, Forward (next value)) : Forward (first >>= next) := by
  intro start
  have hfirst := h start
  rw [Rule.bind_apply]
  cases hresult : first start with
  | ok value middle =>
      rw [hresult] at hfirst
      exact hfirst.trans (hnext value middle)
  | error fault middle =>
      rw [hresult] at hfirst
      exact hfirst

/-- What is stalled stays where it is. -/
theorem Forward.below {operation : Scan κ α} (h : Forward operation) (limit : Nat) :
    Forward (Rule.below limit operation) := by
  intro start
  unfold Rule.below
  split
  · exact h start
  · exact .refl start

/-- A loop passes over tokens if its rounds do, by induction on what is left. -/
theorem Passes.iterate {step : α → Scan κ (Option α)} (h : ∀ value, Forward (step value))
    (value : α) (start : Scanner κ) :
    start.Passes (Result.last (Rule.iterate step value start)) := by
  have hstep := h value start
  rw [Rule.iterate_eq]
  cases hresult : step value start with
  | error fault after =>
      rw [hresult] at hstep
      exact hstep
  | ok reached? after =>
      rw [hresult] at hstep
      cases reached? with
      | none => exact hstep
      | some reached =>
          simp only [Rule.below, left_eq_length]
          split
          · rename_i hlt
            exact hstep.trans (Passes.iterate h reached after)
          · exact hstep
termination_by start.ahead.length

/-- A loop goes forward if its rounds do. -/
theorem Forward.iterate {step : α → Scan κ (Option α)} (h : ∀ value, Forward (step value))
    (value : α) : Forward (Rule.iterate step value) := Passes.iterate h value

/-! ## Requests -/

/-- Pulling tokens is no step. -/
theorem Passes.fill (scanner : Scanner κ) (count : Nat) : Passes scanner (scanner.fill count) :=
  ⟨(fill_ahead scanner count).symm ▸ List.suffix_refl _, rfl, rfl, rfl⟩

/-- A look ahead goes forward. -/
theorem lookAhead_forward (offset : Int) : Forward (lookAhead offset : Scan κ (Token κ)) := by
  intro start
  rw [lookAhead_eq]
  split
  · exact .refl start
  · cases start.ahead[offset.toNat]? <;> cases start.ending <;> exact .fill start _

/-- A look goes forward. -/
theorem current_forward : Forward (current : Scan κ (Token κ)) := lookAhead_forward 0

/-- Making an error goes forward. -/
theorem errorHere_forward (message : String) (category : ErrorCategory) :
    Forward (errorHere message category : Scan κ ParseError) := by
  intro start
  rw [errorHere_eq]
  exact .look start

/-- Failing goes forward. -/
theorem fail_forward (message : String) (category : ErrorCategory) :
    Forward (fail message category : Scan κ α) :=
  (errorHere_forward message category).bind fun _ => .throw _

variable [DecidableEq κ]

/-- Asking for the end goes forward. -/
theorem atEnd_forward : Forward (atEnd : Scan κ Bool) := by
  intro start
  rw [atEnd_eq, onNext]
  cases start.upcoming <;> exact .look start

/-- Consuming a token goes forward. -/
theorem consumeToken_forward : Forward (consumeToken : Scan κ (Token κ)) := by
  intro start
  rw [consumeToken_eq, onNext]
  cases start.upcoming with
  | error fault => exact .look start
  | ok token =>
      simp only [consuming]
      split
      · exact .look start
      · exact ⟨advance_ahead start ▸ List.tail_suffix _, advance_sameEnd start⟩

/-- Consuming a text goes forward. -/
theorem consume_forward : Forward (consume : Scan κ String) :=
  consumeToken_forward.bind fun token => .pure token.text

/-- Trying to consume a text goes forward. -/
theorem tryConsume_forward (text : String) : Forward (tryConsume text : Scan κ Bool) := by
  refine current_forward.bind fun token => ?_
  split
  · exact consume_forward.bind fun _ => .pure true
  · exact .pure false

variable [KindText κ]

/-- Consuming a token of a kind goes forward. -/
theorem consumeKind_forward (kind : κ) (message : String) :
    Forward (consumeKind kind message : Scan κ String) := by
  refine current_forward.bind fun token => ?_
  split
  · exact (fail_forward _ _).bind fun _ => consume_forward
  · exact consume_forward

/-- Consuming a given text goes forward. -/
theorem consumeText_forward (text message : String) :
    Forward (consumeText text message : Scan κ String) := by
  refine (tryConsume_forward text).bind fun found => ?_
  cases found with
  | true => exact .pure text
  | false => exact current_forward.bind fun token => (fail_forward _ _).bind fun _ => .pure text

/-- Every request goes forward. -/
theorem perform_forward (request : Request κ) : Forward (perform request) := by
  cases request with
  | current => exact current_forward.bind fun _ => .pure _
  | lookAhead offset => exact (lookAhead_forward offset).bind fun _ => .pure _
  | atEnd => exact atEnd_forward.bind fun _ => .pure _
  | consume => exact consume_forward.bind fun _ => .pure _
  | consumeToken => exact consumeToken_forward.bind fun _ => .pure _
  | consumeKind kind message => exact (consumeKind_forward kind message).bind fun _ => .pure _
  | consumeText text message => exact (consumeText_forward text message).bind fun _ => .pure _
  | tryConsume text => exact (tryConsume_forward text).bind fun _ => .pure _
  | error message category => exact (errorHere_forward message category).bind fun _ => .pure _

end Parlance.Scanner
