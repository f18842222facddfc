import Parlance.Scanner.Rule

/-!
# Following rules step by step

Equations for rules that are run from a state: one for a sequence of two steps, and one for each way
in which a rule goes on with itself. `iterate_ok_induct` is the principle for loops: what every
round keeps holds where the loop ends, and there the step declines.
-/

namespace Parlance.Rule

open Supply (left)

variable {ε σ α β ι : Type}

/-! ## Sequences -/

/-- One step after another runs from the state that the first one leaves. -/
theorem bind_apply (first : EStateM ε σ α) (next : α → EStateM ε σ β) (state : σ) :
    (first >>= next) state =
      match first state with
      | .ok value after => next value after
      | .error fault after => .error fault after := by
  show EStateM.bind first next state = _
  unfold EStateM.bind
  cases first state <;> rfl

/-- A value takes no step. -/
theorem pure_apply (value : α) (state : σ) :
    (pure value : EStateM ε σ α) state = .ok value state := rfl

/-- A sequence goes on after a first step that succeeds. -/
theorem bind_of_ok {first : EStateM ε σ α} {state middle : σ} {value : α}
    (h : first state = .ok value middle) (next : α → EStateM ε σ β) :
    (first >>= next) state = next value middle := by
  rw [bind_apply, h]

/-- A sequence that succeeds is two steps that do. -/
theorem bind_ok_iff {first : EStateM ε σ α} {next : α → EStateM ε σ β} {state final : σ}
    {result : β} :
    (first >>= next) state = .ok result final ↔
      ∃ value middle, first state = .ok value middle ∧ next value middle = .ok result final := by
  rw [bind_apply]
  constructor
  · intro h
    split at h
    · exact ⟨_, _, ‹_›, h⟩
    · cases h
  · rintro ⟨value, middle, hfirst, hnext⟩
    rw [hfirst]
    exact hnext

/-- A value is what a step that takes none succeeds with. -/
theorem pure_ok_iff {value result : α} {state final : σ} :
    (pure value : EStateM ε σ α) state = .ok result final ↔ value = result ∧ state = final := by
  simp only [pure_apply, EStateM.Result.ok.injEq]

/-- What is done with the value of a step does not change whether it succeeds. -/
theorem map_ok_iff {first : EStateM ε σ α} {make : α → β} {state final : σ} {result : β} :
    (first >>= fun value => pure (make value)) state = .ok result final ↔
      ∃ value, first state = .ok value final ∧ make value = result := by
  simp only [bind_ok_iff, pure_ok_iff]
  constructor
  · rintro ⟨value, middle, hfirst, hvalue, rfl⟩
    exact ⟨value, hfirst, hvalue⟩
  · rintro ⟨value, hfirst, hvalue⟩
    exact ⟨value, final, hfirst, hvalue, rfl⟩

/-! ## Rules that go on with themselves -/

variable [Supply σ]

/-- Where few enough tokens remain, an operation runs as it is. -/
theorem below_of_lt {limit : Nat} {state : σ} (h : left state < limit)
    (operation : EStateM Fault σ α) : below limit operation state = operation state :=
  if_pos h

/-- An operation that succeeds under a bound has succeeded where few enough tokens remain. -/
theorem below_ok_iff {limit : Nat} {operation : EStateM Fault σ α} {state final : σ} {value : α} :
    below limit operation state = .ok value final ↔
      left state < limit ∧ operation state = .ok value final := by
  unfold below
  split
  · rename_i hlt
    exact ⟨fun h => ⟨hlt, h⟩, And.right⟩
  · rename_i hlt
    exact ⟨(nomatch ·), fun h => (hlt h.1).elim⟩

/-- A loop is one step, and the rest of the loop on fewer tokens. -/
theorem iterate_eq (step : α → EStateM Fault σ (Option α)) (value : α) (state : σ) :
    iterate step value state =
      match step value state with
      | .error fault after => .error fault after
      | .ok none after => .ok value after
      | .ok (some reached) after => below (left state) (iterate step reached) after := by
  rw [iterate]
  cases step value state with
  | error fault after => rfl
  | ok reached? after => cases reached? <;> rfl

/-- What a loop does with what its step gives: it ends there, or goes on under a bound. -/
def goOn (loop : α → EStateM Fault σ α) (value : α) (limit : Nat) :
    Option α → EStateM Fault σ α
  | none => pure value
  | some reached => below limit (loop reached)

/-- A loop is its step and what is done with what that gives. -/
theorem iterate_eq_bind (step : α → EStateM Fault σ (Option α)) (value : α) (state : σ) :
    iterate step value state =
      (step value >>= goOn (iterate step) value (left state)) state := by
  rw [iterate_eq, bind_apply]
  cases step value state with
  | error fault after => rfl
  | ok reached? after => cases reached? <;> rfl

/-- A loop ends where its step declines. -/
theorem iterate_of_none {step : α → EStateM Fault σ (Option α)} {value : α} {state after : σ}
    (h : step value state = .ok none after) : iterate step value state = .ok value after := by
  rw [iterate_eq, h]

/-- A loop goes on with what its step has reached by using up tokens. -/
theorem iterate_of_some {step : α → EStateM Fault σ (Option α)} {value reached : α}
    {state after : σ} (h : step value state = .ok (some reached) after)
    (hleft : left after < left state) :
    iterate step value state = iterate step reached after := by
  rw [iterate_eq, h]
  exact below_of_lt hleft _

/-- What every round of a loop keeps holds where the loop ends, and there its step declines. -/
theorem iterate_ok_induct {step : α → EStateM Fault σ (Option α)} (motive : α → σ → Prop)
    (hround : ∀ value state reached after, motive value state →
      step value state = .ok (some reached) after → left after < left state →
      motive reached after)
    {value result : α} {state final : σ} (hstart : motive value state)
    (h : iterate step value state = .ok result final) :
    ∃ last, motive result last ∧ step result last = .ok none final := by
  rw [iterate_eq] at h
  split at h
  · cases h
  · rename_i after hstep
    cases h
    exact ⟨state, hstart, hstep⟩
  · rename_i reached after hstep
    obtain ⟨hleft, h⟩ := below_ok_iff.1 h
    exact iterate_ok_induct motive hround
      (hround value state reached after hstart hstep hleft) h
termination_by left state

/-- A rule that succeeds is its body, with the rule itself for calls on fewer tokens. -/
theorem recursive_induct {body : (ι → EStateM Fault σ α) → ι → EStateM Fault σ α}
    (motive : ι → σ → α → σ → Prop)
    (hbody : ∀ input state result final,
      (∀ inner later value after, left later < left state →
        recursive body inner later = .ok value after → motive inner later value after) →
      body (fun inner => below (left state) (recursive body inner)) input state = .ok result final →
      motive input state result final)
    {input : ι} {state final : σ} {result : α}
    (h : recursive body input state = .ok result final) : motive input state result final := by
  rw [recursive_eq] at h
  exact hbody input state result final
    (fun inner later value after _ hinner => recursive_induct motive hbody hinner) h
termination_by left state

/-! ## Loops that collect -/

/-- A round of a loop that collects what an operation gives, latest first, as long as there is
more. -/
def collect (more : EStateM Fault σ Bool) (item : EStateM Fault σ α) (values : List α) :
    EStateM Fault σ (Option (List α)) := do
  if ← more then return some ((← item) :: values)
  return none

/-- What a loop collects from one state to another. -/
inductive Collects (more : EStateM Fault σ Bool) (item : EStateM Fault σ α) :
    σ → List α → σ → Prop where
  | done {state} : Collects more item state [] state
  | round {state middle later last value values} : more state = .ok true middle →
      item middle = .ok value later → left later < left state →
      Collects more item later values last → Collects more item state (value :: values) last

variable {more : EStateM Fault σ Bool} {item : EStateM Fault σ α}

omit [Supply σ] in
/-- A round that collects goes on with what the operation gives. -/
theorem collect_some_iff {before reached : List α} {state after : σ} :
    collect more item before state = .ok (some reached) after ↔
      ∃ value middle, more state = .ok true middle ∧ item middle = .ok value after ∧
        value :: before = reached := by
  unfold collect
  rw [bind_ok_iff]
  constructor
  · rintro ⟨found, middle, hmore, h⟩
    cases found with
    | true =>
        obtain ⟨value, hvalue, hreached⟩ := map_ok_iff.1 h
        cases hreached
        exact ⟨value, middle, hmore, hvalue, rfl⟩
    | false => cases h
  · rintro ⟨value, middle, hmore, hvalue, rfl⟩
    exact ⟨true, middle, hmore, map_ok_iff.2 ⟨value, hvalue, rfl⟩⟩

omit [Supply σ] in
/-- A round that declines has found that there is no more. -/
theorem collect_none_iff {before : List α} {state after : σ} :
    collect more item before state = .ok none after ↔ more state = .ok false after := by
  unfold collect
  rw [bind_ok_iff]
  constructor
  · rintro ⟨found, middle, hmore, h⟩
    cases found with
    | true =>
        obtain ⟨_, _, hnone⟩ := map_ok_iff.1 h
        cases hnone
    | false =>
        cases h
        exact hmore
  · exact fun hmore => ⟨false, after, hmore, rfl⟩

/-- A loop that collects ends where there is no more. -/
theorem iterate_collect_iff {before result : List α} {start final : σ} :
    iterate (collect more item) before start = .ok result final ↔
      ∃ values last, Collects more item start values last ∧ more last = .ok false final ∧
        result = values.reverse ++ before := by
  constructor
  · intro h
    rw [iterate_eq] at h
    split at h
    · cases h
    · rename_i after hstep
      cases h
      exact ⟨[], start, .done, collect_none_iff.1 hstep, rfl⟩
    · rename_i reached after hstep
      obtain ⟨hleft, h⟩ := below_ok_iff.1 h
      obtain ⟨value, middle, hmore, hvalue, rfl⟩ := collect_some_iff.1 hstep
      obtain ⟨values, last, hcollects, hlast, rfl⟩ := iterate_collect_iff.1 h
      exact ⟨value :: values, last, .round hmore hvalue hleft hcollects, hlast, by simp⟩
  · rintro ⟨values, last, hcollects, hlast, rfl⟩
    induction hcollects generalizing before with
    | done => exact iterate_of_none (collect_none_iff.2 hlast)
    | round hmore hvalue hleft _ ih =>
        rw [iterate_of_some (collect_some_iff.2 ⟨_, _, hmore, hvalue, rfl⟩) hleft, ih hlast]
        simp
termination_by left start

/-- One item, and what is collected after it. -/
theorem first_collect_iff {values : List α} {start final : σ} :
    (do
      let first ← item
      let rest ← iterate (collect more item) []
      return first :: rest.reverse) start = .ok values final ↔
      ∃ first others middle last, item start = .ok first middle ∧
        Collects more item middle others last ∧ more last = .ok false final ∧
        first :: others = values := by
  simp only [bind_ok_iff]
  constructor
  · rintro ⟨first, middle, hfirst, collected, after, hcollected, h⟩
    obtain ⟨others, last, hcollects, hlast, rfl⟩ := iterate_collect_iff.1 hcollected
    cases h
    exact ⟨first, others, middle, last, hfirst, hcollects, hlast, by simp⟩
  · rintro ⟨first, others, middle, last, hfirst, hcollects, hlast, rfl⟩
    exact ⟨first, middle, hfirst, _, final,
      iterate_collect_iff.2 ⟨others, last, hcollects, hlast, rfl⟩, by simp [pure_apply]⟩

end Parlance.Rule
