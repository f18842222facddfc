import Parlance.Proofs.Scanner.Rule

/-!
# Comparing two operations

Two operations that go side by side from states that are related in some way either come to the same
end, in states that are still related, or only the first one fails, and then the second may do
whatever keeps what is known of them at that point. A `Comparison` says what is known in each of
these cases; that operations compare is kept by sequences, loops and recursion.
-/

namespace Parlance

/-- The state at the end of an operation. -/
def Result.last {ε σ α : Type} : EStateM.Result ε σ α → σ
  | .ok _ state => state
  | .error _ state => state

variable {ε σ τ α β ι : Type}

/-- What is to be known of the states of two operations that go side by side: while neither has
failed, when both have failed, and when the first has failed and the other one goes on. -/
structure Comparison (ε σ τ : Type) where
  together : σ → τ → Prop
  ended : ε → σ → τ → Prop
  parted : ε → σ → τ → Prop

namespace Comparison

/-- The two operations have come to the same end, or the first has failed alone. -/
inductive Ends (c : Comparison ε σ τ) :
    EStateM.Result ε σ α → EStateM.Result ε τ α → Prop where
  | ok {value state state'} : c.together state state' → Ends c (.ok value state) (.ok value state')
  | error {fault state state'} : c.ended fault state state' →
      Ends c (.error fault state) (.error fault state')
  | parted {fault state result} : c.parted fault state (Result.last result) →
      Ends c (.error fault state) result

/-- The operations come to the same end from states that go together, or the first fails alone; and
what is known when it has failed is kept by the second. More may be known of the states before. -/
structure Holds (c : Comparison ε σ τ) (first : EStateM ε σ α) (second : EStateM ε τ α)
    (before : Comparison ε σ τ := c) : Prop where
  ends : ∀ state state', before.together state state' → c.Ends (first state) (second state')
  keeps : ∀ fault state state', before.parted fault state state' →
    c.parted fault state (Result.last (second state'))

variable {c before : Comparison ε σ τ}

/-! ## Sequences -/

/-- A value on its own keeps what is known. -/
theorem Holds.pure (value : α) :
    c.Holds (pure value : EStateM ε σ α) (pure value : EStateM ε τ α) :=
  ⟨fun _ _ h => .ok h, fun _ _ _ h => h⟩

/-- Operations one after the other compare if each of them does. -/
theorem Holds.bind {first : EStateM ε σ α} {second : EStateM ε τ α}
    {next : α → EStateM ε σ β} {next' : α → EStateM ε τ β} (h : c.Holds first second before)
    (hnext : ∀ value, c.Holds (next value) (next' value)) :
    c.Holds (first >>= next) (second >>= next') before := by
  have hkeeps (fault : ε) (state : σ) (state' : τ)
      (hparted : before.parted fault state state') :
      c.parted fault state (Result.last ((second >>= next') state')) := by
    have hsecond := h.keeps fault state state' hparted
    rw [Rule.bind_apply]
    cases hresult : second state' with
    | ok value after =>
        rw [hresult] at hsecond
        exact (hnext value).keeps fault state after hsecond
    | error _ after => rwa [hresult] at hsecond
  refine ⟨fun state state' htogether => ?_, hkeeps⟩
  have hends := h.ends state state' htogether
  rw [Rule.bind_apply, Rule.bind_apply]
  generalize first state = result, second state' = result' at hends
  cases hends with
  | ok hafter => exact (hnext _).ends _ _ hafter
  | error hended => exact .error hended
  | parted hparted =>
      -- The second one goes on alone.
      refine .parted ?_
      cases result' with
      | ok value after => exact (hnext value).keeps _ _ _ hparted
      | error _ after => exact hparted

/-- What is done with the value changes nothing. -/
theorem Holds.map {first : EStateM ε σ α} {second : EStateM ε τ α} {make : α → β}
    (h : c.Holds first second before) :
    c.Holds (first >>= fun value => Pure.pure (make value))
      (second >>= fun value => Pure.pure (make value)) before :=
  h.bind fun _ => .pure _

/-- Operations for the items of a list, one after the other, compare if each of them does. -/
theorem Holds.forM {run : ι → EStateM ε σ Unit} {run' : ι → EStateM ε τ Unit}
    (h : ∀ item, c.Holds (run item) (run' item)) (items : List ι) :
    c.Holds (items.forM run) (items.forM run') := by
  induction items with
  | nil => exact Holds.pure ()
  | cons item others ih => exact (h item).bind fun _ => ih

/-! ## Loops and recursion -/

section

open Supply (left)

variable [Supply σ] [Supply τ] {c : Comparison Fault σ τ} {gap : Nat}

/-- While both operations go on, the second one has so many tokens left more than the first, and
after the first has failed it has no more than these left; and both may stall where they go on. -/
structure Counts (c : Comparison Fault σ τ) (gap : Nat) : Prop where
  together : ∀ state state', c.together state state' → left state' = left state + gap
  parted : ∀ fault state state', c.parted fault state state' → left state' ≤ gap
  stalled : ∀ state state', c.together state state' → c.ended .stalled state state'

/-- Operations under bounds that leave the same room compare where there is some. -/
theorem Counts.below (hc : c.Counts gap) {limit limit' : Nat} {first : EStateM Fault σ α}
    {second : EStateM Fault τ α} (hlimit : ∀ count, count < limit ↔ count + gap < limit')
    (hends : ∀ state state', left state' < limit' → c.together state state' →
      c.Ends (first state) (second state'))
    (hkeeps : ∀ fault state state', left state' < limit' → c.parted fault state state' →
      c.parted fault state (Result.last (second state'))) :
    c.Holds (Rule.below limit first) (Rule.below limit' second) := by
  constructor
  · intro state state' htogether
    have hroom : left state < limit ↔ left state' < limit' := by
      rw [hc.together state state' htogether]
      exact hlimit (left state)
    unfold Rule.below
    by_cases hlt : left state' < limit'
    · rw [if_pos (hroom.2 hlt), if_pos hlt]
      exact hends state state' hlt htogether
    · rw [if_neg (mt hroom.1 hlt), if_neg hlt]
      exact .error (hc.stalled state state' htogether)
  · intro fault state state' hparted
    unfold Rule.below
    split
    · exact hkeeps fault state state' ‹_› hparted
    · exact hparted

/-- Loops compare if their steps do, by induction on what is left. -/
theorem Holds.iterate (hc : c.Counts gap) {step : α → EStateM Fault σ (Option α)}
    {step' : α → EStateM Fault τ (Option α)} (hstep : ∀ value, c.Holds (step value) (step' value))
    (value : α) : c.Holds (Rule.iterate step value) (Rule.iterate step' value) := by
  have hboth (count : Nat) : ∀ value state state', left state' = count →
      (c.together state state' →
        c.Ends (Rule.iterate step value state) (Rule.iterate step' value state')) ∧
      ∀ fault, c.parted fault state state' →
        c.parted fault state (Result.last (Rule.iterate step' value state')) := by
    induction count using Nat.strongRecOn with
    | ind count ih =>
        intro value state state' hleft
        have hround (limit : Nat) (hlimit : ∀ count, count < limit ↔ count + gap < left state') :
            c.Holds (step value >>= Rule.goOn (Rule.iterate step) value limit)
              (step' value >>= Rule.goOn (Rule.iterate step') value (left state')) := by
          refine (hstep value).bind fun reached? => ?_
          cases reached? with
          | none => exact .pure value
          | some reached =>
              exact hc.below hlimit
                (fun last last' hlt hlast => (ih _ (hleft ▸ hlt) reached last last' rfl).1 hlast)
                fun fault last last' hlt hlast =>
                  (ih _ (hleft ▸ hlt) reached last last' rfl).2 fault hlast
        constructor
        · intro htogether
          have hsame := hc.together state state' htogether
          rw [Rule.iterate_eq_bind, Rule.iterate_eq_bind]
          exact (hround (left state) (by omega)).ends state state' htogether
        · intro fault hparted
          rw [Rule.iterate_eq_bind]
          exact (hround (left state' - gap) (by omega)).keeps fault state state' hparted
  exact ⟨fun state state' => (hboth _ value state state' rfl).1,
    fun fault state state' => (hboth _ value state state' rfl).2 fault⟩

/-- Rules that call themselves compare if their bodies do where the calls do, by induction on what is
left. -/
theorem Holds.recursive (hc : c.Counts gap) {body : (ι → EStateM Fault σ α) → ι → EStateM Fault σ α}
    {body' : (ι → EStateM Fault τ α) → ι → EStateM Fault τ α}
    (hbody : ∀ inner inner', (∀ input, c.Holds (inner input) (inner' input)) →
      ∀ input, c.Holds (body inner input) (body' inner' input)) (input : ι) :
    c.Holds (Rule.recursive body input) (Rule.recursive body' input) := by
  have hboth (count : Nat) : ∀ input state state', left state' = count →
      (c.together state state' →
        c.Ends (Rule.recursive body input state) (Rule.recursive body' input state')) ∧
      ∀ fault, c.parted fault state state' →
        c.parted fault state (Result.last (Rule.recursive body' input state')) := by
    induction count using Nat.strongRecOn with
    | ind count ih =>
        intro input state state' hleft
        have hinner (limit : Nat) (hlimit : ∀ count, count < limit ↔ count + gap < left state')
            (inner : ι) :
            c.Holds (Rule.below limit (Rule.recursive body inner))
              (Rule.below (left state') (Rule.recursive body' inner)) :=
          hc.below hlimit
            (fun last last' hlt hlast => (ih _ (hleft ▸ hlt) inner last last' rfl).1 hlast)
            fun fault last last' hlt hlast =>
              (ih _ (hleft ▸ hlt) inner last last' rfl).2 fault hlast
        constructor
        · intro htogether
          have hsame := hc.together state state' htogether
          rw [Rule.recursive_eq, Rule.recursive_eq]
          exact (hbody _ _ (hinner (left state) (by omega)) input).ends state state' htogether
        · intro fault hparted
          rw [Rule.recursive_eq]
          exact (hbody _ _ (hinner (left state' - gap) (by omega)) input).keeps fault state state'
            hparted
  exact ⟨fun state state' => (hboth _ input state state' rfl).1,
    fun fault state state' => (hboth _ input state state' rfl).2 fault⟩

omit [Supply σ] [Supply τ] in
/-- Rounds of loops that collect compare if what they look for and what they collect does. -/
theorem Holds.collect {more : EStateM Fault σ Bool} {more' : EStateM Fault τ Bool}
    {item : EStateM Fault σ α} {item' : EStateM Fault τ α} (hmore : c.Holds more more')
    (hitem : c.Holds item item') (values : List α) :
    c.Holds (Rule.collect more item values) (Rule.collect more' item' values) := by
  refine hmore.bind fun found => ?_
  cases found with
  | true => exact hitem.map
  | false => exact .pure none

/-- Items, and others that are collected in a loop, compare if what is looked for and the items
do. -/
theorem Holds.first_collect (hc : c.Counts gap) {more : EStateM Fault σ Bool}
    {more' : EStateM Fault τ Bool} {item : EStateM Fault σ α} {item' : EStateM Fault τ α}
    (hmore : c.Holds more more') (hitem : c.Holds item item') :
    c.Holds
      (do
        let value ← item
        let rest ← Rule.iterate (Rule.collect more item) []
        return value :: rest.reverse)
      (do
        let value ← item'
        let rest ← Rule.iterate (Rule.collect more' item') []
        return value :: rest.reverse) :=
  hitem.bind fun _ => (Holds.iterate hc (fun values => hmore.collect hitem values) []).map

end

end Comparison

end Parlance
