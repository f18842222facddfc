import Parlance.Scanner.Basic

/-!
# Rules that call themselves

A rule of a grammar may call itself, directly or through others, and may go around a loop. Either
comes to an end because tokens are used up. `recursive` and `iterate` build this in: a call of the
rule from within itself, and each further round, is refused unless fewer tokens remain than where
the enclosing call, or the round before, began.

Both work on a scanner and on any state that holds one.
-/

namespace Parlance

/-- A state from which so many tokens can still be consumed. -/
class Supply (σ : Type) where
  left : σ → Nat

instance {κ : Type} : Supply (Scanner κ) := ⟨Scanner.remaining⟩

namespace Rule

open Supply (left)

variable {σ α ι : Type} [Supply σ]

/-- Runs an operation where fewer than so many tokens remain, and is stalled elsewhere. -/
def below (limit : Nat) (operation : EStateM Fault σ α) : EStateM Fault σ α := fun state =>
  if left state < limit then operation state else .error .stalled state

/-- The rule with this body, in which the rule itself stands for its recursive calls. -/
def recursive (body : (ι → EStateM Fault σ α) → ι → EStateM Fault σ α) (input : ι) :
    EStateM Fault σ α := fun state =>
  body (fun inner later =>
    if _h : left later < left state then recursive body inner later
    else .error .stalled later) input state
termination_by state => left state

/-- A rule is its body, with the rule itself for calls on fewer tokens. -/
theorem recursive_eq (body : (ι → EStateM Fault σ α) → ι → EStateM Fault σ α) (input : ι)
    (state : σ) :
    recursive body input state =
      body (fun inner => below (left state) (recursive body inner)) input state := by
  rw [recursive]
  rfl

/-- Takes steps from a value until one declines; the value that was reached. -/
def iterate (step : α → EStateM Fault σ (Option α)) (value : α) : EStateM Fault σ α := fun state =>
  match step value state with
  | .error fault after => .error fault after
  | .ok none after => .ok value after
  | .ok (some reached) after =>
    if _h : left after < left state then iterate step reached after
    else .error .stalled after
termination_by state => left state

end Rule

namespace Scanner

variable {κ α : Type} [DecidableEq κ]

/-- An item, and one more after each separator. -/
def separated (separator : String) (item : Scan κ α) : Scan κ (List α) := do
  let first ← item
  let rest ← Rule.iterate (fun items => do
    if ← tryConsume separator then return some ((← item) :: items)
    return none) []
  return first :: rest.reverse

end Scanner

end Parlance
