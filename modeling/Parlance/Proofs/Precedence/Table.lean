import Parlance.Precedence.Grammar
import Parlance.Proofs.Sequence

/-!
# What the tables of a grammar hold

A grammar that can be defined holds in its two tables exactly the operators that it was defined
from. `define_before_lookup_iff` and `define_tail_lookup_iff` say so for each table: a symbol is
found if and only if some operator that stands there is recognised by it, and what is found is the
row of that operator. No operator shadows another, for a definition that would make one do so fails.
-/

namespace Parlance.Precedence

variable {γ κ ρ : Type}

/-- Rows are added to those that the table holds and replace none of them. -/
theorem addRows_lookup_iff {α : Type} {row : Row α} {table added : List (String × Row α)}
    {symbols : List String} (h : addRows row table symbols = .ok added) (symbol : String)
    (found : Row α) :
    added.lookup symbol = some found ↔
      table.lookup symbol = some found ∨ symbol ∈ symbols ∧ found = row := by
  induction symbols generalizing table with
  | nil =>
      cases h
      simp
  | cons first rest ih =>
      unfold addRows at h
      split at h
      · cases h
      · rename_i hfirst
        rw [ih h, List.lookup_append, List.lookup_cons, List.mem_cons]
        by_cases hsymbol : symbol = first
        · subst hsymbol
          simp [hfirst, eq_comm]
        · have hne : (symbol == first) = false := by simpa using hsymbol
          simp [hne, hsymbol]

namespace Operator

/-- The row of an operator that stands before its operand. -/
def beforeRow? (operator : Operator γ κ ρ) : Option (Row (Unary γ κ ρ)) :=
  match operator.action with
  | .before combine => some ⟨operator.head, combine⟩
  | _ => none

/-- The row of an operator that follows its first operand. -/
def tailRow? (operator : Operator γ κ ρ) : Option (Row (Tail γ κ ρ)) :=
  match operator.action with
  | .before _ => none
  | .between right combine => some ⟨operator.head, .between right combine⟩
  | .after combine => some ⟨operator.head, .after combine⟩

end Operator

namespace Grammar

variable {grammar added : Grammar γ κ ρ}

/-- Adding an operator adds its rows to the table that it belongs to, and nothing else. -/
theorem add_spec {operator : Operator γ κ ρ} (h : grammar.add operator = .ok added) :
    added.primary = grammar.primary ∧
      (∀ symbol row, added.before.lookup symbol = some row ↔
        grammar.before.lookup symbol = some row ∨
          symbol ∈ operator.symbols ∧ operator.beforeRow? = some row) ∧
      (∀ symbol row, added.tail.lookup symbol = some row ↔
        grammar.tail.lookup symbol = some row ∨
          symbol ∈ operator.symbols ∧ operator.tailRow? = some row) := by
  unfold add at h
  unfold Operator.beforeRow? Operator.tailRow?
  cases haction : operator.action with
  | before combine =>
      rw [haction] at h
      obtain ⟨table, htable, hadded⟩ := bind_eq_ok_iff.1 h
      cases hadded
      refine ⟨rfl, fun symbol row => ?_, by simp⟩
      simp [addRows_lookup_iff htable, Operator.head, eq_comm]
  | between right combine =>
      rw [haction] at h
      obtain ⟨table, htable, hadded⟩ := bind_eq_ok_iff.1 h
      cases hadded
      refine ⟨rfl, by simp, fun symbol row => ?_⟩
      simp [addRows_lookup_iff htable, Operator.head, eq_comm]
  | after combine =>
      rw [haction] at h
      obtain ⟨table, htable, hadded⟩ := bind_eq_ok_iff.1 h
      cases hadded
      refine ⟨rfl, by simp, fun symbol row => ?_⟩
      simp [addRows_lookup_iff htable, Operator.head, eq_comm]

/-- Adding entries one after the other adds the rows of all operators among them. -/
theorem addEntries_spec {entries : List (Entry γ κ ρ)}
    (h : grammar.addEntries entries = .ok added) :
    added.primary = grammar.primary ∧
      (∀ symbol row, added.before.lookup symbol = some row ↔
        grammar.before.lookup symbol = some row ∨
          ∃ operator, .placed operator ∈ entries ∧ symbol ∈ operator.symbols ∧
            operator.beforeRow? = some row) ∧
      (∀ symbol row, added.tail.lookup symbol = some row ↔
        grammar.tail.lookup symbol = some row ∨
          ∃ operator, .placed operator ∈ entries ∧ symbol ∈ operator.symbols ∧
            operator.tailRow? = some row) := by
  induction entries generalizing grammar with
  | nil =>
      cases h
      simp
  | cons entry rest ih =>
      cases entry with
      | unplaced head => cases h
      | other value => cases h
      | placed operator =>
          unfold addEntries at h
          obtain ⟨middle, hadd, hrest⟩ := bind_eq_ok_iff.1 h
          obtain ⟨hprimary, hbefore, htail⟩ := add_spec hadd
          obtain ⟨hprimary', hbefore', htail'⟩ := ih hrest
          refine ⟨hprimary'.trans hprimary, fun symbol row => ?_, fun symbol row => ?_⟩
          · rw [hbefore', hbefore]
            simp [or_assoc, or_and_right, exists_or]
          · rw [htail', htail]
            simp [or_assoc, or_and_right, exists_or]

variable {entries : List (Entry γ κ ρ)} {primary : Primary γ κ ρ}

/-- A defined grammar parses operands as it was told. -/
theorem define_primary (h : define entries primary = .ok grammar) :
    grammar.primary = primary :=
  (addEntries_spec h).1

/-- The first table of a defined grammar holds the operators that stand before their operand. -/
theorem define_before_lookup_iff (h : define entries primary = .ok grammar) (symbol : String)
    (row : Row (Unary γ κ ρ)) :
    grammar.before.lookup symbol = some row ↔
      ∃ operator, .placed operator ∈ entries ∧ symbol ∈ operator.symbols ∧
        operator.beforeRow? = some row := by
  rw [(addEntries_spec h).2.1]
  simp

/-- The second table of a defined grammar holds the operators that follow an operand. -/
theorem define_tail_lookup_iff (h : define entries primary = .ok grammar) (symbol : String)
    (row : Row (Tail γ κ ρ)) :
    grammar.tail.lookup symbol = some row ↔
      ∃ operator, .placed operator ∈ entries ∧ symbol ∈ operator.symbols ∧
        operator.tailRow? = some row := by
  rw [(addEntries_spec h).2.2]
  simp

end Grammar

end Parlance.Precedence
