import Parlance.Pl0.Interpreter
import Parlance.Proofs.Ledger
import Parlance.Proofs.Pl0.Operators
import Parlance.Proofs.Sequence

/-!
# Evaluating what keeps the rules on names

A chain fits a scope if its activations hold the names that the levels of the scope declare. On such
a chain an expression that keeps the rules on names, with the operators of the grammar, has a value
unless it divides by zero.
-/

namespace Parlance.Pl0

/-- The activations of a chain hold what the levels declare. -/
def Chain.Fits : Chain → List Declared → Prop
  | [], [] => True
  | activation :: chain, level :: levels =>
    activation.values.map Prod.fst = level.symbols.map Prod.fst ∧ Fits chain levels
  | _, _ => False

variable {chain : Chain} {levels : List Declared} {scope : Scope} {name : String} {fault : RunFault}

/-- A chain has a value for the names that are declared. -/
theorem Chain.Fits.get? (h : chain.Fits levels)
    (hname : (levels.findSome? fun level => level.symbols.lookup name).isSome = true) :
    ∃ value, chain.get? name = some value := by
  induction chain generalizing levels with
  | nil =>
      cases levels with
      | nil => cases hname
      | cons level levels => exact h.elim
  | cons activation chain ih =>
      cases levels with
      | nil => exact h.elim
      | cons level levels =>
          obtain ⟨hnames, hrest⟩ := h
          have hheld : (activation.values.lookup name).isSome =
              (level.symbols.lookup name).isSome := by
            rw [Bool.eq_iff_iff, Ledger.lookup_isSome_iff_mem, Ledger.lookup_isSome_iff_mem, hnames]
          rw [Chain.get?, List.findSome?_cons]
          rw [List.findSome?_cons] at hname
          cases hvalue : activation.values.lookup name with
          | some value => exact ⟨value, rfl⟩
          | none =>
              rw [hvalue, Option.isSome_none, eq_comm, Option.isSome_eq_false_iff,
                Option.isNone_iff_eq_none] at hheld
              rw [hheld] at hname
              exact ih hrest hname

/-- The operators of the grammar have a result unless they divide by zero. -/
theorem applyOperator_fault {operator : String} {left right : Int}
    (hmem : operator ∈ ["*", "/"] ++ ["+", "-"])
    (h : applyOperator operator left right = .error fault) : fault = .divisionByZero := by
  simp only [List.cons_append, List.nil_append, List.mem_cons, List.not_mem_nil, or_false] at hmem
  rcases hmem with rfl | rfl | rfl | rfl
  · cases h
  · simp only [applyOperator, divide] at h
    split at h
    · cases h
      rfl
    · cases h
  · cases h
  · cases h

/-- The relations of the grammar are true or false. -/
theorem applyRelation_ok {operator : String} (left right : Int) (hmem : operator ∈ relations) :
    ∃ holds, applyRelation operator left right = .ok holds := by
  simp only [relations, List.mem_cons, List.not_mem_nil, or_false] at hmem
  rcases hmem with rfl | rfl | rfl | rfl | rfl | rfl <;> exact ⟨_, rfl⟩

/-- An expression that keeps the rules on names fails by dividing by zero only. -/
theorem Expr.eval_fault {value : Expr} (hfits : chain.Fits scope.levels)
    (hresolves : value.Resolves scope) (hknown : value.Known)
    (h : value.eval chain = .error fault) : fault = .divisionByZero := by
  induction value generalizing fault with
  | number value => cases h
  | symbol name =>
      obtain ⟨found, hfound⟩ := hfits.get? hresolves
      rw [eval, hfound] at h
      cases h
  | negate operand ih =>
      obtain hoperand | ⟨_, _, hlast⟩ := bind_eq_error_iff.1 h
      · exact ih hresolves hknown hoperand
      · cases hlast
  | binary operator left right ih ih' =>
      obtain ⟨hmem, hleftKnown, hrightKnown⟩ := hknown
      obtain hleft | ⟨_, _, h⟩ := bind_eq_error_iff.1 h
      · exact ih hresolves.1 hleftKnown hleft
      · obtain hright | ⟨_, _, h⟩ := bind_eq_error_iff.1 h
        · exact ih' hresolves.2 hrightKnown hright
        · exact applyOperator_fault hmem h
  | unspecified => exact hknown.elim

/-- A condition that keeps the rules on names fails by dividing by zero only. -/
theorem Condition.eval_fault {test : Condition} (hfits : chain.Fits scope.levels)
    (hresolves : test.Resolves scope) (hknown : test.Known)
    (h : test.eval chain = .error fault) : fault = .divisionByZero := by
  cases test with
  | odd operand =>
      obtain hoperand | ⟨_, _, hlast⟩ := bind_eq_error_iff.1 h
      · exact Expr.eval_fault hfits hresolves hknown hoperand
      · cases hlast
  | relation operator left right =>
      obtain ⟨hmem, hleftKnown, hrightKnown⟩ := hknown
      obtain hleft | ⟨leftValue, _, h⟩ := bind_eq_error_iff.1 h
      · exact Expr.eval_fault hfits hresolves.1 hleftKnown hleft
      · obtain hright | ⟨rightValue, _, h⟩ := bind_eq_error_iff.1 h
        · exact Expr.eval_fault hfits hresolves.2 hrightKnown hright
        · obtain ⟨holds, hholds⟩ := applyRelation_ok leftValue rightValue hmem
          rw [hholds] at h
          cases h

end Parlance.Pl0
