import Parlance.Proofs.Ledger
import Parlance.Proofs.Pl0.Resolution

/-!
# Blocks that differ in the names of constants and variables

Two blocks are alike if they declare constants and variables at the same places, under names that
may differ, and use at the same places names for which the same declaration is found. So a name of
the one that is declared corresponds to a name of the other, and what either has under such names in
its ledgers is the same. If one of the blocks keeps the rules on names, so does the other.
-/

namespace Parlance.Pl0

variable {α : Type}

/-! ## Corresponding names -/

/-- The names that two blocks declare at the same places, none of them twice. -/
structure Pairing where
  pairs : List (String × String)
  nodup : (pairs.map Prod.fst).Nodup
  nodup' : (pairs.map Prod.snd).Nodup

/-- Two ledgers hold the same values under the names that are paired, in the same order. -/
inductive Paired : List (String × String) → List (String × α) → List (String × α) → Prop where
  | nil : Paired [] [] []
  | cons {pair pairs value ledger ledger'} : Paired pairs ledger ledger' →
      Paired (pair :: pairs) ((pair.1, value) :: ledger) ((pair.2, value) :: ledger')

/-- The names are declared at the same place, where these are the names that the blocks around them
declare, innermost first. -/
inductive Corresponds : List Pairing → String → String → Prop where
  | here {pairing pairings name name'} : (name, name') ∈ pairing.pairs →
      Corresponds (pairing :: pairings) name name'
  | there {pairing pairings name name'} : name ∉ pairing.pairs.map Prod.fst →
      name' ∉ pairing.pairs.map Prod.snd → Corresponds pairings name name' →
      Corresponds (pairing :: pairings) name name'

/-- The ledgers of the blocks around a place hold the same values, block by block. -/
inductive PairedAll :
    List Pairing → List (List (String × α)) → List (List (String × α)) → Prop where
  | nil : PairedAll [] [] []
  | cons {pairing pairings ledger ledger' ledgers ledgers'} : Paired pairing.pairs ledger ledger' →
      PairedAll pairings ledgers ledgers' →
      PairedAll (pairing :: pairings) (ledger :: ledgers) (ledger' :: ledgers')

namespace Paired

variable {pairs : List (String × String)} {ledger ledger' : List (String × α)}
  {name name' : String} {value : α}

/-- The names of the one ledger are the first ones. -/
theorem names (h : Paired pairs ledger ledger') : ledger.map Prod.fst = pairs.map Prod.fst := by
  induction h with
  | nil => rfl
  | cons _ ih => rw [List.map_cons, ih, List.map_cons]

/-- The names of the other ledger are the second ones. -/
theorem names' (h : Paired pairs ledger ledger') : ledger'.map Prod.fst = pairs.map Prod.snd := by
  induction h with
  | nil => rfl
  | cons _ ih => rw [List.map_cons, ih, List.map_cons]

/-- A name that is not among the first ones is not in the one ledger. -/
theorem lookup_eq_none (h : Paired pairs ledger ledger') (hname : name ∉ pairs.map Prod.fst) :
    ledger.lookup name = none := by
  rw [← h.names, ← Ledger.lookup_isSome_iff_mem, Option.not_isSome_iff_eq_none] at hname
  exact hname

/-- A name that is not among the second ones is not in the other ledger. -/
theorem lookup_eq_none' (h : Paired pairs ledger ledger') (hname : name' ∉ pairs.map Prod.snd) :
    ledger'.lookup name' = none := by
  rw [← h.names', ← Ledger.lookup_isSome_iff_mem, Option.not_isSome_iff_eq_none] at hname
  exact hname

/-- Of names without a repetition, those of another pair are others. -/
theorem ne_of_mem {pair : String × String} (hmem : (name, name') ∈ pairs)
    (hnodup : ((pair :: pairs).map Prod.fst).Nodup)
    (hnodup' : ((pair :: pairs).map Prod.snd).Nodup) : name ≠ pair.1 ∧ name' ≠ pair.2 := by
  rw [List.map_cons, List.nodup_cons] at hnodup hnodup'
  exact ⟨fun heq => hnodup.1 (heq ▸ List.mem_map_of_mem (f := Prod.fst) hmem),
    fun heq => hnodup'.1 (heq ▸ List.mem_map_of_mem (f := Prod.snd) hmem)⟩

/-- Names that are paired are looked up to the same value. -/
theorem lookup (h : Paired pairs ledger ledger') (hnodup : (pairs.map Prod.fst).Nodup)
    (hnodup' : (pairs.map Prod.snd).Nodup) (hmem : (name, name') ∈ pairs) :
    ∃ value, ledger.lookup name = some value ∧ ledger'.lookup name' = some value := by
  induction h with
  | nil => cases hmem
  | @cons pair pairs value ledger ledger' _ ih =>
      rcases List.mem_cons.1 hmem with rfl | hmem
      · exact ⟨value, List.lookup_cons_self, List.lookup_cons_self⟩
      · obtain ⟨hne, hne'⟩ := ne_of_mem hmem hnodup hnodup'
        rw [List.lookup_cons, beq_eq_false_iff_ne.2 hne, List.lookup_cons,
          beq_eq_false_iff_ne.2 hne']
        rw [List.map_cons, List.nodup_cons] at hnodup hnodup'
        exact ih hnodup.2 hnodup'.2 hmem

/-- Names that are paired can be given the same value. -/
theorem put (h : Paired pairs ledger ledger') (hnodup : (pairs.map Prod.fst).Nodup)
    (hnodup' : (pairs.map Prod.snd).Nodup) (hmem : (name, name') ∈ pairs) (value : α) :
    Paired pairs (Ledger.put ledger name value) (Ledger.put ledger' name' value) := by
  induction h with
  | nil => cases hmem
  | cons h ih =>
      rcases List.mem_cons.1 hmem with rfl | hmem
      · rw [Ledger.put, if_pos rfl, Ledger.put, if_pos rfl]
        exact h.cons
      · obtain ⟨hne, hne'⟩ := ne_of_mem hmem hnodup hnodup'
        rw [Ledger.put, if_neg hne.symm, Ledger.put, if_neg hne'.symm]
        rw [List.map_cons, List.nodup_cons] at hnodup hnodup'
        exact (ih hnodup.2 hnodup'.2 hmem).cons

/-- What is computed from the same values is the same. -/
theorem map {β : Type} (h : Paired pairs ledger ledger') (compute : α → β) :
    Paired pairs (ledger.map fun entry => (entry.1, compute entry.2))
      (ledger'.map fun entry => (entry.1, compute entry.2)) := by
  induction h with
  | nil => exact .nil
  | cons _ ih => exact ih.cons

end Paired

/-- Names that correspond are found in corresponding ledgers, with the same value. -/
theorem Corresponds.lookup {pairings : List Pairing} {name name' : String}
    {ledgers ledgers' : List (List (String × α))} (h : Corresponds pairings name name')
    (hledgers : PairedAll pairings ledgers ledgers') :
    ∃ value, (ledgers.findSome? fun ledger => ledger.lookup name) = some value ∧
      (ledgers'.findSome? fun ledger => ledger.lookup name') = some value := by
  induction hledgers with
  | nil => cases h
  | @cons pairing pairings _ _ _ _ hpaired _ ih =>
      rw [List.findSome?_cons, List.findSome?_cons]
      cases h with
      | here hmem =>
          obtain ⟨value, hvalue, hvalue'⟩ := hpaired.lookup pairing.nodup pairing.nodup' hmem
          exact ⟨value, by rw [hvalue], by rw [hvalue']⟩
      | there hname hname' h =>
          rw [hpaired.lookup_eq_none hname, hpaired.lookup_eq_none' hname']
          exact ih h

/-! ## Blocks that are alike -/

/-- The expressions have corresponding names at the same places. -/
inductive Expr.Alike (pairings : List Pairing) : Expr → Expr → Prop where
  | number {value} : Alike pairings (.number value) (.number value)
  | symbol {name name'} : Corresponds pairings name name' →
      Alike pairings (.symbol name) (.symbol name')
  | negate {operand operand'} : Alike pairings operand operand' →
      Alike pairings (.negate operand) (.negate operand')
  | binary {operator left left' right right'} : Alike pairings left left' →
      Alike pairings right right' →
      Alike pairings (.binary operator left right) (.binary operator left' right')

/-- The conditions have corresponding names at the same places. -/
inductive Condition.Alike (pairings : List Pairing) : Condition → Condition → Prop where
  | odd {operand operand'} : operand.Alike pairings operand' →
      Alike pairings (.odd operand) (.odd operand')
  | relation {operator left left' right right'} : left.Alike pairings left' →
      right.Alike pairings right' →
      Alike pairings (.relation operator left right) (.relation operator left' right')

mutual

/-- The statements have corresponding names at the same places, and call the same procedures. -/
inductive Statement.Alike : List Pairing → Statement → Statement → Prop where
  | assign {pairings name name' value value'} : Corresponds pairings name name' →
      value.Alike pairings value' →
      Statement.Alike pairings (.assign name value) (.assign name' value')
  | call {pairings name} : Statement.Alike pairings (.call name) (.call name)
  | read {pairings name name'} : Corresponds pairings name name' →
      Statement.Alike pairings (.read name) (.read name')
  | write {pairings value value'} : value.Alike pairings value' →
      Statement.Alike pairings (.write value) (.write value')
  | sequence {pairings statements statements'} : StatementsAlike pairings statements statements' →
      Statement.Alike pairings (.sequence statements) (.sequence statements')
  | ifThen {pairings test test' body body'} : test.Alike pairings test' →
      Statement.Alike pairings body body' →
      Statement.Alike pairings (.ifThen test body) (.ifThen test' body')
  | whileDo {pairings test test' body body'} : test.Alike pairings test' →
      Statement.Alike pairings body body' →
      Statement.Alike pairings (.whileDo test body) (.whileDo test' body')
  | empty {pairings} : Statement.Alike pairings .empty .empty

/-- The statements are alike one by one. -/
inductive StatementsAlike : List Pairing → List Statement → List Statement → Prop where
  | nil {pairings} : StatementsAlike pairings [] []
  | cons {pairings statement statement' others others'} :
      Statement.Alike pairings statement statement' →
      StatementsAlike pairings others others' →
      StatementsAlike pairings (statement :: others) (statement' :: others')

end

mutual

/-- The blocks are alike: the first of the pairings is that of the names that they declare, and the
others are those of the blocks around them. -/
inductive Block.Alike : List Pairing → Block → Block → Prop where
  | intro {pairing pairings block block'} : Paired pairing.pairs block.symbols block'.symbols →
      ProceduresAlike (pairing :: pairings) block.procedures block'.procedures →
      block.statement.Alike (pairing :: pairings) block'.statement →
      Block.Alike (pairing :: pairings) block block'

/-- The procedures have the same names one by one, and bodies that are alike. -/
inductive ProceduresAlike :
    List Pairing → List (String × Block) → List (String × Block) → Prop where
  | nil {pairings} : ProceduresAlike pairings [] []
  | cons {pairing pairings name body body' others others'} :
      Block.Alike (pairing :: pairings) body body' →
      ProceduresAlike pairings others others' →
      ProceduresAlike pairings ((name, body) :: others) ((name, body') :: others')

end

namespace ProceduresAlike

variable {pairings : List Pairing} {procedures procedures' : List (String × Block)} {name : String}

/-- Procedures that are alike have the same names. -/
theorem names (h : ProceduresAlike pairings procedures procedures') :
    procedures'.map Prod.fst = procedures.map Prod.fst := by
  induction procedures generalizing procedures' with
  | nil =>
      cases h
      rfl
  | cons procedure others ih =>
      cases h with
      | cons _ hothers => rw [List.map_cons, ih hothers, List.map_cons]

/-- A name stands for no procedure on either side, or for procedures that are alike. -/
theorem lookup (h : ProceduresAlike pairings procedures procedures') :
    procedures.lookup name = none ∧ procedures'.lookup name = none ∨
      ∃ pairing body body', procedures.lookup name = some body ∧
        procedures'.lookup name = some body' ∧ body.Alike (pairing :: pairings) body' := by
  induction procedures generalizing procedures' with
  | nil =>
      cases h
      exact .inl ⟨rfl, rfl⟩
  | cons procedure others ih =>
      cases h with
      | @cons pairing _ declared body body' _ others' hbody hothers =>
          rw [List.lookup_cons, List.lookup_cons]
          cases name == declared with
          | true => exact .inr ⟨pairing, body, body', rfl, rfl, hbody⟩
          | false => exact ih hothers

/-- The procedures at the same place are alike. -/
theorem getElem (h : ProceduresAlike pairings procedures procedures') (index : Nat)
    (hlt : index < procedures.length) (hlt' : index < procedures'.length) :
    ∃ pairing, procedures[index].2.Alike (pairing :: pairings) procedures'[index].2 := by
  induction procedures generalizing procedures' index with
  | nil => exact absurd hlt (Nat.not_lt_zero index)
  | cons procedure others ih =>
      cases h with
      | @cons pairing _ _ _ _ _ _ hbody hothers =>
          cases index with
          | zero => exact ⟨pairing, hbody⟩
          | succ index =>
              exact ih hothers index (Nat.lt_of_succ_lt_succ hlt) (Nat.lt_of_succ_lt_succ hlt')

end ProceduresAlike

/-! ## The rules on names -/

/-- In the levels of two scopes the same is declared under corresponding names, and the procedures
have the same names. -/
structure LevelsAlike (pairings : List Pairing) (levels levels' : List Declared) : Prop where
  symbols : PairedAll pairings (levels.map Declared.symbols) (levels'.map Declared.symbols)
  procedures : levels'.map Declared.procedures = levels.map Declared.procedures

namespace LevelsAlike

variable {pairings : List Pairing} {scope scope' : Scope} {name name' : String}

/-- Nothing is declared on either side. -/
theorem nil : LevelsAlike [] [] [] := ⟨.nil, rfl⟩

/-- Blocks that are alike declare the same inside levels that are alike. -/
theorem declared {pairing : Pairing} {block block' : Block} {outer outer' : List Declared}
    (h : LevelsAlike pairings outer outer')
    (hsymbols : Paired pairing.pairs block.symbols block'.symbols)
    (hprocedures : block'.procedures.map Prod.fst = block.procedures.map Prod.fst) (count : Nat) :
    LevelsAlike (pairing :: pairings) (block.declared count :: outer)
      (block'.declared count :: outer') := by
  refine ⟨.cons hsymbols h.symbols, ?_⟩
  rw [List.map_cons, List.map_cons, h.procedures, Block.declared, Block.declared, List.map_take,
    List.map_take, hprocedures]

/-- Names that correspond stand for the same. -/
theorem symbol? (h : LevelsAlike pairings scope.levels scope'.levels)
    (hname : Corresponds pairings name name') :
    ∃ entry, scope.symbol? name = some entry ∧ scope'.symbol? name' = some entry := by
  obtain ⟨entry, hentry, hentry'⟩ := hname.lookup h.symbols
  rw [List.findSome?_map] at hentry hentry'
  exact ⟨entry, hentry, hentry'⟩

/-- A name that corresponds to that of a variable is one. -/
theorem isVariable (h : LevelsAlike pairings scope.levels scope'.levels)
    (hname : Corresponds pairings name name') (hvariable : scope.symbol? name = some none) :
    scope'.symbol? name' = some none := by
  obtain ⟨entry, hentry, hentry'⟩ := h.symbol? hname
  rw [hentry', ← hentry, hvariable]

/-- The same procedures can be called. -/
theorem hasProcedure (h : LevelsAlike pairings scope.levels scope'.levels) (name : String) :
    scope'.hasProcedure name = scope.hasProcedure name := by
  have hany (scope : Scope) : scope.hasProcedure name =
      (scope.levels.map Declared.procedures).any (·.contains name) := by
    rw [List.any_map]
    rfl
  rw [hany, hany, h.procedures]

end LevelsAlike

section

variable {pairings : List Pairing} {scope scope' : Scope}

/-- An expression that is alike keeps the rules on names. -/
theorem Expr.Alike.resolves {value value' : Expr} (h : value.Alike pairings value')
    (hscope : LevelsAlike pairings scope.levels scope'.levels) : value'.Resolves scope' := by
  induction h with
  | number => trivial
  | symbol hname =>
      obtain ⟨entry, -, hentry⟩ := hscope.symbol? hname
      exact Option.isSome_of_eq_some hentry
  | negate _ ih => exact ih
  | binary _ _ ih ih' => exact ⟨ih, ih'⟩

/-- A condition that is alike keeps the rules on names. -/
theorem Condition.Alike.resolves {test test' : Condition} (h : test.Alike pairings test')
    (hscope : LevelsAlike pairings scope.levels scope'.levels) : test'.Resolves scope' := by
  cases h with
  | odd hvalue => exact hvalue.resolves hscope
  | relation hleft hright => exact ⟨hleft.resolves hscope, hright.resolves hscope⟩

end

mutual

/-- A statement that is like one that keeps the rules on names keeps them. -/
theorem Statement.Alike.resolves {pairings : List Pairing} {scope scope' : Scope}
    {statement statement' : Statement}
    (hscope : LevelsAlike pairings scope.levels scope'.levels) :
    statement.Alike pairings statement' → statement.Resolves scope → statement'.Resolves scope'
  | .assign hname hvalue, h => ⟨hscope.isVariable hname h.1, hvalue.resolves hscope⟩
  | .call, h => (hscope.hasProcedure _).trans h
  | .read hname, h => hscope.isVariable hname h
  | .write hvalue, _ => hvalue.resolves hscope
  | .sequence hstatements, h => hstatements.resolves hscope h
  | .ifThen htest hbody, h => ⟨htest.resolves hscope, hbody.resolves hscope h.2⟩
  | .whileDo htest hbody, h => ⟨htest.resolves hscope, hbody.resolves hscope h.2⟩
  | .empty, _ => trivial

/-- Statements that are like some that keep the rules on names keep them. -/
theorem StatementsAlike.resolves {pairings : List Pairing} {scope scope' : Scope}
    {statements statements' : List Statement}
    (hscope : LevelsAlike pairings scope.levels scope'.levels) :
    StatementsAlike pairings statements statements' → StatementsResolve scope statements →
      StatementsResolve scope' statements'
  | .nil, _ => trivial
  | .cons hstatement hothers, h => ⟨hstatement.resolves hscope h.1, hothers.resolves hscope h.2⟩

end

/-- A block that is like one that keeps the rules on names keeps them. -/
theorem Block.Alike.wellScoped {pairings : List Pairing} {outer outer' : List Declared}
    {block block' : Block} {pairing : Pairing} (h : block.Alike (pairing :: pairings) block')
    (houter : LevelsAlike pairings outer outer') (hwellScoped : block.WellScoped outer) :
    block'.WellScoped outer' := by
  induction hwellScoped generalizing pairing pairings outer' block' with
  | @intro outer block _ hnames _ hstatement ih =>
      cases h with
      | intro hsymbols hprocedures halike =>
          have hlength : block'.procedures.length = block.procedures.length := by
            simpa using congrArg List.length hprocedures.names
          have hdeclared := houter.declared hsymbols hprocedures.names
          refine ⟨?_, ?_, fun index hlt => ?_, ?_⟩
          · rw [hsymbols.names']
            exact pairing.nodup'
          · rw [hprocedures.names]
            exact hnames
          · have hlt' : index < block.procedures.length := hlength ▸ hlt
            obtain ⟨inner, hbody⟩ := hprocedures.getElem index hlt' hlt
            exact ih index hlt' hbody (hdeclared (index + 1))
          · rw [hlength]
            exact halike.resolves (hdeclared block.procedures.length) hstatement

end Parlance.Pl0
