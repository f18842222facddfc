import Mathlib.Data.List.Nodup
import Parlance.Proofs.Pl0.Alpha.Derivations
import Parlance.Proofs.Pl0.Alpha.Runs
import Parlance.Proofs.Pl0.Occurrence

/-!
# Renaming a constant or a variable

A declaration is given by its name and by the procedures around its block. It is renamed together
with the uses for which the scope of the parser finds it, and no others: a use of the same name
inside a block that hides the declaration stays as it is. If the new name is not in the program, a
use is found at the same declaration as before, so the renamed program runs as the other one does.
-/

namespace Parlance.Pl0

variable {σ : Type} {pairings : List Pairing} {scope : Scope} {block : Block}
  {outer : List Declared}

/-! ## Renamed trees -/

/-- What is to be renamed: the constant or variable of this name that a block declares, and the new
name. The block is given by the names of the procedures around it, innermost first. -/
structure Renaming where
  site : List String
  name : String
  fresh : String
  deriving DecidableEq, Repr

namespace Renaming

/-- The name under which a block declares what had this name. -/
def declared (plan : Renaming) (path : List String) (name : String) : String :=
  if path = plan.site ∧ name = plan.name then plan.fresh else name

/-- What is written for a use of a name. The declaration that the use means is found as the scope
finds it, in the innermost of these levels that has one; the path is that of the block of the first
level, and the block of the next one is the one around it. -/
def used (plan : Renaming) : List String → List Declared → String → String
  | path, level :: levels, name =>
    if (level.symbols.lookup name).isSome then plan.declared path name
    else plan.used path.tail levels name
  | _, [], name => name

end Renaming

/-- The expression with other names for constants and variables. -/
def Expr.mapSymbols (change : String → String) : Expr → Expr
  | number value => number value
  | symbol name => symbol (change name)
  | negate operand => negate (operand.mapSymbols change)
  | binary operator left right =>
    binary operator (left.mapSymbols change) (right.mapSymbols change)
  | unspecified => unspecified

/-- The condition with other names for constants and variables. -/
def Condition.mapSymbols (change : String → String) : Condition → Condition
  | odd operand => odd (operand.mapSymbols change)
  | relation operator left right =>
    relation operator (left.mapSymbols change) (right.mapSymbols change)

mutual

/-- The statement with other names for constants and variables. Procedures keep theirs. -/
def Statement.mapSymbols (change : String → String) : Statement → Statement
  | .assign name value => .assign (change name) (value.mapSymbols change)
  | .call name => .call name
  | .read name => .read (change name)
  | .write value => .write (value.mapSymbols change)
  | .sequence statements => .sequence (statementsMapSymbols change statements)
  | .ifThen test body => .ifThen (test.mapSymbols change) (body.mapSymbols change)
  | .whileDo test body => .whileDo (test.mapSymbols change) (body.mapSymbols change)
  | .empty => .empty

/-- The statements with other names for constants and variables. -/
def statementsMapSymbols (change : String → String) : List Statement → List Statement
  | [] => []
  | statement :: others => statement.mapSymbols change :: statementsMapSymbols change others

end

mutual

/-- The block with the declaration renamed, where the block has this path and these levels are
around it. -/
def Block.rename (plan : Renaming) (path : List String) (outer : List Declared) : Block → Block
  | ⟨constants, names, procedures, statement⟩ =>
    let block : Block := ⟨constants, names, procedures, statement⟩
    ⟨constants.map fun constant => (plan.declared path constant.1, constant.2),
      names.map (plan.declared path),
      renameProcedures plan path (fun name => block.declaredFor name :: outer) procedures,
      statement.mapSymbols (plan.used path (block.visible outer).levels)⟩

/-- The procedures of a block with this path with the declaration renamed, where these levels are
around the bodies. -/
def renameProcedures (plan : Renaming) (path : List String) (around : String → List Declared) :
    List (String × Block) → List (String × Block)
  | [] => []
  | (name, body) :: others =>
    (name, body.rename plan (name :: path) (around name)) ::
      renameProcedures plan path around others

end

/-- The program with the declaration renamed. -/
def Program.rename (plan : Renaming) (program : Program) : Program :=
  ⟨program.block.rename plan [] []⟩

/-- The renamed procedures are those of the block, each renamed. -/
theorem renameProcedures_eq (plan : Renaming) (path : List String)
    (around : String → List Declared) (procedures : List (String × Block)) :
    renameProcedures plan path around procedures = procedures.map fun procedure =>
      (procedure.1, procedure.2.rename plan (procedure.1 :: path) (around procedure.1)) := by
  induction procedures with
  | nil => rfl
  | cons procedure others ih => rw [renameProcedures, ih, List.map_cons]

/-- A renamed block has the parts of the block, each renamed. -/
theorem Block.rename_eq (plan : Renaming) (path : List String) (outer : List Declared)
    (block : Block) : block.rename plan path outer =
      ⟨block.constants.map fun constant => (plan.declared path constant.1, constant.2),
        block.variableNames.map (plan.declared path),
        block.procedures.map fun procedure => (procedure.1,
          procedure.2.rename plan (procedure.1 :: path) (block.declaredFor procedure.1 :: outer)),
        block.statement.mapSymbols (plan.used path (block.visible outer).levels)⟩ := by
  obtain ⟨constants, names, procedures, statement⟩ := block
  rw [rename, renameProcedures_eq]

/-! ## Names of renamed trees -/

section

variable {change : String → String} {holds : String → Prop}

/-- The names of the expression are the other ones. -/
theorem Expr.mapSymbols_identifiers (value : Expr) :
    (value.mapSymbols change).identifiers = value.identifiers.map change := by
  induction value with
  | number _ => rfl
  | symbol _ => rfl
  | negate _ ih => exact ih
  | binary _ _ _ ih ih' =>
      rw [Expr.mapSymbols, Expr.identifiers, ih, ih', Expr.identifiers, List.map_append]
  | unspecified => rfl

/-- The names of the condition are the other ones. -/
theorem Condition.mapSymbols_identifiers (test : Condition) :
    (test.mapSymbols change).identifiers = test.identifiers.map change := by
  cases test with
  | odd operand => exact operand.mapSymbols_identifiers
  | relation operator left right =>
      rw [Condition.mapSymbols, Condition.identifiers, left.mapSymbols_identifiers,
        right.mapSymbols_identifiers, Condition.identifiers, List.map_append]

mutual

/-- What holds of the names of a statement holds of the names after a change that keeps it. -/
theorem Statement.forall_mapSymbols (hchange : ∀ name, holds name → holds (change name)) :
    ∀ statement : Statement, (∀ name ∈ statement.identifiers, holds name) →
      ∀ name ∈ (statement.mapSymbols change).identifiers, holds name
  | .assign name value, h => by
      rw [Statement.identifiers, List.forall_mem_cons] at h
      rw [Statement.mapSymbols, Statement.identifiers, List.forall_mem_cons,
        value.mapSymbols_identifiers, List.forall_mem_map]
      exact ⟨hchange name h.1, fun other hmem => hchange other (h.2 other hmem)⟩
  | .call name, h => h
  | .read name, h => by
      rw [Statement.identifiers, List.forall_mem_singleton] at h
      exact List.forall_mem_singleton.2 (hchange name h)
  | .write value, h => by
      rw [Statement.mapSymbols, Statement.identifiers, value.mapSymbols_identifiers,
        List.forall_mem_map]
      exact fun other hmem => hchange other (h other hmem)
  | .sequence statements, h => statements_forall_mapSymbols hchange statements h
  | .ifThen test body, h => by
      rw [Statement.identifiers, List.forall_mem_append] at h
      rw [Statement.mapSymbols, Statement.identifiers, List.forall_mem_append,
        test.mapSymbols_identifiers, List.forall_mem_map]
      exact ⟨fun other hmem => hchange other (h.1 other hmem),
        body.forall_mapSymbols hchange h.2⟩
  | .whileDo test body, h => by
      rw [Statement.identifiers, List.forall_mem_append] at h
      rw [Statement.mapSymbols, Statement.identifiers, List.forall_mem_append,
        test.mapSymbols_identifiers, List.forall_mem_map]
      exact ⟨fun other hmem => hchange other (h.1 other hmem),
        body.forall_mapSymbols hchange h.2⟩
  | .empty, h => h

/-- What holds of the names of statements holds of the names after a change that keeps it. -/
theorem statements_forall_mapSymbols (hchange : ∀ name, holds name → holds (change name)) :
    ∀ statements : List Statement, (∀ name ∈ statementIdentifiers statements, holds name) →
      ∀ name ∈ statementIdentifiers (statementsMapSymbols change statements), holds name
  | [], h => h
  | statement :: others, h => by
      rw [statementIdentifiers, List.forall_mem_append] at h
      rw [statementsMapSymbols, statementIdentifiers, List.forall_mem_append]
      exact ⟨statement.forall_mapSymbols hchange h.1,
        statements_forall_mapSymbols hchange others h.2⟩

end

/-- What holds of a name and of the new one holds of the name of the declaration. -/
theorem Renaming.declared_holds {plan : Renaming} (hfresh : holds plan.fresh) (path : List String)
    {name : String} (hname : holds name) : holds (plan.declared path name) := by
  rw [Renaming.declared]
  split
  · exact hfresh
  · exact hname

/-- What holds of a name and of the new one holds of what is written for a use. -/
theorem Renaming.used_holds {plan : Renaming} (hfresh : holds plan.fresh) (path : List String)
    (levels : List Declared) {name : String} (hname : holds name) :
    holds (plan.used path levels name) := by
  induction levels generalizing path with
  | nil => exact hname
  | cons level levels ih =>
      rw [Renaming.used]
      split
      · exact Renaming.declared_holds hfresh path hname
      · exact ih path.tail

mutual

/-- What holds of the names of a block and of the new one holds of the names of the renamed
block. -/
theorem Block.forall_rename {plan : Renaming} (hfresh : holds plan.fresh) (path : List String)
    (outer : List Declared) : ∀ block : Block, (∀ name ∈ block.identifiers, holds name) →
      ∀ name ∈ (block.rename plan path outer).identifiers, holds name
  | ⟨constants, names, procedures, statement⟩, h => by
      simp only [Block.identifiers, List.forall_mem_append, List.forall_mem_map] at h
      obtain ⟨hconstants, hnames, hprocedures, hstatement⟩ := h
      simp only [Block.rename, Block.identifiers, List.forall_mem_append, List.forall_mem_map]
      have hused (levels : List Declared) (name : String) (hname : holds name) :
          holds (plan.used path levels name) := plan.used_holds hfresh path levels hname
      exact ⟨fun constant hmem => plan.declared_holds hfresh path (hconstants constant hmem),
        fun name hmem => plan.declared_holds hfresh path (hnames name hmem),
        procedures_forall_rename hfresh path _ procedures hprocedures,
        statement.forall_mapSymbols (hused _) hstatement⟩

/-- What holds of the names in the declarations of procedures and of the new one holds of those in
the renamed declarations. -/
theorem procedures_forall_rename {plan : Renaming} (hfresh : holds plan.fresh) (path : List String)
    (around : String → List Declared) : ∀ procedures : List (String × Block),
      (∀ name ∈ procedureIdentifiers procedures, holds name) →
      ∀ name ∈ procedureIdentifiers (renameProcedures plan path around procedures), holds name
  | [], h => h
  | (name, body) :: others, h => by
      rw [procedureIdentifiers, List.forall_mem_cons, List.forall_mem_append] at h
      rw [renameProcedures, procedureIdentifiers, List.forall_mem_cons, List.forall_mem_append]
      exact ⟨h.1, body.forall_rename hfresh _ _ h.2.1,
        procedures_forall_rename hfresh path around others h.2.2⟩

end

end

/-! ## Renamed declarations and their uses -/

section

variable {change : String → String}

/-- An expression is like that with other names, if what is declared corresponds to its other name.
-/
theorem Expr.alike_mapSymbols
    (hchange : ∀ name, (scope.symbol? name).isSome → Corresponds pairings name (change name))
    {value : Expr} (h : value.Resolves scope) : value.Alike pairings (value.mapSymbols change) := by
  induction value with
  | number _ => exact .number
  | symbol name => exact .symbol (hchange name h)
  | negate _ ih => exact .negate (ih h)
  | binary _ _ _ ih ih' => exact .binary (ih h.1) (ih' h.2)
  | unspecified => exact h.elim

/-- A condition is like that with other names, if what is declared corresponds to its other name. -/
theorem Condition.alike_mapSymbols
    (hchange : ∀ name, (scope.symbol? name).isSome → Corresponds pairings name (change name))
    {test : Condition} (h : test.Resolves scope) :
    test.Alike pairings (test.mapSymbols change) := by
  cases test with
  | odd _ => exact .odd (Expr.alike_mapSymbols hchange h)
  | relation _ _ _ =>
      exact .relation (Expr.alike_mapSymbols hchange h.1) (Expr.alike_mapSymbols hchange h.2)

mutual

/-- A statement is like that with other names, if what is declared corresponds to its other name. -/
theorem Statement.alike_mapSymbols
    (hchange : ∀ name, (scope.symbol? name).isSome → Corresponds pairings name (change name)) :
    ∀ statement : Statement, statement.Resolves scope →
      statement.Alike pairings (statement.mapSymbols change)
  | .assign name _, h =>
      .assign (hchange name (by rw [h.1]; rfl)) (Expr.alike_mapSymbols hchange h.2)
  | .call _, _ => .call
  | .read name, h => .read (hchange name (by rw [show scope.symbol? name = some none from h]; rfl))
  | .write _, h => .write (Expr.alike_mapSymbols hchange h)
  | .sequence statements, h => .sequence (statements_alike_mapSymbols hchange statements h)
  | .ifThen _ body, h =>
      .ifThen (Condition.alike_mapSymbols hchange h.1) (body.alike_mapSymbols hchange h.2)
  | .whileDo _ body, h =>
      .whileDo (Condition.alike_mapSymbols hchange h.1) (body.alike_mapSymbols hchange h.2)
  | .empty, _ => .empty

/-- Statements are like those with other names, if what is declared corresponds to its other
name. -/
theorem statements_alike_mapSymbols
    (hchange : ∀ name, (scope.symbol? name).isSome → Corresponds pairings name (change name)) :
    ∀ statements : List Statement, StatementsResolve scope statements →
      StatementsAlike pairings statements (statementsMapSymbols change statements)
  | [], _ => .nil
  | statement :: others, h =>
      .cons (statement.alike_mapSymbols hchange h.1)
        (statements_alike_mapSymbols hchange others h.2)

end

end

namespace Renaming

/-- The pairing is that of the names which a block with this path declares with those under which
the renamed block does, and none of them is the new name. -/
structure Renames (plan : Renaming) (path : List String) (level : Declared) (pairing : Pairing) :
    Prop where
  pairs : pairing.pairs = level.symbols.map fun entry => (entry.1, plan.declared path entry.1)
  fresh : plan.fresh ∉ level.symbols.map Prod.fst

/-- The pairings are those of the blocks around one with this path. -/
inductive Around (plan : Renaming) : List String → List Declared → List Pairing → Prop where
  | nil : Around plan [] [] []
  | cons {name path level levels pairing pairings} : plan.Renames path level pairing →
      Around plan path levels pairings →
      Around plan (name :: path) (level :: levels) (pairing :: pairings)

variable {plan : Renaming} {path : List String} {level : Declared} {levels : List Declared}
  {pairing : Pairing} {name other : String}

/-- A name of a declaration is the one that it had, or the new one if the block is that of the
renamed declaration. -/
theorem declared_eq (plan : Renaming) (path : List String) (name : String) :
    plan.declared path name = name ∨ plan.declared path name = plan.fresh ∧ path = plan.site := by
  rw [declared]
  split
  · rename_i h
    exact .inr ⟨rfl, h.1⟩
  · exact .inl rfl

/-- For a use is written what its name becomes in the block of the declaration that it means. -/
theorem used_of_found {inner outer : List Declared} (hfound : (level.symbols.lookup name).isSome)
    (hinner : ∀ other ∈ inner, other.symbols.lookup name = none) :
    plan.used path (inner ++ level :: outer) name =
      plan.declared (path.drop inner.length) name := by
  induction inner generalizing path with
  | nil => exact if_pos hfound
  | cons first inner ih =>
      rw [List.forall_mem_cons] at hinner
      rw [List.cons_append, used, if_neg (by simp [hinner.1]), ih hinner.2, List.drop_tail,
        List.length_cons]

/-- For a name that is not declared the name itself is written. -/
theorem used_of_not_found (hnone : ∀ level ∈ levels, level.symbols.lookup name = none) :
    plan.used path levels name = name := by
  induction levels generalizing path with
  | nil => rfl
  | cons level levels ih =>
      rw [List.forall_mem_cons] at hnone
      rw [used, if_neg (by simp [hnone.1]), ih hnone.2]

/-- A name of a use is the one that it had, or the new one if the block of the renamed declaration
is one of those around the use. -/
theorem used_eq (plan : Renaming) (path : List String) (levels : List Declared) (name : String) :
    plan.used path levels name = name ∨
      plan.used path levels name = plan.fresh ∧ plan.site.length ≤ path.length := by
  cases hfound : levels.findSome? fun level => level.symbols.lookup name with
  | none => exact .inl (used_of_not_found (List.findSome?_eq_none_iff.1 hfound))
  | some entry =>
      obtain ⟨inner, level, outer, rfl, hlevel, hinner⟩ := List.findSome?_eq_some_iff.1 hfound
      rw [used_of_found (Option.isSome_of_eq_some hlevel) hinner]
      obtain heq | ⟨heq, hpath⟩ := plan.declared_eq (path.drop inner.length) name
      · exact .inl heq
      · rw [← hpath, List.length_drop]
        exact .inr ⟨heq, Nat.sub_le _ _⟩

/-- Names other than the new one stay different. -/
theorem declared_inj (hname : name ≠ plan.fresh) (hother : other ≠ plan.fresh)
    (h : plan.declared path name = plan.declared path other) : name = other := by
  rw [declared, declared] at h
  split at h
  · rename_i hrenamed
    split at h
    · rename_i hrenamed'
      exact hrenamed.2.trans hrenamed'.2.symm
    · exact (hother h.symm).elim
  · split at h
    · exact (hname h).elim
    · exact h

/-- A block without a repetition, and without the new name, has such a pairing. -/
theorem exists_renames (path : List String) (level : Declared)
    (hnodup : (level.symbols.map Prod.fst).Nodup)
    (hfresh : plan.fresh ∉ level.symbols.map Prod.fst) :
    ∃ pairing, plan.Renames path level pairing := by
  refine ⟨⟨level.symbols.map fun entry => (entry.1, plan.declared path entry.1), ?_, ?_⟩, rfl,
    hfresh⟩
  · rwa [List.map_map]
  · have hne {name : String} (hmem : name ∈ level.symbols.map Prod.fst) : name ≠ plan.fresh :=
      fun heq => hfresh (heq ▸ hmem)
    have hrenamed := List.Nodup.map_on (f := plan.declared path)
      (fun first hfirst second hsecond => declared_inj (hne hfirst) (hne hsecond)) hnodup
    rw [List.map_map] at hrenamed ⊢
    exact hrenamed

/-- What a block declares corresponds to the name under which the renamed block does. -/
theorem Renames.here (h : plan.Renames path level pairing)
    (hname : (level.symbols.lookup name).isSome) :
    Corresponds (pairing :: pairings) name (plan.declared path name) := by
  refine .here ?_
  rw [Ledger.lookup_isSome_iff_mem] at hname
  obtain ⟨entry, hmem, rfl⟩ := List.mem_map.1 hname
  rw [h.pairs]
  exact List.mem_map_of_mem hmem

/-- What the blocks around a place declare does not have the new name. -/
theorem Around.ne_fresh (h : plan.Around path levels pairings)
    (hname : (levels.findSome? fun level => level.symbols.lookup name).isSome) :
    name ≠ plan.fresh := by
  induction h with
  | nil => cases hname
  | @cons _ _ level _ _ _ hlevel _ ih =>
      rw [List.findSome?_cons] at hname
      cases hown : level.symbols.lookup name with
      | none =>
          rw [hown] at hname
          exact ih hname
      | some entry =>
          have hmem := Ledger.lookup_isSome_iff_mem.1 (Option.isSome_of_eq_some hown)
          exact fun heq => hlevel.fresh (heq ▸ hmem)

/-- A name that is not declared in a block is not written there for a use, either. -/
theorem Renames.not_captured (h : plan.Renames path level pairing)
    (hown : ¬ (level.symbols.lookup name).isSome) (hfresh : name ≠ plan.fresh)
    (outer : List String) (hlength : outer.length < path.length) (levels : List Declared) :
    name ∉ pairing.pairs.map Prod.fst ∧
      plan.used outer levels name ∉ pairing.pairs.map Prod.snd := by
  rw [Ledger.lookup_isSome_iff_mem] at hown
  rw [h.pairs, List.map_map, List.map_map]
  refine ⟨hown, fun hmem => ?_⟩
  -- What is written for the use would have to be what some entry of this block has become. Either
  -- may be kept or be the new name; both are new only if this block and one further out are both
  -- that of the renamed declaration, and their paths differ in length.
  obtain ⟨entry, hentry, hsame⟩ := List.mem_map.1 hmem
  have hdeclared : plan.declared path entry.1 = plan.used outer levels name := hsame
  have hentry := List.mem_map_of_mem (f := Prod.fst) hentry
  obtain heq | ⟨heq, hle⟩ := plan.used_eq outer levels name
  · obtain hkept | ⟨hnew, -⟩ := plan.declared_eq path entry.1
    · exact hown ((hkept.symm.trans (hdeclared.trans heq)) ▸ hentry)
    · exact hfresh (heq.symm.trans (hdeclared.symm.trans hnew))
  · obtain hkept | ⟨-, hpath⟩ := plan.declared_eq path entry.1
    · exact h.fresh ((hkept.symm.trans (hdeclared.trans heq)) ▸ hentry)
    · rw [hpath] at hlength
      omega

/-- What a use means corresponds to the name that is written for it. -/
theorem Around.corresponds (hlevel : plan.Renames path level pairing)
    (h : plan.Around path levels pairings)
    (hname : ((level :: levels).findSome? fun level => level.symbols.lookup name).isSome) :
    Corresponds (pairing :: pairings) name (plan.used path (level :: levels) name) := by
  induction h generalizing level pairing with
  | nil =>
      rw [used]
      split
      · rename_i hown
        exact hlevel.here hown
      · rename_i hown
        rw [List.findSome?_cons, Option.not_isSome_iff_eq_none.1 hown] at hname
        cases hname
  | @cons procedure path next levels pairing' pairings hnext hrest ih =>
      rw [used]
      split
      · rename_i hown
        exact hlevel.here hown
      · rename_i hown
        rw [List.findSome?_cons, Option.not_isSome_iff_eq_none.1 hown] at hname
        have haround : plan.Around (procedure :: path) (next :: levels) (pairing' :: pairings) :=
          .cons hnext hrest
        -- The declaration is further out, and this block must not capture the name of the use.
        obtain ⟨hnot, hnot'⟩ := hlevel.not_captured hown (haround.ne_fresh hname) path
          (Nat.lt_succ_self _) (next :: levels)
        exact .there hnot hnot' (ih hnext hname)

end Renaming

/-! ## Renamed blocks -/

/-- A ledger is paired with what it becomes under other names. -/
theorem paired_map {α : Type} (ledger : List (String × α)) (change : String → String) :
    Paired (ledger.map fun entry => (entry.1, change entry.1)) ledger
      (ledger.map fun entry => (change entry.1, entry.2)) := by
  induction ledger with
  | nil => exact .nil
  | cons entry ledger ih => exact ih.cons

/-- What a procedure's body sees of its block is what the block has declared when it comes to it. -/
theorem Block.declaredFor_getElem (hnodup : (block.procedures.map Prod.fst).Nodup) {index : Nat}
    (hlt : index < block.procedures.length) :
    block.declaredFor block.procedures[index].1 = block.declared (index + 1) := by
  have hlength : index < (block.procedures.map Prod.fst).length := by rwa [List.length_map]
  have hindex := hnodup.idxOf_getElem index hlength
  rw [List.getElem_map] at hindex
  rw [declaredFor, hindex]

/-- Procedures are like those with other bodies, if each body is like the other one. -/
theorem proceduresAlike_map {procedures : List (String × Block)} {change : String × Block → Block}
    (h : ∀ procedure ∈ procedures, ∃ pairing,
      procedure.2.Alike (pairing :: pairings) (change procedure)) :
    ProceduresAlike pairings procedures
      (procedures.map fun procedure => (procedure.1, change procedure)) := by
  induction procedures with
  | nil => exact .nil
  | cons procedure others ih =>
      rw [List.forall_mem_cons] at h
      obtain ⟨pairing, hbody⟩ := h.1
      exact .cons hbody (ih h.2)

/-- A block that keeps the rules on names is like the renamed one, if the new name is none of its
own. -/
theorem Block.rename_alike {plan : Renaming} {path : List String} (h : block.WellScoped outer)
    (hfresh : plan.fresh ∉ block.identifiers) (haround : plan.Around path outer pairings) :
    ∃ pairing, block.Alike (pairing :: pairings) (block.rename plan path outer) := by
  induction h generalizing path pairings with
  | @intro outer block hsymbols hnames _ hstatement ih =>
      obtain ⟨pairing, hlevel⟩ := Renaming.exists_renames path (block.declared 0) hsymbols
        fun hmem => hfresh (symbols_identifiers hmem)
      have hlevels (count : Nat) : plan.Renames path (block.declared count) pairing :=
        ⟨hlevel.pairs, hlevel.fresh⟩
      rw [rename_eq]
      refine ⟨pairing, .intro ?_ (proceduresAlike_map fun procedure hmem => ?_) ?_⟩
      · have hpaired := paired_map block.symbols (plan.declared path)
        rw [hlevel.pairs]
        simpa [symbols, declared, Function.comp_def] using hpaired
      · obtain ⟨index, hlt, rfl⟩ := List.mem_iff_getElem.1 hmem
        rw [declaredFor_getElem hnames hlt]
        exact ih index hlt (fun hbody => hfresh (body_identifiers hmem hbody))
          (.cons (hlevels (index + 1)) haround)
      · have huses (name : String) (hname : ((block.visible outer).symbol? name).isSome) :
            Corresponds (pairing :: pairings) name
              (plan.used path (block.visible outer).levels name) :=
          haround.corresponds (hlevels block.procedures.length) hname
        exact block.statement.alike_mapSymbols huses hstatement

/-! ## Renamed programs -/

/-- The text of a program with the declaration renamed: each name is replaced, where it stands, by
the one that the renamed program has in its place. -/
def Program.renamedText (plan : Renaming) (program : Program) (text : String) : String :=
  respellText (program.rename plan).block.identifiers text

/-- A constant or a variable can be renamed together with its uses, if the new name is one token and
stands nowhere in the program. The renamed text has the same tokens but for the names, it is parsed
to the renamed program, and with every host, from each of its states and with any fuel, that comes
to the same end in the same state of the host. -/
theorem rename_run_eq {text : String} {program : Program} (plan : Renaming)
    (h : parseProgram text = .ok program) (hname : IsName plan.fresh)
    (hfresh : (.identifier, plan.fresh) ∉ split text) :
    split (program.renamedText plan text) =
        respell (program.rename plan).block.identifiers (split text) ∧
      parseProgram (program.renamedText plan text) = .ok (program.rename plan) ∧
      ∀ (σ : Type) (host : Host σ) (fuel : Nat) (state : σ),
        (program.rename plan).run host fuel state = program.run host fuel state := by
  have hsplit {name : String} (hmem : name ∈ program.block.identifiers) :
      (.identifier, name) ∈ split text := by
    rw [identifiers_tokenize h] at hmem
    obtain ⟨token, htoken, rfl⟩ := List.mem_map.1 hmem
    obtain ⟨htoken, hkind⟩ := List.mem_filter.1 htoken
    exact List.mem_map.2 ⟨token, htoken, by rw [of_decide_eq_true hkind]⟩
  have hnames : ∀ name ∈ (program.rename plan).block.identifiers, IsName name :=
    program.block.forall_rename hname [] [] fun name hmem =>
      (isLexeme_of_mem_split (hsplit hmem) (by decide) (by decide)).split
  obtain ⟨final, hfinal⟩ := parseProgram_ok_iff_program.1 h
  obtain ⟨hparsed, opening, sentence, closing, -, -, htokens, -⟩ := program_gives hfinal
  have haround : plan.Around [] [] [] := .nil
  obtain ⟨pairing, halike⟩ := Block.rename_alike hparsed.wellScoped
    (fun hmem => hfresh (hsplit hmem)) haround
  exact ⟨(tokenize_respellText (by rw [htokens]) hnames).1,
    parseProgram_respellText h halike hnames,
    fun _ host fuel state => halike.run_eq host fuel state⟩

/-- A text whose procedure calls itself, and hides a constant by a variable of the same name. -/
def hiddenText : String :=
  "CONST n=2; PROCEDURE p; VAR n; BEGIN ?n; IF n>0 THEN CALL p; !n END; BEGIN CALL p; !n END."

/-- Where a constant is hidden, renaming it leaves the uses of the variable that hides it alone. -/
theorem rename_run_eq_hidden : ∃ program, parseProgram hiddenText = .ok program ∧
    program.renamedText ⟨[], "n", "m"⟩ hiddenText =
      "CONST m=2; PROCEDURE p; VAR n; BEGIN ?n; IF n>0 THEN CALL p; !n END; BEGIN CALL p; !m END." ∧
    parseProgram (program.renamedText ⟨[], "n", "m"⟩ hiddenText) =
      .ok (program.rename ⟨[], "n", "m"⟩) ∧
    ∀ (σ : Type) (host : Host σ) (fuel : Nat) (state : σ),
      (program.rename ⟨[], "n", "m"⟩).run host fuel state = program.run host fuel state := by
  have hrenamed : (parseProgram hiddenText).toOption.map
      (fun program => program.renamedText ⟨[], "n", "m"⟩ hiddenText) = some
      "CONST m=2; PROCEDURE p; VAR n; BEGIN ?n; IF n>0 THEN CALL p; !n END; BEGIN CALL p; !m END." := by
    decide +kernel
  obtain ⟨program, hprogram, htext⟩ := Option.map_eq_some_iff.1 hrenamed
  have hparse := toOption_eq_some_iff.1 hprogram
  have hname : IsName "m" := by
    unfold IsName
    decide +kernel
  have hfresh : (.identifier, "m") ∉ split hiddenText := by decide +kernel
  obtain ⟨-, hparsed, hrun⟩ := rename_run_eq ⟨[], "n", "m"⟩ hparse hname hfresh
  exact ⟨program, hparse, htext, hparsed, hrun⟩

end Parlance.Pl0
