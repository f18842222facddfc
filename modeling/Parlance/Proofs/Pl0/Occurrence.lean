import Parlance.Proofs.Pl0.Derivation

/-!
# What occurs in a program

The expressions and conditions of a block are those of the statements inside its statement, and the
blocks of a program are those of the procedures that its blocks declare, each with the names that
are declared around it. What occurs in something that is derived is derived itself, from some of the
same tokens, and what occurs in a block that keeps the rules on names keeps them where it occurs.
-/

namespace Parlance.Pl0

/-! ## Occurrences -/

/-- An expression is, or stands inside, another one. -/
inductive Expr.Contains : Expr → Expr → Prop where
  | refl {whole} : Contains whole whole
  | negate {operand part} : Contains operand part → Contains (.negate operand) part
  | left {operator left right part} : Contains left part →
      Contains (.binary operator left right) part
  | right {operator left right part} : Contains right part →
      Contains (.binary operator left right) part

/-- The expressions that a condition tests. -/
def Condition.expressions : Condition → List Expr
  | odd operand => [operand]
  | relation _ left right => [left, right]

/-- The conditions of a statement, but for those of the statements inside it. -/
def Statement.conditions : Statement → List Condition
  | ifThen test _ => [test]
  | whileDo test _ => [test]
  | _ => []

/-- The expressions of a statement, but for those of the statements inside it. -/
def Statement.expressions : Statement → List Expr
  | assign _ value => [value]
  | write value => [value]
  | ifThen test _ => test.expressions
  | whileDo test _ => test.expressions
  | _ => []

/-- The condition occurs in the statement. -/
def Statement.HasCondition (statement : Statement) (test : Condition) : Prop :=
  ∃ part, statement.Contains part ∧ test ∈ part.conditions

/-- The expression occurs in the statement. -/
def Statement.HasExpr (statement : Statement) (value : Expr) : Prop :=
  ∃ part whole, statement.Contains part ∧ whole ∈ part.expressions ∧ whole.Contains value

/-- A block is another one, or stands inside it, and these levels are then around it if those are
around the other one. -/
inductive Block.Encloses : List Declared → Block → List Declared → Block → Prop where
  | refl {outer block} : Encloses outer block outer block
  | procedure {outer block levels inner} (index : Nat) (h : index < block.procedures.length) :
      Encloses (block.declared (index + 1) :: outer) block.procedures[index].2 levels inner →
      Encloses outer block levels inner

/-! ## The rules on names -/

section

variable {scope : Scope} {outer levels : List Declared} {block inner : Block}

/-- What stands inside an expression that keeps the rules on names keeps them. -/
theorem Expr.Contains.resolves {whole part : Expr} (h : whole.Contains part)
    (hresolves : whole.Resolves scope) : part.Resolves scope := by
  induction h with
  | refl => exact hresolves
  | negate _ ih => exact ih hresolves
  | left _ ih => exact ih hresolves.1
  | right _ ih => exact ih hresolves.2

/-- The expressions of a statement keep the rules on names if the statement does. -/
theorem Statement.Resolves.expressions {statement : Statement} (h : statement.Resolves scope) :
    ∀ value ∈ statement.expressions, value.Resolves scope := by
  have htest {test : Condition} (h : test.Resolves scope) :
      ∀ value ∈ test.expressions, value.Resolves scope := by
    cases test with
    | odd operand => exact List.forall_mem_singleton.2 h
    | relation operator left right => simpa [Condition.expressions, Condition.Resolves] using h
  cases statement with
  | assign name value => exact List.forall_mem_singleton.2 h.2
  | write value => exact List.forall_mem_singleton.2 h
  | ifThen test body => exact htest h.1
  | whileDo test body => exact htest h.1
  | _ => simp [Statement.expressions]

/-- The conditions of a statement keep the rules on names if the statement does. -/
theorem Statement.Resolves.conditions {statement : Statement} (h : statement.Resolves scope) :
    ∀ test ∈ statement.conditions, test.Resolves scope := by
  cases statement with
  | ifThen test body => exact List.forall_mem_singleton.2 h.1
  | whileDo test body => exact List.forall_mem_singleton.2 h.1
  | _ => simp [Statement.conditions]

/-- A block inside one that keeps the rules on names keeps them. -/
theorem Block.Encloses.wellScoped (h : Block.Encloses outer block levels inner)
    (hwellScoped : block.WellScoped outer) : inner.WellScoped levels := by
  induction h with
  | refl => exact hwellScoped
  | procedure index hlt _ ih =>
      obtain ⟨-, -, hbodies, -⟩ := hwellScoped
      exact ih (hbodies index hlt)

/-- What the statement of a block sees where these levels are around the block. -/
def Block.visible (levels : List Declared) (block : Block) : Scope :=
  ⟨block.declared block.procedures.length, levels⟩

/-- An expression that occurs in a block keeps the rules on names where it occurs. -/
theorem Block.Encloses.resolves_expr {value : Expr} (h : Block.Encloses outer block levels inner)
    (hwellScoped : block.WellScoped outer) (hvalue : inner.statement.HasExpr value) :
    value.Resolves (inner.visible levels) := by
  obtain ⟨-, -, -, hresolves⟩ := h.wellScoped hwellScoped
  obtain ⟨part, whole, hpart, hwhole, hvalue⟩ := hvalue
  exact hvalue.resolves ((hpart.resolves hresolves).expressions whole hwhole)

/-- A condition that occurs in a block keeps the rules on names where it occurs. -/
theorem Block.Encloses.resolves_condition {test : Condition}
    (h : Block.Encloses outer block levels inner) (hwellScoped : block.WellScoped outer)
    (htest : inner.statement.HasCondition test) : test.Resolves (inner.visible levels) := by
  obtain ⟨-, -, -, hresolves⟩ := h.wellScoped hwellScoped
  obtain ⟨part, hpart, htest⟩ := htest
  exact (hpart.resolves hresolves).conditions test htest

end

/-! ## Derivations -/

section

variable {first rest : Tokens} {value : Expr} {test : Condition} {statement : Statement}

/-- The expressions of a derived condition are derived. -/
theorem Condition.Derives.expressions (h : Condition.Derives first test rest) :
    ∀ value ∈ test.expressions, ∃ start after,
      Expr.Derives .expression start value after ∧ start <:+ first := by
  cases h with
  | odd _ hvalue =>
      rw [Condition.expressions, List.forall_mem_singleton]
      exact ⟨_, _, hvalue, List.suffix_cons _ _⟩
  | relation hleft _ hright =>
      rw [Condition.expressions, List.forall_mem_cons, List.forall_mem_singleton]
      refine ⟨⟨_, _, hleft, List.suffix_refl _⟩, ⟨_, _, hright, ?_⟩⟩
      exact (List.suffix_cons _ _).trans hleft.contextFree.suffix

/-- The conditions of a derived statement are derived. -/
theorem Statement.Derives.conditions (h : Statement.Derives first statement rest) :
    ∀ test ∈ statement.conditions, ∃ start after,
      Condition.Derives start test after ∧ start <:+ first := by
  cases h with
  | ifThen _ htest _ _ =>
      rw [Statement.conditions, List.forall_mem_singleton]
      exact ⟨_, _, htest, List.suffix_cons _ _⟩
  | whileDo _ htest _ _ =>
      rw [Statement.conditions, List.forall_mem_singleton]
      exact ⟨_, _, htest, List.suffix_cons _ _⟩
  | _ => exact fun _ hmem => nomatch hmem

/-- The expressions of a derived statement are derived. -/
theorem Statement.Derives.expressions (h : Statement.Derives first statement rest) :
    ∀ value ∈ statement.expressions, ∃ start after,
      Expr.Derives .expression start value after ∧ start <:+ first := by
  have htest {start after : Tokens} {test : Condition} (h : Condition.Derives start test after)
      (hsuffix : start <:+ first) : ∀ value ∈ test.expressions, ∃ start after,
        Expr.Derives .expression start value after ∧ start <:+ first := by
    intro value hmem
    obtain ⟨start, after, hvalue, hstart⟩ := h.expressions value hmem
    exact ⟨start, after, hvalue, hstart.trans hsuffix⟩
  cases h with
  | assign _ _ hvalue =>
      rw [Statement.expressions, List.forall_mem_singleton]
      exact ⟨_, _, hvalue, (List.suffix_cons _ _).trans (List.suffix_cons _ _)⟩
  | write _ hvalue =>
      rw [Statement.expressions, List.forall_mem_singleton]
      exact ⟨_, _, hvalue, List.suffix_cons _ _⟩
  | ifThen _ hcondition _ _ => exact htest hcondition (List.suffix_cons _ _)
  | whileDo _ hcondition _ _ => exact htest hcondition (List.suffix_cons _ _)
  | _ => exact fun _ hmem => nomatch hmem

/-- What stands inside a derived statement is derived. -/
theorem Statement.Contains.derives {whole part : Statement} (h : whole.Contains part)
    (hwhole : Statement.Derives first whole rest) :
    ∃ start after, Statement.Derives start part after ∧ start <:+ first := by
  induction h generalizing first rest with
  | refl => exact ⟨first, rest, hwhole, List.suffix_refl _⟩
  | @sequence statements inner part hmem _ ih =>
      cases hwhole with
      | @sequence opening tokens _ _ _ _ hstatements _ =>
          have hitems := hstatements.forall
            (motive := fun item => ∃ start after, Statement.Derives start item after ∧
              start <:+ tokens)
            fun start _ after hstart hitem =>
              ⟨hitem.contextFree.suffix, start, after, hitem, hstart⟩
          obtain ⟨start, after, hinner, hstart⟩ := hitems inner hmem
          obtain ⟨start', after', hpart, hsuffix⟩ := ih hinner
          exact ⟨start', after', hpart, hsuffix.trans (hstart.trans (List.suffix_cons _ _))⟩
  | ifThen _ ih =>
      cases hwhole with
      | @ifThen _ _ _ between second _ _ _ htest _ hbody =>
          obtain ⟨start, after, hpart, hsuffix⟩ := ih hbody
          have hsecond := (List.suffix_cons between second).trans htest.contextFree.suffix
          exact ⟨start, after, hpart, hsuffix.trans (hsecond.trans (List.suffix_cons _ _))⟩
  | whileDo _ ih =>
      cases hwhole with
      | @whileDo _ _ _ between second _ _ _ htest _ hbody =>
          obtain ⟨start, after, hpart, hsuffix⟩ := ih hbody
          have hsecond := (List.suffix_cons between second).trans htest.contextFree.suffix
          exact ⟨start, after, hpart, hsuffix.trans (hsecond.trans (List.suffix_cons _ _))⟩

/-- The bodies of derived procedures are derived. -/
theorem ProceduresDerive.bodies {first rest : Tokens} {procedures : List (String × Block)}
    (h : ProceduresDerive first procedures rest) : ∀ procedure ∈ procedures, ∃ start after,
      Block.Derives start procedure.2 after ∧ start <:+ first := by
  induction procedures generalizing first with
  | nil => exact fun _ hmem => nomatch hmem
  | cons procedure others ih =>
      cases h with
      | more _ hprocedure hothers =>
          have hrest := hprocedure.contextFree.suffix
          cases hprocedure with
          | intro _ _ hbody _ =>
              refine List.forall_mem_cons.2 ⟨⟨_, _, hbody, ?_⟩, fun other hmem => ?_⟩
              · exact (List.suffix_cons _ _).trans
                  ((List.suffix_cons _ _).trans (List.suffix_cons _ _))
              · obtain ⟨start, after, hother, hstart⟩ := ih hothers other hmem
                exact ⟨start, after, hother,
                  hstart.trans (hrest.trans (List.suffix_cons _ _))⟩

/-- What a derived block consists of is derived. -/
theorem Block.Derives.parts {block : Block} (h : Block.Derives first block rest) :
    (∃ start after, Statement.Derives start block.statement after ∧ start <:+ first) ∧
      ∀ procedure ∈ block.procedures, ∃ start after,
        Block.Derives start procedure.2 after ∧ start <:+ first := by
  cases h with
  | intro hconstants hnames hprocedures hstatement =>
      have hthird := hnames.names_suffix.trans hconstants.constants_suffix
      refine ⟨⟨_, _, hstatement, hprocedures.contextFree.suffix.trans hthird⟩, ?_⟩
      intro procedure hmem
      obtain ⟨start, after, hbody, hstart⟩ := hprocedures.bodies procedure hmem
      exact ⟨start, after, hbody, hstart.trans hthird⟩

/-- A block inside a derived one is derived. -/
theorem Block.Encloses.derives {outer levels : List Declared} {block inner : Block}
    (h : Block.Encloses outer block levels inner) (hblock : Block.Derives first block rest) :
    ∃ start after, Block.Derives start inner after ∧ start <:+ first := by
  induction h generalizing first rest with
  | refl => exact ⟨first, rest, hblock, List.suffix_refl _⟩
  | procedure index hlt _ ih =>
      obtain ⟨start, after, hbody, hstart⟩ := hblock.parts.2 _ (List.getElem_mem hlt)
      obtain ⟨start', after', hinner, hsuffix⟩ := ih hbody
      exact ⟨start', after', hinner, hsuffix.trans hstart⟩

/-- A condition that occurs in a derived block is derived. -/
theorem Block.Derives.hasCondition {block : Block} (h : Block.Derives first block rest)
    (htest : block.statement.HasCondition test) :
    ∃ start after, Condition.Derives start test after ∧ start <:+ first := by
  obtain ⟨part, hpart, htest⟩ := htest
  obtain ⟨start, after, hstatement, hstart⟩ := h.parts.1
  obtain ⟨start', after', hpart, hstart'⟩ := hpart.derives hstatement
  obtain ⟨start'', after'', htest, hstart''⟩ := hpart.conditions test htest
  exact ⟨start'', after'', htest, hstart''.trans (hstart'.trans hstart)⟩

/-- An expression that occurs in a derived block is, or stands inside, one that is derived. -/
theorem Block.Derives.hasExpr {block : Block} (h : Block.Derives first block rest)
    (hvalue : block.statement.HasExpr value) : ∃ whole start after, whole.Contains value ∧
      Expr.Derives .expression start whole after ∧ start <:+ first := by
  obtain ⟨part, whole, hpart, hwhole, hvalue⟩ := hvalue
  obtain ⟨start, after, hstatement, hstart⟩ := h.parts.1
  obtain ⟨start', after', hpart, hstart'⟩ := hpart.derives hstatement
  obtain ⟨start'', after'', hwhole, hstart''⟩ := hpart.expressions whole hwhole
  exact ⟨whole, start'', after'', hvalue, hwhole, hstart''.trans (hstart'.trans hstart)⟩

end

end Parlance.Pl0
