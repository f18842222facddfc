import Parlance.Proofs.Pl0.Derivation

/-!
# Operators of derived trees

What is derived has no operators but those of the grammar, and no expression of which nothing is
said. So evaluating it knows what to do.
-/

namespace Parlance.Pl0

/-- The operators of an expression are those of the grammar. -/
def Expr.Known : Expr → Prop
  | number _ => True
  | symbol _ => True
  | negate operand => operand.Known
  | binary operator left right => operator ∈ ["*", "/"] ++ ["+", "-"] ∧ left.Known ∧ right.Known
  | unspecified => False

/-- The operators of a condition are those of the grammar. -/
def Condition.Known : Condition → Prop
  | odd operand => operand.Known
  | relation operator left right => operator ∈ relations ∧ left.Known ∧ right.Known

mutual

/-- The operators of a statement are those of the grammar. -/
def Statement.Known : Statement → Prop
  | .assign _ value => value.Known
  | .call _ => True
  | .read _ => True
  | .write value => value.Known
  | .sequence statements => StatementsKnown statements
  | .ifThen test body => test.Known ∧ body.Known
  | .whileDo test body => test.Known ∧ body.Known
  | .empty => True

/-- The operators of the statements are those of the grammar. -/
def StatementsKnown : List Statement → Prop
  | [] => True
  | statement :: others => statement.Known ∧ StatementsKnown others

end

/-- The operators of a block are those of the grammar. -/
inductive Block.Known : Block → Prop where
  | intro {block} : block.statement.Known → (∀ procedure ∈ block.procedures, procedure.2.Known) →
      Known block

/-- The operators of all statements are those of the grammar if those of each are. -/
theorem statementsKnown_iff {statements : List Statement} :
    StatementsKnown statements ↔ ∀ statement ∈ statements, statement.Known := by
  induction statements with
  | nil => simp [StatementsKnown]
  | cons first others ih => simp [StatementsKnown, ih]

/-- What stands inside a statement with the operators of the grammar has no others. -/
theorem Statement.Contains.known {whole part : Statement} (h : whole.Contains part)
    (hknown : whole.Known) : part.Known := by
  induction h with
  | refl => exact hknown
  | sequence hmem _ ih => exact ih (statementsKnown_iff.1 hknown _ hmem)
  | ifThen _ ih => exact ih hknown.2
  | whileDo _ ih => exact ih hknown.2

/-- A derived expression has the operators of the grammar. -/
theorem Expr.Derives.known {level : Level} {value : Expr} {first rest : Tokens}
    (h : Expr.Derives level first value rest) : value.Known := by
  induction h with
  | number _ => trivial
  | name _ => trivial
  | group _ _ _ ih => exact ih
  | plus _ _ ih => exact ih
  | minus _ _ ih => exact ih
  | factor _ ih => exact ih
  | product _ hmem _ ih ih' => exact ⟨List.mem_append_left _ hmem, ih, ih'⟩
  | term _ ih => exact ih
  | sum _ hmem _ ih ih' => exact ⟨List.mem_append_right _ hmem, ih, ih'⟩

/-- A derived condition has the operators of the grammar. -/
theorem Condition.Derives.known {test : Condition} {first rest : Tokens}
    (h : Condition.Derives first test rest) : test.Known := by
  cases h with
  | odd _ hvalue => exact hvalue.known
  | relation hleft hmem hright => exact ⟨hmem, hleft.known, hright.known⟩

/-- A derived statement has the operators of the grammar. -/
theorem Statement.Derives.known {statement : Statement} {first rest : Tokens}
    (h : Statement.Derives first statement rest) : statement.Known := by
  induction h using Statement.Derives.induct with
  | assign _ _ hvalue => exact hvalue.known
  | call _ _ => trivial
  | read _ _ => trivial
  | write _ hvalue => exact hvalue.known
  | sequence _ _ _ ih =>
      refine statementsKnown_iff.2 (ih.forall ?_)
      exact fun _ _ _ _ ⟨hvalue, hknown⟩ => ⟨hvalue.contextFree.suffix, hknown⟩
  | ifThen _ htest _ _ ih => exact ⟨htest.known, ih⟩
  | whileDo _ htest _ _ ih => exact ⟨htest.known, ih⟩
  | empty => trivial

mutual

/-- A derived block has the operators of the grammar. -/
theorem Block.Derives.known {first rest : Tokens} {body : Block} :
    Block.Derives first body rest → body.Known
  | .intro _ _ hprocedures hstatement => .intro hstatement.known hprocedures.known

/-- A derived procedure has the operators of the grammar. -/
theorem ProcedureDerives.known {first rest : Tokens} {procedure : String × Block} :
    ProcedureDerives first procedure rest → procedure.2.Known
  | .intro _ _ hbody _ => hbody.known

/-- Derived procedures have the operators of the grammar. -/
theorem ProceduresDerive.known {first rest : Tokens} {procedures : List (String × Block)} :
    ProceduresDerive first procedures rest → ∀ procedure ∈ procedures, procedure.2.Known
  | .none => fun _ hmem => (nomatch hmem)
  | .more _ hprocedure hothers => List.forall_mem_cons.2 ⟨hprocedure.known, hothers.known⟩

end

end Parlance.Pl0
