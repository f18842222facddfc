import Parlance.Pl0.Scope
import Parlance.Pl0.Syntax

/-!
# The rules on names

What it means that every name of a tree is declared where it has to be. A block makes its constants
and variables known everywhere inside itself, and each of its procedures from the beginning of that
procedure's own body on. Names are looked for in the block itself first, and then outwards.
-/

namespace Parlance.Pl0

/-- The names in an expression stand for constants or variables. -/
def Expr.Resolves (scope : Scope) : Expr → Prop
  | number _ => True
  | symbol name => (scope.symbol? name).isSome
  | negate operand => operand.Resolves scope
  | binary _ left right => left.Resolves scope ∧ right.Resolves scope
  | unspecified => False

/-- The names in a condition stand for constants or variables. -/
def Condition.Resolves (scope : Scope) : Condition → Prop
  | odd operand => operand.Resolves scope
  | relation _ left right => left.Resolves scope ∧ right.Resolves scope

mutual

/-- What the statement changes are variables, what it calls are procedures, and the names in its
expressions stand for constants or variables. -/
def Statement.Resolves (scope : Scope) : Statement → Prop
  | .assign name value => scope.symbol? name = some none ∧ value.Resolves scope
  | .call name => scope.hasProcedure name
  | .read name => scope.symbol? name = some none
  | .write value => value.Resolves scope
  | .sequence statements => StatementsResolve scope statements
  | .ifThen test body => test.Resolves scope ∧ body.Resolves scope
  | .whileDo test body => test.Resolves scope ∧ body.Resolves scope
  | .empty => True

/-- Each of the statements keeps the rules on names. -/
def StatementsResolve (scope : Scope) : List Statement → Prop
  | [] => True
  | statement :: others => statement.Resolves scope ∧ StatementsResolve scope others

end

/-- A statement is, or stands inside, another one. -/
inductive Statement.Contains : Statement → Statement → Prop where
  | refl {whole} : Contains whole whole
  | sequence {statements inner part} : inner ∈ statements → Contains inner part →
      Contains (.sequence statements) part
  | ifThen {test body part} : Contains body part → Contains (.ifThen test body) part
  | whileDo {test body part} : Contains body part → Contains (.whileDo test body) part

/-- What stands inside a part of a statement stands inside the statement. -/
theorem Statement.Contains.trans {whole part inner : Statement} (h : whole.Contains part)
    (hinner : part.Contains inner) : whole.Contains inner := by
  induction h with
  | refl => exact hinner
  | sequence hmem _ ih => exact .sequence hmem (ih hinner)
  | ifThen _ ih => exact .ifThen (ih hinner)
  | whileDo _ ih => exact .whileDo (ih hinner)

/-- All statements keep the rules on names if each does. -/
theorem statementsResolve_iff {scope : Scope} {statements : List Statement} :
    StatementsResolve scope statements ↔ ∀ statement ∈ statements, statement.Resolves scope := by
  induction statements with
  | nil => simp [StatementsResolve]
  | cons first others ih => simp [StatementsResolve, ih]

/-- What stands inside a statement that keeps the rules on names keeps them. -/
theorem Statement.Contains.resolves {scope : Scope} {whole part : Statement}
    (h : whole.Contains part) (hresolves : whole.Resolves scope) : part.Resolves scope := by
  induction h with
  | refl => exact hresolves
  | sequence hmem _ ih => exact ih (statementsResolve_iff.1 hresolves _ hmem)
  | ifThen _ ih => exact ih hresolves.2
  | whileDo _ ih => exact ih hresolves.2

namespace Block

/-- The constants and variables that a block declares. -/
def symbols (block : Block) : List (String × Option Int) :=
  block.constants.map (fun entry => (entry.1, some entry.2)) ++
    block.variableNames.map fun name => (name, none)

/-- The names that a block has declared once so many of its procedures are declared. -/
def declared (block : Block) (count : Nat) : Declared :=
  ⟨block.symbols, (block.procedures.take count).map Prod.fst⟩

/-- The block keeps the rules on names where these levels are around it: no name is declared twice,
and every use of a name finds a declaration before it. -/
inductive WellScoped : List Declared → Block → Prop where
  | intro {outer block} :
      (block.symbols.map Prod.fst).Nodup → (block.procedures.map Prod.fst).Nodup →
      (∀ (index : Nat) (h : index < block.procedures.length),
        WellScoped (block.declared (index + 1) :: outer) block.procedures[index].2) →
      block.statement.Resolves ⟨block.declared block.procedures.length, outer⟩ →
      WellScoped outer block

end Block

end Parlance.Pl0
