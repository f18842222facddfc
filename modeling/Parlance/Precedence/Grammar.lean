import Parlance.Precedence.Operator

/-!
# Grammars of operators

A grammar holds its operators in two tables by symbol: those that stand before their operand, and
those that follow an operand. A symbol may be in both tables, and once in each.
-/

namespace Parlance.Precedence

variable {γ κ ρ : Type}

/-- An operator that follows its first operand: it takes a second one, or it does not. -/
inductive Tail (γ κ ρ : Type) where
  | between (rightAssociative : Bool) (combine : Binary γ κ ρ)
  | after (combine : Unary γ κ ρ)

/-- What a table holds under a symbol: the head of the operator that the symbol belongs to, and what
the parser does with it. -/
structure Row (α : Type) where
  head : Head
  action : α

/-- The operators, by symbol in the order of their definition, and the parser of operands. -/
structure Grammar (γ κ ρ : Type) where
  before : List (String × Row (Unary γ κ ρ)) := []
  tail : List (String × Row (Tail γ κ ρ)) := []
  primary : Primary γ κ ρ

/-- What a grammar is defined from: operators, operators that do not say where they stand, and
values that are no operators. -/
inductive Entry (γ κ ρ : Type) where
  | placed (operator : Operator γ κ ρ)
  | unplaced (head : Head)
  | other (value : Literal)

namespace Entry

/-- The entry as it is written. -/
def literal : Entry γ κ ρ → String
  | placed operator => operator.head.literal
  | unplaced head => head.literal
  | other value => value.describe

end Entry

/-- Adds the rows of an operator to a table, symbol by symbol. -/
def addRows {α : Type} (row : Row α) :
    List (String × Row α) → List String → Except DefinitionFault (List (String × Row α))
  | table, [] => .ok table
  | table, symbol :: rest =>
    match table.lookup symbol with
    | some existing => .error (.ambiguous symbol existing.head row.head)
    | none => addRows row (table ++ [(symbol, row)]) rest

namespace Grammar

/-- Adds an operator to its table. -/
def add (grammar : Grammar γ κ ρ) (operator : Operator γ κ ρ) :
    Except DefinitionFault (Grammar γ κ ρ) := do
  let head := operator.head
  match operator.action with
  | .before combine =>
    return { grammar with before := ← addRows ⟨head, combine⟩ grammar.before head.symbols }
  | .between right combine =>
    let row : Row (Tail γ κ ρ) := ⟨head, .between right combine⟩
    return { grammar with tail := ← addRows row grammar.tail head.symbols }
  | .after combine =>
    let row : Row (Tail γ κ ρ) := ⟨head, .after combine⟩
    return { grammar with tail := ← addRows row grammar.tail head.symbols }

/-- Adds entries in order; only operators that say where they stand can be added. -/
def addEntries (grammar : Grammar γ κ ρ) :
    List (Entry γ κ ρ) → Except DefinitionFault (Grammar γ κ ρ)
  | [] => .ok grammar
  | .placed operator :: rest => do (← grammar.add operator).addEntries rest
  | entry :: _ => .error (.notPlaced entry.literal)

/-- The grammar that is defined by entries. -/
def define (entries : List (Entry γ κ ρ)) (primary : Primary γ κ ρ) :
    Except DefinitionFault (Grammar γ κ ρ) :=
  addEntries { primary } entries

/-- The grammar in short: the symbols of its two tables. -/
def literal (grammar : Grammar γ κ ρ) : String :=
  let before := ", ".intercalate (grammar.before.map fun entry => Text.quote entry.1)
  let tail := ", ".intercalate (grammar.tail.map fun entry => Text.quote entry.1)
  s!"ExpressionParser(prefix=[{before}], tail=[{tail}])"

end Grammar

end Parlance.Precedence
