import Parlance.Precedence.Grammar
import Parlance.Scanner.Rule

/-!
# Parsing by precedence

An expression is an operand followed by operators that the limit admits, each with its right operand
if it takes one. The limit of a right operand comes from its operator: it admits what binds tighter,
and also what binds equally if the operator groups to the right. An operator that the limit does not
admit, or that the grammar does not know, is left for whatever encloses the expression.

The actions of the operators may parse further expressions, without a limit or with one. Such a call
is answered once a token has been used up since the enclosing expression began.
-/

namespace Parlance.Precedence

variable {γ κ ρ : Type} [DecidableEq κ]

namespace Grammar

/-- Parses an operand: a primary one, or a symbol that stands before its operand and that operand,
which admits operators up to the symbol's own precedence. -/
def operand (grammar : Grammar γ κ ρ) (reparse : Reparse γ κ ρ) (context : γ) : Scan κ ρ := do
  match grammar.before.lookup (← Scanner.current).text with
  | none => grammar.primary reparse context
  | some row =>
    let symbol ← Scanner.consume
    let inner ← reparse context (.upTo row.head.precedence)
    row.action reparse context symbol inner

/-- Applies the current operator to the operand on its left, if the limit admits it. -/
def extend (grammar : Grammar γ κ ρ) (reparse : Reparse γ κ ρ) (context : γ) (limit : Limit)
    (left : ρ) : Scan κ (Option ρ) := do
  match grammar.tail.lookup (← Scanner.current).text with
  | none => return none
  | some row =>
    let precedence := row.head.precedence
    unless limit.admits precedence do return none
    let symbol ← Scanner.consume
    match row.action with
    | .after combine => return some (← combine reparse context symbol left)
    | .between rightAssociative combine =>
      let limit := if rightAssociative then .upTo precedence else .below precedence
      let right ← reparse context limit
      return some (← combine reparse context symbol left right)

/-- An operand, extended as often as the limit admits. -/
def expression (grammar : Grammar γ κ ρ) (reparse : Reparse γ κ ρ) (context : γ) (limit : Limit) :
    Scan κ ρ := do
  let first ← grammar.operand reparse context
  Rule.iterate (grammar.extend reparse context limit) first

/-- Parses an expression. -/
def parse (grammar : Grammar γ κ ρ) (context : γ) (limit : Limit := .all) : Scan κ ρ :=
  Rule.recursive
    (fun self (input : γ × Limit) =>
      grammar.expression (fun context limit => self (context, limit)) input.1 input.2)
    (context, limit)

end Grammar

end Parlance.Precedence
