import Parlance.Pl0.Syntax
import Parlance.Text.Quoted

/-!
# Printing syntax trees

`Expr.print` and `Condition.print` write PL/0 text with a pair of parentheses around every operator,
which reads back as the same tree. The functions named `literal` spell a tree out with the names of
its parts.
-/

namespace Parlance.Pl0

/-- The items of a sequence in parentheses; a single one is followed by a comma. -/
def listText : List String → String
  | [] => "()"
  | [single] => s!"({single},)"
  | items => "(" ++ ", ".intercalate items ++ ")"

/-- Entries with their keys, in order. -/
def tableText (entries : List (String × String)) : String :=
  let shown := entries.map fun (key, value) => s!"{Text.quote key}: {value}"
  "\x7b" ++ ", ".intercalate shown ++ "\x7d"

namespace Expr

/-- The expression as text of the language. -/
def print : Expr → String
  | number value => toString value
  | symbol name => name
  | negate operand => s!"(-{operand.print})"
  | binary operator left right => s!"({left.print} {operator} {right.print})"
  | unspecified => "<expression>"

/-- The expression with its parts spelled out. -/
def literal : Expr → String
  | number value => s!"Number(value={value})"
  | symbol name => s!"Symbol(name={Text.quote name})"
  | negate operand => s!"Negate(operand={operand.literal})"
  | binary operator left right =>
    s!"BinaryOperation(op={Text.quote operator}, left={left.literal}, right={right.literal})"
  | unspecified => "<expression>"

/-- The name of the sort of expression. -/
def className : Expr → String
  | number _ => "Number"
  | symbol _ => "Symbol"
  | negate _ => "Negate"
  | binary _ _ _ => "BinaryOperation"
  | unspecified => "Expression"

end Expr

namespace Condition

/-- The condition as text of the language. -/
def print : Condition → String
  | odd operand => s!"ODD {operand.print}"
  | relation operator left right => s!"{left.print} {operator} {right.print}"

/-- The condition with its parts spelled out. -/
def literal : Condition → String
  | odd operand => s!"Odd(expr={operand.literal})"
  | relation operator left right =>
    s!"Relation(op={Text.quote operator}, left={left.literal}, right={right.literal})"

/-- The name of the sort of condition. -/
def className : Condition → String
  | odd _ => "Odd"
  | relation _ _ _ => "Relation"

end Condition

namespace Statement

/-- The name of the sort of statement. -/
def className : Statement → String
  | assign _ _ => "Assignment"
  | call _ => "Call"
  | read _ => "Read"
  | write _ => "Write"
  | sequence _ => "BeginEnd"
  | ifThen _ _ => "If"
  | whileDo _ _ => "While"
  | empty => "EmptyStatement"

mutual

/-- The statement with its parts spelled out. -/
def literal : Statement → String
  | assign name value => s!"Assignment(name={Text.quote name}, expr={value.literal})"
  | call name => s!"Call(name={Text.quote name})"
  | read name => s!"Read(name={Text.quote name})"
  | write value => s!"Write(expr={value.literal})"
  | sequence statements => s!"BeginEnd(statements={listText (literals statements)})"
  | ifThen condition statement =>
    s!"If(condition={condition.literal}, statement={statement.literal})"
  | whileDo condition statement =>
    s!"While(condition={condition.literal}, statement={statement.literal})"
  | empty => "EmptyStatement()"

/-- The statements with their parts spelled out. -/
def literals : List Statement → List String
  | [] => []
  | statement :: rest => statement.literal :: literals rest

end

end Statement

namespace Block

mutual

/-- The block with its parts spelled out. -/
def literal : Block → String
  | ⟨constants, names, procedures, statement⟩ =>
    let constants := tableText (constants.map fun (name, value) => (name, toString value))
    let names := listText (names.map Text.quote)
    let procedures := tableText (procedureLiterals procedures)
    s!"Block(constants={constants}, variables={names}, procedures={procedures}, " ++
      s!"statement={statement.literal})"

/-- The procedures with their parts spelled out. -/
def procedureLiterals : List (String × Block) → List (String × String)
  | [] => []
  | (name, block) :: rest => (name, block.literal) :: procedureLiterals rest

end

end Block

/-- The program with its parts spelled out. -/
def Program.literal (program : Program) : String := s!"Program(block={program.block.literal})"

end Parlance.Pl0
