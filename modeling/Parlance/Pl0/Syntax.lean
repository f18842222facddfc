/-!
# Syntax trees of PL/0

Trees are not bound to come from a text: an operator may be any text, and an expression may be left
unspecified. Evaluating such a tree fails.
-/

namespace Parlance.Pl0

/-- An expression. -/
inductive Expr where
  | number (value : Int)
  | symbol (name : String)
  | negate (operand : Expr)
  | binary (operator : String) (left right : Expr)
  /-- An expression of which nothing is said. -/
  | unspecified
  deriving DecidableEq, Repr, Inhabited

/-- A condition. -/
inductive Condition where
  | odd (operand : Expr)
  | relation (operator : String) (left right : Expr)
  deriving DecidableEq, Repr, Inhabited

/-- A statement. -/
inductive Statement where
  | assign (name : String) (value : Expr)
  | call (name : String)
  | read (name : String)
  | write (value : Expr)
  | sequence (statements : List Statement)
  | ifThen (condition : Condition) (statement : Statement)
  | whileDo (condition : Condition) (statement : Statement)
  | empty
  deriving Repr, Inhabited

/-- A block: its constants, variables and procedures in the order of their declaration, and its
statement. -/
structure Block where
  constants : List (String × Int) := []
  variableNames : List String := []
  procedures : List (String × Block) := []
  statement : Statement := .empty
  deriving Repr, Inhabited

/-- A program. -/
structure Program where
  block : Block
  deriving Repr, Inhabited

end Parlance.Pl0
