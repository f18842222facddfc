/-!
# Scopes

A scope holds the names that can be seen in a block: those that the block declares, and those of the
blocks around it, innermost first. Constants and variables share one name space, procedures have
another. A block may declare a name again that a block around it declares, and hides it by that.
-/

namespace Parlance.Pl0

/-- The names that one block declares: constants with their values, variables without, and
procedures. -/
structure Declared where
  symbols : List (String × Option Int) := []
  procedures : List String := []
  deriving DecidableEq, Repr, Inhabited

/-- The names that can be seen in a block: its own, and those of the blocks around it. -/
structure Scope where
  own : Declared := {}
  outer : List Declared := []
  deriving DecidableEq, Repr, Inhabited

namespace Scope

/-- The scope of a block directly inside. -/
def child (scope : Scope) : Scope := ⟨{}, scope.own :: scope.outer⟩

/-- The levels of the scope, innermost first. -/
def levels (scope : Scope) : List Declared := scope.own :: scope.outer

/-- What a name stands for: a constant with its value, or a variable. -/
def symbol? (scope : Scope) (name : String) : Option (Option Int) :=
  scope.levels.findSome? fun level => level.symbols.lookup name

/-- Is there a procedure of this name? -/
def hasProcedure (scope : Scope) (name : String) : Bool :=
  scope.levels.any fun level => level.procedures.contains name

/-- Declares a constant or a variable, unless the block has declared the name already. -/
def declareSymbol? (scope : Scope) (name : String) (value : Option Int) : Option Scope :=
  if (scope.own.symbols.lookup name).isSome then none
  else some { scope with own.symbols := scope.own.symbols ++ [(name, value)] }

/-- Declares a procedure, unless the block has declared the name already. -/
def declareProcedure? (scope : Scope) (name : String) : Option Scope :=
  if scope.own.procedures.contains name then none
  else some { scope with own.procedures := scope.own.procedures ++ [name] }

end Scope

end Parlance.Pl0
