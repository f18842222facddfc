import Parlance.Text.Quoted
import Parlance.ParseError

/-!
# Rules of PL/0 that a text can break

The rules on names, and those rules of the grammar that the scanner does not check by itself.
-/

namespace Parlance.Pl0

/-- What a statement does with a variable. -/
inductive Use where
  | assignTo
  | readInto
  deriving DecidableEq, Repr

/-- The use as messages put it. -/
def Use.describe : Use → String
  | assignTo => "assign to"
  | readInto => "read into"

/-- A rule that is broken. -/
inductive Violation where
  /-- A block declares a constant or variable twice. -/
  | duplicateSymbol (name : String)
  /-- A block declares a procedure twice. -/
  | duplicateProcedure (name : String)
  /-- A statement changes something that is not declared. -/
  | undefinedVariable (name : String)
  /-- A statement changes a constant. -/
  | constantChanged (use : Use) (name : String)
  | undefinedProcedure (name : String)
  /-- An expression uses something that is not declared. -/
  | undefinedSymbol (name : String)
  /-- A condition lacks its relation. -/
  | noRelation (text : String)
  /-- Something follows the program. -/
  | notAtEnd
  deriving DecidableEq, Repr

namespace Violation

/-- What the violation says. -/
def message : Violation → String
  | duplicateSymbol name => s!"duplicate symbol: {name}"
  | duplicateProcedure name => s!"duplicate procedure: {name}"
  | undefinedVariable name => s!"undefined variable: {name}"
  | constantChanged use name => s!"cannot {use.describe} constant: {name}"
  | undefinedProcedure name => s!"undefined procedure: {name}"
  | undefinedSymbol name => s!"undefined symbol: {name}"
  | noRelation text => s!"expected relational operator; received {Text.quote text}."
  | notAtEnd => "expected end of program."

/-- The rules on names are semantic. -/
def category : Violation → ErrorCategory
  | noRelation _ => .general
  | notAtEnd => .unexpectedToken
  | _ => .semantic

end Violation

end Parlance.Pl0
