import Parlance.Pl0.Scope
import Parlance.Pl0.Syntax
import Parlance.Pl0.Token
import Parlance.Pl0.Violation
import Parlance.Precedence.Parser

/-!
# Parsing PL/0

A program is a block and a full stop. A block declares constants, variables and procedures, in this
order, and has one statement:

    program    = block "." .
    block      = [ "CONST" name "=" number { "," name "=" number } ";" ]
                 [ "VAR" name { "," name } ";" ]
                 { "PROCEDURE" name ";" block ";" }
                 statement .
    statement  = [ name ":=" expression | "CALL" name | "?" name | "!" expression
                 | "BEGIN" statement { ";" statement } "END"
                 | "IF" condition "THEN" statement | "WHILE" condition "DO" statement ] .
    condition  = "ODD" expression
               | expression ( "=" | "#" | "<" | "<=" | ">" | ">=" ) expression .
    expression = [ "+" | "-" ] term { ( "+" | "-" ) term } .
    term       = factor { ( "*" | "/" ) factor } .
    factor     = name | number | "(" expression ")" .

Expressions are parsed by precedence. A sign binds tightest, so it may stand before any factor, and
it belongs to the factor alone. Names are checked as they are met: each has to be declared before
its use, in the block itself or in one around it.
-/

namespace Parlance.Pl0

open Scanner

/-- Fails at the current token. -/
def violate {α : Type} (violation : Violation) : Scan Kind α :=
  Scanner.fail violation.message violation.category

/-! ## Expressions and conditions -/

/-- The action of an operator on one operand. -/
abbrev UnaryAction := Precedence.Unary Scope Kind Expr

/-- What an operator with two operands does, by its precedence and symbols. -/
def arithmetic (precedence : Int) (symbols : List String) :
    Precedence.Row (Precedence.Tail Scope Kind Expr) where
  head := ⟨.between, precedence, symbols⟩
  action := .between false fun _ _ symbol left right => return .binary symbol left right

/-- What a sign does. -/
def sign (symbol : String) (action : Expr → Expr) : Precedence.Row UnaryAction where
  head := ⟨.before, 0, [symbol]⟩
  action := fun _ _ _ operand => return action operand

/-- The natural number that the digits of a number token write. -/
def numberValue (digits : String) : Int := (Text.readNat? digits.toList).getD 0

/-- Parses an operand without a sign, given the parser of expressions. -/
def factorWith (expression : Scope → Scan Kind Expr) (scope : Scope) : Scan Kind Expr := do
  let token ← current
  match token.kind with
  | .number => return .number (numberValue (← consume))
  | .identifier =>
    if (scope.symbol? token.text).isNone then violate (.undefinedSymbol token.text)
    let _ ← consume
    return .symbol token.text
  | _ =>
    let _ ← consumeText "(" s!"expected factor; {received token}"
    let inner ← expression scope
    let _ ← consumeText ")"
    return inner

/-- The operators of expressions. -/
def operators : Precedence.Grammar Scope Kind Expr where
  before := [("+", sign "+" id), ("-", sign "-" .negate)]
  tail :=
    [("*", arithmetic 1 ["*", "/"]), ("/", arithmetic 1 ["*", "/"]),
      ("+", arithmetic 2 ["+", "-"]), ("-", arithmetic 2 ["+", "-"])]
  primary := fun reparse scope => factorWith (reparse · .all) scope

/-- Parses an expression. -/
def expression (scope : Scope) : Scan Kind Expr := operators.parse scope

/-- Parses an operand without a sign. -/
def factor (scope : Scope) : Scan Kind Expr := factorWith expression scope

/-- The relations of conditions. -/
def relations : List String := ["=", "#", "<", "<=", ">", ">="]

/-- Parses a condition. -/
def condition (scope : Scope) : Scan Kind Condition := do
  if ← tryConsume "ODD" then return .odd (← expression scope)
  let left ← expression scope
  let operator := (← current).text
  unless operator ∈ relations do violate (.noRelation operator)
  let _ ← consume
  return .relation operator left (← expression scope)

/-! ## Statements -/

/-- Checks that the name, which the current token holds, is one of a variable. -/
def checkVariable (scope : Scope) (name : String) (use : Use) : Scan Kind Unit :=
  match scope.symbol? name with
  | none => violate (.undefinedVariable name)
  | some (some _) => violate (.constantChanged use name)
  | some none => pure ()

/-- Parses a statement, given the parser of the statements inside it. Whatever starts no statement
is left for what follows an empty one. -/
def statementWith (statement : Scan Kind Statement) (scope : Scope) : Scan Kind Statement := do
  let token ← current
  if token.kind = .identifier then
    checkVariable scope token.text .assignTo
    let _ ← consume
    let _ ← consumeText ":="
    return .assign token.text (← expression scope)
  if ← tryConsume "CALL" then
    let token ← current
    if token.kind = .identifier ∧ ¬ scope.hasProcedure token.text then
      violate (.undefinedProcedure token.text)
    return .call (← consumeKind .identifier)
  if ← tryConsume "?" then
    let token ← current
    if token.kind = .identifier then checkVariable scope token.text .readInto
    return .read (← consumeKind .identifier)
  if ← tryConsume "!" then return .write (← expression scope)
  if ← tryConsume "BEGIN" then
    let statements ← separated ";" statement
    let _ ← consumeText "END"
    return .sequence statements
  if ← tryConsume "IF" then
    let test ← condition scope
    let _ ← consumeText "THEN"
    return .ifThen test (← statement)
  if ← tryConsume "WHILE" then
    let test ← condition scope
    let _ ← consumeText "DO"
    return .whileDo test (← statement)
  return .empty

/-- Parses a statement. -/
def statement (scope : Scope) : Scan Kind Statement :=
  Rule.recursive (fun self (_ : Unit) => statementWith (self ()) scope) ()

/-! ## Blocks -/

/-- A scanner together with the scope of the block that is being parsed. -/
structure Session where
  scanner : Scanner Kind
  scope : Scope

instance : Supply Session := ⟨fun session => session.scanner.remaining⟩

/-- A step of parsing a block: it may declare names. -/
abbrev Parse := EStateM Fault Session

namespace Parse

variable {α : Type}

/-- Parses something that declares no names. -/
def scan (parser : Scope → Scan Kind α) : Parse α := fun session =>
  match parser session.scope session.scanner with
  | .ok value scanner => .ok value { session with scanner }
  | .error fault scanner => .error fault { session with scanner }

/-- Parses something with a scope of its own inside the present one. -/
def inside (parser : Parse α) : Parse α := fun session =>
  match parser { session with scope := session.scope.child } with
  | .ok value after => .ok value { after with scope := session.scope }
  | .error fault after => .error fault { after with scope := session.scope }

/-- Puts a declared name into the scope; if that cannot be, the token is blamed. -/
def declare (token : Token Kind) (violation : Violation)
    (declared? : Scope → Option Scope) : Parse Unit := do
  let session ← get
  match declared? session.scope with
  | none => throw (.parse (.ofToken violation.category token violation.message))
  | some scope => set { session with scope }

/-- Declares a constant or a variable by the token of its name. -/
def declareSymbol (token : Token Kind) (value : Option Int) : Parse Unit :=
  declare token (.duplicateSymbol token.text) (·.declareSymbol? token.text value)

/-- Declares a procedure by the token of its name. -/
def declareProcedure (token : Token Kind) : Parse Unit :=
  declare token (.duplicateProcedure token.text) (·.declareProcedure? token.text)

/-- Items that declare names: one, and one more after each comma. -/
def commaSeparated (item : Parse α) : Parse (List α) := do
  let first ← item
  let rest ← Rule.iterate (fun items => do
    if ← scan fun _ => tryConsume "," then return some ((← item) :: items)
    return none) []
  return first :: rest.reverse

end Parse

open Parse

/-- The token of the name that comes next; the name is consumed. -/
def declaredName : Parse (Token Kind) := scan fun _ => do
  let token ← current
  let _ ← consumeKind .identifier
  return token

/-- Parses the declaration of a constant. -/
def constantDeclaration : Parse (String × Int) := do
  let token ← declaredName
  let value ← scan fun _ => do
    let _ ← consumeText "="
    return numberValue (← consumeKind .number)
  declareSymbol token (some value)
  return (token.text, value)

/-- Parses the declaration of a variable. -/
def variableDeclaration : Parse String := do
  let token ← declaredName
  declareSymbol token none
  return token.text

/-- Parses a section of declarations that a keyword opens, if it is there. -/
def declarationSection {α : Type} (keyword : String) (item : Parse α) : Parse (List α) := do
  unless ← scan fun _ => tryConsume keyword do return []
  let items ← commaSeparated item
  let _ ← scan fun _ => consumeText ";"
  return items

/-- Parses the declaration of a procedure, given the parser of its block. The procedure is declared
before its block, which may call it. -/
def procedureDeclaration (block : Parse Block) : Parse (String × Block) := do
  let token ← declaredName
  let _ ← scan fun _ => consumeText ";"
  declareProcedure token
  let body ← inside block
  let _ ← scan fun _ => consumeText ";"
  return (token.text, body)

/-- Parses a block, given the parser of the blocks inside it. -/
def blockWith (block : Parse Block) : Parse Block := do
  let constants ← declarationSection "CONST" constantDeclaration
  let names ← declarationSection "VAR" variableDeclaration
  let procedures ← Rule.iterate (fun procedures => do
    if ← scan fun _ => tryConsume "PROCEDURE" then
      return some ((← procedureDeclaration block) :: procedures)
    return none) []
  return ⟨constants, names, procedures.reverse, ← scan statement⟩

/-- Parses a block; the names that it declares are added to the scope. -/
def block : Parse Block := Rule.recursive (fun self (_ : Unit) => blockWith (self ())) ()

/-! ## Programs -/

/-- Parses a program from the beginning of its text to the end. -/
def program : Parse Program := do
  let _ ← scan fun _ => consumeKind .start
  let body ← block
  scan fun _ => do
    let _ ← consumeText "."
    unless ← atEnd do violate .notAtEnd
  return ⟨body⟩

/-- The program that a text is, or the reason why it is none, and the scanner after that. -/
def parseTraced (text : String) (tracing : Bool := true) :
    Except Fault Program × Scanner Kind :=
  match EStateM.run program ⟨.ofText lexer text tracing, {}⟩ with
  | .ok parsed after => (.ok parsed, after.scanner)
  | .error fault after => (.error fault, after.scanner)

/-- The program that a text is, or the reason why it is none. -/
def parseProgram (text : String) : Except Fault Program := (parseTraced text false).1

end Parlance.Pl0
