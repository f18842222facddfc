import Parlance.CommandLine.Arguments
import Parlance.Console
import Parlance.Files.Tree
import Parlance.Number.Integer
import Parlance.Pl0.Interpreter
import Parlance.Pl0.Parser
import Parlance.Pl0.Printer
import Parlance.Source

/-!
# The command for PL/0

The command takes files and treats them in order: it prints their tokens, prints their syntax
trees, or runs them. All programs read from one input. The first file that goes wrong ends the
command; what has been printed before stays.
-/

namespace Parlance.Pl0

/-! ## Reading and writing numbers -/

/-- Looks for the first line that is an integer between blanks. Gives the lines before it, and, if
there is one, the integer and the lines after it. -/
def seekInteger : List String → List String × Option (Int × List String)
  | [] => ([], none)
  | line :: rest =>
    match Text.readInt? (Text.trim line.toList) with
    | some value => ([], some (value, rest))
    | none =>
      let (rejected, found) := seekInteger rest
      (line :: rejected, found)

/-- What is reported about a line that is no integer. -/
def rejection (line : String) : String :=
  s!"not an integer: {Text.quote (String.ofList (Text.trim line.toList))}\n"

/-- Reads integers from the lines of a console, and prints integers as lines. -/
def Host.ofConsole : Host Console where
  read := do
    let console ← get
    let (rejected, found) := seekInteger console.input
    let reported := rejected.foldl (fun reported line => rejection line :: reported) console.reported
    match found with
    | some (value, rest) =>
      set { console with input := rest, reported }
      return value
    | none =>
      set { console with input := [], reported }
      throw (.host "read past end of input")
  write value := modify (·.print (toString value))

namespace CommandLine

open Parlance.CommandLine (Switch Command)

/-! ## What the command takes -/

/-- The switch that prints tokens. -/
def tokensSwitch : Switch := ⟨["-tokens"], "print the token stream instead of running."⟩

/-- The switch that prints syntax trees. -/
def treeSwitch : Switch := ⟨["-ast"], "print the syntax tree instead of running."⟩

/-- The switch that reports each token that is consumed. -/
def traceSwitch : Switch := ⟨["-dbg"], "trace consumed tokens to stderr."⟩

/-- The command. -/
def command : Command where
  name := "pl0"
  description := "Parse and run PL/0 programs."
  switches := [tokensSwitch, treeSwitch, traceSwitch]
  operand := "paths"
  operandHelp := "PL/0 source files; program input for `?` is read from stdin."
  needsOperand := true

/-- What is done with each file. -/
inductive Mode where
  | tokens
  | tree
  | run
  deriving DecidableEq, Repr

/-- What the switches choose. -/
structure Options where
  mode : Mode := .run
  traced : Bool := false
  deriving DecidableEq, Repr

/-- The choice of these switches; tokens come before trees. -/
def Options.ofSwitches (switches : List Switch) : Options where
  mode :=
    if tokensSwitch ∈ switches then .tokens
    else if treeSwitch ∈ switches then .tree
    else .run
  traced := traceSwitch ∈ switches

/-! ## What the command does -/

/-- Why the command ends before its last file is done. -/
inductive Stop where
  /-- The file cannot be read. -/
  | unreadable (fault : Files.FileFault)
  /-- The file is no program, as the diagnostic says. -/
  | rejected (diagnostic : String)
  /-- The parser fails with something that is no parse error. -/
  | broken (fault : Fault)
  /-- The place of a parse error is none. -/
  | misplaced (span : SpanError)
  /-- The run of the program at this path fails. -/
  | failed (path : String) (fault : RunFault)
  deriving Repr

/-- What is to be said about the reason. -/
def Stop.message : Stop → String
  | unreadable fault => fault.message
  | rejected diagnostic => diagnostic
  | broken fault => fault.message
  | misplaced span => span.message
  | failed path fault => s!"{path}: runtime error: {fault.message}"

/-- A step of the command. -/
abbrev Step := EStateM Stop Console

/-- Prints a line. -/
def print (line : String) : Step Unit := modify (·.print line)

/-- Ends the command because a text is no program. -/
def reject {α : Type} (source : Source) (fault : Fault) : Step α :=
  match fault with
  | .parse error =>
    match source.diagnosticOfError error with
    | .ok diagnostic => throw (.rejected diagnostic)
    | .error span => throw (.misplaced span)
  | fault => throw (.broken fault)

/-- Prints the tokens of a text, those before a failure included. -/
def printTokens (source : Source) : Step Unit := do
  let stream := lexer.tokenize source.text
  for token in stream.tokens do print token.describe
  if let some failure := stream.failure then reject source failure.toFault

/-- Parses a program; the trace is reported first. -/
def parse (source : Source) (traced : Bool) : Step Program := do
  let (outcome, scanner) := parseTraced source.text traced
  if traced then modify (·.report scanner.trace)
  match outcome with
  | .ok program => return program
  | .error fault => reject source fault

/-- Runs a program on the console. -/
def execute (path : String) (program : Program) : Step Unit := fun console =>
  match program.run .ofConsole lifetime console with
  | .ok _ console => .ok () console
  | .error fault console => .error (.failed path fault) console

/-- Treats one file. -/
def processText (options : Options) (path text : String) : Step Unit := do
  let source : Source := ⟨path, text, true⟩
  match options.mode with
  | .tokens => printTokens source
  | .tree => print (← parse source options.traced).literal
  | .run => execute path (← parse source options.traced)

/-- Treats the file at a path. -/
def processFile (read : String → Except Files.FileFault String) (options : Options)
    (path : String) : Step Unit := do
  match read path with
  | .error fault => throw (.unreadable fault)
  | .ok text => processText options path (String.ofList (Text.unifyNewlines text.toList))

/-- Treats files in order. -/
def processAll (read : String → Except Files.FileFault String) (options : Options)
    (paths : List String) : Step Unit :=
  paths.forM (processFile read options)

/-- Does the command end properly for this reason? Then it is reported. -/
def Stop.isReported : Stop → Bool
  | rejected _ => true
  | failed _ fault =>
    match fault with
    | .undefinedSymbol _ | .undefinedProcedure _ | .divisionByZero | .host _ => true
    | .unknownOperator _ | .unspecified | .outOfFuel => false
  | _ => false

/-- What the command leaves behind, with the reason why it broke off. -/
def outcome (result : EStateM.Result Stop Console Unit) : Outcome × Option Stop :=
  match result with
  | .ok _ console => (⟨0, console.output, console.errors⟩, none)
  | .error stop console =>
    if stop.isReported then
      (⟨1, console.output, (console.report (stop.message ++ "\n")).errors⟩, none)
    else (⟨1, console.output, console.errors⟩, some stop)

/-- Runs the command on the words after its name, with a way to read files and the text of its
input. -/
def perform (read : String → Except Files.FileFault String) (words : List String) (input : String) :
    Outcome × Option Stop :=
  match command.request words with
  | .error fault => (⟨2, "", command.complaint fault⟩, none)
  | .ok .help => (⟨0, command.helpText, ""⟩, none)
  | .ok (.run switches paths) =>
    outcome (processAll read (.ofSwitches switches) paths (.ofInput input))

end CommandLine

end Parlance.Pl0
