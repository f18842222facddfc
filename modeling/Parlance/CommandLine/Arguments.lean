import Parlance.Text.Quoted
import Parlance.Unicode.Digit

/-!
# The words of a command line

A command takes switches, which have names and no values, and operands. A word that starts with a
hyphen is a switch, written in full or shortened to a beginning that fits no other; `-` and what
looks like a negative number are operands, and so is every word after `--`. All operands have to
stand together. The switch for help ends the reading as soon as it is met.
-/

namespace Parlance.CommandLine

/-- Something that can be switched on. -/
structure Switch where
  names : List String
  help : String
  deriving DecidableEq, Repr

/-- The switch that asks for help. -/
def Switch.forHelp : Switch := ⟨["-h", "--help"], "show this help message and exit"⟩

/-- What a command is called, what it does, and what it takes. -/
structure Command where
  name : String
  description : String
  switches : List Switch := []
  operand : String
  operandHelp : String := ""
  /-- Does the command need an operand? -/
  needsOperand : Bool

/-- Why a command line cannot be read. -/
inductive ArgumentFault where
  | ambiguous (word : String) (candidates : List String)
  | unwantedValue (switch : Switch) (value : String)
  | missingOperand (operand : String)
  | unrecognized (words : List String)
  deriving DecidableEq, Repr

/-- What the fault says. -/
def ArgumentFault.message : ArgumentFault → String
  | ambiguous word candidates =>
    s!"ambiguous option: {word} could match " ++ ", ".intercalate candidates
  | unwantedValue switch value =>
    "argument " ++ "/".intercalate switch.names ++
      s!": ignored explicit argument {Text.quote value}"
  | missingOperand operand => s!"the following arguments are required: {operand}"
  | unrecognized words => "unrecognized arguments: " ++ " ".intercalate words

/-! ## One word -/

/-- A switch under one of its names. -/
structure Naming where
  switch : Switch
  name : String
  /-- What is written together with the name, after an equals sign or directly. -/
  attached : Option (List Char) := none
  deriving DecidableEq, Repr

/-- What a word of the command line is. -/
inductive Word where
  | operand (text : String)
  /-- The word `--`. -/
  | divider
  | switch (naming : Naming)
  | unknown (text : String)
  deriving DecidableEq, Repr

/-- Every switch under every name. -/
def namings (switches : List Switch) : List Naming :=
  switches.flatMap fun switch => switch.names.map fun name => ⟨switch, name, none⟩

/-- The switch of this name. -/
def named? (switches : List Switch) (name : String) : Option Naming :=
  (namings switches).find? (·.name == name)

/-- The part before the first equals sign, and the part after it if there is one. -/
def cutAtEquals (chars : List Char) : List Char × Option (List Char) :=
  match chars.dropWhile (· ≠ '=') with
  | [] => (chars, none)
  | _ :: value => (chars.takeWhile (· ≠ '='), some value)

/-- Is the text a hyphen with a decimal number after it? A line feed may end it. -/
def isNegativeNumber (chars : List Char) : Bool :=
  let isDigit := fun c => (Unicode.digitValue? c).isSome
  let atEnd := fun rest => rest == [] || rest == ['\n']
  match chars with
  | '-' :: body =>
    match body.dropWhile isDigit with
    | '.' :: fraction => fraction.head?.any isDigit && atEnd (fraction.dropWhile isDigit)
    | rest => body.head?.any isDigit && atEnd rest
  | _ => false

/-- The switches that a word may mean which names none in full. After two hyphens it may be the
beginning of a name, with a value after an equals sign; after one it may be that as a whole, or a
name of one letter with a value directly after it. -/
def candidates (switches : List Switch) (chars : List Char) : List Naming :=
  match chars with
  | '-' :: '-' :: _ =>
    let (start, value) := cutAtEquals chars
    (namings switches).filterMap fun naming =>
      if start.isPrefixOf naming.name.toList then
        some { naming with attached := value }
      else none
  | _ =>
    (namings switches).filterMap fun naming =>
      let name := naming.name.toList
      if name == chars.take 2 then some { naming with attached := some (chars.drop 2) }
      else if chars.isPrefixOf name then some naming
      else none

/-- What a word is, other than `--`. -/
def Word.read (switches : List Switch) (text : String) : Except ArgumentFault Word :=
  let chars := text.toList
  if chars.head? ≠ some '-' then .ok (.operand text)
  else if let some naming := named? switches text then .ok (.switch naming)
  else if chars.length = 1 then .ok (.operand text)
  else
    let (start, value) := cutAtEquals chars
    match value, named? switches (String.ofList start) with
    | some value, some naming =>
      .ok (.switch { naming with attached := some value })
    | _, _ =>
      match candidates switches chars with
      | [naming] => .ok (.switch naming)
      | [] =>
        if isNegativeNumber chars ∨ ' ' ∈ chars then .ok (.operand text)
        else .ok (.unknown text)
      | several => .error (.ambiguous text (several.map (·.name)))

/-- What the words are. -/
def Word.readAll (switches : List Switch) : List String → Except ArgumentFault (List Word)
  | [] => .ok []
  | text :: rest =>
    if text = "--" then .ok (.divider :: rest.map .operand)
    else do
      let word ← Word.read switches text
      return word :: (← Word.readAll switches rest)

/-- The switches that a word stands for, given one of them and what is written after it. The letters
after a switch with one hyphen are more switches, of one letter each; a switch with two hyphens
takes nothing after it, and what no switch takes is refused with the last one that is there. -/
def spread (switches : List Switch) (switch : Switch) (long : Bool) :
    List Char → Except ArgumentFault (List Switch)
  | [] => .error (.unwantedValue switch "")
  | c :: rest =>
    let next := if long then none else named? switches (String.ofList ['-', c])
    match next, rest with
    | none, _ => .error (.unwantedValue switch (String.ofList (c :: rest)))
    | some next, [] => .ok [switch, next.switch]
    | some next, d :: tail =>
      (spread switches next.switch false (d :: tail)).map (switch :: ·)

/-- The switches that a word turns on. -/
def Naming.switches (all : List Switch) (naming : Naming) : Except ArgumentFault (List Switch) :=
  match naming.attached with
  | none => .ok [naming.switch]
  | some value => spread all naming.switch (naming.name.startsWith "--") value

/-! ## The whole line -/

/-- What a command line asks for. -/
inductive Request where
  | help
  | run (switches : List Switch) (operands : List String)
  deriving DecidableEq, Repr

/-- How far the reading has come: the switches so far, the operands once they have been met, and the
words that fit nowhere. -/
structure Reading where
  switches : List Switch := []
  operands : Option (List String) := none
  leftOver : List String := []

/-- The operands and dividers in front of the first switch, as texts, and the other words. -/
def operandRun : List Word → List String × List Word
  | .operand text :: rest =>
    let (run, rest) := operandRun rest
    (text :: run, rest)
  | .divider :: rest =>
    let (run, rest) := operandRun rest
    ("--" :: run, rest)
  | words => ([], words)

theorem operandRun_length (words : List Word) :
    (operandRun words).2.length ≤ words.length := by
  fun_induction operandRun words with
  | case1 text rest run tail h ih => simp_all; omega
  | case2 rest run tail h ih => simp_all; omega
  | case3 => exact Nat.le_refl _

/-- Takes a run of operands: the first that can be taken is the command's. -/
def Reading.takeOperands (command : Command) (reading : Reading) (run : List String) : Reading :=
  let operands := run.erase "--"
  if reading.operands.isNone && !(command.needsOperand && operands.isEmpty) then
    { reading with operands := some operands }
  else { reading with leftOver := reading.leftOver ++ run }

/-- What the reading has found, at the end of the words. -/
def Reading.finish (command : Command) (reading : Reading) : Except ArgumentFault Request :=
  if command.needsOperand && reading.operands.isNone then
    .error (.missingOperand command.operand)
  else if reading.leftOver ≠ [] then .error (.unrecognized reading.leftOver)
  else .ok (.run reading.switches (reading.operands.getD []))

/-- Reads on. -/
def Reading.advance (command : Command) (all : List Switch) (reading : Reading) :
    List Word → Except ArgumentFault Request
  | [] => reading.finish command
  | .unknown text :: rest =>
    Reading.advance command all { reading with leftOver := reading.leftOver ++ [text] } rest
  | .switch naming :: rest => do
    let switches ← naming.switches all
    if .forHelp ∈ switches then return .help
    Reading.advance command all { reading with switches := reading.switches ++ switches } rest
  | word :: rest =>
    let run := operandRun rest
    let text := match word with
      | .operand text => text
      | _ => "--"
    Reading.advance command all (reading.takeOperands command (text :: run.1)) run.2
termination_by words => words.length
decreasing_by
  all_goals simp only [List.length_cons]
  · omega
  · omega
  · have := operandRun_length rest
    omega

namespace Command

/-- The switches of the command, with the one for help. -/
def allSwitches (command : Command) : List Switch := .forHelp :: command.switches

/-- What the words ask the command for. -/
def request (command : Command) (words : List String) : Except ArgumentFault Request := do
  let words ← Word.readAll command.allSwitches words
  Reading.advance command command.allSwitches {} words

/-! ## Usage and help -/

/-- The line that shows how the command is used. -/
def usage (command : Command) : String :=
  let switches := command.allSwitches.map fun switch => " [" ++ switch.names.headD "" ++ "]"
  let operand := command.operand
  let operands := if command.needsOperand then s!"{operand} [{operand} ...]" else s!"[{operand} ...]"
  s!"usage: {command.name}{String.join switches} {operands}\n"

/-- One row of the help text: a heading, and in a second column what it is about. -/
def helpRow (width : Nat) (heading text : String) : String :=
  if text.isEmpty then s!"  {heading}\n"
  else
    let padding := String.ofList (List.replicate (width - heading.length) ' ')
    s!"  {heading}{padding}  {text}\n"

/-- The help text. -/
def helpText (command : Command) : String :=
  let rows := command.allSwitches.map fun switch => (", ".intercalate switch.names, switch.help)
  let width := (command.operand :: rows.map Prod.fst).foldl (fun width text => max width text.length) 0
  command.usage ++ s!"\n{command.description}\n" ++
    "\npositional arguments:\n" ++ helpRow width command.operand command.operandHelp ++
    "\noptions:\n" ++ String.join (rows.map fun (heading, text) => helpRow width heading text)

/-- What is reported about a command line that cannot be read. -/
def complaint (command : Command) (fault : ArgumentFault) : String :=
  command.usage ++ s!"{command.name}: error: {fault.message}\n"

end Command

end Parlance.CommandLine
