import Parlance.Ledger
import Parlance.Pl0.Syntax

/-!
# Running PL/0

A run keeps one activation for each block that is being run. A name is looked up in the activation
of its block and then in those of the blocks around it: the static chain. A procedure runs on a
chain of its own, which is a new activation on top of the part of the caller's chain that starts at
the block that declares the procedure. So the chain of a run is a list, innermost first, and a call
works on one of its tails.

What a program reads and writes is up to its host. Fuel bounds the depth of statements inside
statements, counting each round of a loop as one; a run that uses it up gives no result.
-/

namespace Parlance.Pl0

/-- Why a run fails. -/
inductive RunFault where
  | undefinedSymbol (name : String)
  | undefinedProcedure (name : String)
  | divisionByZero
  | unknownOperator (operator : String)
  /-- An expression of which nothing is said. -/
  | unspecified
  /-- A failure of the host. -/
  | host (message : String)
  | outOfFuel
  deriving DecidableEq, Repr, Inhabited

/-- What the failure says. -/
def RunFault.message : RunFault → String
  | undefinedSymbol name => s!"undefined symbol: {name}"
  | undefinedProcedure name => s!"undefined procedure: {name}"
  | divisionByZero => "division by zero"
  | unknownOperator operator => operator
  | unspecified => ""
  | host message => message
  | outOfFuel => "out of fuel"

/-- Where a program reads from and writes to, with the state that this changes. -/
structure Host (σ : Type) where
  read : EStateM RunFault σ Int
  write : Int → EStateM RunFault σ Unit

/-! ## Activations -/

/-- A block that is being run, with the values of its constants and variables. -/
structure Activation where
  block : Block
  values : List (String × Int)
  deriving Repr, Inhabited

/-- A new activation: variables are zero. -/
def Activation.start (block : Block) : Activation :=
  let zeros := block.variableNames.map fun name => (name, 0)
  ⟨block, Ledger.putAll (Ledger.putAll [] block.constants) zeros⟩

/-- The activations that a run can see, innermost first. -/
abbrev Chain := List Activation

namespace Chain

/-- How many blocks out the name is found. -/
def depth? (chain : Chain) (name : String) : Option Nat :=
  chain.findIdx? fun activation => (activation.values.lookup name).isSome

/-- The value of a name. -/
def get? (chain : Chain) (name : String) : Option Int :=
  chain.findSome? fun activation => activation.values.lookup name

/-- The chain in which the name has another value. -/
def set? : Chain → String → Int → Option Chain
  | [], _, _ => none
  | activation :: rest, name, value =>
    if (activation.values.lookup name).isSome then
      some ({ activation with values := Ledger.put activation.values name value } :: rest)
    else (set? rest name value).map (activation :: ·)

/-- Splits the chain before the innermost block that declares the procedure: the activations inside
it, the procedure's block, and the rest. -/
def splitAtProcedure? : Chain → String → Option (Chain × Block × Chain)
  | [], _ => none
  | activation :: rest, name =>
    match activation.block.procedures.lookup name with
    | some body => some ([], body, activation :: rest)
    | none =>
      (splitAtProcedure? rest name).map fun (inner, body, outer) =>
        (activation :: inner, body, outer)

end Chain

/-! ## Runs -/

/-- The state of a run: the chain, and the state of the host. -/
structure Machine (σ : Type) where
  chain : Chain
  host : σ

/-- A step of a run. -/
abbrev Run (σ : Type) := EStateM RunFault (Machine σ)

namespace Run

variable {σ α : Type}

/-- Lets the host do something. -/
def ofHost (operation : EStateM RunFault σ α) : Run σ α := fun machine =>
  match operation machine.host with
  | .ok value host => .ok value { machine with host }
  | .error fault host => .error fault { machine with host }

/-- The value of a name. -/
def get (name : String) : Run σ Int := do
  match (← getThe (Machine σ)).chain.get? name with
  | some value => return value
  | none => throw (.undefinedSymbol name)

/-- How many blocks out the name is found. -/
def depth (name : String) : Run σ Nat := do
  match (← getThe (Machine σ)).chain.depth? name with
  | some depth => return depth
  | none => throw (.undefinedSymbol name)

/-- Gives a name another value. -/
def set (name : String) (value : Int) : Run σ Unit := fun machine =>
  match machine.chain.set? name value with
  | some chain => .ok () { machine with chain }
  | none => .error (.undefinedSymbol name) machine

/-- Runs a procedure: a new activation of its block on top of the part of the chain from the block
that declares it. The rest of the chain waits, and is put back however the procedure ends. -/
def call (run : Statement → Run σ Unit) (name : String) : Run σ Unit := fun machine =>
  match machine.chain.splitAtProcedure? name with
  | none => .error (.undefinedProcedure name) machine
  | some (inner, body, outer) =>
    let resume := fun (after : Machine σ) =>
      { after with chain := inner ++ after.chain.drop 1 }
    match run body.statement { machine with chain := .start body :: outer } with
    | .ok _ after => .ok () (resume after)
    | .error fault after => .error fault (resume after)

end Run

/-- The quotient, rounded toward zero. -/
def divide (dividend divisor : Int) : Except RunFault Int :=
  if divisor = 0 then .error .divisionByZero else .ok (dividend.tdiv divisor)

/-- The result of an arithmetic operator. -/
def applyOperator (operator : String) (left right : Int) : Except RunFault Int :=
  match operator with
  | "+" => .ok (left + right)
  | "-" => .ok (left - right)
  | "*" => .ok (left * right)
  | "/" => divide left right
  | _ => .error (.unknownOperator operator)

/-- The truth of a relation. -/
def applyRelation (operator : String) (left right : Int) : Except RunFault Bool :=
  match operator with
  | "=" => .ok (left = right)
  | "#" => .ok (left ≠ right)
  | "<" => .ok (left < right)
  | "<=" => .ok (left ≤ right)
  | ">" => .ok (left > right)
  | ">=" => .ok (left ≥ right)
  | _ => .error (.unknownOperator operator)

/-- The value of an expression. -/
def Expr.eval (chain : Chain) : Expr → Except RunFault Int
  | number value => .ok value
  | symbol name =>
    match chain.get? name with
    | some value => .ok value
    | none => .error (.undefinedSymbol name)
  | negate operand => do return -(← operand.eval chain)
  | binary operator left right => do
    let left ← left.eval chain
    let right ← right.eval chain
    applyOperator operator left right
  | unspecified => .error .unspecified

/-- The truth of a condition. -/
def Condition.eval (chain : Chain) : Condition → Except RunFault Bool
  | odd operand => do return (← operand.eval chain) % 2 ≠ 0
  | relation operator left right => do
    let left ← left.eval chain
    let right ← right.eval chain
    applyRelation operator left right

namespace Run

variable {σ α : Type}

/-- What the chain says. -/
def ofChain (question : Chain → Except RunFault α) : Run σ α := fun machine =>
  match question machine.chain with
  | .ok value => .ok value machine
  | .error fault => .error fault machine

end Run

/-- Runs a statement. -/
def Statement.run {σ : Type} (host : Host σ) : Nat → Statement → Run σ Unit
  | 0, _ => throw .outOfFuel
  | fuel + 1, statement => do
    match statement with
    | .assign name value => Run.set name (← Run.ofChain value.eval)
    | .call name => Run.call (run host fuel) name
    | .read name => Run.set name (← Run.ofHost host.read)
    | .write value => Run.ofHost (host.write (← Run.ofChain value.eval))
    | .sequence statements => statements.forM (run host fuel)
    | .ifThen condition inner =>
      if ← Run.ofChain condition.eval then run host fuel inner
    | .whileDo condition inner =>
      if ← Run.ofChain condition.eval then
        run host fuel inner
        run host fuel (.whileDo condition inner)
    | .empty => pure ()

/-- Enough fuel for every run that ends in a lifetime. -/
def lifetime : Nat := 1 <<< 62

/-- Runs a program in a state of the host. -/
def Program.run {σ : Type} (host : Host σ) (program : Program) (fuel : Nat := lifetime) :
    EStateM RunFault σ Unit := fun state =>
  match program.block.statement.run host fuel ⟨[.start program.block], state⟩ with
  | .ok _ machine => .ok () machine.host
  | .error fault machine => .error fault machine.host

/-! ## A host of lists -/

/-- What is left to read, and what has been written, latest first. -/
structure Tape where
  input : List Int
  output : List Int := []
  deriving DecidableEq, Repr

/-- Reads numbers from a list, and writes at most so many. -/
def Host.ofTape (limit : Nat) : Host Tape where
  read := do
    let tape ← get
    match tape.input with
    | [] => throw (.host "read past end of input")
    | value :: rest =>
      set { tape with input := rest }
      return value
  write value := do
    let tape ← get
    if tape.output.length ≥ limit then throw (.host "output limit")
    set { tape with output := value :: tape.output }

end Parlance.Pl0
