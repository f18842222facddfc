import Parlance.Pl0.Interpreter
import Parlance.Proofs.Comparison

/-!
# Runs with different hosts

Between two readings or writings a run does not depend on its host. So two runs of one program with
different hosts go on side by side as long as the hosts answer alike, and what is known of the two
states is carried from one step to the next: `Comparison.Serves.program`. Where one host fails, the
runs either end together, or only the first one ends; then the other one may do anything that keeps
what has been established at that point.
-/

namespace Parlance

namespace Pl0

/-! ## A host that reads numbers -/

/-- What a program asks of its host: a number, whether or not there is one, or that this number is
written. -/
inductive Event where
  | asked
  | wrote (value : Int)
  deriving DecidableEq, Repr

/-- The numbers that are left to be read, and what the program has asked for, in order. -/
structure Transcript where
  input : List Int
  events : List Event := []
  deriving DecidableEq, Repr

/-- The transcript with one more event. -/
def Transcript.record (transcript : Transcript) (event : Event) : Transcript :=
  { transcript with events := transcript.events ++ [event] }

/-- The number that is written. -/
def Event.written? : Event → Option Int
  | asked => none
  | wrote value => some value

/-- The numbers that have been written, in order. -/
def Transcript.outputs (transcript : Transcript) : List Int :=
  transcript.events.filterMap Event.written?

/-- There is no number to be read. -/
def RunFault.pastEnd : RunFault := .host "read past end of input"

/-- Reads the numbers of a list one after the other, and writes as many as it is given. -/
def Host.ofNumbers : Host Transcript where
  read transcript :=
    match transcript.input with
    | [] => .error .pastEnd (transcript.record .asked)
    | value :: rest => .ok value ({ transcript with input := rest }.record .asked)
  write value transcript := .ok () (transcript.record (.wrote value))

/-- What a run of the program on these numbers asks of its host. -/
def Program.events (program : Program) (fuel : Nat) (numbers : List Int) : List Event :=
  (Result.last (program.run .ofNumbers fuel ⟨numbers, []⟩)).events

/-! ## Faults of programs -/

/-- The fault is the program's own, and not one of its host. -/
def RunFault.IsOwn : RunFault → Prop
  | host _ => False
  | _ => True

section

variable {chain : Chain} {fault : RunFault}

/-- An operator fails with a fault of the program. -/
theorem applyOperator_own {operator : String} {left right : Int}
    (h : applyOperator operator left right = .error fault) : fault.IsOwn := by
  unfold applyOperator at h
  split at h <;> try (cases h; done)
  · unfold divide at h
    split at h <;> cases h
    trivial
  · cases h
    trivial

/-- A relation fails with a fault of the program. -/
theorem applyRelation_own {operator : String} {left right : Int}
    (h : applyRelation operator left right = .error fault) : fault.IsOwn := by
  unfold applyRelation at h
  split at h <;> cases h
  trivial

/-- An expression fails with a fault of the program. -/
theorem Expr.eval_own {value : Expr} (h : value.eval chain = .error fault) : fault.IsOwn := by
  induction value generalizing fault with
  | number => cases h
  | symbol name =>
      rw [Expr.eval] at h
      split at h <;> cases h
      trivial
  | negate operand ih =>
      rw [Expr.eval] at h
      cases hoperand : operand.eval chain with
      | ok result => rw [hoperand] at h; cases h
      | error other => rw [hoperand] at h; cases h; exact ih hoperand
  | binary operator left right ihleft ihright =>
      rw [Expr.eval] at h
      cases hleft : left.eval chain with
      | error other => rw [hleft] at h; cases h; exact ihleft hleft
      | ok first =>
          cases hright : right.eval chain with
          | error other => rw [hleft, hright] at h; cases h; exact ihright hright
          | ok second => rw [hleft, hright] at h; exact applyOperator_own h
  | unspecified => cases h; trivial

/-- A condition fails with a fault of the program. -/
theorem Condition.eval_own {test : Condition} (h : test.eval chain = .error fault) :
    fault.IsOwn := by
  cases test with
  | odd operand =>
      rw [Condition.eval] at h
      cases hoperand : operand.eval chain with
      | ok result => rw [hoperand] at h; cases h
      | error other => rw [hoperand] at h; cases h; exact Expr.eval_own hoperand
  | relation operator left right =>
      rw [Condition.eval] at h
      cases hleft : left.eval chain with
      | error other => rw [hleft] at h; cases h; exact Expr.eval_own hleft
      | ok first =>
          cases hright : right.eval chain with
          | error other => rw [hleft, hright] at h; cases h; exact Expr.eval_own hright
          | ok second => rw [hleft, hright] at h; exact applyRelation_own h

end

end Pl0

/-! ## Runs -/

namespace Comparison

open Pl0

variable {σ τ α : Type}

/-- Machines are compared by the states of their hosts, and have the same chain while neither run
has ended. -/
def machines (c : Comparison RunFault σ τ) : Comparison RunFault (Machine σ) (Machine τ) where
  together machine machine' := machine.chain = machine'.chain ∧
    c.together machine.host machine'.host
  ended fault machine machine' := c.ended fault machine.host machine'.host
  parted fault machine machine' := c.parted fault machine.host machine'.host

/-- The hosts answer so that runs with them compare: their operations do, and what is known of runs
that go on is enough where the program itself makes both of them fail. -/
structure Serves (c : Comparison RunFault σ τ) (host : Host σ) (host' : Host τ) : Prop where
  own : ∀ fault state state', c.together state state' → fault.IsOwn → c.ended fault state state'
  read : c.Holds host.read host'.read
  write : ∀ value, c.Holds (host.write value) (host'.write value)

variable {c : Comparison RunFault σ τ}

/-- Operations of the hosts that compare do so inside a run. -/
theorem Holds.ofHost {operation : EStateM RunFault σ α} {operation' : EStateM RunFault τ α}
    (h : c.Holds operation operation') :
    c.machines.Holds (Run.ofHost operation) (Run.ofHost operation') := by
  constructor
  · rintro ⟨chain, state⟩ ⟨_, state'⟩ ⟨rfl, htogether⟩
    have hends := h.ends state state' htogether
    unfold Run.ofHost
    dsimp only
    generalize operation state = result, operation' state' = result' at hends
    cases hends with
    | ok hafter => exact .ok ⟨rfl, hafter⟩
    | error hended => exact .error hended
    | parted hparted => exact .parted (by cases result' <;> exact hparted)
  · rintro fault machine ⟨chain, state'⟩ hparted
    have hkeeps := h.keeps fault machine.host state' hparted
    unfold Run.ofHost
    dsimp only
    generalize operation' state' = result' at hkeeps
    cases result' <;> exact hkeeps

section

variable (hown : ∀ fault state state', c.together state state' → fault.IsOwn →
  c.ended fault state state')

include hown

/-- Runs that fail at once with a fault of the program compare. -/
theorem Holds.throw_own {fault : RunFault} (hfault : fault.IsOwn) :
    c.machines.Holds (throw fault : Run σ α) (throw fault : Run τ α) :=
  ⟨fun _ _ h => .error (hown _ _ _ h.2 hfault), fun _ _ _ h => h⟩

/-- What chains say is the same in both runs. -/
theorem Holds.ofChain {question : Chain → Except RunFault α}
    (hquestion : ∀ chain fault, question chain = .error fault → fault.IsOwn) :
    c.machines.Holds (Run.ofChain question : Run σ α) (Run.ofChain question) := by
  constructor
  · rintro ⟨chain, state⟩ ⟨_, state'⟩ ⟨rfl, htogether⟩
    unfold Run.ofChain
    dsimp only
    cases hanswer : question chain with
    | ok value => exact .ok ⟨rfl, htogether⟩
    | error fault => exact .error (hown _ _ _ htogether (hquestion chain fault hanswer))
  · rintro fault machine ⟨chain, state'⟩ hparted
    unfold Run.ofChain
    dsimp only
    cases question chain <;> exact hparted

/-- A name is given the same value in both runs. -/
theorem Holds.set (name : String) (value : Int) :
    c.machines.Holds (Run.set name value : Run σ Unit) (Run.set name value) := by
  constructor
  · rintro ⟨chain, state⟩ ⟨_, state'⟩ ⟨rfl, htogether⟩
    unfold Run.set
    dsimp only
    cases chain.set? name value with
    | none => exact .error (hown _ _ _ htogether trivial)
    | some after => exact .ok ⟨rfl, htogether⟩
  · rintro fault machine ⟨chain, state'⟩ hparted
    unfold Run.set
    dsimp only
    cases chain.set? name value <;> exact hparted

/-- Calls of a procedure compare if runs of statements do. -/
theorem Holds.call {run : Statement → Run σ Unit} {run' : Statement → Run τ Unit}
    (hrun : ∀ statement, c.machines.Holds (run statement) (run' statement)) (name : String) :
    c.machines.Holds (Run.call run name) (Run.call run' name) := by
  constructor
  · rintro ⟨chain, state⟩ ⟨_, state'⟩ ⟨rfl, htogether⟩
    unfold Run.call
    dsimp only
    cases chain.splitAtProcedure? name with
    | none => exact .error (hown _ _ _ htogether trivial)
    | some found =>
        obtain ⟨inner, body, outer⟩ := found
        have hends := (hrun body.statement).ends ⟨.start body :: outer, state⟩
          ⟨.start body :: outer, state'⟩ ⟨rfl, htogether⟩
        dsimp only
        generalize run body.statement _ = result, run' body.statement _ = result' at hends
        cases hends with
        | ok hafter => exact .ok ⟨congrArg (fun chain => inner ++ chain.drop 1) hafter.1, hafter.2⟩
        | error hended => exact .error hended
        | parted hparted => exact .parted (by cases result' <;> exact hparted)
  · rintro fault machine ⟨chain, state'⟩ hparted
    unfold Run.call
    dsimp only
    cases chain.splitAtProcedure? name with
    | none => exact hparted
    | some found =>
        obtain ⟨inner, body, outer⟩ := found
        have hkeeps := (hrun body.statement).keeps fault machine ⟨.start body :: outer, state'⟩
          hparted
        dsimp only
        generalize run' body.statement _ = result' at hkeeps
        cases result' <;> exact hkeeps

end

/-- Runs of a statement with hosts that answer alike compare, with any fuel. -/
theorem Serves.statement {host : Host σ} {host' : Host τ} (h : c.Serves host host') (fuel : Nat)
    (statement : Statement) :
    c.machines.Holds (statement.run host fuel) (statement.run host' fuel) := by
  -- The induction is on the fuel, for a call goes on with the statement of another block.
  induction fuel generalizing statement with
  | zero => exact Holds.throw_own h.own trivial
  | succ fuel ih =>
      have hvalue (value : Expr) :
          c.machines.Holds (Run.ofChain value.eval : Run σ Int) (Run.ofChain value.eval) :=
        .ofChain h.own fun _ _ => Expr.eval_own
      have htest (test : Condition) :
          c.machines.Holds (Run.ofChain test.eval : Run σ Bool) (Run.ofChain test.eval) :=
        .ofChain h.own fun _ _ => Condition.eval_own
      cases statement with
      | assign name value => exact (hvalue value).bind fun result => .set h.own name result
      | call name => exact .call h.own ih name
      | read name => exact h.read.ofHost.bind fun result => .set h.own name result
      | write value => exact (hvalue value).bind fun result => (h.write result).ofHost
      | sequence statements => exact .forM ih statements
      | ifThen test inner =>
          refine (htest test).bind fun holds => ?_
          cases holds with
          | true => exact ih inner
          | false => exact .pure ()
      | whileDo test inner =>
          refine (htest test).bind fun holds => ?_
          cases holds with
          | true => exact (ih inner).bind fun _ => ih (.whileDo test inner)
          | false => exact .pure ()
      | empty => exact .pure ()

/-- Runs of a program with hosts that answer alike compare, with any fuel. -/
theorem Serves.program {host : Host σ} {host' : Host τ} (h : c.Serves host host')
    (program : Program) (fuel : Nat) :
    c.Holds (program.run host fuel) (program.run host' fuel) := by
  have hstatement := h.statement fuel program.block.statement
  constructor
  · intro state state' htogether
    have hends := hstatement.ends ⟨[.start program.block], state⟩ ⟨[.start program.block], state'⟩
      ⟨rfl, htogether⟩
    unfold Program.run
    generalize program.block.statement.run host fuel _ = result,
      program.block.statement.run host' fuel _ = result' at hends
    cases hends with
    | ok hafter => exact .ok hafter.2
    | error hended => exact .error hended
    | parted hparted => exact .parted (by cases result' <;> exact hparted)
  · intro fault state state' hparted
    have hkeeps := hstatement.keeps fault ⟨[], state⟩ ⟨[.start program.block], state'⟩ hparted
    unfold Program.run
    generalize program.block.statement.run host' fuel _ = result' at hkeeps
    cases result' <;> exact hkeeps

end Comparison

end Parlance
