import Parlance.Proofs.Precedence.Table
import Parlance.Proofs.Scanner.Forward

/-!
# Actions that are written out

The actions of a grammar are functions, and they see its parser under a rule that refuses to go on
without having used up a token. Here the actions are written out as scripts: what they ask of the
scanner, and which expressions they have parsed inside. A script can be followed without that rule.
`Scripts.parse` runs the parser so, as far as fuel lasts, and keeps a record of what happens on the
way.
-/

namespace Parlance.Precedence

variable {γ κ ρ α β : Type}

/-- An outcome as a value, be it a failure. -/
def caught : EStateM.Result Fault (Scanner κ) α → EStateM.Result Fault (Scanner κ) (Except Fault α)
  | .ok value after => .ok (.ok value) after
  | .error fault after => .ok (.error fault) after

/-- What comes of an operation, be it a failure. -/
def attempt (operation : Scan κ α) : Scan κ (Except Fault α) := fun scanner =>
  caught (operation scanner)

/-- An operation that succeeds as a value has succeeded. -/
theorem attempt_ok_iff {operation : Scan κ α} {value : α} {start final : Scanner κ} :
    attempt operation start = .ok (.ok value) final ↔ operation start = .ok value final := by
  unfold attempt caught
  cases operation start <;> simp

/-- What comes of an operation goes forward as that does. -/
theorem forward_attempt {operation : Scan κ α} (h : Scanner.Forward operation) :
    Scanner.Forward (attempt operation) := by
  intro start
  have hstart := h start
  unfold attempt
  cases hresult : operation start <;> rwa [hresult] at hstart

/-! ## Runs with a record -/

/-- What the parser itself does: it consumes the symbol of an operator, or is refused to, and it has
an operator applied. -/
inductive Event where
  | consumed (symbol : String)
  | refused (fault : Fault)
  | applied (symbol : String)

/-- Is an operator applied here? -/
def Event.applies : Event → Bool
  | applied _ => true
  | _ => false

/-- An operation that may not come to an end with the fuel that it has; if it does, it leaves a
record of what has happened. -/
def Run (κ α : Type) := Scanner κ → Option (EStateM.Result Fault (Scanner κ) α × List Event)

namespace Run

instance : Monad (Run κ) where
  pure value := fun scanner => some (.ok value scanner, [])
  bind first next := fun scanner =>
    match first scanner with
    | none => none
    | some (.error fault after, log) => some (.error fault after, log)
    | some (.ok value after, log) => (next value after).map fun (result, more) =>
      (result, log ++ more)

/-- The fuel is used up. -/
def exhausted : Run κ α := fun _ => none

/-- An operation of the scanner, of which nothing is recorded. -/
def scan (operation : Scan κ α) : Run κ α := fun scanner => some (operation scanner, [])

/-- What comes of a run, be it a failure. -/
def attempt (run : Run κ α) : Run κ (Except Fault α) := fun scanner =>
  (run scanner).map fun (result, log) => (caught result, log)

/-- Has an operator applied. -/
def apply (symbol : String) (action : Run κ α) : Run κ α := fun scanner =>
  (action scanner).map fun (result, log) => (result, .applied symbol :: log)

/-- Consumes a token for the parser itself. -/
def consume [DecidableEq κ] : Run κ String := fun scanner =>
  match Scanner.consume scanner with
  | .ok symbol after => some (.ok symbol after, [.consumed symbol])
  | .error fault after => some (.error fault after, [.refused fault])

/-- Takes steps from a value until one declines, and no more than so many. -/
def rounds (step : α → Run κ (Option α)) : Nat → α → Run κ α
  | 0, _ => exhausted
  | count + 1, value => do
    match ← step value with
    | none => return value
    | some reached => rounds step count reached

variable {run : Run κ α} {scanner after : Scanner κ} {log : List Event}

/-- A sequence by what comes of its first part. -/
theorem bind_apply (run : Run κ α) (next : α → Run κ β) (scanner : Scanner κ) :
    (run >>= next) scanner =
      match run scanner with
      | none => none
      | some (.error fault after, log) => some (.error fault after, log)
      | some (.ok value after, log) => (next value after).map fun (result, more) =>
        (result, log ++ more) := rfl

/-- A sequence goes on after a first part that succeeds, and adds to its record. -/
theorem bind_of_ok {value : α} (h : run scanner = some (.ok value after, log))
    (next : α → Run κ β) :
    (run >>= next) scanner =
      (next value after).map fun (result, more) => (result, log ++ more) := by
  rw [bind_apply, h]

/-- A sequence fails as its first part does. -/
theorem bind_of_error {fault : Fault} (h : run scanner = some (.error fault after, log))
    (next : α → Run κ β) : (run >>= next) scanner = some (.error fault after, log) := by
  rw [bind_apply, h]

/-- A symbol that is consumed is recorded. -/
theorem consume_of_ok [DecidableEq κ] {symbol : String}
    (h : Scanner.consume scanner = .ok symbol after) :
    consume scanner = some (.ok symbol after, [.consumed symbol]) := by
  rw [consume, h]

/-- A symbol that is refused is recorded. -/
theorem consume_of_error [DecidableEq κ] {fault : Fault}
    (h : Scanner.consume scanner = .error fault after) :
    consume scanner = some (.error fault after, [.refused fault]) := by
  rw [consume, h]

end Run

/-! ## Scripts -/

/-- What an action does, step by step: it looks at the scanner as a whole, makes a request of it, or
has an expression parsed, and goes on with what comes of that, a failure included. In the end it
gives a value or fails. -/
inductive Script (γ κ ρ : Type) where
  | give (value : ρ)
  | raise (fault : Fault)
  | inspect (next : Scanner κ → Script γ κ ρ)
  | ask (request : Request κ) (next : Except Fault (Answer κ) → Script γ κ ρ)
  | parse (context : γ) (limit : Limit) (next : Except Fault ρ → Script γ κ ρ)

variable [DecidableEq κ] [KindText κ]

namespace Script

/-- The action that follows a script. -/
def act (reparse : Reparse γ κ ρ) : Script γ κ ρ → Scan κ ρ
  | give value => return value
  | raise fault => throw fault
  | inspect next => fun scanner => (next scanner).act reparse scanner
  | ask request next => do (next (← attempt (Scanner.perform request))).act reparse
  | parse context limit next => do (next (← attempt (reparse context limit))).act reparse

/-- The run that follows a script. -/
def follow (parser : γ → Limit → Run κ ρ) : Script γ κ ρ → Run κ ρ
  | give value => return value
  | raise fault => Run.scan (throw fault)
  | inspect next => fun scanner => (next scanner).follow parser scanner
  | ask request next => do
    (next (← Run.scan (attempt (Scanner.perform request)))).follow parser
  | parse context limit next => do (next (← (parser context limit).attempt)).follow parser

/-- Followed from this scanner, the script has nothing parsed before fewer tokens lie ahead than
so many. -/
def Waits (count : Nat) : Script γ κ ρ → Scanner κ → Prop
  | give _, _ | raise _, _ => True
  | inspect next, scanner => (next scanner).Waits count scanner
  | ask request next, scanner => ∀ answer after,
      attempt (Scanner.perform request) scanner = .ok answer after →
        (next answer).Waits count after
  | parse _ _ _, scanner => scanner.ahead.length < count

end Script

/-- The scripts of a grammar: one for its operands, and one for each of its operators. -/
structure Scripts (γ κ ρ : Type) where
  primary : γ → Script γ κ ρ
  unary : Head → γ → String → ρ → Script γ κ ρ
  binary : Head → γ → String → ρ → ρ → Script γ κ ρ

namespace Scripts

/-- An expression inside an operand is parsed only after a token has been consumed. -/
def Wait (scripts : Scripts γ κ ρ) : Prop :=
  ∀ context scanner, (scripts.primary context).Waits scanner.ahead.length scanner

/-! ## Grammars whose actions follow scripts -/

variable (scripts : Scripts γ κ ρ)

/-- The parser of operands that follows its script. -/
def operand : Primary γ κ ρ := fun reparse context => (scripts.primary context).act reparse

/-- The action on one operand that follows its script. -/
def onOne (head : Head) : Unary γ κ ρ := fun reparse context symbol operand =>
  (scripts.unary head context symbol operand).act reparse

/-- The action on two operands that follows its script. -/
def onTwo (head : Head) : Binary γ κ ρ := fun reparse context symbol left right =>
  (scripts.binary head context symbol left right).act reparse

/-- The definition of the operator with this head whose action follows its script. -/
def entry (head : Head) : Entry γ κ ρ :=
  match head.fixity with
  | .unplaced => .unplaced head
  | .before => .placed ⟨head.precedence, head.symbols, .before (scripts.onOne head)⟩
  | .between => .placed ⟨head.precedence, head.symbols, .between false (scripts.onTwo head)⟩
  | .betweenRight => .placed ⟨head.precedence, head.symbols, .between true (scripts.onTwo head)⟩
  | .after => .placed ⟨head.precedence, head.symbols, .after (scripts.onOne head)⟩

/-- What the grammar defined from heads with these scripts holds. -/
structure Gives (heads : List Head) (grammar : Grammar γ κ ρ) : Prop where
  primary : grammar.primary = scripts.operand
  before : ∀ symbol row, grammar.before.lookup symbol = some row →
    (∃ head ∈ heads, symbol ∈ head.symbols) ∧ row.action = scripts.onOne row.head
  tail : ∀ symbol row, grammar.tail.lookup symbol = some row →
    (∃ head ∈ heads, symbol ∈ head.symbols) ∧
      match row.action with
      | .after combine => combine = scripts.onOne row.head
      | .between _ combine => combine = scripts.onTwo row.head

variable {scripts}

/-- A grammar that is defined from heads with scripts holds these. -/
theorem gives_of_define {heads : List Head} {grammar : Grammar γ κ ρ}
    (h : Grammar.define (heads.map scripts.entry) scripts.operand = .ok grammar) :
    scripts.Gives heads grammar where
  primary := Grammar.define_primary h
  before symbol row hrow := by
    obtain ⟨operator, hplaced, hsymbol, hrow⟩ := (Grammar.define_before_lookup_iff h _ _).1 hrow
    obtain ⟨head, hhead, hentry⟩ := List.mem_map.1 hplaced
    rcases head with ⟨fixity, precedence, symbols⟩
    cases fixity <;> cases hentry <;> cases hrow
    exact ⟨⟨_, hhead, hsymbol⟩, rfl⟩
  tail symbol row hrow := by
    obtain ⟨operator, hplaced, hsymbol, hrow⟩ := (Grammar.define_tail_lookup_iff h _ _).1 hrow
    obtain ⟨head, hhead, hentry⟩ := List.mem_map.1 hplaced
    rcases head with ⟨fixity, precedence, symbols⟩
    cases fixity <;> cases hentry <;> cases hrow <;> exact ⟨⟨_, hhead, hsymbol⟩, rfl⟩

/-! ## Running the parser -/

variable (scripts) (grammar : Grammar γ κ ρ) (parser : γ → Limit → Run κ ρ)

/-- Parses an operand. -/
def runOperand (context : γ) : Run κ ρ := do
  match grammar.before.lookup (← Run.scan Scanner.current).text with
  | none => (scripts.primary context).follow parser
  | some row =>
    let symbol ← Run.consume
    let inner ← parser context (.upTo row.head.precedence)
    Run.apply symbol ((scripts.unary row.head context symbol inner).follow parser)

/-- Applies the current operator to the operand on its left, if the limit admits it. -/
def runExtend (context : γ) (limit : Limit) (left : ρ) : Run κ (Option ρ) := do
  match grammar.tail.lookup (← Run.scan Scanner.current).text with
  | none => return none
  | some row =>
    let precedence := row.head.precedence
    unless limit.admits precedence do return none
    let symbol ← Run.consume
    match row.action with
    | .after _ =>
      return some (← Run.apply symbol ((scripts.unary row.head context symbol left).follow parser))
    | .between rightAssociative _ =>
      let limit := if rightAssociative then .upTo precedence else .below precedence
      let right ← parser context limit
      return some (← Run.apply symbol
        ((scripts.binary row.head context symbol left right).follow parser))

/-- Parses an expression as the parser does, but without the rule that refuses to go on where no
token has been used up: calls go so deep as fuel lasts, and loops go around as often. -/
def parse : Nat → γ → Limit → Run κ ρ
  | 0, _, _ => Run.exhausted
  | fuel + 1, context, limit => do
    let first ← scripts.runOperand grammar (parse fuel) context
    Run.rounds (scripts.runExtend grammar (parse fuel) context limit) (fuel + 1) first

end Scripts

/-! ## More fuel -/

/-- Where the first run comes to an end, the second comes to the same. -/
def Run.Extends (run run' : Run κ α) : Prop :=
  ∀ scanner ended, run scanner = some ended → run' scanner = some ended

namespace Run.Extends

omit [DecidableEq κ] [KindText κ]

variable {run run' : Run κ α} {next next' : α → Run κ β}

/-- A run comes to its own end. -/
theorem refl (run : Run κ α) : run.Extends run := fun _ _ h => h

/-- Sequences come to the same end if their parts do. -/
theorem bind (h : run.Extends run') (hnext : ∀ value, (next value).Extends (next' value)) :
    (run >>= next).Extends (run' >>= next') := by
  intro scanner ended hended
  cases hrun : run scanner with
  | none =>
      rw [bind_apply, hrun] at hended
      cases hended
  | some first =>
      obtain ⟨result, log⟩ := first
      cases result with
      | error fault after =>
          rw [bind_of_error hrun] at hended
          rw [bind_of_error (h _ _ hrun), hended]
      | ok value after =>
          rw [bind_of_ok hrun] at hended
          obtain ⟨second, hsecond, rfl⟩ := Option.map_eq_some_iff.1 hended
          rw [bind_of_ok (h _ _ hrun), hnext value _ _ hsecond]
          rfl

/-- What comes of runs is the same if they come to the same end. -/
theorem attempt (h : run.Extends run') : run.attempt.Extends run'.attempt := by
  intro scanner ended hended
  obtain ⟨first, hfirst, rfl⟩ := Option.map_eq_some_iff.1 hended
  rw [Run.attempt, h scanner first hfirst]
  rfl

/-- Operators are applied with the same end if the actions come to the same. -/
theorem apply (symbol : String) (h : run.Extends run') :
    (Run.apply symbol run).Extends (Run.apply symbol run') := by
  intro scanner ended hended
  obtain ⟨first, hfirst, rfl⟩ := Option.map_eq_some_iff.1 hended
  rw [Run.apply, h scanner first hfirst]
  rfl

/-- A loop that may go around once more comes to the same end. -/
theorem rounds {step step' : α → Run κ (Option α)} (h : ∀ value, (step value).Extends (step' value))
    (count : Nat) (value : α) :
    (Run.rounds step count value).Extends (Run.rounds step' (count + 1) value) := by
  induction count generalizing value with
  | zero => exact fun _ _ hended => nomatch hended
  | succ count ih =>
      refine (h value).bind fun reached? => ?_
      cases reached? with
      | none => exact .refl _
      | some reached => exact ih reached

end Run.Extends

/-- A script is followed to the same end if the expressions inside are parsed to the same. -/
theorem Script.follow_extends {parser parser' : γ → Limit → Run κ ρ}
    (h : ∀ context limit, (parser context limit).Extends (parser' context limit))
    (script : Script γ κ ρ) : (script.follow parser).Extends (script.follow parser') := by
  induction script with
  | give | raise => exact .refl _
  | inspect next ih => exact fun scanner => ih scanner scanner
  | ask request next ih => exact (Run.Extends.refl _).bind ih
  | parse context limit next ih => exact (h context limit).attempt.bind ih

namespace Scripts

variable {scripts : Scripts γ κ ρ} {grammar : Grammar γ κ ρ} {parser parser' : γ → Limit → Run κ ρ}

section

variable (h : ∀ context limit, (parser context limit).Extends (parser' context limit))

include h

/-- An operand is parsed to the same end if the expressions inside are. -/
theorem runOperand_extends (context : γ) :
    (scripts.runOperand grammar parser context).Extends
      (scripts.runOperand grammar parser' context) := by
  refine (Run.Extends.refl _).bind fun token => ?_
  cases grammar.before.lookup token.text with
  | none => exact Script.follow_extends h _
  | some row =>
      exact (Run.Extends.refl _).bind fun symbol => (h _ _).bind fun inner =>
        .apply _ (Script.follow_extends h _)

/-- A round comes to the same end if the expressions inside do. -/
theorem runExtend_extends (context : γ) (limit : Limit) (left : ρ) :
    (scripts.runExtend grammar parser context limit left).Extends
      (scripts.runExtend grammar parser' context limit left) := by
  refine (Run.Extends.refl _).bind fun token => ?_
  cases grammar.tail.lookup token.text with
  | none => exact .refl _
  | some row =>
      simp only
      split
      · refine (Run.Extends.refl _).bind fun symbol => ?_
        cases row.action with
        | after combine =>
            exact (Run.Extends.apply _ (Script.follow_extends h _)).bind fun _ => .refl _
        | between right combine =>
            exact (h _ _).bind fun second =>
              (Run.Extends.apply _ (Script.follow_extends h _)).bind fun _ => .refl _
      · exact .refl _

end

/-- Parsing with more fuel comes to the same end. -/
theorem parse_extends (fuel : Nat) (context : γ) (limit : Limit) :
    (scripts.parse grammar fuel context limit).Extends
      (scripts.parse grammar (fuel + 1) context limit) := by
  induction fuel generalizing context limit with
  | zero => exact fun _ _ hended => nomatch hended
  | succ fuel ih =>
      exact (runOperand_extends ih context).bind fun first =>
        .rounds (runExtend_extends ih context limit) _ first

/-- Parsing comes to one end at most, however much fuel there is. -/
theorem parse_of_le {fuel more : Nat} (hle : fuel ≤ more) {context : γ} {limit : Limit}
    {scanner : Scanner κ} {ended : EStateM.Result Fault (Scanner κ) ρ × List Event}
    (h : scripts.parse grammar fuel context limit scanner = some ended) :
    scripts.parse grammar more context limit scanner = some ended := by
  induction hle with
  | refl => exact h
  | step _ ih => exact parse_extends _ context limit scanner ended ih

end Scripts

end Parlance.Precedence
