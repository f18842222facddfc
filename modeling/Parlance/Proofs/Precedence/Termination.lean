import Parlance.Kind
import Parlance.Proofs.Precedence.Engine
import Parlance.Proofs.Precedence.Scripts
import Parlance.Proofs.Scanner.Forward

/-!
# Parsing comes to an end

The actions of a grammar call its parser again, with any limit they like, so limits do not bound the
recursion. Tokens do: a symbol is consumed before an action is called, and the scripts for operands
are taken to wait for a token before they have anything parsed inside. `Scripts.parse_terminates`
says that the parser then comes to its end without the rule that refuses to go on where no token has
been used up, and that it consumes a token for each operator that it applies.

The two are followed side by side. `Traces` says that a run comes to the end that an operation comes
to, with a record that accounts for the tokens in between; every construct of the parser keeps it.
-/

namespace Parlance.Precedence

variable {γ κ ρ α β : Type} {grammar : Grammar γ κ ρ} {others more : Nat}
  {start middle final : Scanner κ}

/-! ## What is recorded -/

/-- Some operator has this symbol. -/
def Grammar.Registers (grammar : Grammar γ κ ρ) (symbol : String) : Prop :=
  (grammar.before.lookup symbol).isSome ∨ (grammar.tail.lookup symbol).isSome

/-- What a record tells of the way between two scanners: no more operators have been applied than
tokens consumed, but for so many others, and the parser has been refused no symbol, unless the text
of the end is one. -/
structure Accounts (grammar : Grammar γ κ ρ) (others : Nat) (start final : Scanner κ)
    (log : List Event) : Prop where
  passes : start.Passes final
  applied : log.countP Event.applies + final.ahead.length ≤ start.ahead.length + others
  refused : ¬ grammar.Registers start.endText → ∀ fault, .refused fault ∉ log

namespace Accounts

/-- What accounts for a record also does if there may be more operators applied. -/
theorem mono {log : List Event} (h : Accounts grammar others start final log)
    (hle : others ≤ more) : Accounts grammar more start final log :=
  ⟨h.passes, Nat.le_trans h.applied (Nat.add_le_add_left hle _), h.refused⟩

/-- Where nothing is recorded, it is enough that tokens are passed over. -/
theorem nil (h : start.Passes final) : Accounts grammar others start final [] where
  passes := h
  applied := by
    have hle := h.suffix.length_le
    simp only [List.countP_nil]
    omega
  refused := fun _ _ => List.not_mem_nil

/-- Records of what happens one after the other are put together. -/
theorem trans {first second : List Event} (hfirst : Accounts grammar others start middle first)
    (hsecond : Accounts grammar more middle final second) :
    Accounts grammar (others + more) start final (first ++ second) where
  passes := hfirst.passes.trans hsecond.passes
  applied := by
    have h := hfirst.applied
    have h' := hsecond.applied
    rw [List.countP_append]
    omega
  refused hend fault := by
    rw [List.mem_append, not_or]
    exact ⟨hfirst.refused hend fault,
      hsecond.refused (hfirst.passes.sameEnd.endText ▸ hend) fault⟩

end Accounts

/-- The run comes to the same end as the operation, and its record accounts for it. -/
def Traces (grammar : Grammar γ κ ρ) (others : Nat) (run : Run κ α) (operation : Scan κ α)
    (start : Scanner κ) : Prop :=
  ∃ log, run start = some (operation start, log) ∧
    Accounts grammar others start (Result.last (operation start)) log

namespace Traces

variable {run : Run κ α} {operation : Scan κ α} {next : α → Run κ β} {next' : α → Scan κ β}

/-- Only what the operation does from here is traced. -/
theorem congr {operation' : Scan κ α} (h : Traces grammar others run operation start)
    (hsame : operation' start = operation start) : Traces grammar others run operation' start := by
  rw [Traces, hsame]
  exact h

/-- What is traced passes over tokens. -/
theorem length_le {value : α} (h : Traces grammar others run operation start)
    (hresult : operation start = .ok value final) : final.ahead.length ≤ start.ahead.length := by
  obtain ⟨log, -, haccounts⟩ := h
  rw [hresult] at haccounts
  exact haccounts.passes.suffix.length_le

/-- An operation that goes forward is traced with nothing recorded. -/
theorem scan (h : Scanner.Forward operation) :
    Traces grammar others (Run.scan operation) operation start :=
  ⟨[], rfl, .nil (h start)⟩

/-- A value is traced. -/
theorem pure (value : α) : Traces grammar others (pure value : Run κ α) (pure value) start :=
  ⟨[], rfl, .nil (.refl start)⟩

/-- A sequence is traced if its parts are. -/
theorem bind_add (h : Traces grammar others run operation start)
    (hnext : ∀ value middle, operation start = .ok value middle → start.Passes middle →
      Traces grammar more (next value) (next' value) middle) :
    Traces grammar (others + more) (run >>= next) (operation >>= next') start := by
  obtain ⟨log, hrun, haccounts⟩ := h
  rw [Traces, Rule.bind_apply]
  cases hresult : operation start with
  | error fault after =>
      rw [hresult] at hrun haccounts
      exact ⟨log, Run.bind_of_error hrun next, haccounts.mono (Nat.le_add_right _ _)⟩
  | ok value middle =>
      rw [hresult] at hrun haccounts
      obtain ⟨second, hsecond, hsecondAccounts⟩ := hnext value middle hresult haccounts.passes
      refine ⟨log ++ second, ?_, haccounts.trans hsecondAccounts⟩
      rw [Run.bind_of_ok hrun, hsecond]
      rfl

/-- What is done after a part that accounts for itself is traced as it is. -/
theorem bind (h : Traces grammar 0 run operation start)
    (hnext : ∀ value middle, operation start = .ok value middle → start.Passes middle →
      Traces grammar more (next value) (next' value) middle) :
    Traces grammar more (run >>= next) (operation >>= next') start :=
  Nat.zero_add more ▸ h.bind_add hnext

/-- What is done with the value of a run changes nothing. -/
theorem map (h : Traces grammar others run operation start) (make : α → β) :
    Traces grammar others (run >>= fun value => Pure.pure (make value))
      (operation >>= fun value => Pure.pure (make value)) start :=
  h.bind_add fun value _ _ _ => (pure (make value) : Traces grammar 0 _ _ _)

/-- What comes of a traced run is traced. -/
theorem attempt (h : Traces grammar others run operation start) :
    Traces grammar others run.attempt (Precedence.attempt operation) start := by
  obtain ⟨log, hrun, haccounts⟩ := h
  refine ⟨log, ?_, ?_⟩
  · rw [Run.attempt, hrun]
    rfl
  · unfold Precedence.attempt
    cases hresult : operation start <;> rwa [hresult] at haccounts

/-- Having an operator applied counts as one. -/
theorem apply (symbol : String) (h : Traces grammar others run operation start) :
    Traces grammar (others + 1) (Run.apply symbol run) operation start := by
  obtain ⟨log, hrun, haccounts⟩ := h
  refine ⟨.applied symbol :: log, ?_, haccounts.passes, ?_, fun hend fault => ?_⟩
  · rw [Run.apply, hrun]
    rfl
  · rw [List.countP_cons_of_pos rfl]
    have happlied := haccounts.applied
    omega
  · simpa using haccounts.refused hend fault

variable [DecidableEq κ]

/-- The symbol of an operator is consumed, which makes up for one operator applied after it. -/
theorem consume {token : Token κ} {next : String → Run κ β} {next' : String → Scan κ β}
    (hupcoming : start.upcoming = .ok token) (hsymbol : grammar.Registers token.text)
    (hnext : ∀ taken, start.Takes token taken →
      Traces grammar (others + 1) (next token.text) (next' token.text) taken) :
    Traces grammar others (Run.consume >>= next) (Scanner.consume >>= next') start := by
  have hconsume := Scanner.consume_eq start
  rw [Scanner.onNext_of_ok hupcoming, Scanner.consuming] at hconsume
  by_cases hends : start.Ends token
  · rw [if_pos hends] at hconsume
    rw [Traces, Rule.bind_apply, hconsume]
    refine ⟨_, Run.bind_of_error (Run.consume_of_error hconsume) next, .look start, ?_,
      fun hend => ?_⟩
    · simp [Event.applies, Result.last]
    · exact (hend (hends.2 ▸ hsymbol)).elim
  · have htakes : start.Takes token start.advance := Scanner.takes_iff.2 ⟨hupcoming, hends, rfl⟩
    rw [if_neg hends] at hconsume
    obtain ⟨log, hlog, haccounts⟩ := hnext start.advance htakes
    rw [Traces, Rule.bind_of_ok hconsume]
    refine ⟨.consumed token.text :: log, ?_, htakes.passes.trans haccounts.passes, ?_,
      fun hend fault => ?_⟩
    · rw [Run.bind_of_ok (Run.consume_of_ok hconsume), hlog]
      rfl
    · have happlied := haccounts.applied
      rw [List.countP_cons_of_neg (by simp [Event.applies]), htakes.ahead_eq, List.length_cons]
      omega
    · simpa using haccounts.refused (htakes.sameEnd.endText ▸ hend) fault

end Traces

/-! ## Scripts are followed -/

/-- Where fewer tokens lie ahead than so many, what a script has parsed in a run is what the action
that follows it has parsed. -/
def TracesParser (grammar : Grammar γ κ ρ) (count : Nat) (parser : γ → Limit → Run κ ρ)
    (reparse : Reparse γ κ ρ) : Prop :=
  ∀ context limit (later : Scanner κ), later.ahead.length < count →
    Traces grammar 0 (parser context limit) (reparse context limit) later

variable [DecidableEq κ] [KindText κ] {parser : γ → Limit → Run κ ρ} {reparse : Reparse γ κ ρ}
  {count : Nat}

/-- Where fewer tokens lie ahead, a script waits for nothing. -/
theorem Script.waits_of_lt (script : Script γ κ ρ) {scanner : Scanner κ}
    (h : scanner.ahead.length < count) : script.Waits count scanner := by
  induction script generalizing scanner with
  | give | raise => trivial
  | inspect next ih => exact ih scanner h
  | parse => exact h
  | ask request next ih =>
      intro answer after hanswer
      have hforward := forward_attempt (Scanner.perform_forward request) scanner
      rw [hanswer] at hforward
      exact ih answer (Nat.lt_of_le_of_lt hforward.suffix.length_le h)

/-- A script is followed as the action does that follows it, if the expressions inside are parsed
alike where fewer tokens lie ahead than so many, and it waits until then. -/
theorem Script.traces (hparser : TracesParser grammar count parser reparse)
    (script : Script γ κ ρ) {scanner : Scanner κ} (hwaits : script.Waits count scanner) :
    Traces grammar 0 (script.follow parser) (script.act reparse) scanner := by
  induction script generalizing scanner with
  | give value => exact .pure value
  | raise fault => exact .scan (.throw fault)
  | inspect next ih => exact ih scanner hwaits
  | ask request next ih =>
      have hask := forward_attempt (Scanner.perform_forward request)
      exact (Traces.scan hask).bind fun answer middle hanswer _ =>
        ih answer (hwaits answer middle hanswer)
  | parse context limit next ih =>
      refine (hparser context limit scanner hwaits).attempt.bind fun value middle _ hpasses => ?_
      exact ih value (waits_of_lt _ (Nat.lt_of_le_of_lt hpasses.suffix.length_le hwaits))

/-! ## One round of the parser -/

variable {heads : List Head} {scripts : Scripts γ κ ρ}

section

variable {context : γ} {limit : Limit}

/-- An operand is parsed in a run as it is by the parser. -/
theorem Scripts.operand_traces (hgives : scripts.Gives heads grammar) (hwait : scripts.Wait)
    (hparser : TracesParser grammar start.ahead.length parser reparse) :
    Traces grammar 0 (scripts.runOperand grammar parser context)
      (grammar.operand reparse context) start := by
  refine Traces.bind (.scan Scanner.current_forward) fun token middle hcurrent hpasses => ?_
  obtain ⟨hupcoming, rfl⟩ := Scanner.current_ok_iff.1 hcurrent
  rw [← Scanner.look_upcoming] at hupcoming
  rw [← Scanner.look_ahead] at hparser
  cases hrow : grammar.before.lookup token.text with
  | none =>
      rw [hgives.primary]
      exact Script.traces hparser _ (hwait context start.look)
  | some row =>
      have haction := (hgives.before token.text row hrow).2
      refine .consume hupcoming (.inl (by rw [hrow]; rfl)) fun taken htakes => ?_
      have hfewer : taken.ahead.length < start.look.ahead.length := by simpa using htakes.left_lt
      refine (hparser _ _ taken hfewer).bind fun inner after _ hpassed => ?_
      simp only [haction]
      exact .apply _ (Script.traces hparser _ (Script.waits_of_lt _
        (Nat.lt_of_le_of_lt hpassed.suffix.length_le hfewer)))

/-- A round of the loop goes in a run as it does in the parser. -/
theorem Scripts.extend_traces (hgives : scripts.Gives heads grammar)
    (hparser : TracesParser grammar count parser reparse)
    (hcount : start.ahead.length ≤ count) (left : ρ) :
    Traces grammar 0 (scripts.runExtend grammar parser context limit left)
      (grammar.extend reparse context limit left) start := by
  refine Traces.bind (.scan Scanner.current_forward) fun token middle hcurrent hpasses => ?_
  obtain ⟨hupcoming, rfl⟩ := Scanner.current_ok_iff.1 hcurrent
  rw [← Scanner.look_upcoming] at hupcoming
  cases hrow : grammar.tail.lookup token.text with
  | none => exact .pure none
  | some row =>
      simp only
      split
      · have haction := (hgives.tail token.text row hrow).2
        refine .consume hupcoming (.inr (by rw [hrow]; rfl)) fun taken htakes => ?_
        have hfewer : taken.ahead.length < count := by
          have hlt : taken.ahead.length < start.look.ahead.length := by simpa using htakes.left_lt
          rw [Scanner.look_ahead] at hlt
          omega
        cases hkind : row.action with
        | after combine =>
            simp only [hkind] at haction
            subst haction
            exact .map (.apply _ (Script.traces hparser _ (Script.waits_of_lt _ hfewer))) _
        | between right combine =>
            simp only [hkind] at haction
            subst haction
            refine (hparser _ _ taken hfewer).bind fun second after _ hpassed => ?_
            exact .map (.apply _ (Script.traces hparser _ (Script.waits_of_lt _
              (Nat.lt_of_le_of_lt hpassed.suffix.length_le hfewer)))) _
      · exact .pure none

/-- A round that applies an operator uses up a token. -/
theorem Scripts.extend_lt {left reached : ρ} {after : Scanner κ}
    (hgives : scripts.Gives heads grammar)
    (hparser : TracesParser grammar count parser reparse)
    (hcount : start.ahead.length ≤ count)
    (h : grammar.extend reparse context limit left start = .ok (some reached) after) :
    after.ahead.length < start.ahead.length := by
  obtain ⟨token, row, taken, htakes, hrow, -, h⟩ := Grammar.extend_some_iff.1 h
  have hlt : taken.ahead.length < start.ahead.length := by simpa using htakes.left_lt
  have haction := (hgives.tail token.text row hrow).2
  have hfewer := Nat.lt_of_lt_of_le hlt hcount
  cases hkind : row.action with
  | after combine =>
      simp only [hkind] at haction h
      subst haction
      have hscript := Script.traces hparser (scripts.unary row.head context token.text left)
        (Script.waits_of_lt _ hfewer)
      exact Nat.lt_of_le_of_lt (hscript.length_le h) hlt
  | between right combine =>
      simp only [hkind] at haction h
      subst haction
      obtain ⟨second, middle, hsecond, h⟩ := h
      have hle := (hparser _ _ taken hfewer).length_le hsecond
      have hscript := Script.traces hparser
        (scripts.binary row.head context token.text left second)
        (Script.waits_of_lt _ (Nat.lt_of_le_of_lt hle hfewer))
      exact Nat.lt_of_le_of_lt (Nat.le_trans (hscript.length_le h) hle) hlt

end

/-! ## The parser -/

omit [DecidableEq κ] [KindText κ] in
/-- A loop is traced if its rounds are, and if those that go on use up tokens. -/
theorem Traces.rounds {step : α → Run κ (Option α)} {step' : α → Scan κ (Option α)}
    (hstep : ∀ value later, later.ahead.length ≤ count →
      Traces grammar 0 (step value) (step' value) later)
    (hshrinks : ∀ value later reached after, later.ahead.length ≤ count →
      step' value later = .ok (some reached) after → after.ahead.length < later.ahead.length)
    {fuel : Nat} (value : α) (hcount : start.ahead.length ≤ count)
    (hfuel : start.ahead.length < fuel) :
    Traces grammar 0 (Run.rounds step fuel value) (Rule.iterate step' value) start := by
  induction fuel generalizing value start with
  | zero => omega
  | succ fuel ih =>
      refine Traces.congr ?_ (Rule.iterate_eq_bind step' value start)
      refine (hstep value start hcount).bind fun reached? after hreached _ => ?_
      cases reached? with
      | none => exact .pure value
      | some reached =>
          have hlt := hshrinks value start reached after hcount hreached
          have hleft : Supply.left after < Supply.left start := by simpa using hlt
          exact (ih reached (by omega) (by omega)).congr (Rule.below_of_lt hleft _)

/-- The parser is run without the rule that refuses to go on where no token has been used up, by
induction on the fuel: the expressions inside are parsed with fewer tokens, and with less fuel. -/
theorem Scripts.parse_traces (hgives : scripts.Gives heads grammar) (hwait : scripts.Wait)
    {fuel : Nat} (context : γ) (limit : Limit) (hfuel : start.ahead.length < fuel) :
    Traces grammar 0 (scripts.parse grammar fuel context limit) (grammar.parse context limit)
      start := by
  induction fuel generalizing start context limit with
  | zero => omega
  | succ fuel ih =>
      have hparser : TracesParser grammar start.ahead.length (scripts.parse grammar fuel)
          (grammar.within start) := fun context limit later hlt =>
        (ih context limit (by omega)).congr (Grammar.within_of_lt hlt context limit)
      refine Traces.congr ?_ (grammar.parse_eq context limit start)
      refine (operand_traces hgives hwait hparser).bind fun first middle _ hpasses => ?_
      have hle := hpasses.suffix.length_le
      exact .rounds (fun value later hlater => extend_traces hgives hparser hlater value)
        (fun value later reached after hlater => extend_lt hgives hparser hlater) first hle
        (by omega)

/-- Parsing comes to an end, in a value or a failure, without the rule that refuses to go on where
no token has been used up: fuel for one call inside another, and for one round of a loop, more than
there are tokens ahead is enough. No more operators are applied on the way, in this call and in all
those inside it, than tokens are consumed; and unless the text of the end is one of the symbols, the
parser itself is never refused a token that it consumes. -/
theorem Scripts.parse_terminates
    (hdefine : Grammar.define (heads.map scripts.entry) scripts.operand = .ok grammar)
    (hwait : scripts.Wait) (context : γ) (limit : Limit) (start : Scanner κ) :
    ∃ log taken,
      (∀ fuel, start.ahead.length < fuel →
        scripts.parse grammar fuel context limit start =
          some (grammar.parse context limit start, log)) ∧
      start.ahead = taken ++ (Result.last (grammar.parse context limit start)).ahead ∧
      log.countP Event.applies ≤ taken.length ∧
      ((∀ head ∈ heads, start.endText ∉ head.symbols) → ∀ fault, .refused fault ∉ log) := by
  have hgives := gives_of_define hdefine
  obtain ⟨log, hrun, haccounts⟩ :=
    parse_traces hgives hwait context limit (Nat.lt_succ_self start.ahead.length)
  obtain ⟨taken, htaken⟩ := haccounts.passes.suffix
  refine ⟨log, taken, fun fuel hfuel => parse_of_le hfuel hrun, htaken.symm, ?_,
    fun hend => haccounts.refused ?_⟩
  · have happlied := haccounts.applied
    rw [← htaken, List.length_append] at happlied
    omega
  · rintro (hbefore | htail)
    · obtain ⟨row, hrow⟩ := Option.isSome_iff_exists.1 hbefore
      obtain ⟨head, hhead, hsymbol⟩ := (hgives.before _ row hrow).1
      exact hend head hhead hsymbol
    · obtain ⟨row, hrow⟩ := Option.isSome_iff_exists.1 htail
      obtain ⟨head, hhead, hsymbol⟩ := (hgives.tail _ row hrow).1
      exact hend head hhead hsymbol

/-! ## Operands in parentheses -/

/-- An operand is an expression in parentheses, or the text of any other token. -/
def Script.parenthesized (context : γ) : Script γ κ String :=
  .ask (.tryConsume "(") fun
    | .error fault => .raise fault
    | .ok (.flag true) => .parse context .all fun
      | .error fault => .raise fault
      | .ok inner => .ask (.consumeText ")" "") fun
        | .error fault => .raise fault
        | .ok _ => .give inner
    | .ok _ => .ask .consume fun
      | .error fault => .raise fault
      | .ok (.text text) => .give text
      | .ok _ => .give ""

/-- The expression in parentheses is parsed after the first of them has been consumed. -/
theorem Script.parenthesized_waits (context : γ) (scanner : Scanner κ) :
    (parenthesized context).Waits scanner.ahead.length scanner := by
  intro answer after hanswer
  match answer with
  | .error fault => trivial
  | .ok (.flag true) =>
      obtain ⟨found, hfound, hflag⟩ := Rule.map_ok_iff.1 (attempt_ok_iff.1 hanswer)
      cases hflag
      obtain ⟨token, htakes, -⟩ := Scanner.tryConsume_true_iff.1 hfound
      show after.ahead.length < scanner.ahead.length
      simpa using htakes.left_lt
  | .ok (.flag false) | .ok (.token _) | .ok (.text _) | .ok (.error _) =>
      intro answer after hanswer
      match answer with
      | .error fault => trivial
      | .ok (.text _) => trivial
      | .ok (.flag _) | .ok (.token _) | .ok (.error _) => trivial

/-- The operators apply to texts by writing them down with their symbols. -/
def Scripts.written : Scripts γ κ String where
  primary := Script.parenthesized
  unary head _ symbol operand :=
    .give (if head.fixity = .before then symbol ++ operand else operand ++ symbol)
  binary _ _ symbol left right := .give (left ++ symbol ++ right)

/-- An operator before its operand, one between operands and one after its operand, and an
expression in parentheses. -/
theorem Scripts.parse_terminates_parentheses :
    let heads : List Head := [⟨.before, 2, ["-"]⟩, ⟨.between, 4, ["+"]⟩, ⟨.after, 0, ["!"]⟩]
    let scripts : Scripts Unit Kind String := .written
    let token (text : String) : Token Kind := ⟨.start, .text "symbol", text⟩
    let start := Scanner.ofTokens (["-", "(", "a", "+", "b", "!", ")"].map token) none
      (Kind.text "end")
    ∃ grammar, Grammar.define (heads.map scripts.entry) scripts.operand = .ok grammar ∧
      ∃ final log, grammar.parse () .all start = .ok "-a+b!" final ∧ final.ahead = [] ∧
        scripts.parse grammar 8 () .all start = some (.ok "-a+b!" final, log) ∧
        log.countP Event.applies = 3 ∧ ∀ fault, .refused fault ∉ log := by
  intro heads scripts token start
  obtain ⟨grammar, hdefine⟩ : ∃ grammar,
      Grammar.define (heads.map scripts.entry) scripts.operand = .ok grammar := ⟨_, rfl⟩
  have htest : (scripts.parse grammar 8 () .all start).any (fun ended =>
      match ended.1 with
      | .ok text final =>
        decide (text = "-a+b!" ∧ ended.2.countP Event.applies = 3 ∧ final.ahead = [])
      | .error _ _ => false) = true := by
    cases hdefine
    decide +kernel
  obtain ⟨log, taken, hruns, -, -, hrefused⟩ :=
    parse_terminates hdefine Script.parenthesized_waits () .all start
  have hrun := hruns 8 (by decide)
  rw [hrun] at htest
  cases hresult : grammar.parse () .all start with
  | error fault final =>
      rw [hresult] at htest
      cases htest
  | ok text final =>
      rw [hresult] at htest hrun
      obtain ⟨rfl, hcount, hahead⟩ := of_decide_eq_true htest
      exact ⟨grammar, hdefine, final, log, hresult, hahead, hrun, hcount, hrefused (by decide)⟩

end Parlance.Precedence
