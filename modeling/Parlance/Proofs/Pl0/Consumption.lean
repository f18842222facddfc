import Parlance.Proofs.Pl0.Placement
import Parlance.Proofs.Pl0.Stopping

/-!
# What the parser consumes

The parser consumes the tokens of a text one after the other and looks at none but the current one.
Its trace shows those that it has consumed: all but the one for the end if the text is a program,
all that there are if the lexer fails, and otherwise those before the token that is blamed, unless a
block declares a name twice. So what comes after the blamed token does not matter.
-/

namespace Parlance

namespace Pl0

open Scanner Parse

/-! ## Parsing what a scanner holds -/

/-- The program that the tokens of a scanner are, or the reason why they are none, and the scanner
after that. -/
def parseFrom (scanner : Scanner Kind) : Except Fault Program × Scanner Kind :=
  match program ⟨scanner, {}⟩ with
  | .ok parsed after => (.ok parsed, after.scanner)
  | .error fault after => (.error fault, after.scanner)

/-- A text is parsed from a scanner over its tokens. -/
theorem parseTraced_eq (text : String) (tracing : Bool) :
    parseTraced text tracing = parseFrom (.ofText lexer text tracing) := rfl

/-- Parsing from two scanners, the source of the first of which is stopped, comes to the same end,
with the same tokens left before the stop, and a failure has to do with the tokens that are left. -/
structure ParsesAlike (stop : Stop Kind) : Prop where
  outcome : (parseFrom stop.second).1 = (parseFrom stop.first).1
  ahead : (parseFrom stop.second).2.ahead = (parseFrom stop.first).2.ahead ++ stop.rest
  explains : ∀ fault, (parseFrom stop.second).1 = .error fault →
    (parseFrom stop.second).2.Explains stop.exempt fault

/-- Parsing from the first scanner has failed because its source is stopped, with all its tokens
consumed, and parsing from the second has consumed them as well. -/
structure ParseStopped (stop : Stop Kind) : Prop where
  outcome : (parseFrom stop.first).1 = .error stop.fault
  progress : Progress stop.first (parseFrom stop.first).2
  ahead : (parseFrom stop.first).2.ahead = []
  beyond : (parseFrom stop.second).2.ahead <:+ stop.rest
  early : ¬ (stop.rest = [] ∧ stop.second.ending = some stop.fault)

/-- From two scanners with nothing in their buffers, the source of the first of which is stopped,
parsing comes to the same end, unless it fails from the first one because of the stop. -/
theorem parseFrom_stop (stop : Stop Kind) (hexempt : ∀ fault, Redeclares fault → stop.exempt fault)
    (hfirst : stop.first.buffer = []) (hsecond : stop.second.buffer = []) :
    Progress stop.second (parseFrom stop.second).2 ∧ (ParsesAlike stop ∨ ParseStopped stop) := by
  have hstart : stop.sessions.together ⟨stop.first, {}⟩ ⟨stop.second, {}⟩ :=
    ⟨rfl, .refl (by simp [hfirst]), .refl (by simp [hsecond]), stop.ahead⟩
  have hends := (Stop.holds_program hexempt).ends _ _ hstart
  have hparse := parseFrom.eq_1 stop.first
  have hparse' := parseFrom.eq_1 stop.second
  generalize program ⟨stop.first, {}⟩ = result, program ⟨stop.second, {}⟩ = result'
    at hends hparse hparse'
  cases hends with
  | ok htogether =>
      obtain ⟨-, -, hprogress, hahead⟩ := htogether
      refine ⟨by rw [hparse']; exact hprogress, .inl ⟨?_, ?_, ?_⟩⟩ <;> rw [hparse']
      · rw [hparse]
      · rw [hparse]; exact hahead
      · nofun
  | error hended =>
      obtain ⟨⟨-, hprogress, hahead⟩, hexplains⟩ := hended
      refine ⟨by rw [hparse']; exact hprogress, .inl ⟨?_, ?_, ?_⟩⟩ <;> rw [hparse']
      · rw [hparse]
      · rw [hparse]; exact hahead
      · rintro fault ⟨⟩
        exact hexplains
  | parted hparted =>
      obtain ⟨rfl, hprogress, hempty, hprogress', hsuffix, hnot⟩ := hparted
      have hafter : (parseFrom stop.second).2 = (Result.last result').scanner := by
        rw [hparse']
        cases result' <;> rfl
      rw [← hafter] at hprogress' hsuffix
      refine ⟨hprogress', .inr ⟨?_, ?_, ?_, hsuffix, hnot⟩⟩ <;> rw [hparse]
      · exact hprogress
      · exact hempty

/-! ## Stopping a text -/

variable {text : String} {tracing : Bool}

/-- A scanner over some tokens after which the source fails. -/
def stopped (front : Tokens) (fault : Fault) (tracing : Bool := false) : Scanner Kind :=
  .ofTokens front (some fault) lexer.endKind "" tracing

/-- The source of a text is stopped after some of its tokens. -/
def stopOfText {front rest : Tokens} (h : (lexer.tokenize text).tokens = front ++ rest)
    (fault : Fault) (tracing tracing' : Bool) : Stop Kind where
  first := stopped front fault tracing
  second := .ofText lexer text tracing'
  rest
  fault
  exempt := Redeclares
  endKind := rfl
  endText := rfl
  ahead := h
  ending := rfl

/-- The fault of the lexer, or any fault if it has not failed. -/
def faultOf (text : String) : Fault :=
  ((lexer.tokenize text).failure.map (·.toFault)).getD .stalled

/-- A scanner over all tokens of a text, after which the source fails in any case. -/
def stoppedAfter (text : String) : Scanner Kind :=
  stopped (lexer.tokenize text).tokens (faultOf text)

/-- Parsing a text, whether it is traced or not, has the outcome of parsing its tokens, for it does
not go on after them; what it fails for has to do with the tokens that are left. -/
theorem parseTraced_total (text : String) (tracing : Bool) :
    Progress (.ofText lexer text tracing) (parseTraced text tracing).2 ∧
      (parseTraced text tracing).1 = (parseFrom (stoppedAfter text)).1 ∧
      (parseTraced text tracing).2.ahead = (parseFrom (stoppedAfter text)).2.ahead ∧
      ∀ fault, (parseTraced text tracing).1 = .error fault →
        (parseTraced text tracing).2.Explains Redeclares fault := by
  obtain ⟨hprogress, hsame | hparted⟩ := parseFrom_stop
    (stopOfText (List.append_nil _).symm (faultOf text) false tracing) (fun _ => id) rfl rfl
  · exact ⟨hprogress, hsame.outcome, hsame.ahead.trans (List.append_nil _), hsame.explains⟩
  · obtain ⟨opening, pieces, -, -, hnone, -⟩ := tokenize_inner text
    cases hfailure : (lexer.tokenize text).failure with
    | some failure =>
        refine (hparted.early ⟨rfl, ?_⟩).elim
        show (lexer.tokenize text).failure.map _ = some (faultOf text)
        rw [faultOf, hfailure]
        rfl
    -- The token for the end cannot have been consumed.
    | none =>
        obtain ⟨closing, hkind, htext, htokens⟩ := hnone hfailure
        obtain ⟨taken, htaken, hends, -⟩ := hparted.progress.taken
        have htaken : (lexer.tokenize text).tokens = taken := by
          rw [hparted.ahead] at htaken
          exact htaken.trans (List.append_nil taken)
        refine (hends closing ?_ ⟨hkind, htext⟩).elim
        rw [← htaken, htokens]
        simp

/-- Tracing changes nothing about the outcome. -/
theorem parseTraced_fst (text : String) (tracing : Bool) :
    (parseTraced text tracing).1 = parseProgram text :=
  (parseTraced_total text tracing).2.1.trans (parseTraced_total text false).2.1.symm

/-- Tracing changes nothing about what is left. -/
theorem parseTraced_ahead (text : String) (tracing : Bool) :
    (parseTraced text tracing).2.ahead = (parseTraced text false).2.ahead :=
  (parseTraced_total text tracing).2.2.1.trans (parseTraced_total text false).2.2.1.symm

/-- Parsing a text does not look at a token before those that come before it have been consumed.
With a source that fails in place of the tokens after the first so many, the parser has consumed
these, and holds nothing, when it fails for that; or it comes to the same end, with the others
still left. -/
def LooksNoFurther (text : String) (tracing : Bool) (count : Nat) (fault : Fault) : Prop :=
  let tokens := (lexer.tokenize text).tokens
  let whole := (parseTraced text tracing).2
  let (outcome, cut) := parseFrom (.ofTokens (tokens.take count) (some fault) .stop "" tracing)
  (outcome = .error fault ∧ cut.ahead = [] ∧ whole.ahead <:+ tokens.drop count) ∨
    (outcome = parseProgram text ∧ whole.ahead = cut.ahead ++ tokens.drop count)

/-- Parsing never looks further than the current token. -/
theorem looksNoFurther (text : String) (tracing : Bool) (count : Nat) (fault : Fault) :
    LooksNoFurther text tracing count fault := by
  obtain ⟨-, hsame | hparted⟩ := parseFrom_stop
    (stopOfText (List.take_append_drop count _).symm fault tracing tracing) (fun _ => id) rfl rfl
  · exact .inr ⟨hsame.outcome.symm.trans (parseTraced_fst text tracing), hsame.ahead⟩
  · exact .inl ⟨hparted.outcome, hparted.ahead, hparted.beyond⟩

/-- A text that has the same tokens, up to the one that comes next when a text is refused, is
refused with the same error. -/
theorem parseProgram_congr {other : String} {consumed rest : Tokens} {token : Token Kind}
    {fault : Fault} (hfault : parseProgram text = .error fault)
    (htokens : (lexer.tokenize text).tokens = consumed ++ token :: rest)
    (hleft : (parseTraced text false).2.ahead = token :: rest)
    (hother : consumed ++ [token] <+: (lexer.tokenize other).tokens) :
    parseProgram other = .error fault := by
  obtain ⟨others, hothers⟩ := hother
  -- Both texts are stopped behind the token.
  have hfront : (lexer.tokenize text).tokens = (consumed ++ [token]) ++ rest := by simp [htokens]
  obtain ⟨hstopped, hahead⟩ :
      (parseFrom (stopped (consumed ++ [token]) .stalled)).1 = .error fault ∧
        (parseFrom (stopped (consumed ++ [token]) .stalled)).2.ahead = [token] := by
    obtain ⟨-, hsame | hparted⟩ :=
      parseFrom_stop (stopOfText hfront .stalled false false) (fun _ => id) rfl rfl
    · refine ⟨hsame.outcome.symm.trans hfault, ?_⟩
      have hboth : [token] ++ rest = _ ++ rest := hleft.symm.trans hsame.ahead
      exact (List.append_cancel_right hboth).symm
    · have hle : (token :: rest).length ≤ rest.length := by
        rw [← hleft]
        exact hparted.beyond.length_le
      rw [List.length_cons] at hle
      omega
  obtain ⟨-, hsame | hparted⟩ :=
    parseFrom_stop (stopOfText hothers.symm .stalled false false) (fun _ => id) rfl rfl
  · exact hsame.outcome.trans hstopped
  · cases hahead.symm.trans hparted.ahead

/-! ## Why a text is refused -/

/-- Why a text is refused, with the tokens that are left: the first of them is blamed, or the lexer
has failed in place of another one, or a rule on names is broken by a token of the text. -/
inductive Refusal (source : Source) (left : Tokens) : Fault → Prop where
  | grammar {category token rest message} :
      category = .unexpectedToken ∨ category = .general → left = token :: rest →
      token ∈ (lexer.tokenize source.text).tokens →
      Refusal source left (.parse (.ofToken category token message))
  | character {error offset} : error.category = .lexical →
      (lexer.tokenize source.text).failure.map (·.toFault) = some (.parse error) → left = [] →
      source.Shows offset error.position error.text → Refusal source left (.parse error)
  | name {error token} {violation : Violation} : error = .ofToken .semantic token violation.message →
      token ∈ (lexer.tokenize source.text).tokens → Refusal source left (.parse error)

/-- A text that is refused is refused for one of these reasons. -/
theorem refusal {source : Source} {fault : Fault} (h : parseProgram source.text = .error fault) :
    Refusal source (parseTraced source.text false).2.ahead fault := by
  obtain ⟨final, hrun⟩ := parseProgram_error_iff_program.1 h
  have hfinal : (parseTraced source.text false).2 = final.scanner := by
    rw [parseTraced_eq, parseFrom, show program ⟨.ofText lexer source.text false, {}⟩ = _ from hrun]
  obtain ⟨opening, consumed, -, htokens, hending, hblamed⟩ := CorrectPrefix.program_stops hrun
  rw [hfinal]
  cases hblamed with
  | stuck hcategory hahead =>
      exact .grammar hcategory hahead (by simp [htokens, hahead])
  | cut hahead hfault =>
      rw [hending] at hfault
      obtain ⟨error, offset, _, rfl, hcategory, -, -, hshows, -⟩ :=
        (tokenize_shows source).2 fault hfault
      exact .character hcategory hfault hahead hshows
  | @semantic error hcategory =>
      have hheeds := program_heeds (.ofText source.text) (ofText_amid source)
      rw [hrun] at hheeds
      obtain ⟨token, hmem, -, violation, -, herror⟩ := hheeds error rfl hcategory
      exact .name herror hmem

/-- The error of a text that is refused can be shown in it, whatever its source is called. -/
theorem parseProgram_shown {source : Source} {fault : Fault}
    (h : parseProgram source.text = .error fault) :
    ∃ error shown, fault = .parse error ∧ source.diagnosticOfError error = .ok shown := by
  cases refusal h with
  | @grammar category token rest message _ _ hmem =>
      obtain ⟨offset, hshows⟩ := shows_ofToken category message hmem
      obtain ⟨shown, hshown⟩ := hshows.diagnostic
      exact ⟨_, shown, rfl, hshown⟩
  | @character error offset _ _ _ hshows =>
      obtain ⟨shown, hshown⟩ := hshows.diagnostic
      exact ⟨error, shown, rfl, hshown⟩
  | @name error token violation herror hmem =>
      obtain ⟨offset, hshows⟩ := shows_ofToken .semantic violation.message hmem
      rw [← herror] at hshows
      obtain ⟨shown, hshown⟩ := hshows.diagnostic
      exact ⟨error, shown, rfl, hshown⟩

/-! ## What has been consumed -/

/-- The violation is that a name stands for nothing, or for a constant that is to be changed. -/
def Violation.misuses : Violation → Bool
  | undefinedVariable _ | constantChanged _ _ | undefinedProcedure _ | undefinedSymbol _ => true
  | _ => false

/-- A text begins as its first part does. -/
theorem head?_append {first : String} {c : Char} (h : first.toList.head? = some c)
    (second : String) : (first ++ second).toList.head? = some c := by
  rw [String.toList_append, List.head?_append, h]
  rfl

/-- A message about a misused name does not begin as one about a duplicate. -/
theorem Violation.head?_message {violation : Violation} (h : violation.misuses) :
    violation.message.toList.head? = some 'u' ∨ violation.message.toList.head? = some 'c' := by
  have hvariable : "undefined variable: ".toList.head? = some 'u' := by decide +kernel
  have hprocedure : "undefined procedure: ".toList.head? = some 'u' := by decide +kernel
  have hsymbol : "undefined symbol: ".toList.head? = some 'u' := by decide +kernel
  have hcannot : "cannot ".toList.head? = some 'c' := by decide +kernel
  cases violation with
  | undefinedVariable name => exact .inl (head?_append hvariable name)
  | undefinedProcedure name => exact .inl (head?_append hprocedure name)
  | undefinedSymbol name => exact .inl (head?_append hsymbol name)
  | constantChanged use name =>
      exact .inr (head?_append (head?_append (head?_append hcannot use.describe) _) name)
  | duplicateSymbol | duplicateProcedure | noRelation | notAtEnd => cases h

/-- The error is one of the grammar, or that a name stands for nothing or for a constant. -/
inductive BlamesNext (error : ParseError) : Prop where
  | grammar : error.category = .unexpectedToken ∨ error.category = .general → BlamesNext error
  | misuse {violation : Violation} : violation.misuses → error.category = .semantic →
      error.message = violation.message → BlamesNext error

/-- A name that is misused is not one that is declared twice. -/
theorem not_redeclares {violation : Violation} {error : ParseError} (hmisuses : violation.misuses)
    (hmessage : error.message = violation.message) : ¬ Redeclares (.parse error) := by
  have hfirst := violation.head?_message hmisuses
  rw [← hmessage] at hfirst
  intro hredeclares
  have hduplicate : error.message.toList.head? = some 'd' := by
    have hsymbol : "duplicate symbol: ".toList.head? = some 'd' := by decide +kernel
    have hprocedure : "duplicate procedure: ".toList.head? = some 'd' := by decide +kernel
    cases hredeclares with
    | @symbol token name => exact head?_append hsymbol name
    | @procedure token name => exact head?_append hprocedure name
  rw [hduplicate] at hfirst
  revert hfirst
  decide

/-- The tokens that have been consumed, and those that are left, when a text has been parsed with
this outcome. -/
structure Account (text : String) (outcome : Except Fault Program) (consumed left : Tokens) :
    Prop where
  tokens : (lexer.tokenize text).tokens = consumed ++ left
  success : ∀ parsed, outcome = .ok parsed → (lexer.tokenize text).failure = none ∧
    ∃ closing, left = [closing] ∧ closing.kind = .stop
  failure : ∀ fault, outcome = .error fault → ∃ error, fault = .parse error
  character : ∀ error, outcome = .error (.parse error) → error.category = .lexical →
    (lexer.tokenize text).failure.map (·.toFault) = some (.parse error) ∧ left = []
  token : ∀ error, outcome = .error (.parse error) → BlamesNext error →
    ∃ token rest, left = token :: rest ∧ error = .ofToken error.category token error.message ∧
      ∀ other, consumed ++ [token] <+: (lexer.tokenize other).tokens →
        parseProgram other = .error (.parse error)

/-- What is left when a text is a program is the token for the end. -/
theorem left_of_ok {parsed : Program} (h : parseProgram text = .ok parsed) :
    (lexer.tokenize text).failure = none ∧
      ∃ closing, (parseTraced text false).2.ahead = [closing] ∧ closing.kind = .stop := by
  obtain ⟨final, hrun⟩ := parseProgram_ok_iff_program.1 h
  have hfinal : (parseTraced text false).2 = final.scanner := by
    rw [parseTraced_eq, parseFrom, show program ⟨.ofText lexer text false, {}⟩ = _ from hrun]
  obtain ⟨-, _, _, closing, -, hkind, htokens, -, hahead⟩ := program_leaves hrun
  exact ⟨by rw [htokens], closing, by rw [hfinal, hahead], hkind⟩

/-- What is left when a text is refused is nothing if the lexer has failed, and begins with the
token that is blamed for an error of the grammar or a name that is misused. -/
theorem left_of_error {fault : Fault} (h : parseProgram text = .error fault) :
    ∃ error, fault = .parse error ∧
      (error.category = .lexical → (lexer.tokenize text).failure.map (·.toFault) = some fault ∧
        (parseTraced text false).2.ahead = []) ∧
      (BlamesNext error → ∃ token rest, (parseTraced text false).2.ahead = token :: rest ∧
        error = .ofToken error.category token error.message) := by
  have hexplains := (parseTraced_total text false).2.2.2 fault h
  cases @refusal ⟨"", text, true⟩ fault h with
  | @grammar category token rest message hcategory hahead _ =>
      refine ⟨_, rfl, fun hlexical => ?_, fun _ => ⟨token, rest, hahead, rfl⟩⟩
      have hsame : category = .lexical := hlexical
      rw [hsame] at hcategory
      simp at hcategory
  | @character error _ hcategory hfailure hahead _ =>
      refine ⟨error, rfl, fun _ => ⟨hfailure, hahead⟩, fun hblames => ?_⟩
      rcases hblames with hgrammar | ⟨-, hsemantic, -⟩
      · simp [hcategory] at hgrammar
      · simp [hcategory] at hsemantic
  | @name error _ _ herror _ =>
      have hcategory : error.category = .semantic := congrArg ParseError.category herror
      refine ⟨error, rfl, fun hlexical => by simp [hcategory] at hlexical, fun hblames => ?_⟩
      rcases hblames with hgrammar | ⟨hmisuses, -, hmessage⟩
      · simp [hcategory] at hgrammar
      · clear herror
        cases hexplains with
        | exempt hredeclares => exact (not_redeclares hmisuses hmessage hredeclares).elim
        | ending _ hfault =>
            rw [(parseTraced_total text false).1.sameEnd.ending] at hfault
            obtain ⟨_, _, _, ⟨⟩, hlexical, -⟩ := (tokenize_shows ⟨"", text, true⟩).2 _ hfault
            simp [hcategory] at hlexical
        | next hahead => exact ⟨_, _, hahead, rfl⟩

/-- What has been consumed when a text has been parsed is recorded if the parser is traced. -/
theorem account_traced (text : String) :
    ∃ consumed, (parseTraced text true).2.consumed = consumed.reverse ∧
      Account text (parseProgram text) consumed (parseTraced text true).2.ahead := by
  obtain ⟨⟨-, -, -, consumed, htokens, -, hconsumed⟩, -⟩ := parseTraced_total text true
  rw [parseTraced_ahead] at htokens ⊢
  refine ⟨consumed, hconsumed.trans (List.append_nil _), htokens, fun _ => left_of_ok, ?_, ?_, ?_⟩
  · intro fault hfault
    obtain ⟨error, herror, -⟩ := left_of_error hfault
    exact ⟨error, herror⟩
  · intro error herror hlexical
    obtain ⟨_, ⟨⟩, hcharacter, -⟩ := left_of_error herror
    exact hcharacter hlexical
  · intro error herror hblames
    obtain ⟨_, ⟨⟩, -, htoken⟩ := left_of_error herror
    obtain ⟨token, rest, hleft, hplaced⟩ := htoken hblames
    refine ⟨token, rest, hleft, hplaced, fun other hother => ?_⟩
    exact parseProgram_congr herror (hleft ▸ htokens) hleft hother

end Pl0

end Parlance
