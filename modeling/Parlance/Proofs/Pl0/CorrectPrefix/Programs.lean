import Parlance.Proofs.Pl0.CorrectPrefix.Blocks
import Parlance.Proofs.Pl0.Programs

/-!
# The correct prefix of a program

The parser of programs has the correct-prefix property: the tokens before the one that it blames
begin a sentence, and with that token they begin none. Where no token starts at some character, the
tokens before it begin a sentence.
-/

namespace Parlance.Pl0.CorrectPrefix

open Scanner Parse

variable {text : String} {token : Token Kind} {consumed : Tokens}

/-! ## Sentences up to the end of a text -/

/-- Just the token for the end. -/
inductive Ended : Language where
  | intro {closing} : closing.kind = .stop → closing.text = "" → Ended [closing]

/-- A sentence, and the token for the end. -/
abbrev Sentence : Language := Then (Spans Block.Derives) (Next (·.text = ".") Ended)

/-- A sentence and the token for the end is what a block, a dot and that token are. -/
theorem sentence_iff {tokens : Tokens} :
    Sentence tokens ↔ ∃ sentence closing body, tokens = sentence ++ [closing] ∧
      closing.kind = .stop ∧ closing.text = "" ∧ SentenceDerives sentence body := by
  constructor
  · rintro ⟨⟨hbody⟩, htext, hkind, hclosing⟩
    obtain ⟨inside, rfl, hinside⟩ := hbody.contextFree
    exact ⟨inside ++ [_], _, _, by simp, hkind, hclosing, _, hinside [_], htext⟩
  · rintro ⟨sentence, closing, body, rfl, hkind, hclosing, dot, hbody, htext⟩
    obtain ⟨inside, rfl, hinside⟩ := hbody.contextFree
    rw [List.append_assoc]
    exact .intro ⟨hinside (dot :: [closing])⟩ (.intro htext (.intro hkind hclosing))

/-- What can be the rest of a text is pieces, and the token for the end. -/
theorem Completes.pieces {tokens : Tokens} (h : Completes tokens) :
    ∃ pieces closing, tokens = pieces ++ [closing] ∧ ∀ piece ∈ pieces, lexer.IsPiece piece := by
  induction h with
  | closing _ _ => exact ⟨[], _, rfl, by simp⟩
  | piece hpiece _ ih =>
      obtain ⟨pieces, closing, rfl, hpieces⟩ := ih
      exact ⟨_ :: pieces, closing, rfl, List.forall_mem_cons.2 ⟨hpiece, hpieces⟩⟩

/-- The token for the end can be the rest of a text. -/
theorem viable_ended : Viable Ended [] :=
  ⟨[⟨.start, .stop, ""⟩], .closing rfl rfl, .intro rfl rfl⟩

/-- Tokens behind which there can be a sentence begin one. -/
theorem Viable.sentence (h : Viable Sentence consumed) :
    ∃ rest body, (∀ piece ∈ rest, lexer.IsPiece piece) ∧
      SentenceDerives (consumed ++ rest) body := by
  obtain ⟨rest, hcompletes, hwhole⟩ := h
  obtain ⟨pieces, closing, rfl, hpieces⟩ := hcompletes.pieces
  obtain ⟨sentence, last, body, heq, -, -, hsentence⟩ := sentence_iff.1 hwhole
  rw [← List.append_assoc] at heq
  obtain ⟨rfl, -⟩ := List.append_inj' heq rfl
  exact ⟨pieces, body, hpieces, hsentence⟩

/-! ## Parsing -/

/-- The beginning of a text is a scanner inside it. -/
theorem ofText_inside (text : String) : Inside (Session.ofText text).scanner where
  toReady := Session.ofText_ready text
  closed hending := by
    obtain ⟨opening, pieces, -, -, hnone, -⟩ := tokenize_inner text
    obtain ⟨closing, hkind, htext, htokens⟩ := hnone (Option.map_eq_none_iff.1 hending)
    exact ⟨opening :: pieces, closing, htokens, hkind, htext⟩

/-- A dot and the end of the text are taken in, and anything else is blamed. -/
theorem closing_follows {scanner : Scanner Kind} (hinside : Inside scanner) :
    Follows (do
      let _ ← consumeText "."
      unless ← atEnd do violate .notAtEnd : Scan Kind Unit) scanner
      (Next (·.text = ".") Ended) Ended := by
  refine (Follows.consumeText hinside (by decide) viable_ended).bind
    fun _ later _ (hlater : Inside later) _ => ?_
  refine .looksFirst ((current_looksFirst _).bind _) hlater viable_ended fun token rest hahead => ?_
  have hrun : atEnd later = .ok (decide (later.Ends token)) later.look := by
    rw [atEnd_eq, onNext_of_ok (upcoming_of_ahead hahead)]
  refine .of_reaches (Rule.bind_of_ok hrun _) (.look hlater rfl) ⟨fun _ => id, fun _ _ => id⟩ ?_
  by_cases hends : later.Ends token
  · rw [decide_eq_true hends]
    exact .pure hlater.look (fun _ => id) fun _ _ => id
  · rw [decide_eq_false hends]
    refine .fail hlater.look viable_ended (.inl rfl) (by rwa [look_ahead]) ?_
    rintro others ⟨hkind, htext⟩
    exact hends ⟨hkind.trans hlater.endKind.symm, htext.trans hlater.endText.symm⟩

/-- What a program is parsed with behind the token for the beginning. -/
theorem sentence_follows {scanner : Scanner Kind} (scope : Scope) (hinside : Inside scanner) :
    Follows (do
      let body ← block
      scan fun _ => do
        let _ ← consumeText "."
        unless ← atEnd do violate .notAtEnd
      return ⟨body⟩ : Parse Program) ⟨scanner, scope⟩ Sentence Ended := by
  refine (Parses.follows block_parses (viable_ended.quoted (by decide))
    (Next.heads.mono (by decide)) hinside).bind fun body later _ hlater _ => ?_
  have hclosing : Follows (scan fun _ => do
      let _ ← consumeText "."
      unless ← atEnd do violate .notAtEnd) later (Next (·.text = ".") Ended) Ended :=
    .scan (closing_follows hlater)
  exact hclosing.map

/-- Where a text is refused, the tokens that have been consumed, between the one for the beginning
and those still ahead, show why. -/
theorem program_stops {fault : Fault} {final : Session}
    (h : program (.ofText text) = .error fault final) :
    ∃ opening consumed, opening.kind = .start ∧
      (lexer.tokenize text).tokens = opening :: consumed ++ final.scanner.ahead ∧
      final.scanner.ending = (lexer.tokenize text).failure.map (·.toFault) ∧
      Blamed Sentence consumed final.scanner fault := by
  have hinside := ofText_inside text
  obtain ⟨opening, rest, hkind, htokens⟩ : ∃ opening rest, opening.kind = .start ∧
      (lexer.tokenize text).tokens = opening :: rest := by
    obtain ⟨opening, pieces, hkind, -, hnone, hsome⟩ := tokenize_inner text
    by_cases hfailure : (lexer.tokenize text).failure = none
    · obtain ⟨closing, -, -, htokens⟩ := hnone hfailure
      exact ⟨opening, pieces ++ [closing], hkind, htokens⟩
    · exact ⟨opening, pieces, hkind, hsome hfailure⟩
  have htakes := hinside.toReady.takes_kind htokens (by rw [hkind]; decide)
  have hopening : scan (fun _ => consumeKind .start) (.ofText text) =
      .ok opening.text ⟨(Session.ofText text).scanner.advance, {}⟩ :=
    scan_ok_iff.2 ⟨consumeKind_ok_iff.2 ⟨opening, htakes, hkind, rfl⟩, rfl⟩
  have hrun := h.symm.trans (Rule.bind_of_ok hopening _)
  cases sentence_follows {} (hinside.takes htakes) with
  | ok hvalue _ _ => cases hrun.trans hvalue
  | @error _ _ consumed hfault hreaches hblamed =>
      cases hrun.trans hfault
      refine ⟨opening, consumed, hkind, ?_, hreaches.sameEnd.ending, hblamed⟩
      rw [← Session.ofText_ahead, htakes.ahead_eq, List.cons_append]
      exact congrArg (List.cons opening) hreaches.ahead_eq

/-- A text is refused for what has been consumed and what comes next. -/
theorem program_blames {fault : Fault} {final : Session}
    (h : program (.ofText text) = .error fault final) :
    ∃ opening consumed last, opening.kind = .start ∧
      (lexer.tokenize text).tokens = opening :: consumed ++ last.ahead ∧
      last.ending = (lexer.tokenize text).failure.map (·.toFault) ∧
      Blamed Sentence consumed last fault := by
  obtain ⟨opening, consumed, hstops⟩ := program_stops h
  exact ⟨opening, consumed, final.scanner, hstops⟩

/-! ## What an error says -/

/-- Pieces can stand behind these tokens that make a sentence of them. -/
def BeginsSentence (tokens : Tokens) : Prop :=
  ∃ rest body, (∀ piece ∈ rest, lexer.IsPiece piece) ∧ SentenceDerives (tokens ++ rest) body

/-- The error blames a token of the text: those before it begin a sentence, and with it they begin
none, or are none if it is the one for the end. -/
def BlamesToken (text : String) (error : ParseError) : Prop :=
  ∃ opening before token others, opening.kind = .start ∧
    (lexer.tokenize text).tokens = opening :: before ++ token :: others ∧
    error = .ofToken error.category token error.message ∧ BeginsSentence before ∧
    (token.kind ≠ .stop → ∀ rest body, ¬ SentenceDerives (before ++ token :: rest) body) ∧
    (token.kind = .stop → ∀ body, ¬ SentenceDerives before body)

/-- The error is that no token starts at a character, and the tokens before it begin a sentence. -/
def BlamesCharacter (text : String) (error : ParseError) : Prop :=
  ∃ opening before c, opening.kind = .start ∧
    lexer.tokenize text = ⟨opening :: before, some (.unmatched error.position c)⟩ ∧
    BeginsSentence before

/-- The token for the end of a text has no text. -/
theorem text_of_stop (hmem : token ∈ (lexer.tokenize text).tokens) (hkind : token.kind = .stop) :
    token.text = "" := by
  obtain ⟨opening, pieces, hopening, hinner, hnone, hsome⟩ := tokenize_inner text
  have hfirst : token ≠ opening := by
    rintro rfl
    exact absurd (hopening.symm.trans hkind) (by decide)
  have hpiece : token ∉ pieces := fun hmem => (hinner token hmem).2.2 hkind
  by_cases hfailure : (lexer.tokenize text).failure = none
  · obtain ⟨closing, -, hclosing, htokens⟩ := hnone hfailure
    simp_all
  · simp_all

/-- A token with which nothing goes on is blamed rightly. -/
theorem blamesToken_of_dead {error : ParseError} {opening : Token Kind} {before others : Tokens}
    (hopening : opening.kind = .start)
    (htokens : (lexer.tokenize text).tokens = opening :: before ++ token :: others)
    (herror : error = .ofToken error.category token error.message)
    (hviable : Viable Sentence before)
    (hdead : ∀ rest, SameNext rest (token :: others) → ¬ Sentence (before ++ rest)) :
    BlamesToken text error := by
  refine ⟨opening, before, token, others, hopening, htokens, herror, hviable.sentence, ?_, ?_⟩
  · intro _ rest body hsentence
    refine hdead (token :: rest ++ [⟨.start, .stop, ""⟩]) ⟨token, _, _, rfl, rfl⟩ ?_
    rw [← List.append_assoc]
    exact sentence_iff.2 ⟨_, _, body, rfl, rfl, rfl, hsentence⟩
  · intro hkind body hsentence
    have htext := text_of_stop (htokens ▸ List.mem_append_right _ List.mem_cons_self) hkind
    exact hdead [token] ⟨token, _, _, rfl, rfl⟩
      (sentence_iff.2 ⟨before, token, body, rfl, hkind, htext, hsentence⟩)

/-- A syntax error blames the first token that makes it impossible to go on to a sentence, and a
lexical one comes behind tokens that begin a sentence. -/
theorem parseProgram_correctPrefix {text : String} {error : ParseError}
    (h : parseProgram text = .error (.parse error)) :
    (error.category = .unexpectedToken ∨ error.category = .general → BlamesToken text error) ∧
      (error.category = .lexical → BlamesCharacter text error) := by
  obtain ⟨final, hrun⟩ := parseProgram_error_iff_program.1 h
  obtain ⟨opening, before, last, hopening, htokens, hending, hblamed⟩ := program_blames hrun
  cases hblamed with
  | @stuck category token rest message hcategory hahead hviable hdead =>
      refine ⟨fun _ => ?_, fun hlexical => ?_⟩
      · exact blamesToken_of_dead hopening (hahead ▸ htokens) rfl hviable (hahead ▸ hdead)
      · have hsame : category = .lexical := hlexical
        rcases hcategory with hcategory | hcategory <;> cases hcategory.symm.trans hsame
  | cut hahead hfault hviable =>
      rw [hahead, List.append_nil] at htokens
      obtain ⟨failure, hfailure, hto⟩ := Option.map_eq_some_iff.1 (hending.symm.trans hfault)
      cases failure with
      | unmatched position c =>
          cases hto
          refine ⟨fun h => by simp at h, fun _ => ⟨opening, before, c, hopening, ?_, ?_⟩⟩
          · rw [← htokens, ← hfailure]
          · exact hviable.sentence
      | emptyMatch pattern offset stop => cases hto
      | reversedGroup => cases hto
  | semantic hcategory => simp [hcategory]

/-- The error that a text is refused with, if it is. -/
def refusal? (text : String) : Option ParseError :=
  match parseProgram text with
  | .error (.parse error) => some error
  | _ => none

/-- A text is refused with the error that its parser fails with. -/
theorem refusal?_eq_some_iff {error : ParseError} :
    refusal? text = some error ↔ parseProgram text = .error (.parse error) := by
  unfold refusal?
  split <;> simp_all

/-- A text with a number where a semicolon or the end of a sequence is wanted, one that ends in an
expression, and one with a character that begins no token. -/
theorem parseProgram_correctPrefix_broken :
    (∃ error, parseProgram "VAR x; BEGIN x := 1; ! x 2 END." = .error (.parse error) ∧
        error.text = "2" ∧ BlamesToken "VAR x; BEGIN x := 1; ! x 2 END." error) ∧
      (∃ error, parseProgram "! 1 +" = .error (.parse error) ∧ error.text = "" ∧
        BlamesToken "! 1 +" error) ∧
      ∃ error, parseProgram "! 1 + $ END" = .error (.parse error) ∧ error.text = "$" ∧
        BlamesCharacter "! 1 + $ END" error := by
  have hnumber : refusal? "VAR x; BEGIN x := 1; ! x 2 END." = some
      ⟨.unexpectedToken, ⟨25, 0, 25⟩, "expected 'END'; received NUMBER '2'.", "2"⟩ := by
    decide +kernel
  have hend : refusal? "! 1 +" = some
      ⟨.unexpectedToken, ⟨5, 0, 5⟩, "expected factor; received EOF ''.", ""⟩ := by
    decide +kernel
  have hcharacter : refusal? "! 1 + $ END" = some
      ⟨.lexical, ⟨6, 0, 6⟩, "unexpected character: '$'", "$"⟩ := by
    decide +kernel
  rw [refusal?_eq_some_iff] at hnumber hend hcharacter
  exact ⟨⟨_, hnumber, rfl, (parseProgram_correctPrefix hnumber).1 (.inl rfl)⟩,
    ⟨_, hend, rfl, (parseProgram_correctPrefix hend).1 (.inl rfl)⟩,
    ⟨_, hcharacter, rfl, (parseProgram_correctPrefix hcharacter).2 rfl⟩⟩

end Parlance.Pl0.CorrectPrefix
