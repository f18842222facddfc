import Mathlib.Data.List.Forall2
import Parlance.Kind
import Parlance.Proofs.Lexer
import Parlance.Proofs.Scanner.Tape

/-!
# Consuming a stream up to its end

A scanner is drained by consuming tokens until it says that it is at the end. It tells the token for
the end by kind and text alone, so it stops at the first token that looks like it, and stays there
whatever it is asked: `Tape.Shows.concludes`.

The tokens that a lexer makes of pieces of a text are not empty, so none of them looks like the
token for the end, which is. The only other empty one is the token for the beginning, and that looks
like the one for the end if the lexer has the same kind for both. `Scanner.ofText_delivers_iff` says
that a scanner over a text delivers all tokens up to the one for the end exactly if the two kinds
differ.
-/

namespace Parlance

variable {κ : Type} [DecidableEq κ]

namespace Scanner

/-- Is there a token before the end? -/
def hasMore : Scan κ Bool := do return !(← atEnd)

/-- Consumes the tokens up to the end: these tokens, in order. -/
def drain : Scan κ (List (Token κ)) := do
  let tokens ← Rule.iterate (Rule.collect hasMore consumeToken) []
  return tokens.reverse

/-- What is left to consume is found by a look. -/
theorem hasMore_ok_iff {scanner after : Scanner κ} {answer : Bool} :
    hasMore scanner = .ok answer after ↔
      ∃ token, scanner.upcoming = .ok token ∧ after = scanner.look ∧
        answer = !decide (scanner.Ends token) := by
  unfold hasMore
  rw [Rule.map_ok_iff]
  constructor
  · rintro ⟨ended, hended, rfl⟩
    obtain ⟨token, hupcoming, hafter, rfl⟩ := atEnd_ok_iff.1 hended
    exact ⟨token, hupcoming, hafter, rfl⟩
  · rintro ⟨token, hupcoming, hafter, rfl⟩
    exact ⟨_, atEnd_ok_iff.2 ⟨token, hupcoming, hafter, rfl⟩, rfl⟩

/-- A drained scanner has given what it collects up to where nothing is left to consume. -/
theorem drain_ok_iff {start final : Scanner κ} {tokens : List (Token κ)} :
    drain start = .ok tokens final ↔
      ∃ last, Rule.Collects hasMore consumeToken start tokens last ∧
        hasMore last = .ok false final := by
  unfold drain
  rw [Rule.map_ok_iff]
  constructor
  · rintro ⟨collected, hcollected, rfl⟩
    obtain ⟨values, last, hcollects, hlast, rfl⟩ := Rule.iterate_collect_iff.1 hcollected
    exact ⟨last, by simpa using hcollects, hlast⟩
  · rintro ⟨last, hcollects, hlast⟩
    exact ⟨_, Rule.iterate_collect_iff.2 ⟨tokens, last, hcollects, hlast, rfl⟩, by simp⟩

end Scanner

/-! ## At the end -/

/-- What a stream answers for good once this token is the current one and is for the end: the token
stays, also further ahead, the end is reported, nothing is consumed, and whatever would consume
something is refused at the token. -/
def Request.Concludes (closing : Token κ) (request : Request κ) (answer : Except Fault (Answer κ)) :
    Prop :=
  request.consumes answer = false ∧
    match request with
    | .current => answer = .ok (.token closing)
    | .lookAhead offset => 0 ≤ offset → answer = .ok (.token closing)
    | .atEnd => answer = .ok (.flag true)
    | .consume | .consumeToken =>
      answer = .error (.parse (.ofToken .unexpectedEnd closing "read past EOF"))
    | .consumeKind _ _ | .consumeText _ _ =>
      ∃ error, answer = .error (.parse error) ∧ error.position = closing.position
    | .tryConsume _ | .error _ _ => True

namespace Tape

/-- The token is one for the end of the tape. -/
def Ends (tape : Tape κ) (token : Token κ) : Prop :=
  token.kind = tape.endKind ∧ token.text = tape.endText

/-- At the cursor stands this token for the end, and it is the last one: further ahead there is
nothing but the like. -/
structure Closes (tape : Tape κ) (cursor : Nat) (closing : Token κ) : Prop where
  ends : tape.Ends closing
  tokenAt : ∀ offset : Int, 0 ≤ offset → tape.tokenAt cursor offset = .ok closing

instance (tape : Tape κ) (token : Token κ) : Decidable (tape.Ends token) :=
  inferInstanceAs (Decidable (_ ∧ _))

variable {tape : Tape κ} {cursor : Nat} {closing : Token κ}

omit [DecidableEq κ] in
/-- An error at the end is placed at the token for the end. -/
theorem Closes.errorAt_eq (h : tape.Closes cursor closing) (message : String)
    (category : ErrorCategory) :
    tape.errorAt cursor message category = .ofToken category closing message := by
  rw [errorAt, h.tokenAt 0 (Int.le_refl 0)]
  rfl

/-- The token for the end cannot be consumed. -/
theorem Closes.take_eq (h : tape.Closes cursor closing) :
    tape.take cursor = .error (.parse (.ofToken .unexpectedEnd closing "read past EOF")) := by
  rw [take, h.tokenAt 0 (Int.le_refl 0), h.errorAt_eq]
  exact if_pos h.ends

variable [KindText κ]

/-- At the end every request is answered as at the end. -/
theorem Closes.reply_concludes (h : tape.Closes cursor closing) (request : Request κ) :
    request.Concludes closing (tape.reply cursor request) := by
  have htoken := h.tokenAt 0 (Int.le_refl 0)
  cases request with
  | current => exact ⟨rfl, by rw [reply, htoken]; rfl⟩
  | lookAhead offset => exact ⟨rfl, fun hoffset => by rw [reply, h.tokenAt offset hoffset]; rfl⟩
  | atEnd =>
      have hflag : tape.reply cursor .atEnd = .ok (.flag (decide (tape.Ends closing))) := by
        rw [reply, htoken]
        rfl
      rw [hflag, decide_eq_true h.ends]
      exact ⟨rfl, rfl⟩
  | consume | consumeToken =>
      rw [reply, h.take_eq]
      exact ⟨rfl, rfl⟩
  | consumeKind kind message =>
      rw [reply_consumeKind htoken, h.take_eq, h.errorAt_eq]
      split <;> exact ⟨rfl, _, rfl, rfl⟩
  | consumeText text message =>
      rw [reply_consumeText htoken, h.take_eq, h.errorAt_eq]
      split <;> exact ⟨rfl, _, rfl, rfl⟩
  | tryConsume text =>
      rw [reply_tryConsume htoken, h.take_eq]
      split <;> exact ⟨rfl, trivial⟩
  | error message category => exact ⟨rfl, trivial⟩

/-- At the end the cursor stays. -/
theorem Closes.dialogue_concludes (h : tape.Closes cursor closing) (requests : List (Request κ)) :
    List.Forall₂ (Request.Concludes closing) requests (tape.dialogue cursor requests).1 := by
  induction requests with
  | nil => exact .nil
  | cons request rest ih =>
      have hreply := h.reply_concludes request
      have hnext : tape.next cursor request = cursor := by
        rw [next, hreply.1]
        rfl
      rw [Tape.dialogue, hnext]
      exact .cons hreply ih

end Tape

namespace Tape.Shows

variable {tape : Tape κ} {cursor : Nat} {scanner : Scanner κ} {closing : Token κ}
  {front rest : List (Token κ)}

/-- The tokens in front of one for the end are collected, and the cursor moves over them. -/
theorem collects (h : tape.Shows cursor scanner) (htokens : tape.tokens.drop cursor = front ++ rest)
    (hfront : ∀ token ∈ front, ¬ tape.Ends token) :
    ∃ last, Rule.Collects Scanner.hasMore Scanner.consumeToken scanner front last ∧
      tape.Shows (cursor + front.length) last := by
  induction front generalizing cursor scanner with
  | nil => exact ⟨scanner, .done, h⟩
  | cons token front ih =>
      rw [List.forall_mem_cons] at hfront
      have hahead : scanner.ahead = token :: (front ++ rest) := h.ahead_eq.trans htokens
      have hends : ¬ scanner.Ends token := mt (h.ends_iff token).1 hfront.1
      have htakes := Scanner.takes_advance hahead hends
      have hdrop : tape.tokens.drop (cursor + 1) = front ++ rest := by
        rw [← (h.advance hahead).ahead_eq, Scanner.advance_ahead, hahead, List.tail_cons]
      obtain ⟨last, hcollects, hlast⟩ := ih (h.advance hahead) hdrop hfront.2
      refine ⟨last, .round (Scanner.hasMore_ok_iff.2 ⟨token, htakes.upcoming_eq, rfl, ?_⟩)
        (Scanner.consumeToken_ok_iff.2 (Scanner.look_takes_iff.2 htakes)) htakes.left_lt hcollects,
        ?_⟩
      · simp [hends]
      · rwa [List.length_cons, Nat.add_comm front.length, ← Nat.add_assoc]

/-- A scanner is drained of the tokens in front of the first one for the end, and stands there. -/
theorem drains (h : tape.Shows cursor scanner)
    (htokens : tape.tokens.drop cursor = front ++ closing :: rest)
    (hfront : ∀ token ∈ front, ¬ tape.Ends token) (hclosing : tape.Ends closing) :
    ∃ final, Scanner.drain scanner = .ok front final ∧
      tape.Shows (cursor + front.length) final := by
  obtain ⟨last, hcollects, hlast⟩ := h.collects htokens hfront
  have hahead : last.ahead = closing :: rest := by
    rw [hlast.ahead_eq, ← List.drop_drop, htokens, List.drop_left]
  refine ⟨last.look, Scanner.drain_ok_iff.2 ⟨last, hcollects, Scanner.hasMore_ok_iff.2
    ⟨closing, Scanner.upcoming_of_ahead hahead, rfl, ?_⟩⟩, hlast.look⟩
  simp [(hlast.ends_iff closing).2 hclosing]

variable [KindText κ]

/-- A scanner that has come to the token for the end stays there, whatever it is asked. -/
theorem concludes (h : tape.Shows cursor scanner) (hcloses : tape.Closes cursor closing)
    (requests : List (Request κ)) :
    List.Forall₂ (Request.Concludes closing) requests (scanner.dialogue requests).1 := by
  rw [(h.dialogue requests).1]
  exact hcloses.dialogue_concludes requests

end Tape.Shows

/-! ## The tokens of a text -/

omit [DecidableEq κ] in
/-- The tokens of a text that is split up to its end are the one for its beginning, if there is to
be one, those of its pieces, none of which is empty, and the one for its end. -/
theorem Lexer.tokenize_closes {lexer : Lexer κ} {text : String}
    (hsplit : (lexer.tokenize text).failure = none) :
    ∃ pieces position, (∀ token ∈ pieces, token.text ≠ "") ∧
      (lexer.tokenize text).tokens =
        (lexer.startKind.map fun kind => ⟨.start, kind, ""⟩).toList ++ pieces ++
          [⟨position, lexer.endKind, ""⟩] := by
  obtain ⟨pieces, hpieces⟩ := lexer.tokensFrom_closes .start (.atStart text.toList)
  unfold tokenize at hsplit ⊢
  cases hstart : lexer.startKind with
  | none =>
      rw [hstart] at hsplit
      obtain ⟨position, htokens⟩ := hpieces.closes hsplit
      exact ⟨pieces, position, hpieces.nonempty, htokens⟩
  | some kind =>
      rw [hstart] at hsplit
      obtain ⟨position, htokens⟩ := hpieces.closes hsplit
      exact ⟨pieces, position, hpieces.nonempty, congrArg (List.cons _) htokens⟩

variable [KindText κ]

/-- The scanner delivers these tokens and no more, in order, if it is drained, and is then at this
token for the end for good. -/
def Scanner.Delivers (scanner : Scanner κ) (tokens : List (Token κ)) (closing : Token κ) : Prop :=
  ∃ final, scanner.drain = .ok tokens final ∧ ∀ requests : List (Request κ),
    List.Forall₂ (Request.Concludes closing) requests (final.dialogue requests).1

/-- What is behind the first token for the end is not delivered. -/
theorem Scanner.ofTokens_delivers {front : List (Token κ)} {position : Position} {endKind : κ}
    {tracing : Bool} (hfront : ∀ token ∈ front, ¬ (token.kind = endKind ∧ token.text = "")) :
    (ofTokens (front ++ [⟨position, endKind, ""⟩]) none endKind "" tracing).Delivers front
      ⟨position, endKind, ""⟩ := by
  have hshows := Tape.Shows.ofTokens (front ++ [⟨position, endKind, ""⟩]) none endKind "" tracing
  have htokens : (front ++ [(⟨position, endKind, ""⟩ : Token κ)]).drop 0 =
      front ++ ⟨position, endKind, ""⟩ :: [] := rfl
  obtain ⟨final, hdrain, hfinal⟩ := hshows.drains htokens hfront ⟨rfl, rfl⟩
  refine ⟨final, hdrain, hfinal.concludes ⟨⟨rfl, rfl⟩, fun offset hoffset => ?_⟩⟩
  rw [Tape.tokenAt, if_neg (by omega)]
  by_cases hzero : offset.toNat = 0
  · simp [hzero]
  · -- Further ahead the source has ended, right behind an empty token.
    have hnone :
        (front ++ [(⟨position, endKind, ""⟩ : Token κ)])[0 + front.length + offset.toNat]? =
          none := by
      rw [List.getElem?_eq_none_iff, List.length_append, List.length_singleton]
      omega
    rw [hnone]
    simp [Tape.stop, Token.stopPosition, Position.advance]

variable {lexer : Lexer κ} {text : String}

omit [DecidableEq κ] [KindText κ] in
/-- The source of a scanner over a text that is split up to its end does not fail. -/
theorem Scanner.ofText_eq (tracing : Bool) (hsplit : (lexer.tokenize text).failure = none) :
    ofText lexer text tracing =
      ofTokens (lexer.tokenize text).tokens none lexer.endKind "" tracing := by
  rw [ofText, hsplit]
  rfl

omit [KindText κ] in
/-- If the token for the beginning looks like one for the end, nothing is consumed. -/
theorem Scanner.ofText_drain_nil (tracing : Bool) (hsplit : (lexer.tokenize text).failure = none)
    (hsame : lexer.startKind = some lexer.endKind) :
    ∃ final, (ofText lexer text tracing).drain = .ok [] final := by
  obtain ⟨pieces, position, -, htokens⟩ := Lexer.tokenize_closes hsplit
  rw [hsame] at htokens
  rw [ofText_eq tracing hsplit]
  have hshows := Tape.Shows.ofTokens (lexer.tokenize text).tokens none lexer.endKind "" tracing
  have hempty : (lexer.tokenize text).tokens.drop 0 =
      [] ++ ⟨.start, lexer.endKind, ""⟩ :: (pieces ++ [⟨position, lexer.endKind, ""⟩]) := htokens
  obtain ⟨final, hfinal, -⟩ := hshows.drains hempty (fun _ hmem => nomatch hmem) ⟨rfl, rfl⟩
  exact ⟨final, hfinal⟩

/-- A scanner over a text that is split up to its end delivers all of its tokens but the one for the
end, and is at that one for good then, exactly if the lexer has different kinds for the two ends. -/
theorem Scanner.ofText_delivers_iff (tracing : Bool)
    (hsplit : (lexer.tokenize text).failure = none) :
    ∃ front closing, (lexer.tokenize text).tokens = front ++ [closing] ∧
      closing.kind = lexer.endKind ∧ closing.text = "" ∧
      ((ofText lexer text tracing).Delivers front closing ↔
        lexer.startKind ≠ some lexer.endKind) := by
  obtain ⟨pieces, position, hpieces, htokens⟩ := Lexer.tokenize_closes hsplit
  refine ⟨_, _, htokens, rfl, rfl, fun hdelivers hsame => ?_, fun hdiffer => ?_⟩
  · obtain ⟨other, hother⟩ := ofText_drain_nil tracing hsplit hsame
    obtain ⟨final, hfinal, -⟩ := hdelivers
    rw [hother, hsame] at hfinal
    cases hfinal
  · rw [ofText_eq tracing hsplit, htokens]
    refine ofTokens_delivers fun token hmem hends => ?_
    rcases List.mem_append.1 hmem with hstart | hpiece
    · obtain ⟨kind, hkind, rfl⟩ := Option.map_eq_some_iff.1 (Option.mem_toList.1 hstart)
      exact hdiffer (hkind.trans (congrArg some hends.1))
    · exact hpieces token hpiece hends.2

omit [DecidableEq κ] [KindText κ] in
/-- A definition that succeeds gives a lexer. -/
theorem Lexer.exists_of_any {defined : Except LexerFault (Lexer κ)} {test : Lexer κ → Bool}
    (h : defined.toOption.any test = true) :
    ∃ lexer, defined = .ok lexer ∧ test lexer = true := by
  cases defined with
  | error fault => cases h
  | ok lexer => exact ⟨lexer, rfl, h⟩

/-- A rule that makes tokens of the kind for the end, and blanks that are skipped. -/
theorem Scanner.ofText_delivers_iff_words :
    ∃ lexer : Lexer Kind,
      Lexer.define [(.written r"\s+", none), (.written "[a-z]+", some (.text "end"))] (.text "end")
          (some (.text "start")) = .ok lexer ∧
        (lexer.tokenize "ab c\n").failure = none ∧
        (ofText lexer "ab c\n").Delivers
          [⟨⟨0, 0, 0⟩, .text "start", ""⟩, ⟨⟨0, 0, 0⟩, .text "end", "ab"⟩,
            ⟨⟨3, 0, 3⟩, .text "end", "c"⟩]
          ⟨⟨5, 1, 0⟩, .text "end", ""⟩ := by
  have hdefined : (Lexer.define [(.written r"\s+", none), (.written "[a-z]+", some (.text "end"))]
      (.text "end") (some (.text "start"))).toOption.any (fun lexer : Lexer Kind =>
        decide ((lexer.tokenize "ab c\n").failure = none ∧
          lexer.startKind ≠ some lexer.endKind ∧
          (lexer.tokenize "ab c\n").tokens =
            [⟨⟨0, 0, 0⟩, .text "start", ""⟩, ⟨⟨0, 0, 0⟩, .text "end", "ab"⟩,
              ⟨⟨3, 0, 3⟩, .text "end", "c"⟩] ++ [⟨⟨5, 1, 0⟩, .text "end", ""⟩])) = true := by
    decide +kernel
  obtain ⟨lexer, hlexer, htest⟩ := Lexer.exists_of_any hdefined
  obtain ⟨hsplit, hdiffer, htokens⟩ := of_decide_eq_true htest
  obtain ⟨front, closing, hstream, -, -, hdelivers⟩ := ofText_delivers_iff false hsplit
  obtain ⟨rfl, hclosing⟩ := List.append_inj' (htokens.symm.trans hstream) rfl
  cases hclosing
  exact ⟨lexer, hlexer, hsplit, hdelivers.2 hdiffer⟩

/-- Where the two ends have the same kind, no token of a text is delivered. -/
theorem Scanner.same_ends_undelivered :
    ∃ lexer : Lexer Kind,
      Lexer.define [(.written "a", some (.text "letter"))] (.text "end") (some (.text "end")) =
          .ok lexer ∧
        (lexer.tokenize "a").failure = none ∧
        (lexer.tokenize "a").tokens =
          [⟨⟨0, 0, 0⟩, .text "end", ""⟩, ⟨⟨0, 0, 0⟩, .text "letter", "a"⟩] ++
            [⟨⟨1, 0, 1⟩, .text "end", ""⟩] ∧
        (∃ final, (ofText lexer "a").drain = .ok [] final) ∧
        ¬ (ofText lexer "a").Delivers
          [⟨⟨0, 0, 0⟩, .text "end", ""⟩, ⟨⟨0, 0, 0⟩, .text "letter", "a"⟩]
          ⟨⟨1, 0, 1⟩, .text "end", ""⟩ := by
  have hdefined : (Lexer.define [(.written "a", some (.text "letter"))] (.text "end")
      (some (.text "end"))).toOption.any (fun lexer : Lexer Kind =>
        decide ((lexer.tokenize "a").failure = none ∧ lexer.startKind = some lexer.endKind ∧
          (lexer.tokenize "a").tokens =
            [⟨⟨0, 0, 0⟩, .text "end", ""⟩, ⟨⟨0, 0, 0⟩, .text "letter", "a"⟩] ++
              [⟨⟨1, 0, 1⟩, .text "end", ""⟩])) = true := by
    decide +kernel
  obtain ⟨lexer, hlexer, htest⟩ := Lexer.exists_of_any hdefined
  obtain ⟨hsplit, hsame, htokens⟩ := of_decide_eq_true htest
  obtain ⟨final, hfinal⟩ := ofText_drain_nil false hsplit hsame
  refine ⟨lexer, hlexer, hsplit, htokens, ⟨final, hfinal⟩, ?_⟩
  rintro ⟨other, hother, -⟩
  rw [hfinal] at hother
  cases hother

end Parlance
