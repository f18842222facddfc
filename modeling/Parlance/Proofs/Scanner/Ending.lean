import Parlance.Proofs.Scanner.Delivery

/-!
# The end of a stream

A source may close with a token of its own for the end, or just end. A scanner that is at such a
token of the source stays there, whatever it is asked, since the token cannot be consumed. Where the
source just ends the same holds of the token that the scanner makes up.

A look past the last token of the source is a different matter. What it gives is made up from the
last token, at the place where that stops; if the last token is the source's own for the end and its
text is not empty, this is another place. `Scanner.ofTokens_ending_iff` says that this is the only
exception.
-/

namespace Parlance

variable {κ : Type} [DecidableEq κ]

omit [DecidableEq κ] in
/-- Moving over a text moves the offset by its length. -/
theorem Position.advance_offset (place : Position) (text : String) :
    (place.advance text).offset = place.offset + text.length := by
  have hchars (chars : List Char) (place : Position) :
      (place.advanceChars chars).offset = place.offset + chars.length := by
    induction chars generalizing place with
    | nil => simp
    | cons c rest ih =>
        have hstep : (place.step c).offset = place.offset + 1 := by
          unfold Position.step
          split <;> rfl
        rw [Position.advanceChars_cons, ih, hstep, List.length_cons]
        omega
  exact (hchars text.toList place).trans (by rw [String.length_toList])

namespace Tape

variable {tape : Tape κ} {cursor count : Nat} {token closing : Token κ}

/-- A token for the end cannot be taken. -/
theorem take_of_ends (htoken : tape.tokenAt cursor 0 = .ok token) (hends : tape.Ends token) :
    ∃ fault, tape.take cursor = .error fault := by
  rw [take, htoken]
  exact ⟨_, if_pos hends⟩

variable [KindText κ]

/-- Nothing is consumed at a token for the end, whatever is asked. -/
theorem next_of_ends (htoken : tape.tokenAt cursor 0 = .ok token) (hends : tape.Ends token)
    (request : Request κ) : tape.next cursor request = cursor := by
  obtain ⟨fault, htake⟩ := take_of_ends htoken hends
  have hkept : request.consumes (tape.reply cursor request) = false := by
    cases request with
    | current | atEnd | lookAhead | error => rfl
    | consume | consumeToken =>
        rw [reply, htake]
        rfl
    | consumeKind kind message =>
        rw [reply_consumeKind htoken, htake]
        split <;> rfl
    | consumeText text message =>
        rw [reply_consumeText htoken, htake]
        split <;> rfl
    | tryConsume text =>
        rw [reply_tryConsume htoken, htake]
        split <;> rfl
  rw [next, hkept]
  rfl

/-- A request moves the cursor over one token at most. -/
theorem next_le (tape : Tape κ) (cursor : Nat) (request : Request κ) :
    tape.next cursor request ≤ cursor + 1 := by
  rw [next]
  split <;> omega

/-- So many tokens come before the first one for the end. -/
structure FirstEnd (tape : Tape κ) (count : Nat) (closing : Token κ) : Prop where
  before : ∀ cursor < count, ∃ token, tape.tokenAt cursor 0 = .ok token ∧ ¬ tape.Ends token
  tokenAt : tape.tokenAt count 0 = .ok closing
  ends : tape.Ends closing

namespace FirstEnd

/-- The cursor does not move past the first token for the end. -/
theorem dialogue_le (h : tape.FirstEnd count closing) (hcursor : cursor ≤ count)
    (requests : List (Request κ)) : (tape.dialogue cursor requests).2 ≤ count := by
  induction requests generalizing cursor with
  | nil => exact hcursor
  | cons request rest ih =>
      rw [Tape.dialogue]
      refine ih ?_
      rcases Nat.lt_or_eq_of_le hcursor with hlt | rfl
      · exact Nat.le_trans (tape.next_le cursor request) hlt
      · exact Nat.le_of_eq (next_of_ends h.tokenAt h.ends request)

/-- The cursor stays at the first token for the end. -/
theorem dialogue_eq (h : tape.FirstEnd count closing) (requests : List (Request κ)) :
    (tape.dialogue count requests).2 = count := by
  induction requests with
  | nil => rfl
  | cons request rest ih => rw [Tape.dialogue, next_of_ends h.tokenAt h.ends, ih]

omit [DecidableEq κ] [KindText κ] in
/-- A token for the end at a cursor that is not past the first one is that one. -/
theorem eq_of_ends (h : tape.FirstEnd count closing) (hcursor : cursor ≤ count)
    (htoken : tape.tokenAt cursor 0 = .ok token) (hends : tape.Ends token) : cursor = count := by
  rcases Nat.lt_or_eq_of_le hcursor with hlt | hcursor
  · obtain ⟨other, hother, hnot⟩ := h.before cursor hlt
    cases htoken.symm.trans hother
    exact (hnot hends).elim
  · exact hcursor

end FirstEnd

omit [DecidableEq κ] [KindText κ] in
/-- An offset from one cursor is one from any other that it reaches. -/
theorem tokenAt_of_le (count : Nat) {offset : Int} (hoffset : 0 ≤ offset)
    (hle : count ≤ cursor + offset.toNat) :
    tape.tokenAt cursor offset = tape.tokenAt count (cursor + offset.toNat - count : Nat) := by
  have hplace : count + ((cursor + offset.toNat - count : Nat) : Int).toNat =
      cursor + offset.toNat := by omega
  rw [tokenAt, tokenAt, if_neg (by omega), if_neg (by omega), hplace]

end Tape

/-! ## Sources that close with a token for the end, or just end -/

/-- The tokens of a source: some in front, and a last one for the end if there is one. -/
def Tape.ofFront (front : List (Token κ)) (own : Option (Token κ)) (endKind : κ)
    (endText : String) : Tape κ :=
  ⟨front ++ own.toList, none, endKind, endText⟩

/-- The token for the end of such a source: its own, or else the one that is made up where the last
token stops. -/
def Tape.closing (front : List (Token κ)) (own : Option (Token κ)) (endKind : κ)
    (endText : String) : Token κ :=
  own.getD ⟨(front.getLast?.map Token.stopPosition).getD .start, endKind, endText⟩

section

variable {front : List (Token κ)} {own : Option (Token κ)} {endKind : κ} {endText : String}

namespace Tape

omit [DecidableEq κ]

/-- The first token for the end is behind those in front. -/
theorem ofFront_firstEnd
    (hfront : ∀ token ∈ front, ¬ (token.kind = endKind ∧ token.text = endText))
    (hown : ∀ token ∈ own, token.kind = endKind ∧ token.text = endText) :
    (ofFront front own endKind endText).FirstEnd front.length
      (closing front own endKind endText) where
  before cursor hcursor := by
    refine ⟨front[cursor], ?_, hfront _ (List.getElem_mem hcursor)⟩
    simp [tokenAt, ofFront, List.getElem?_append_left hcursor, List.getElem?_eq_getElem hcursor]
  tokenAt := by
    cases own <;> simp [Tape.tokenAt, ofFront, closing, stop]
  ends := by
    cases own with
    | none => exact ⟨rfl, rfl⟩
    | some token => exact hown token rfl

/-- Past the tokens of the source is the token that is made up where the last of them stops. -/
theorem ofFront_tokenAt_past {offset : Int} (hoffset : 0 ≤ offset)
    (hpast : own.toList.length ≤ offset.toNat) :
    (ofFront front own endKind endText).tokenAt front.length offset =
      .ok ⟨(ofFront front own endKind endText).stop, endKind, endText⟩ := by
  have hnone : (front ++ own.toList)[front.length + offset.toNat]? = none := by
    rw [List.getElem?_eq_none_iff, List.length_append]
    omega
  rw [tokenAt, if_neg (by omega)]
  simp only [ofFront, hnone]

/-- The token for the end is the last one, and further ahead there is nothing but the like, exactly
if the source just ends or its own token for the end is empty. -/
theorem ofFront_closes_iff
    (hfront : ∀ token ∈ front, ¬ (token.kind = endKind ∧ token.text = endText))
    (hown : ∀ token ∈ own, token.kind = endKind ∧ token.text = endText) :
    (ofFront front own endKind endText).Closes front.length (closing front own endKind endText) ↔
      own = none ∨ endText = "" := by
  have hfirst := ofFront_firstEnd hfront hown
  cases own with
  | none =>
      refine ⟨fun _ => .inl rfl, fun _ => ⟨hfirst.ends, fun offset hoffset => ?_⟩⟩
      rw [ofFront_tokenAt_past hoffset (Nat.zero_le _)]
      simp [ofFront, closing, stop]
  | some token =>
      obtain ⟨rfl, rfl⟩ := hown token rfl
      have hstop : (ofFront front (some token) token.kind token.text).stop =
          token.stopPosition := by
        simp [ofFront, stop]
      constructor
      · intro hcloses
        have hpast : (some token).toList.length ≤ (1 : Int).toNat := Nat.le_refl 1
        have hlook := hcloses.tokenAt 1 (by decide)
        rw [ofFront_tokenAt_past (by decide) hpast, hstop] at hlook
        -- What is made up behind the token stands as much further as the token is long.
        have hoffset := congrArg (fun found => found.position.offset) (Except.ok.inj hlook)
        simp only [Token.stopPosition, Position.advance_offset, closing, Option.getD_some]
          at hoffset
        exact .inr (String.length_eq_zero_iff.1 (by omega))
      · rintro (hnone | hempty)
        · cases hnone
        · refine ⟨hfirst.ends, fun offset hoffset => ?_⟩
          by_cases hzero : offset = 0
          · rw [hzero, hfirst.tokenAt]
          · have hpast : (some token).toList.length ≤ offset.toNat := by
              rw [Option.toList_some, List.length_singleton]
              omega
            rw [ofFront_tokenAt_past hoffset hpast, hstop, Token.stopPosition, hempty]
            rcases token with ⟨position, kind, text⟩
            cases hempty
            rfl

end Tape

namespace Scanner

variable [KindText κ]

/-- Whatever has been asked before, each look at the place of the token for the end or past it finds
this one. The place is behind what lies ahead, less the token of the source if it has its own. -/
def LooksSteadily (scanner : Scanner κ) (own : Option (Token κ)) (closing : Token κ) : Prop :=
  ∀ (requests : List (Request κ)) (offset : Int), 0 ≤ offset →
    (scanner.dialogue requests).2.ahead.length ≤ offset.toNat + own.toList.length →
    ∃ after, lookAhead offset (scanner.dialogue requests).2 = .ok closing after

/-- Once the end has been reported, it is reported for good, and the current token is this one,
whatever else is asked. -/
def StaysAtEnd (scanner : Scanner κ) (closing : Token κ) : Prop :=
  ∀ (asked further : List (Request κ)) (ended : Scanner κ),
    atEnd (scanner.dialogue asked).2 = .ok true ended →
      (∃ after, current (ended.dialogue further).2 = .ok closing after) ∧
        ∃ after, atEnd (ended.dialogue further).2 = .ok true after

end Scanner

namespace Tape

variable [KindText κ] {tape : Tape κ} {scanner : Scanner κ} {count : Nat} {closing : Token κ}

/-- A scanner over a tape looks steadily exactly if there is nothing but the like of the first token
for the end. -/
theorem Shows.looksSteadily_iff (h : tape.Shows 0 scanner) (hends : tape.Ends closing)
    (hlength : tape.tokens.length = count + own.toList.length) :
    scanner.LooksSteadily own closing ↔ tape.Closes count closing := by
  constructor
  · intro hsteady
    refine ⟨hends, fun offset hoffset => ?_⟩
    have hahead : scanner.ahead.length ≤ (count + offset).toNat + own.toList.length := by
      rw [h.ahead_eq, List.drop_zero, hlength]
      omega
    obtain ⟨after, hlook⟩ := hsteady [] (count + offset) (by omega) hahead
    obtain ⟨_, -, hanswer⟩ := h.lookAhead (count + offset)
    have hplace : ((0 + (count + offset).toNat - count : Nat) : Int) = offset := by omega
    rw [tokenAt_of_le count (by omega) (by omega), hplace] at hanswer
    change Scanner.lookAhead (count + offset) scanner = .ok closing after at hlook
    rw [hlook] at hanswer
    cases htoken : tape.tokenAt count offset with
    | error fault =>
        rw [htoken] at hanswer
        cases hanswer
    | ok token =>
        rw [htoken] at hanswer
        cases hanswer
        rfl
  · intro hcloses requests offset hoffset hpast
    have hlast := (h.dialogue requests).2
    obtain ⟨after, -, hlook⟩ := hlast.lookAhead offset
    refine ⟨after, ?_⟩
    rw [hlast.ahead_eq, List.length_drop, hlength] at hpast
    rw [hlook, tokenAt_of_le count hoffset (by omega),
      hcloses.tokenAt _ (Int.natCast_nonneg _)]

/-- A scanner over a tape that has come to the first token for the end stays there. -/
theorem Shows.staysAtEnd (h : tape.Shows 0 scanner) (hfirst : tape.FirstEnd count closing) :
    scanner.StaysAtEnd closing := by
  intro asked further ended hended
  have hasked := (h.dialogue asked).2
  obtain ⟨token, hupcoming, rfl, hends⟩ := Scanner.atEnd_ok_iff.1 hended
  have htoken := hasked.upcoming_eq.symm.trans hupcoming
  have htokenEnds : tape.Ends token := (hasked.ends_iff token).1 (of_decide_eq_true hends.symm)
  have hcursor := hfirst.eq_of_ends (hfirst.dialogue_le (Nat.zero_le _) asked) htoken htokenEnds
  have hlast := (hasked.look.dialogue further).2
  rw [hcursor, hfirst.dialogue_eq] at hlast
  have hclosing := hlast.upcoming_eq.trans hfirst.tokenAt
  refine ⟨⟨_, Scanner.current_ok_iff.2 ⟨hclosing, rfl⟩⟩,
    ⟨_, Scanner.atEnd_ok_iff.2 ⟨closing, hclosing, rfl, ?_⟩⟩⟩
  exact (decide_eq_true ((hlast.ends_iff closing).2 hfirst.ends)).symm

end Tape

variable [KindText κ]

/-- A source of which no token is one for the end, or just the last one, is read up to its end, and
the scanner stays there. Looks find the token for the end for good exactly if the source just ends,
or the text of its own token for the end is empty. -/
theorem Scanner.ofTokens_ending_iff (tracing : Bool)
    (hfront : ∀ token ∈ front, ¬ (token.kind = endKind ∧ token.text = endText))
    (hown : ∀ token ∈ own, token.kind = endKind ∧ token.text = endText) :
    let scanner := ofTokens (front ++ own.toList) none endKind endText tracing
    let closing := Tape.closing front own endKind endText
    (scanner.LooksSteadily own closing ↔ own = none ∨ endText = "") ∧
      scanner.StaysAtEnd closing := by
  have hshows := Tape.Shows.ofTokens (front ++ own.toList) none endKind endText tracing
  have hfirst := Tape.ofFront_firstEnd hfront hown
  refine ⟨?_, hshows.staysAtEnd hfirst⟩
  rw [hshows.looksSteadily_iff hfirst.ends List.length_append]
  exact Tape.ofFront_closes_iff hfront hown

/-- A source whose own token for the end is empty, as that of a text is. -/
theorem Scanner.ofTokens_ending_iff_empty :
    let scanner := ofTokens [⟨⟨0, 0, 0⟩, .text "word", "a"⟩, ⟨⟨1, 0, 1⟩, .text "end", ""⟩] none
      (Kind.text "end")
    scanner.LooksSteadily (some ⟨⟨1, 0, 1⟩, .text "end", ""⟩) ⟨⟨1, 0, 1⟩, .text "end", ""⟩ ∧
      scanner.StaysAtEnd ⟨⟨1, 0, 1⟩, .text "end", ""⟩ := by
  obtain ⟨hsteady, hstays⟩ := @ofTokens_ending_iff Kind _ [⟨⟨0, 0, 0⟩, .text "word", "a"⟩]
    (some ⟨⟨1, 0, 1⟩, .text "end", ""⟩) (.text "end") "" _ false (by decide) (by decide)
  exact ⟨hsteady.2 (.inr rfl), hstays⟩

/-- A look past a token for the end that is not empty finds another one, which the source does not
have, where that token stops. -/
theorem Scanner.own_end_unsteady :
    let closing : Token Kind := ⟨⟨1, 0, 1⟩, .text "end", "$"⟩
    let scanner := ofTokens [⟨⟨0, 0, 0⟩, .text "word", "a"⟩, closing] none (.text "end") "$"
    (∃ after, lookAhead 1 scanner = .ok closing after) ∧
      (∃ after, lookAhead 2 scanner = .ok ⟨⟨2, 0, 2⟩, .text "end", "$"⟩ after) ∧
      ¬ scanner.LooksSteadily (some closing) closing := by
  refine ⟨⟨_, rfl⟩, ⟨_, rfl⟩, fun hsteady => ?_⟩
  obtain ⟨after, hlook⟩ := hsteady [] 2 (by decide) (by decide)
  injection hlook with htoken
  revert htoken
  decide

end

end Parlance
