import Parlance.Proofs.Scanner.Rule

/-!
# What lies ahead of a scanner

The operations of a scanner do not care which of its tokens are already in the buffer. `ahead` is
the list of the tokens that have not been consumed, and `upcoming` is what a look at the next one
gives: a token or the failure of the stream. Each operation has one equation in these terms. After
an operation the scanner is `look` of the one before if nothing was consumed, and `advance` of it if
a token was, so that chains of operations are followed by rewriting.
-/

namespace Parlance

namespace Scanner

variable {κ : Type}

/-! ## Views -/

/-- The tokens that have not been consumed, wherever they wait. -/
def ahead (scanner : Scanner κ) : List (Token κ) := scanner.buffer ++ scanner.pending

/-- What a look at the next token gives. -/
def upcoming (scanner : Scanner κ) : Except Fault (Token κ) :=
  match scanner.ahead, scanner.ending with
  | token :: _, _ => .ok token
  | [], none => .ok scanner.endToken
  | [], some fault => .error fault

/-- Is this what a token at the end of the text looks like? -/
def Ends (scanner : Scanner κ) (token : Token κ) : Prop :=
  token.kind = scanner.endKind ∧ token.text = scanner.endText

/-- The scanner after a look at its next token. -/
def look (scanner : Scanner κ) : Scanner κ := scanner.fill 1

/-- The scanner after its next token has been consumed. -/
def advance (scanner : Scanner κ) : Scanner κ := scanner.look.drop

/-- Two scanners read the same kind of stream: it ends in the same way. -/
structure SameEnd (first second : Scanner κ) : Prop where
  ending : second.ending = first.ending
  endKind : second.endKind = first.endKind
  endText : second.endText = first.endText

namespace SameEnd

variable {first second third : Scanner κ}

/-- A scanner ends like itself. -/
theorem refl (scanner : Scanner κ) : SameEnd scanner scanner := ⟨rfl, rfl, rfl⟩

/-- Ending alike is passed on. -/
theorem trans (hfirst : SameEnd first second) (hsecond : SameEnd second third) :
    SameEnd first third :=
  ⟨hsecond.ending.trans hfirst.ending, hsecond.endKind.trans hfirst.endKind,
    hsecond.endText.trans hfirst.endText⟩

/-- Scanners that end alike have the same tokens for the end. -/
theorem ends_iff (h : SameEnd first second) (token : Token κ) :
    second.Ends token ↔ first.Ends token := by
  rw [Ends, Ends, h.endKind, h.endText]

end SameEnd

/-! ## Looking -/

@[simp] theorem fill_ahead (scanner : Scanner κ) (count : Nat) :
    (scanner.fill count).ahead = scanner.ahead := by
  simp [ahead, fill, List.append_assoc, List.take_append_drop]

@[simp] theorem look_ahead (scanner : Scanner κ) : scanner.look.ahead = scanner.ahead :=
  fill_ahead scanner 1

/-- A look changes nothing about how the stream ends. -/
@[simp] theorem look_sameEnd (scanner : Scanner κ) : SameEnd scanner scanner.look :=
  ⟨rfl, rfl, rfl⟩

/-- As many tokens can still be consumed as lie ahead. -/
theorem remaining_eq_length (scanner : Scanner κ) : scanner.remaining = scanner.ahead.length := by
  rw [scanner.remaining_eq, ahead, List.length_append]

@[simp] theorem left_eq_length (scanner : Scanner κ) :
    Supply.left scanner = scanner.ahead.length :=
  scanner.remaining_eq_length

/-- After a look the buffer holds the next token if there is one. -/
theorem look_buffer_head (scanner : Scanner κ) :
    scanner.look.buffer.head? = scanner.ahead.head? := by
  cases hbuffer : scanner.buffer <;> cases hpending : scanner.pending <;>
    simp [look, fill, ahead, hbuffer, hpending]

/-- A look at a scanner whose tokens are used up pulls none. -/
theorem look_last (scanner : Scanner κ) (h : scanner.ahead = []) :
    scanner.look.last = scanner.last := by
  obtain ⟨hbuffer, hpending⟩ := List.append_eq_nil_iff.1 h
  simp [look, fill, hbuffer, hpending]

@[simp] theorem look_upcoming (scanner : Scanner κ) :
    scanner.look.upcoming = scanner.upcoming := by
  unfold upcoming
  rw [look_ahead, (look_sameEnd scanner).ending]
  cases hahead : scanner.ahead with
  | cons token rest => rfl
  | nil =>
      have hend : scanner.look.endToken = scanner.endToken := by
        rw [endToken, look_last scanner hahead]
        rfl
      rw [hend]

/-- A second look changes nothing. -/
@[simp] theorem look_look (scanner : Scanner κ) : scanner.look.look = scanner.look := by
  cases hbuffer : scanner.buffer <;> cases hpending : scanner.pending <;>
    simp [look, fill, hbuffer, hpending]

/-! ## Consuming -/

/-- Consuming takes the next token away. -/
@[simp] theorem advance_ahead (scanner : Scanner κ) :
    scanner.advance.ahead = scanner.ahead.tail := by
  cases hbuffer : scanner.buffer <;> cases hpending : scanner.pending <;>
    simp [advance, drop, look, fill, ahead, hbuffer, hpending]

/-- Consuming changes nothing about how the stream ends. -/
@[simp] theorem advance_sameEnd (scanner : Scanner κ) : SameEnd scanner scanner.advance :=
  ⟨rfl, rfl, rfl⟩

/-- Consuming after a look is consuming. -/
@[simp] theorem look_advance (scanner : Scanner κ) : scanner.look.advance = scanner.advance := by
  rw [advance, look_look, ← advance]

/-! ## The next token -/

/-- The next token is the first of those ahead. -/
theorem upcoming_of_ahead {scanner : Scanner κ} {token : Token κ} {rest : List (Token κ)}
    (h : scanner.ahead = token :: rest) : scanner.upcoming = .ok token := by
  rw [upcoming, h]

/-- A next token that is none for the end of the text is the first of those ahead. -/
theorem ahead_of_upcoming {scanner : Scanner κ} {token : Token κ}
    (h : scanner.upcoming = .ok token) (hends : ¬ scanner.Ends token) :
    scanner.ahead = token :: scanner.ahead.tail := by
  unfold upcoming at h
  split at h
  · cases h
    simp_all
  · cases h
    exact (hends ⟨rfl, rfl⟩).elim
  · cases h


/-- The text of the token that comes next once only these tokens lie ahead, if there is one. -/
def textAt (scanner : Scanner κ) (rest : List (Token κ)) : Option String :=
  match rest, scanner.ending with
  | token :: _, _ => some token.text
  | [], none => some scanner.endText
  | [], some _ => none

/-- Scanners that end alike foretell the same texts. -/
theorem SameEnd.textAt_eq {first second : Scanner κ} (h : SameEnd first second)
    (rest : List (Token κ)) : second.textAt rest = first.textAt rest := by
  unfold textAt
  rw [h.ending, h.endText]

/-- The next token has the text that is foretold. -/
theorem textAt_eq_some_iff {start scanner : Scanner κ} (hend : SameEnd start scanner)
    {text : String} :
    start.textAt scanner.ahead = some text ↔
      ∃ token, scanner.upcoming = .ok token ∧ token.text = text := by
  unfold textAt upcoming
  rw [hend.ending]
  cases hahead : scanner.ahead with
  | cons token rest => simp
  | nil =>
      cases start.ending with
      | none => simp [endToken, Token.following, hend.endText]
      | some fault => simp

/-! ## Equations of the operations -/

/-- A look at the current token fills the buffer for it. -/
theorem current_fills (scanner : Scanner κ) :
    current scanner =
      match scanner.look.buffer[0]?, scanner.look.ending with
      | some token, _ => .ok token scanner.look
      | none, none => .ok scanner.look.endToken scanner.look
      | none, some fault => .error fault scanner.look := by
  show (match scanner.look.buffer[0]?, scanner.look.ending with
    | some token, _ => (pure token : Scan κ (Token κ))
    | none, none => pure scanner.look.endToken
    | none, some fault => throw fault) scanner.look = _
  cases scanner.look.buffer[0]? <;> cases scanner.look.ending <;> rfl

/-- A look at the current token. -/
theorem current_eq (scanner : Scanner κ) :
    current scanner =
      match scanner.upcoming with
      | .ok token => .ok token scanner.look
      | .error fault => .error fault scanner.look := by
  rw [current_fills, ← List.head?_eq_getElem?, look_buffer_head, ← look_upcoming, upcoming, look_ahead]
  cases scanner.ahead <;> cases scanner.look.ending <;> rfl

/-- The current token is the next one. -/
theorem current_ok_iff {scanner after : Scanner κ} {token : Token κ} :
    current scanner = .ok token after ↔ scanner.upcoming = .ok token ∧ after = scanner.look := by
  rw [current_eq]
  cases scanner.upcoming with
  | ok next => simp only [EStateM.Result.ok.injEq, Except.ok.injEq, eq_comm]
  | error fault => exact ⟨(nomatch ·), fun h => nomatch h.1⟩

/-- A failure never succeeds. -/
theorem fail_ne_ok {α : Type} {message : String} {category : ErrorCategory}
    {scanner after : Scanner κ} {value : α} :
    fail message category scanner ≠ .ok value after := by
  intro h
  obtain ⟨_, _, _, hthrow⟩ := Rule.bind_ok_iff.1 h
  cases hthrow

/-- Consuming a token takes the first of those ahead, which is none for the end of the text. -/
structure Takes (scanner : Scanner κ) (token : Token κ) (after : Scanner κ) : Prop where
  ahead_eq : scanner.ahead = token :: after.ahead
  not_ends : ¬ scanner.Ends token
  after_eq : after = scanner.advance

/-- What consuming a token needs is that it comes next and is none for the end of the text. -/
theorem takes_iff {scanner after : Scanner κ} {token : Token κ} :
    scanner.Takes token after ↔
      scanner.upcoming = .ok token ∧ ¬ scanner.Ends token ∧ after = scanner.advance := by
  constructor
  · rintro ⟨hahead, hends, hafter⟩
    exact ⟨upcoming_of_ahead hahead, hends, hafter⟩
  · rintro ⟨hupcoming, hends, rfl⟩
    refine ⟨?_, hends, rfl⟩
    rw [advance_ahead]
    exact ahead_of_upcoming hupcoming hends

/-- A token that lies ahead and is none for the end of the text can be consumed. -/
theorem takes_advance {scanner : Scanner κ} {token : Token κ} {rest : List (Token κ)}
    (h : scanner.ahead = token :: rest) (hends : ¬ scanner.Ends token) :
    scanner.Takes token scanner.advance :=
  takes_iff.2 ⟨upcoming_of_ahead h, hends, rfl⟩

/-- A look before a token is taken makes no difference. -/
theorem look_takes_iff {scanner after : Scanner κ} {token : Token κ} :
    scanner.look.Takes token after ↔ scanner.Takes token after := by
  rw [takes_iff, takes_iff, look_upcoming, look_advance, (look_sameEnd scanner).ends_iff]

/-- Consuming changes nothing about how the stream ends. -/
theorem Takes.sameEnd {scanner after : Scanner κ} {token : Token κ}
    (h : scanner.Takes token after) : SameEnd scanner after :=
  h.after_eq ▸ advance_sameEnd scanner

/-- Consuming leaves fewer tokens. -/
theorem Takes.left_lt {scanner after : Scanner κ} {token : Token κ}
    (h : scanner.Takes token after) : Supply.left after < Supply.left scanner := by
  rw [left_eq_length, left_eq_length, h.ahead_eq, List.length_cons]
  exact Nat.lt_succ_self _

/-- The token that is taken is the next one. -/
theorem Takes.upcoming_eq {scanner after : Scanner κ} {token : Token κ}
    (h : scanner.Takes token after) : scanner.upcoming = .ok token :=
  upcoming_of_ahead h.ahead_eq

variable [DecidableEq κ]

instance (scanner : Scanner κ) (token : Token κ) : Decidable (scanner.Ends token) :=
  inferInstanceAs (Decidable (_ ∧ _))

/-- Asking for the end is looking at the next token. -/
theorem atEnd_ok_iff {scanner after : Scanner κ} {answer : Bool} :
    atEnd scanner = .ok answer after ↔
      ∃ token, scanner.upcoming = .ok token ∧ after = scanner.look ∧
        answer = decide (scanner.Ends token) := by
  unfold atEnd
  rw [Rule.bind_ok_iff]
  constructor
  · rintro ⟨token, middle, hcurrent, hanswer⟩
    obtain ⟨hupcoming, rfl⟩ := current_ok_iff.1 hcurrent
    cases hanswer
    exact ⟨token, hupcoming, rfl, rfl⟩
  · rintro ⟨token, hupcoming, rfl, rfl⟩
    exact ⟨token, scanner.look, current_ok_iff.2 ⟨hupcoming, rfl⟩, rfl⟩

/-- Consuming gives the token that is taken. -/
theorem consumeToken_ok_iff {scanner after : Scanner κ} {token : Token κ} :
    consumeToken scanner = .ok token after ↔ scanner.Takes token after := by
  unfold consumeToken
  rw [Rule.bind_ok_iff, takes_iff]
  constructor
  · rintro ⟨answer, middle, hend, h⟩
    obtain ⟨next, hnext, rfl, rfl⟩ := atEnd_ok_iff.1 hend
    by_cases hends : scanner.Ends next
    · simp only [hends, decide_true, if_true] at h
      obtain ⟨_, _, hfail, _⟩ := Rule.bind_ok_iff.1 h
      exact (fail_ne_ok hfail).elim
    · simp only [hends, decide_false] at h
      obtain ⟨token, _, hcurrent, hdrop⟩ := Rule.bind_ok_iff.1 h
      rw [current_ok_iff, look_upcoming, hnext, look_look] at hcurrent
      obtain ⟨htoken, rfl⟩ := hcurrent
      cases htoken
      cases hdrop
      exact ⟨hnext, hends, rfl⟩
  · rintro ⟨hupcoming, hends, rfl⟩
    refine ⟨false, scanner.look, atEnd_ok_iff.2 ⟨token, hupcoming, rfl, by simp [hends]⟩, ?_⟩
    exact Rule.bind_ok_iff.2 ⟨token, scanner.look,
      current_ok_iff.2 ⟨by rw [look_upcoming, hupcoming], by rw [look_look]⟩, rfl⟩

/-- Consuming gives the text of the token that is taken. -/
theorem consume_ok_iff {scanner after : Scanner κ} {text : String} :
    consume scanner = .ok text after ↔ ∃ token, scanner.Takes token after ∧ token.text = text := by
  unfold consume
  rw [Rule.map_ok_iff]
  simp only [consumeToken_ok_iff]

/-- Trying to consume a text looks at the next token, and takes it if it has that text. -/
theorem tryConsume_ok_iff {scanner after : Scanner κ} {text : String} {found : Bool} :
    tryConsume text scanner = .ok found after ↔
      ∃ token, if token.text = text then found = true ∧ scanner.Takes token after
        else found = false ∧ scanner.upcoming = .ok token ∧ after = scanner.look := by
  unfold tryConsume
  rw [Rule.bind_ok_iff]
  refine exists_congr fun token => ?_
  simp only [current_ok_iff]
  constructor
  · rintro ⟨_, ⟨hupcoming, rfl⟩, h⟩
    split
    · rename_i htext
      rw [if_pos htext] at h
      obtain ⟨text, middle, hconsume, hpure⟩ := Rule.bind_ok_iff.1 h
      cases hpure
      obtain ⟨taken, htaken, -⟩ := consume_ok_iff.1 hconsume
      have htakes := look_takes_iff.1 htaken
      cases hupcoming.symm.trans htakes.upcoming_eq
      exact ⟨rfl, htakes⟩
    · rename_i htext
      rw [if_neg htext] at h
      cases h
      exact ⟨rfl, hupcoming, rfl⟩
  · intro h
    split at h
    · rename_i htext
      obtain ⟨rfl, htakes⟩ := h
      refine ⟨scanner.look, ⟨htakes.upcoming_eq, rfl⟩, ?_⟩
      rw [if_pos htext]
      exact Rule.bind_ok_iff.2 ⟨token.text, after,
        consume_ok_iff.2 ⟨token, look_takes_iff.2 htakes, rfl⟩, rfl⟩
    · rename_i htext
      obtain ⟨rfl, hupcoming, rfl⟩ := h
      refine ⟨scanner.look, ⟨hupcoming, rfl⟩, ?_⟩
      rw [if_neg htext]
      rfl

/-- A text that is found is consumed. -/
theorem tryConsume_true_iff {scanner after : Scanner κ} {text : String} :
    tryConsume text scanner = .ok true after ↔
      ∃ token, scanner.Takes token after ∧ token.text = text := by
  rw [tryConsume_ok_iff]
  refine exists_congr fun token => ?_
  split <;> simp_all

/-- A text that is not found is only looked for. -/
theorem tryConsume_false_iff {scanner after : Scanner κ} {text : String} :
    tryConsume text scanner = .ok false after ↔
      ∃ token, scanner.upcoming = .ok token ∧ token.text ≠ text ∧ after = scanner.look := by
  rw [tryConsume_ok_iff]
  refine exists_congr fun token => ?_
  split <;> simp_all

variable [KindText κ]

/-- A token of a given kind is consumed if it comes next. -/
theorem consumeKind_ok_iff {scanner after : Scanner κ} {kind : κ} {message text : String} :
    consumeKind kind message scanner = .ok text after ↔
      ∃ token, scanner.Takes token after ∧ token.kind = kind ∧ token.text = text := by
  unfold consumeKind
  rw [Rule.bind_ok_iff]
  refine exists_congr fun token => ?_
  simp only [current_ok_iff]
  constructor
  · rintro ⟨_, ⟨hupcoming, rfl⟩, h⟩
    by_cases hkind : token.kind = kind
    · rw [if_neg (by simp [hkind])] at h
      obtain ⟨taken, htaken, htext⟩ := consume_ok_iff.1 h
      have htakes := look_takes_iff.1 htaken
      cases hupcoming.symm.trans htakes.upcoming_eq
      exact ⟨htakes, hkind, htext⟩
    · rw [if_pos hkind] at h
      obtain ⟨_, _, hfail, _⟩ := Rule.bind_ok_iff.1 h
      exact (fail_ne_ok hfail).elim
  · rintro ⟨htakes, hkind, htext⟩
    refine ⟨scanner.look, ⟨htakes.upcoming_eq, rfl⟩, ?_⟩
    rw [if_neg (by simp [hkind])]
    exact consume_ok_iff.2 ⟨token, look_takes_iff.2 htakes, htext⟩

/-- A token with a given text is consumed if it comes next. -/
theorem consumeText_ok_iff {scanner after : Scanner κ} {text message result : String} :
    consumeText text message scanner = .ok result after ↔
      result = text ∧ ∃ token, scanner.Takes token after ∧ token.text = text := by
  unfold consumeText
  rw [Rule.bind_ok_iff]
  constructor
  · rintro ⟨found, middle, htry, h⟩
    cases found with
    | true =>
        cases h
        exact ⟨rfl, tryConsume_true_iff.1 htry⟩
    | false =>
        obtain ⟨_, _, -, hrest⟩ := Rule.bind_ok_iff.1 h
        obtain ⟨_, _, hfail, -⟩ := Rule.bind_ok_iff.1 hrest
        exact (fail_ne_ok hfail).elim
  · rintro ⟨rfl, token, htakes, htext⟩
    exact ⟨true, after, tryConsume_true_iff.2 ⟨token, htakes, htext⟩, rfl⟩

/-! ## Going on -/

/-- What a scanner comes to by consuming tokens. -/
structure Passes (start final : Scanner κ) : Prop where
  suffix : final.ahead <:+ start.ahead
  sameEnd : SameEnd start final

namespace Passes

omit [DecidableEq κ] [KindText κ]

variable {start middle final : Scanner κ}

/-- Where nothing is consumed, the scanner stays. -/
theorem refl (scanner : Scanner κ) : Passes scanner scanner := ⟨List.suffix_refl _, .refl _⟩

/-- Going on twice is going on. -/
theorem trans (hfirst : Passes start middle) (hsecond : Passes middle final) :
    Passes start final :=
  ⟨hsecond.suffix.trans hfirst.suffix, hfirst.sameEnd.trans hsecond.sameEnd⟩

/-- A look consumes nothing. -/
theorem look (scanner : Scanner κ) : Passes scanner scanner.look :=
  ⟨(look_ahead scanner).symm ▸ List.suffix_refl _, look_sameEnd scanner⟩

end Passes

omit [DecidableEq κ] [KindText κ] in
/-- Taking a token is going on. -/
theorem Takes.passes {scanner after : Scanner κ} {token : Token κ} (h : scanner.Takes token after) :
    Passes scanner after :=
  ⟨by rw [h.ahead_eq]; exact List.suffix_cons _ _, h.sameEnd⟩

end Scanner

end Parlance
