import Parlance.Proofs.Scanner.Ahead

/-!
# What an operation comes to

One equation for each operation of a scanner that says all of it: the result or the failure, and the
scanner after it. Every operation but a look further ahead goes by the next token alone, so each
equation is `onNext` of what is done with that token. A failure leaves the scanner as a look leaves
it; a token that is consumed leaves it as `advance` does.
-/

namespace Parlance.Scanner

variable {κ α β : Type} {scanner : Scanner κ}

/-! ## The next token -/

/-- What comes of the next token, or of the failure of the stream if there is none. -/
def onNext (scanner : Scanner κ) (next : Token κ → EStateM.Result Fault (Scanner κ) α) :
    EStateM.Result Fault (Scanner κ) α :=
  match scanner.upcoming with
  | .ok token => next token
  | .error fault => .error fault scanner.look

/-- Where a token comes next, it is what an operation goes by. -/
theorem onNext_of_ok {token : Token κ} (h : scanner.upcoming = .ok token)
    (next : Token κ → EStateM.Result Fault (Scanner κ) α) : scanner.onNext next = next token := by
  rw [onNext, h]

/-- Where the stream fails, every operation fails in the same way. -/
theorem onNext_of_error {fault : Fault} (h : scanner.upcoming = .error fault)
    (next : Token κ → EStateM.Result Fault (Scanner κ) α) :
    scanner.onNext next = .error fault scanner.look := by
  rw [onNext, h]

/-- Two outcomes that agree on the next token are the same. -/
theorem onNext_congr {next other : Token κ → EStateM.Result Fault (Scanner κ) α}
    (h : ∀ token, scanner.upcoming = .ok token → next token = other token) :
    scanner.onNext next = scanner.onNext other := by
  cases hupcoming : scanner.upcoming with
  | ok token => rw [onNext_of_ok hupcoming, onNext_of_ok hupcoming, h token hupcoming]
  | error fault => rw [onNext_of_error hupcoming, onNext_of_error hupcoming]

/-- What is done after a look goes by the token that was seen. -/
theorem current_bind (next : Token κ → Scan κ α) :
    (current >>= next) scanner = scanner.onNext fun token => next token scanner.look := by
  rw [Rule.bind_apply, current_eq, onNext]
  cases scanner.upcoming <;> rfl

/-! ## Further ahead -/

/-- A buffer that holds so many tokens where there are so many shows those ahead. -/
theorem fill_buffer_getElem? (scanner : Scanner κ) (index : Nat) :
    (scanner.fill (index + 1)).buffer[index]? = scanner.ahead[index]? := by
  show (scanner.buffer ++ scanner.pending.take (index + 1 - scanner.buffer.length))[index]? =
    (scanner.buffer ++ scanner.pending)[index]?
  rw [List.getElem?_append, List.getElem?_append]
  split
  · rfl
  · rename_i hbuffer
    exact List.getElem?_take_of_lt (by omega)

/-- A look ahead gives the token that lies so far ahead. Past the last token it gives one for the
end, or fails as the stream does. -/
theorem lookAhead_eq (scanner : Scanner κ) (offset : Int) :
    lookAhead offset scanner =
      if offset < 0 then .error (.negativeLookahead offset) scanner
      else
        let filled := scanner.fill (offset.toNat + 1)
        match scanner.ahead[offset.toNat]?, scanner.ending with
        | some token, _ => .ok token filled
        | none, none => .ok filled.endToken filled
        | none, some fault => .error fault filled := by
  by_cases hnegative : offset < 0
  · unfold lookAhead
    simp only [hnegative, if_true]
    rfl
  · have hrun : lookAhead offset scanner =
        (match (scanner.fill (offset.toNat + 1)).buffer[offset.toNat]?, scanner.ending with
        | some token, _ => (pure token : Scan κ (Token κ))
        | none, none => pure (scanner.fill (offset.toNat + 1)).endToken
        | none, some fault => throw fault) (scanner.fill (offset.toNat + 1)) := by
      unfold lookAhead
      simp only [hnegative, if_false]
      rfl
    rw [hrun, if_neg hnegative, fill_buffer_getElem?]
    cases scanner.ahead[offset.toNat]? <;> cases scanner.ending <;> rfl

/-! ## Errors -/

/-- The token that an error made here is blamed on. -/
def blamedToken (scanner : Scanner κ) : Token κ :=
  match scanner.upcoming with
  | .ok token => token
  | .error _ => scanner.look.last

/-- The error that is made here. -/
def errorAt (scanner : Scanner κ) (message : String) (category : ErrorCategory) : ParseError :=
  .ofToken category scanner.blamedToken message

@[simp] theorem look_blamedToken (scanner : Scanner κ) :
    scanner.look.blamedToken = scanner.blamedToken := by
  rw [blamedToken, blamedToken, look_upcoming, look_look]

@[simp] theorem look_errorAt (scanner : Scanner κ) (message : String) (category : ErrorCategory) :
    scanner.look.errorAt message category = scanner.errorAt message category := by
  rw [errorAt, errorAt, look_blamedToken]

/-- An error at a token that comes next is blamed on it. -/
theorem errorAt_of_ok {token : Token κ} (h : scanner.upcoming = .ok token) (message : String)
    (category : ErrorCategory) :
    scanner.errorAt message category = .ofToken category token message := by
  rw [errorAt, blamedToken, h]

/-- The search for the token to blame fills the buffer for one. -/
theorem blamed_fills (scanner : Scanner κ) :
    blamed scanner =
      match scanner.look.buffer, scanner.look.ending with
      | token :: _, _ => .ok token scanner.look
      | [], none => .ok scanner.look.endToken scanner.look
      | [], some _ => .ok scanner.look.last scanner.look := by
  show (match scanner.look.buffer, scanner.look.ending with
    | token :: _, _ => (pure token : Scan κ (Token κ))
    | [], none => pure scanner.look.endToken
    | [], some _ => pure scanner.look.last) scanner.look = _
  cases scanner.look.buffer <;> cases scanner.look.ending <;> rfl

/-- The token to blame is found by a look. -/
theorem blamed_eq (scanner : Scanner κ) :
    blamed scanner = .ok scanner.blamedToken scanner.look := by
  have hhead : scanner.look.buffer.head? = scanner.look.ahead.head? := by
    rw [look_buffer_head, look_ahead]
  rw [blamed_fills, ← look_blamedToken, blamedToken, look_look, upcoming]
  cases hbuffer : scanner.look.buffer <;> cases hahead : scanner.look.ahead <;>
    cases scanner.look.ending <;> simp_all

/-- An error is made by a look. -/
theorem errorHere_eq (scanner : Scanner κ) (message : String) (category : ErrorCategory) :
    errorHere message category scanner = .ok (scanner.errorAt message category) scanner.look := by
  rw [errorHere, Rule.bind_of_ok (blamed_eq scanner)]
  rfl

/-- A failure is an error that is made by a look. -/
theorem fail_eq (scanner : Scanner κ) (message : String) (category : ErrorCategory) :
    (fail message category : Scan κ α) scanner =
      .error (.parse (scanner.errorAt message category)) scanner.look := by
  rw [fail, Rule.bind_of_ok (errorHere_eq scanner message category)]
  rfl

/-! ## Operations that start with a look -/

/-- An operation that starts with a look: another look before it makes no difference. -/
def LooksFirst (operation : Scan κ α) : Prop :=
  ∀ scanner : Scanner κ, operation scanner = scanner.onNext fun _ => operation scanner.look

/-- Where a token comes next, a look before such an operation can be left out. -/
theorem LooksFirst.of_ok {operation : Scan κ α} (h : LooksFirst operation) {token : Token κ}
    (hupcoming : scanner.upcoming = .ok token) : operation scanner = operation scanner.look := by
  rw [h scanner, onNext_of_ok hupcoming]

/-- Where the stream fails, such an operation fails in the same way. -/
theorem LooksFirst.of_error {operation : Scan κ α} (h : LooksFirst operation) {fault : Fault}
    (hupcoming : scanner.upcoming = .error fault) :
    operation scanner = .error fault scanner.look := by
  rw [h scanner, onNext_of_error hupcoming]

/-- Whatever is done after a look starts with one. -/
theorem current_looksFirst (next : Token κ → Scan κ α) : LooksFirst (current >>= next) := by
  intro scanner
  rw [current_bind]
  refine onNext_congr fun token hupcoming => ?_
  rw [current_bind, onNext_of_ok (by rw [look_upcoming, hupcoming]), look_look]

/-- What goes on after an operation starts as that does. -/
theorem LooksFirst.bind {first : Scan κ α} (h : LooksFirst first) (next : α → Scan κ β) :
    LooksFirst (first >>= next) := by
  intro scanner
  rw [Rule.bind_apply, h scanner]
  cases hupcoming : scanner.upcoming with
  | ok token => rw [onNext_of_ok hupcoming, onNext_of_ok hupcoming, Rule.bind_apply]
  | error fault => rw [onNext_of_error hupcoming, onNext_of_error hupcoming]

/-- A loop starts as its rounds do. -/
theorem LooksFirst.iterate {step : α → Scan κ (Option α)} {value : α}
    (h : LooksFirst (step value)) : LooksFirst (Rule.iterate step value) := by
  intro scanner
  rw [Rule.iterate_eq, h scanner]
  cases hupcoming : scanner.upcoming with
  | ok token =>
      rw [onNext_of_ok hupcoming, onNext_of_ok hupcoming, Rule.iterate_eq, left_eq_length,
        left_eq_length, look_ahead]
  | error fault => rw [onNext_of_error hupcoming, onNext_of_error hupcoming]

/-! ## Operations -/

variable [DecidableEq κ]

/-- What comes of consuming this token, which comes next: the value, unless the token is the one for
the end of the text. -/
def consuming (scanner : Scanner κ) (token : Token κ) (value : α) :
    EStateM.Result Fault (Scanner κ) α :=
  if scanner.Ends token then
    .error (.parse (scanner.errorAt "read past EOF" .unexpectedEnd)) scanner.look
  else .ok value scanner.advance

@[simp] theorem look_consuming (scanner : Scanner κ) (token : Token κ) (value : α) :
    scanner.look.consuming token value = scanner.consuming token value := by
  unfold consuming
  simp only [(look_sameEnd scanner).ends_iff, look_errorAt, look_look, look_advance]

/-- A token for no end is consumed. -/
theorem consuming_of_not_ends {token : Token κ} (h : ¬ scanner.Ends token) (value : α) :
    scanner.consuming token value = .ok value scanner.advance :=
  if_neg h

/-- What is given in place of what consuming gives. -/
theorem consuming_bind {first : Scan κ α} {next : α → Scan κ β} {state : Scanner κ}
    {token : Token κ} {value : α} {result : β} (h : first state = scanner.consuming token value)
    (hnext : next value = pure result) :
    (first >>= next) state = scanner.consuming token result := by
  rw [Rule.bind_apply, h, consuming, consuming]
  by_cases hends : scanner.Ends token
  · simp only [if_pos hends]
  · simp only [if_neg hends, hnext]
    rfl

/-- What comes of consuming this token, which comes next, and of going on after it. -/
def consumingThen (scanner : Scanner κ) (token : Token κ) (next : Scan κ α) :
    EStateM.Result Fault (Scanner κ) α :=
  if scanner.Ends token then
    .error (.parse (scanner.errorAt "read past EOF" .unexpectedEnd)) scanner.look
  else next scanner.advance

@[simp] theorem look_consumingThen (scanner : Scanner κ) (token : Token κ) (next : Scan κ α) :
    scanner.look.consumingThen token next = scanner.consumingThen token next := by
  unfold consumingThen
  simp only [(look_sameEnd scanner).ends_iff, look_errorAt, look_look, look_advance]

/-- What follows a token that is consumed goes on with fewer tokens. -/
theorem consumingThen_congr {token : Token κ} {next other : Scan κ α}
    (hupcoming : scanner.upcoming = .ok token)
    (h : scanner.Takes token scanner.advance → next scanner.advance = other scanner.advance) :
    scanner.consumingThen token next = scanner.consumingThen token other := by
  unfold consumingThen
  by_cases hends : scanner.Ends token
  · rw [if_pos hends, if_pos hends]
  · rw [if_neg hends, if_neg hends, h (takes_iff.2 ⟨hupcoming, hends, rfl⟩)]

/-- A token is consumed first if that begins the first of two steps. -/
theorem consumingThen_bind {token : Token κ} {first next : Scan κ α} {state : Scanner κ}
    (h : first state = scanner.consumingThen token next) (further : α → Scan κ β) :
    (first >>= further) state = scanner.consumingThen token (next >>= further) := by
  rw [Rule.bind_apply, h, consumingThen, consumingThen]
  by_cases hends : scanner.Ends token
  · simp only [if_pos hends]
  · simp only [if_neg hends, Rule.bind_apply]

/-- What is done with the value of an operation that consumes a token is done after it. -/
theorem consuming_then {first : Scan κ α} {state : Scanner κ} {token : Token κ} {value : α}
    (h : first state = scanner.consuming token value) (next : α → Scan κ β) :
    (first >>= next) state = scanner.consumingThen token (next value) := by
  rw [Rule.bind_apply, h, consuming, consumingThen]
  by_cases hends : scanner.Ends token
  · simp only [if_pos hends]
  · simp only [if_neg hends]

/-- The end is found by a look. -/
theorem atEnd_eq (scanner : Scanner κ) :
    atEnd scanner =
      scanner.onNext fun token => .ok (decide (scanner.Ends token)) scanner.look := by
  rw [atEnd, current_bind]
  rfl

/-- Consuming gives the next token. -/
theorem consumeToken_eq (scanner : Scanner κ) :
    consumeToken scanner = scanner.onNext fun token => scanner.consuming token token := by
  rw [consumeToken, Rule.bind_apply, atEnd_eq]
  cases hupcoming : scanner.upcoming with
  | error fault => rw [onNext_of_error hupcoming, onNext_of_error hupcoming]
  | ok token =>
      rw [onNext_of_ok hupcoming, onNext_of_ok hupcoming]
      by_cases hends : scanner.Ends token
      · simp only [hends, decide_true, if_true, consuming]
        rw [Rule.bind_apply, fail_eq, look_errorAt, look_look]
      · simp only [hends, decide_false, consuming, if_false]
        have hcurrent : current scanner.look = .ok token scanner.look :=
          current_ok_iff.2 ⟨by rw [look_upcoming, hupcoming], by rw [look_look]⟩
        exact Rule.bind_of_ok hcurrent _

/-- Consuming gives the text of the next token. -/
theorem consume_eq (scanner : Scanner κ) :
    consume scanner = scanner.onNext fun token => scanner.consuming token token.text := by
  have hrun := consumeToken_eq scanner
  cases hupcoming : scanner.upcoming with
  | error fault =>
      rw [onNext_of_error hupcoming] at hrun ⊢
      rw [consume, Rule.bind_apply, hrun]
  | ok token =>
      rw [onNext_of_ok hupcoming] at hrun ⊢
      exact consuming_bind hrun rfl

/-- After a look, consuming gives the text of the token that was seen. -/
theorem consume_look {token : Token κ} (h : scanner.upcoming = .ok token) :
    consume scanner.look = scanner.consuming token token.text := by
  rw [consume_eq, onNext_of_ok (by rw [look_upcoming, h]), look_consuming]

/-- A text is consumed if the next token has it. -/
theorem tryConsume_eq (scanner : Scanner κ) (text : String) :
    tryConsume text scanner =
      scanner.onNext fun token =>
        if token.text = text then scanner.consuming token true else .ok false scanner.look := by
  rw [tryConsume, current_bind]
  refine onNext_congr fun token hupcoming => ?_
  by_cases htext : token.text = text
  · rw [if_pos htext, if_pos htext]
    exact consuming_bind (consume_look hupcoming) rfl
  · rw [if_neg htext, if_neg htext]
    rfl

/-- A choice by a text goes one way after consuming it, and the other way after a look. -/
theorem choice_eq (scanner : Scanner κ) (text : String) (yes no : Scan κ α) :
    (tryConsume text >>= fun found => if found = true then yes else no) scanner =
      scanner.onNext fun token =>
        if token.text = text then scanner.consumingThen token yes else no scanner.look := by
  have htry := tryConsume_eq scanner text
  cases hupcoming : scanner.upcoming with
  | error fault =>
      rw [onNext_of_error hupcoming] at htry ⊢
      rw [Rule.bind_apply, htry]
  | ok token =>
      rw [onNext_of_ok hupcoming] at htry ⊢
      by_cases htext : token.text = text
      · rw [if_pos htext] at htry ⊢
        exact consuming_then htry _
      · rw [if_neg htext] at htry ⊢
        exact Rule.bind_of_ok htry _

variable [KindText κ]

/-- What is said of a next token of another kind. -/
def kindMessage (kind : κ) (message : String) (token : Token κ) : String :=
  if message.isEmpty then s!"expected {KindText.describe kind}; {received token}" else message

/-- What is said of a next token with another text. -/
def textMessage (text message : String) (token : Token κ) : String :=
  if message.isEmpty then s!"expected {Text.quote text}; {received token}" else message

/-- A token of a wanted kind is consumed, and any other is blamed. -/
theorem consumeKind_eq (scanner : Scanner κ) (kind : κ) (message : String) :
    consumeKind kind message scanner =
      scanner.onNext fun token =>
        if token.kind = kind then scanner.consuming token token.text
        else .error (.parse (.ofToken .unexpectedToken token (kindMessage kind message token)))
          scanner.look := by
  rw [consumeKind, current_bind]
  refine onNext_congr fun token hupcoming => ?_
  by_cases hkind : token.kind = kind
  · rw [if_neg (fun h => h hkind), if_pos hkind, ← consume_look hupcoming]
  · rw [if_pos hkind, if_neg hkind]
    simp only [Rule.bind_apply, fail_eq, look_errorAt, look_look, errorAt_of_ok hupcoming]
    rfl

/-- A token with a wanted text is consumed, and any other is blamed. -/
theorem consumeText_eq (scanner : Scanner κ) (text message : String) :
    consumeText text message scanner =
      scanner.onNext fun token =>
        if token.text = text then scanner.consuming token text
        else .error (.parse (.ofToken .unexpectedToken token (textMessage text message token)))
          scanner.look := by
  have htry := tryConsume_eq scanner text
  cases hupcoming : scanner.upcoming with
  | error fault =>
      rw [onNext_of_error hupcoming] at htry ⊢
      rw [consumeText, Rule.bind_apply, htry]
  | ok token =>
      rw [onNext_of_ok hupcoming] at htry ⊢
      by_cases htext : token.text = text
      · rw [if_pos htext] at htry ⊢
        exact consuming_bind htry rfl
      · rw [if_neg htext] at htry ⊢
        refine (Rule.bind_of_ok htry _).trans ((current_bind _).trans ?_)
        rw [onNext_of_ok (by rw [look_upcoming, hupcoming])]
        simp only [Rule.bind_apply, fail_eq, look_errorAt, look_look, errorAt_of_ok hupcoming]
        rfl

end Parlance.Scanner
