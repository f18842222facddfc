import Parlance.Proofs.Scanner.Outcome

/-!
# Scanners and cursors

A scanner pulls its tokens when it needs them, keeps them in a buffer, and remembers that its source
has ended or failed. None of this can be noticed. `Tape` is the source as a whole, and the only
state of its reader is a cursor, the number of tokens that have been consumed: `Tape.reply` answers
each request from the tokens behind the cursor, and only a token that is consumed moves it.

`Scanner.ofTokens_dialogue_eq` is the main statement: whatever is asked, in whatever order, and
however often it fails, a scanner over the source answers as the reader of the tape does. What
carries it is `Tape.Shows`, which says that a scanner stands at a cursor; every request keeps it.
-/

namespace Parlance

/-- The tokens of a source, how it fails after them if it does not just end, and what a token for
its end looks like. -/
structure Tape (κ : Type) where
  tokens : List (Token κ)
  ending : Option Fault
  endKind : κ
  endText : String

/-- What can be asked of a stream of tokens. -/
inductive Request (κ : Type) where
  | current
  | lookAhead (offset : Int)
  | atEnd
  | consume
  | consumeToken
  | consumeKind (kind : κ) (message : String)
  | consumeText (text message : String)
  | tryConsume (text : String)
  | error (message : String) (category : ErrorCategory)
  deriving DecidableEq, Repr

/-- What comes of a request that does not fail. -/
inductive Answer (κ : Type) where
  | token (token : Token κ)
  | text (text : String)
  | flag (flag : Bool)
  | error (error : ParseError)
  deriving DecidableEq, Repr

variable {κ : Type}

/-! ## Reading a tape -/

/-- Has the request used up a token, if this has come of it? -/
def Request.consumes : Request κ → Except Fault (Answer κ) → Bool
  | .consume, .ok _ => true
  | .consumeToken, .ok _ => true
  | .consumeKind _ _, .ok _ => true
  | .consumeText _ _, .ok _ => true
  | .tryConsume _, .ok (.flag found) => found
  | _, _ => false

namespace Tape

/-- The place where the last token stops. -/
def stop (tape : Tape κ) : Position := (tape.tokens.getLast?.map Token.stopPosition).getD .start

/-- The token at an offset from the cursor: one of the source, or past those one for the end, unless
the source fails there. -/
def tokenAt (tape : Tape κ) (cursor : Nat) (offset : Int) : Except Fault (Token κ) :=
  if offset < 0 then .error (.negativeLookahead offset)
  else
    match tape.tokens[cursor + offset.toNat]?, tape.ending with
    | some token, _ => .ok token
    | none, none => .ok ⟨tape.stop, tape.endKind, tape.endText⟩
    | none, some fault => .error fault

/-- An error at the cursor: at the token there, or where the source fails at its last token, if
there has been one. -/
def errorAt (tape : Tape κ) (cursor : Nat) (message : String) (category : ErrorCategory) :
    ParseError :=
  match tape.tokenAt cursor 0, tape.tokens.getLast? with
  | .ok token, _ => ⟨category, token.position, message, token.text⟩
  | .error _, some token => ⟨category, token.position, message, token.text⟩
  | .error _, none => ⟨category, .start, message, ""⟩

variable [DecidableEq κ]

/-- The token at the cursor, which may be consumed unless it is one for the end. -/
def take (tape : Tape κ) (cursor : Nat) : Except Fault (Token κ) := do
  let token ← tape.tokenAt cursor 0
  if token.kind = tape.endKind ∧ token.text = tape.endText then
    throw (.parse (tape.errorAt cursor "read past EOF" .unexpectedEnd))
  return token

variable [KindText κ]

/-- What comes of a request at a cursor. -/
def reply (tape : Tape κ) (cursor : Nat) : Request κ → Except Fault (Answer κ)
  | .current => do return .token (← tape.tokenAt cursor 0)
  | .lookAhead offset => do return .token (← tape.tokenAt cursor offset)
  | .atEnd => do
    let token ← tape.tokenAt cursor 0
    return .flag (token.kind = tape.endKind ∧ token.text = tape.endText)
  | .consume => do return .text (← tape.take cursor).text
  | .consumeToken => do return .token (← tape.take cursor)
  | .consumeKind kind message => do
    let token ← tape.tokenAt cursor 0
    if token.kind = kind then return .text (← tape.take cursor).text
    throw (.parse (tape.errorAt cursor (Scanner.kindMessage kind message token) .unexpectedToken))
  | .consumeText text message => do
    let token ← tape.tokenAt cursor 0
    if token.text = text then return .text (← tape.take cursor).text
    throw (.parse (tape.errorAt cursor (Scanner.textMessage text message token) .unexpectedToken))
  | .tryConsume text => do
    let token ← tape.tokenAt cursor 0
    if token.text = text then
      let _ ← tape.take cursor
      return .flag true
    return .flag false
  | .error message category => return .error (tape.errorAt cursor message category)

/-- Where the cursor is after a request: one further if a token has been consumed, and otherwise
where it was. -/
def next (tape : Tape κ) (cursor : Nat) (request : Request κ) : Nat :=
  if request.consumes (tape.reply cursor request) then cursor + 1 else cursor

/-- What comes of requests one after the other, and where the cursor is in the end. -/
def dialogue (tape : Tape κ) : Nat → List (Request κ) → List (Except Fault (Answer κ)) × Nat
  | cursor, [] => ([], cursor)
  | cursor, request :: rest =>
    let (answers, last) := tape.dialogue (tape.next cursor request) rest
    (tape.reply cursor request :: answers, last)

variable {tape : Tape κ} {cursor : Nat} {token : Token κ}

/-- A kind is wanted of the token at the cursor. -/
theorem reply_consumeKind (htoken : tape.tokenAt cursor 0 = .ok token) (kind : κ)
    (message : String) :
    tape.reply cursor (.consumeKind kind message) =
      if token.kind = kind then (tape.take cursor).map fun taken => .text taken.text
      else .error (.parse (tape.errorAt cursor (Scanner.kindMessage kind message token)
        .unexpectedToken)) := by
  rw [reply, htoken]
  rfl

/-- A text is wanted of the token at the cursor. -/
theorem reply_consumeText (htoken : tape.tokenAt cursor 0 = .ok token) (text message : String) :
    tape.reply cursor (.consumeText text message) =
      if token.text = text then (tape.take cursor).map fun taken => .text taken.text
      else .error (.parse (tape.errorAt cursor (Scanner.textMessage text message token)
        .unexpectedToken)) := by
  rw [reply, htoken]
  rfl

/-- The token at the cursor is tried for a text. -/
theorem reply_tryConsume (htoken : tape.tokenAt cursor 0 = .ok token) (text : String) :
    tape.reply cursor (.tryConsume text) =
      if token.text = text then (tape.take cursor).map fun _ => .flag true
      else .ok (.flag false) := by
  rw [reply, htoken]
  rfl

end Tape

/-! ## Asking a scanner -/

namespace Scanner

variable [DecidableEq κ] [KindText κ]

/-- The operation of a scanner that a request stands for. -/
def perform : Request κ → Scan κ (Answer κ)
  | .current => do return .token (← current)
  | .lookAhead offset => do return .token (← lookAhead offset)
  | .atEnd => do return .flag (← atEnd)
  | .consume => do return .text (← consume)
  | .consumeToken => do return .token (← consumeToken)
  | .consumeKind kind message => do return .text (← consumeKind kind message)
  | .consumeText text message => do return .text (← consumeText text message)
  | .tryConsume text => do return .flag (← tryConsume text)
  | .error message category => do return .error (← errorHere message category)

/-- What comes of requests one after the other, and the scanner in the end. After a failure the next
request is made of the scanner as the failure has left it. -/
def dialogue : Scanner κ → List (Request κ) → List (Except Fault (Answer κ)) × Scanner κ
  | scanner, [] => ([], scanner)
  | scanner, request :: rest =>
    match perform request scanner with
    | .ok answer after =>
      let (answers, last) := after.dialogue rest
      (.ok answer :: answers, last)
    | .error fault after =>
      let (answers, last) := after.dialogue rest
      (.error fault :: answers, last)

end Scanner

/-! ## Standing at a cursor -/

/-- The scanner stands at the cursor: the tokens before it have been consumed, some of those behind
it may have been pulled, and the last token pulled is remembered. -/
structure Tape.Shows (tape : Tape κ) (cursor : Nat) (scanner : Scanner κ) : Prop where
  ending : scanner.ending = tape.ending
  endKind : scanner.endKind = tape.endKind
  endText : scanner.endText = tape.endText
  pulled : ∃ consumed, consumed.length = cursor ∧ tape.tokens = consumed ++ scanner.ahead ∧
    scanner.last = (consumed ++ scanner.buffer).getLast?.getD ⟨.start, tape.endKind, ""⟩

namespace Tape.Shows

variable {tape : Tape κ} {cursor : Nat} {scanner : Scanner κ}

/-- A scanner over the tokens of a tape stands at its beginning. -/
theorem ofTokens (tokens : List (Token κ)) (ending : Option Fault) (endKind : κ) (endText : String)
    (tracing : Bool) :
    Shows ⟨tokens, ending, endKind, endText⟩ 0
      (Scanner.ofTokens tokens ending endKind endText tracing) :=
  ⟨rfl, rfl, rfl, [], rfl, rfl, rfl⟩

/-- The tokens ahead are those behind the cursor. -/
theorem ahead_eq (h : tape.Shows cursor scanner) : scanner.ahead = tape.tokens.drop cursor := by
  obtain ⟨consumed, rfl, htokens, -⟩ := h.pulled
  rw [htokens, List.drop_left]

/-- Pulling tokens does not move the cursor. -/
theorem fill (h : tape.Shows cursor scanner) (count : Nat) :
    tape.Shows cursor (scanner.fill count) := by
  obtain ⟨consumed, hcursor, htokens, hlast⟩ := h.pulled
  refine ⟨h.ending, h.endKind, h.endText, consumed, hcursor, ?_, ?_⟩
  · rw [Scanner.fill_ahead, htokens]
  · show ((scanner.pending.take _).getLast?.getD scanner.last) =
      (consumed ++ (scanner.buffer ++ scanner.pending.take _)).getLast?.getD _
    rw [← List.append_assoc, List.getLast?_append, hlast, Option.getD_or]

/-- A look does not move the cursor. -/
theorem look (h : tape.Shows cursor scanner) : tape.Shows cursor scanner.look := h.fill 1

/-- Consuming a token moves the cursor by one. -/
theorem advance {token : Token κ} {rest : List (Token κ)} (h : tape.Shows cursor scanner)
    (hahead : scanner.ahead = token :: rest) : tape.Shows (cursor + 1) scanner.advance := by
  obtain ⟨consumed, hcursor, htokens, hlast⟩ := h.look.pulled
  have hhead : scanner.look.buffer.head? = some token := by
    rw [Scanner.look_buffer_head, hahead, List.head?_cons]
  obtain ⟨others, hbuffer⟩ := List.head?_eq_some_iff.1 hhead
  have hadvance : scanner.advance.buffer = others := by
    show scanner.look.buffer.tail = others
    rw [hbuffer, List.tail_cons]
  refine ⟨h.ending, h.endKind, h.endText, consumed ++ [token], by simp [hcursor], ?_, ?_⟩
  · rw [Scanner.advance_ahead, htokens, Scanner.look_ahead, hahead]
    simp
  · rw [hadvance, List.append_assoc, List.singleton_append, ← hbuffer]
    exact hlast

/-- The last token pulled, once there are no more to pull. -/
theorem last_eq (h : tape.Shows cursor scanner) (hpending : scanner.pending = []) :
    scanner.last = tape.tokens.getLast?.getD ⟨.start, tape.endKind, ""⟩ := by
  obtain ⟨consumed, -, htokens, hlast⟩ := h.pulled
  rw [hlast, htokens, Scanner.ahead, hpending, List.append_nil]

/-- The token for the end stands where the last token stops, once there are no more to pull. -/
theorem endToken_eq (h : tape.Shows cursor scanner) (hpending : scanner.pending = []) :
    scanner.endToken = ⟨tape.stop, tape.endKind, tape.endText⟩ := by
  rw [Scanner.endToken, h.last_eq hpending, h.endKind, h.endText, Tape.stop]
  cases tape.tokens.getLast? <;> rfl

/-- A look ahead finds the token at that offset from the cursor, and does not move the cursor. -/
theorem lookAhead (h : tape.Shows cursor scanner) (offset : Int) :
    ∃ after, tape.Shows cursor after ∧
      Scanner.lookAhead offset scanner =
        match tape.tokenAt cursor offset with
        | .ok token => .ok token after
        | .error fault => .error fault after := by
  rw [Scanner.lookAhead_eq, Tape.tokenAt]
  by_cases hnegative : offset < 0
  · exact ⟨scanner, h, by simp only [hnegative, if_true]⟩
  · have hfilled := h.fill (offset.toNat + 1)
    refine ⟨_, hfilled, ?_⟩
    rw [if_neg hnegative, if_neg hnegative, h.ahead_eq, List.getElem?_drop, h.ending]
    cases hfound : tape.tokens[cursor + offset.toNat]? with
    | some token => rfl
    | none =>
        cases tape.ending with
        | some fault => rfl
        | none =>
            -- So far ahead there is nothing left to pull.
            have hlength : scanner.ahead.length ≤ offset.toNat := by
              rw [h.ahead_eq, List.length_drop]
              have hshort := List.getElem?_eq_none_iff.1 hfound
              omega
            have hpending : (scanner.fill (offset.toNat + 1)).pending = [] := by
              rw [Scanner.ahead, List.length_append] at hlength
              exact List.drop_eq_nil_of_le (by omega)
            simp only [hfilled.endToken_eq hpending]

/-- What comes next is the token at the cursor. -/
theorem upcoming_eq (h : tape.Shows cursor scanner) : scanner.upcoming = tape.tokenAt cursor 0 := by
  obtain ⟨after, -, hlook⟩ := h.lookAhead 0
  have hcurrent := Scanner.current_eq scanner
  rw [Scanner.current, hlook] at hcurrent
  cases htoken : tape.tokenAt cursor 0 <;> cases hupcoming : scanner.upcoming <;>
    simp_all

/-- An error that is made here is one at the cursor. -/
theorem errorAt_eq (h : tape.Shows cursor scanner) (message : String) (category : ErrorCategory) :
    scanner.errorAt message category = tape.errorAt cursor message category := by
  rw [Scanner.errorAt, Scanner.blamedToken, h.upcoming_eq, Tape.errorAt]
  cases htoken : tape.tokenAt cursor 0 with
  | ok token => rfl
  | error fault =>
      -- Where the source fails, all tokens have been pulled.
      have hpending : scanner.look.pending = [] := by
        have hupcoming := h.upcoming_eq.trans htoken
        rw [Scanner.upcoming] at hupcoming
        cases hahead : scanner.ahead with
        | nil =>
            have hnone := (List.append_eq_nil_iff.1 hahead).2
            show scanner.pending.drop _ = []
            rw [hnone, List.drop_nil]
        | cons token rest =>
            rw [hahead] at hupcoming
            cases hupcoming
      rw [h.look.last_eq hpending]
      cases tape.tokens.getLast? <;> rfl

/-- An error that refuses the token at the cursor is blamed on it. -/
theorem refused_eq {token : Token κ} (h : tape.Shows cursor scanner)
    (htoken : tape.tokenAt cursor 0 = .ok token) (message : String) :
    tape.errorAt cursor message .unexpectedToken = .ofToken .unexpectedToken token message := by
  rw [← h.errorAt_eq, Scanner.errorAt_of_ok (h.upcoming_eq.trans htoken)]

/-- What looks like an end looks like one on the tape. -/
theorem ends_iff (h : tape.Shows cursor scanner) (token : Token κ) :
    scanner.Ends token ↔ token.kind = tape.endKind ∧ token.text = tape.endText := by
  rw [Scanner.Ends, h.endKind, h.endText]

end Tape.Shows

/-! ## Requests at a cursor -/

/-- A scanner comes to this answer, and then stands at the cursor. -/
inductive Tape.Agrees {α : Type} (tape : Tape κ) (cursor : Nat) :
    EStateM.Result Fault (Scanner κ) α → Except Fault α → Prop where
  | ok {value after} : tape.Shows cursor after → Agrees tape cursor (.ok value after) (.ok value)
  | error {fault after} : tape.Shows cursor after →
      Agrees tape cursor (.error fault after) (.error fault)

variable [DecidableEq κ] {tape : Tape κ} {cursor : Nat} {scanner : Scanner κ} {token : Token κ}

/-- A token for the end is refused, where the cursor stays. -/
theorem Tape.Shows.consuming_of_ends {α : Type} (h : tape.Shows cursor scanner)
    (htoken : tape.tokenAt cursor 0 = .ok token) (hends : scanner.Ends token) (value : α) :
    ∃ fault, tape.take cursor = .error fault ∧
      scanner.consuming token value = .error fault scanner.look := by
  refine ⟨_, ?_, if_pos hends⟩
  rw [Tape.take, htoken, h.errorAt_eq]
  exact if_pos ((h.ends_iff token).1 hends)

/-- Any other token is consumed, and the cursor moves. -/
theorem Tape.Shows.consuming_of_not_ends {α : Type} (h : tape.Shows cursor scanner)
    (htoken : tape.tokenAt cursor 0 = .ok token) (hends : ¬ scanner.Ends token) (value : α) :
    tape.take cursor = .ok token ∧
      scanner.consuming token value = .ok value scanner.advance ∧
      tape.Shows (cursor + 1) scanner.advance := by
  refine ⟨?_, if_neg hends, ?_⟩
  · rw [Tape.take, htoken]
    exact if_neg (mt (h.ends_iff token).2 hends)
  · exact h.advance (Scanner.ahead_of_upcoming (h.upcoming_eq.trans htoken) hends)

omit [DecidableEq κ] in
/-- No request that fails uses up a token. -/
theorem Request.consumes_error (request : Request κ) (fault : Fault) :
    request.consumes (.error fault) = false := by
  cases request <;> rfl

variable [KindText κ]

/-- The scanner answers the request as the reader of the tape does, and moves like its cursor. -/
def Tape.Shows.Replies (tape : Tape κ) (cursor : Nat) (scanner : Scanner κ) (request : Request κ) :
    Prop :=
  tape.Agrees (tape.next cursor request) (Scanner.perform request scanner)
    (tape.reply cursor request)

namespace Tape.Shows

/-- A look ahead is answered from the tape. -/
theorem replies_lookAhead (h : tape.Shows cursor scanner) (offset : Int) :
    Replies tape cursor scanner (.lookAhead offset) := by
  obtain ⟨after, hshows, hlook⟩ := h.lookAhead offset
  have hnext : tape.next cursor (.lookAhead offset) = cursor := rfl
  rw [Replies, hnext, Tape.reply, Scanner.perform, Rule.bind_apply, hlook]
  cases tape.tokenAt cursor offset with
  | ok token => exact .ok hshows
  | error fault => exact .error hshows

/-- An error is made at the cursor. -/
theorem replies_error (h : tape.Shows cursor scanner) (message : String)
    (category : ErrorCategory) : Replies tape cursor scanner (.error message category) := by
  have hnext : tape.next cursor (.error message category) = cursor := rfl
  rw [Replies, hnext, Tape.reply, Scanner.perform, Rule.bind_apply, Scanner.errorHere_eq,
    h.errorAt_eq]
  exact .ok h.look

/-- A request that comes down to consuming the token at the cursor moves the cursor if it can. -/
theorem replies_consuming (h : tape.Shows cursor scanner)
    (htoken : tape.tokenAt cursor 0 = .ok token) {request : Request κ} {answer : Answer κ}
    (hrun : Scanner.perform request scanner = scanner.consuming token answer)
    (hconsumes : request.consumes (.ok answer) = true)
    (hok : tape.take cursor = .ok token → tape.reply cursor request = .ok answer)
    (herror : ∀ fault, tape.take cursor = .error fault →
      tape.reply cursor request = .error fault) :
    Replies tape cursor scanner request := by
  rw [Replies, Tape.next, hrun]
  by_cases hends : scanner.Ends token
  · obtain ⟨fault, htake, hconsuming⟩ := h.consuming_of_ends htoken hends answer
    rw [herror fault htake, hconsuming, Request.consumes_error]
    exact .error h.look
  · obtain ⟨htake, hconsuming, hshows⟩ := h.consuming_of_not_ends htoken hends answer
    rw [hok htake, hconsuming, hconsumes]
    exact .ok hshows

/-- A request that refuses the token at the cursor leaves the cursor where it is. -/
theorem replies_refusing (h : tape.Shows cursor scanner) {request : Request κ} {fault : Fault}
    (hrun : Scanner.perform request scanner = .error fault scanner.look)
    (hreply : tape.reply cursor request = .error fault) :
    Replies tape cursor scanner request := by
  rw [Replies, Tape.next, hrun, hreply, Request.consumes_error]
  exact .error h.look

/-- Where the source fails, every request for the token at the cursor fails in the same way. -/
theorem replies_of_error {fault : Fault} (h : tape.Shows cursor scanner)
    (htoken : tape.tokenAt cursor 0 = .error fault) (request : Request κ) :
    Replies tape cursor scanner request := by
  have hupcoming := h.upcoming_eq.trans htoken
  cases request with
  | lookAhead offset => exact h.replies_lookAhead offset
  | error message category => exact h.replies_error message category
  | _ =>
      refine h.replies_refusing ?_ (by simp only [Tape.reply, Tape.take, htoken]; rfl)
      simp only [Scanner.perform, Rule.bind_apply, Scanner.current_eq, Scanner.atEnd_eq,
        Scanner.consume_eq, Scanner.consumeToken_eq, Scanner.consumeKind_eq,
        Scanner.consumeText_eq, Scanner.tryConsume_eq, Scanner.onNext_of_error hupcoming,
        hupcoming]

section

variable (h : tape.Shows cursor scanner) (htoken : tape.tokenAt cursor 0 = .ok token)

include h htoken

/-- The token at the cursor is looked at. -/
theorem replies_current : Replies tape cursor scanner .current := by
  have hrun : Scanner.perform .current scanner = .ok (.token token) scanner.look := by
    rw [Scanner.perform, Scanner.current_bind, Scanner.onNext_of_ok (h.upcoming_eq.trans htoken)]
    rfl
  have hreply : tape.reply cursor .current = .ok (.token token) := by
    rw [Tape.reply, htoken]
    rfl
  rw [Replies, Tape.next, hrun, hreply]
  exact .ok h.look

/-- The token at the cursor is compared with one for the end. -/
theorem replies_atEnd : Replies tape cursor scanner .atEnd := by
  have hrun : Scanner.perform .atEnd scanner =
      .ok (.flag (decide (scanner.Ends token))) scanner.look := by
    rw [Scanner.perform, Rule.bind_apply, Scanner.atEnd_eq,
      Scanner.onNext_of_ok (h.upcoming_eq.trans htoken)]
    rfl
  have hreply : tape.reply cursor .atEnd = .ok (.flag (decide (scanner.Ends token))) := by
    rw [Tape.reply, htoken, decide_eq_decide.2 (h.ends_iff token)]
    rfl
  rw [Replies, Tape.next, hrun, hreply]
  exact .ok h.look

/-- The text of the token at the cursor is consumed. -/
theorem replies_consume : Replies tape cursor scanner .consume := by
  have hconsume := Scanner.consume_eq scanner
  rw [Scanner.onNext_of_ok (h.upcoming_eq.trans htoken)] at hconsume
  refine h.replies_consuming htoken (Scanner.consuming_bind hconsume rfl) rfl
    (fun htake => ?_) fun fault htake => ?_
  all_goals
    rw [Tape.reply, htake]
    rfl

/-- The token at the cursor is consumed. -/
theorem replies_consumeToken : Replies tape cursor scanner .consumeToken := by
  have hconsume := Scanner.consumeToken_eq scanner
  rw [Scanner.onNext_of_ok (h.upcoming_eq.trans htoken)] at hconsume
  refine h.replies_consuming htoken (Scanner.consuming_bind hconsume rfl) rfl
    (fun htake => ?_) fun fault htake => ?_
  all_goals
    rw [Tape.reply, htake]
    rfl

/-- The token at the cursor is consumed if it is of the wanted kind. -/
theorem replies_consumeKind (kind : κ) (message : String) :
    Replies tape cursor scanner (.consumeKind kind message) := by
  have hconsume := Scanner.consumeKind_eq scanner kind message
  rw [Scanner.onNext_of_ok (h.upcoming_eq.trans htoken)] at hconsume
  have hreply := Tape.reply_consumeKind htoken kind message
  by_cases hkind : token.kind = kind
  · rw [if_pos hkind] at hconsume hreply
    refine h.replies_consuming htoken (Scanner.consuming_bind hconsume rfl) rfl
      (fun htake => ?_) fun fault htake => ?_
    all_goals
      rw [hreply, htake]
      rfl
  · rw [if_neg hkind] at hconsume hreply
    refine h.replies_refusing ?_ hreply
    rw [Scanner.perform, Rule.bind_apply, hconsume, h.refused_eq htoken]

/-- The token at the cursor is consumed if it has the wanted text. -/
theorem replies_consumeText (text message : String) :
    Replies tape cursor scanner (.consumeText text message) := by
  have hconsume := Scanner.consumeText_eq scanner text message
  rw [Scanner.onNext_of_ok (h.upcoming_eq.trans htoken)] at hconsume
  have hreply := Tape.reply_consumeText htoken text message
  by_cases htext : token.text = text
  · rw [if_pos htext] at hconsume hreply
    refine h.replies_consuming htoken (Scanner.consuming_bind hconsume rfl) rfl
      (fun htake => ?_) fun fault htake => ?_
    all_goals
      rw [hreply, htake]
      simp only [Except.map, htext]
  · rw [if_neg htext] at hconsume hreply
    refine h.replies_refusing ?_ hreply
    rw [Scanner.perform, Rule.bind_apply, hconsume, h.refused_eq htoken]

/-- The token at the cursor is consumed if it has the text that is tried. -/
theorem replies_tryConsume (text : String) :
    Replies tape cursor scanner (.tryConsume text) := by
  have hconsume := Scanner.tryConsume_eq scanner text
  rw [Scanner.onNext_of_ok (h.upcoming_eq.trans htoken)] at hconsume
  have hreply := Tape.reply_tryConsume htoken text
  by_cases htext : token.text = text
  · rw [if_pos htext] at hconsume hreply
    refine h.replies_consuming htoken (Scanner.consuming_bind hconsume rfl) rfl
      (fun htake => ?_) fun fault htake => ?_
    all_goals
      rw [hreply, htake]
      rfl
  · rw [if_neg htext] at hconsume hreply
    have hrun : Scanner.perform (.tryConsume text) scanner = .ok (.flag false) scanner.look := by
      rw [Scanner.perform, Rule.bind_apply, hconsume]
      rfl
    rw [Replies, Tape.next, hrun, hreply]
    exact .ok h.look

end

/-- A scanner that stands at the cursor answers every request as the reader of the tape does. -/
theorem replies (h : tape.Shows cursor scanner) (request : Request κ) :
    Replies tape cursor scanner request := by
  cases htoken : tape.tokenAt cursor 0 with
  | error fault => exact h.replies_of_error htoken request
  | ok token =>
      cases request with
      | current => exact h.replies_current htoken
      | lookAhead offset => exact h.replies_lookAhead offset
      | atEnd => exact h.replies_atEnd htoken
      | consume => exact h.replies_consume htoken
      | consumeToken => exact h.replies_consumeToken htoken
      | consumeKind kind message => exact h.replies_consumeKind htoken kind message
      | consumeText text message => exact h.replies_consumeText htoken text message
      | tryConsume text => exact h.replies_tryConsume htoken text
      | error message category => exact h.replies_error message category

/-- From any cursor on, the scanner answers what it is asked as the reader of the tape does, and in
the end stands where the cursor is. -/
theorem dialogue (h : tape.Shows cursor scanner) (requests : List (Request κ)) :
    (scanner.dialogue requests).1 = (tape.dialogue cursor requests).1 ∧
      tape.Shows (tape.dialogue cursor requests).2 (scanner.dialogue requests).2 := by
  induction requests generalizing cursor scanner with
  | nil => exact ⟨rfl, h⟩
  | cons request rest ih =>
      have hreplies := h.replies request
      rw [Replies] at hreplies
      rw [Scanner.dialogue, Tape.dialogue]
      generalize tape.next cursor request = next at hreplies ⊢
      generalize tape.reply cursor request = answer at hreplies ⊢
      generalize Scanner.perform request scanner = result at hreplies ⊢
      cases hreplies with
      | ok hafter =>
          obtain ⟨hanswers, hlast⟩ := ih hafter
          exact ⟨congrArg (List.cons _) hanswers, hlast⟩
      | error hafter =>
          obtain ⟨hanswers, hlast⟩ := ih hafter
          exact ⟨congrArg (List.cons _) hanswers, hlast⟩

end Tape.Shows

/-- Whatever a scanner over the tokens of a source is asked, it answers as the reader of the tape
does whose cursor is at the beginning first, and the tokens behind the cursor are those that lie
ahead of it in the end. -/
theorem Scanner.ofTokens_dialogue_eq (tokens : List (Token κ)) (ending : Option Fault) (endKind : κ)
    (endText : String) (tracing : Bool) (requests : List (Request κ)) :
    let tape : Tape κ := ⟨tokens, ending, endKind, endText⟩
    let scanner := Scanner.ofTokens tokens ending endKind endText tracing
    (scanner.dialogue requests).1 = (tape.dialogue 0 requests).1 ∧
      (scanner.dialogue requests).2.ahead = tokens.drop (tape.dialogue 0 requests).2 := by
  obtain ⟨hanswers, hlast⟩ :=
    (Tape.Shows.ofTokens tokens ending endKind endText tracing).dialogue requests
  exact ⟨hanswers, hlast.ahead_eq⟩

end Parlance
