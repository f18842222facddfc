import Parlance.Proofs.Comparison
import Parlance.Proofs.Scanner.Outcome

/-!
# Sources that are stopped

What an operation looks at can be told by stopping its source: after some of the tokens it fails
instead of giving the next one. An operation that looks at no token but the current one does not
notice until it has consumed all tokens that came before. So it either does the same as without the
stop, or it fails as the source does, with nothing left in the buffer. `stopping` compares the two;
on the way the scanner keeps a record of what is consumed, and holds at most one token in its
buffer.
-/

namespace Parlance

namespace Scanner

variable {κ : Type}

/-! ## Progress -/

/-- How far a scanner has come from a start by consuming one token after the other, none of them one
for the end: those that it has consumed are recorded if any are, and its buffer holds at most one of
the others. -/
structure Progress (start scanner : Scanner κ) : Prop where
  sameEnd : SameEnd start scanner
  tracing : scanner.tracing = start.tracing
  buffer : scanner.buffer.length ≤ 1
  taken : ∃ taken, start.ahead = taken ++ scanner.ahead ∧ (∀ token ∈ taken, ¬ start.Ends token) ∧
    scanner.consumed = if start.tracing then taken.reverse ++ start.consumed else start.consumed

namespace Progress

variable {start scanner : Scanner κ} {token : Token κ}

/-- A scanner with no more than one token in its buffer has come nowhere. -/
theorem refl (h : start.buffer.length ≤ 1) : Progress start start :=
  ⟨.refl start, rfl, h, [], rfl, nofun, by simp⟩

/-- A look fills an empty buffer with one token. -/
theorem look (h : Progress start scanner) : Progress start scanner.look := by
  obtain ⟨hend, htracing, hbuffer, taken, hahead, hnot, hconsumed⟩ := h
  refine ⟨hend.trans (look_sameEnd scanner), htracing, ?_, taken, by rwa [look_ahead], hnot,
    hconsumed⟩
  simp only [Scanner.look, fill, List.length_append, List.length_take]
  omega

/-- Consuming the token that comes next takes it out of the buffer and records it. -/
theorem advance (h : Progress start scanner) (hupcoming : scanner.upcoming = .ok token)
    (hends : ¬ scanner.Ends token) : Progress start scanner.advance := by
  have hhead := ahead_of_upcoming hupcoming hends
  obtain ⟨hend, htracing, hbuffer, taken, hahead, hnot, hconsumed⟩ := h.look
  have hrecord : scanner.advance.consumed =
      if scanner.look.tracing then token :: scanner.look.consumed else scanner.look.consumed := by
    show (if scanner.look.tracing then _ else _) = _
    rw [look_buffer_head, hhead]
    rfl
  refine ⟨h.sameEnd.trans (advance_sameEnd scanner), htracing, ?_, taken ++ [token], ?_, ?_, ?_⟩
  · simp only [Scanner.advance, drop, List.length_tail]
    omega
  · rw [hahead, look_ahead, advance_ahead, List.append_assoc, List.singleton_append, ← hhead]
  · rw [List.forall_mem_append, List.forall_mem_singleton]
    exact ⟨hnot, mt (h.sameEnd.ends_iff token).2 hends⟩
  · rw [hrecord, htracing, hconsumed]
    split <;> simp

end Progress

/-! ## The comparison -/

/-- What a fault has to do with the tokens that are left: the stream has failed after the last of
them, or the first of them is blamed. Rules that call themselves without end and some more faults
have nothing to do with them. -/
inductive Explains (exempt : Fault → Prop) (scanner : Scanner κ) : Fault → Prop where
  | stalled : Explains exempt scanner .stalled
  | exempt {fault} : exempt fault → Explains exempt scanner fault
  | ending {fault} : scanner.ahead = [] → scanner.ending = some fault →
      Explains exempt scanner fault
  | next {token rest category message} : scanner.ahead = token :: rest →
      Explains exempt scanner (.parse (.ofToken category token message))

/-- Two scanners, the source of the first of which is that of the second, stopped by a fault before
some of the tokens; and the faults that need not be explained by the tokens that are left. -/
structure Stop (κ : Type) where
  first : Scanner κ
  second : Scanner κ
  rest : List (Token κ)
  fault : Fault
  exempt : Fault → Prop
  endKind : first.endKind = second.endKind
  endText : first.endText = second.endText
  ahead : second.ahead = first.ahead ++ rest
  ending : first.ending = some fault

namespace Stop

/-- Two scanners that have come from these, the second of which has more tokens left: as many tokens
have been consumed from both, until the first one fails because it has been stopped. If the second
one fails in the same way, then the two do not part. -/
def comparison (stop : Stop κ) : Comparison Fault (Scanner κ) (Scanner κ) where
  together scanner scanner' := Progress stop.first scanner ∧ Progress stop.second scanner' ∧
    scanner'.ahead = scanner.ahead ++ stop.rest
  ended fault scanner scanner' := (Progress stop.first scanner ∧ Progress stop.second scanner' ∧
    scanner'.ahead = scanner.ahead ++ stop.rest) ∧ scanner'.Explains stop.exempt fault
  parted fault scanner scanner' := fault = stop.fault ∧ Progress stop.first scanner ∧
    scanner.ahead = [] ∧ Progress stop.second scanner' ∧ scanner'.ahead <:+ stop.rest ∧
    ¬ (stop.rest = [] ∧ stop.second.ending = some stop.fault)

/-- What is known of the scanners if this token comes next from both. -/
def seeing (stop : Stop κ) (token : Token κ) : Comparison Fault (Scanner κ) (Scanner κ) where
  together scanner scanner' := stop.comparison.together scanner scanner' ∧
    scanner.upcoming = .ok token ∧ scanner'.upcoming = .ok token
  ended := stop.comparison.ended
  parted fault scanner scanner' := stop.comparison.parted fault scanner scanner' ∧
    scanner'.upcoming = .ok token

variable {α : Type} {stop : Stop κ} {token : Token κ} {scanner scanner' : Scanner κ}

/-- What compares wherever it is done compares where a token comes next. -/
theorem holds_seeing {first second : Scan κ α} (h : stop.comparison.Holds first second)
    (token : Token κ) : stop.comparison.Holds first second (stop.seeing token) :=
  ⟨fun scanner scanner' htogether => h.ends scanner scanner' htogether.1,
    fun fault scanner scanner' hparted => h.keeps fault scanner scanner' hparted.1⟩

/-- The second scanner has as many tokens left as the first, and those before which that is
stopped. -/
theorem counts (stop : Stop κ) : stop.comparison.Counts stop.rest.length where
  together scanner scanner' h := by
    rw [left_eq_length, left_eq_length, h.2.2, List.length_append]
  parted failure scanner scanner' h := by
    rw [left_eq_length]
    exact h.2.2.2.2.1.length_le
  stalled scanner scanner' h := ⟨h, .stalled⟩

/-- A look leaves scanners that go together so. -/
theorem together_look (h : stop.comparison.together scanner scanner') :
    stop.comparison.together scanner.look scanner'.look :=
  ⟨h.1.look, h.2.1.look, by rw [look_ahead, look_ahead, h.2.2]⟩

/-- A look of the second scanner leaves parted ones so. -/
theorem parted_look {failure : Fault} (h : stop.comparison.parted failure scanner scanner') :
    stop.comparison.parted failure scanner scanner'.look := by
  obtain ⟨hfault, hfirst, hempty, hsecond, hsuffix, hnot⟩ := h
  exact ⟨hfault, hfirst, hempty, hsecond.look, by rwa [look_ahead], hnot⟩

/-- A look of the first scanner leaves parted ones so. -/
theorem parted_look_first {failure : Fault}
    (h : stop.comparison.parted failure scanner scanner') :
    stop.comparison.parted failure scanner.look scanner' := by
  obtain ⟨hfault, hfirst, hempty, hothers⟩ := h
  exact ⟨hfault, hfirst.look, by rwa [look_ahead], hothers⟩

/-- What is done after a look compares where it does without one. -/
theorem holds_look {next next' : Scan κ α}
    (h : stop.comparison.Holds next next' (stop.seeing token)) :
    stop.comparison.Holds (fun scanner => next scanner.look) (fun scanner => next' scanner.look)
      (stop.seeing token) := by
  constructor
  · rintro scanner scanner' ⟨htogether, hupcoming, hupcoming'⟩
    exact h.ends scanner.look scanner'.look
      ⟨together_look htogether, by rwa [look_upcoming], by rwa [look_upcoming]⟩
  · rintro failure scanner scanner' ⟨hparted, hupcoming⟩
    exact h.keeps failure scanner scanner'.look ⟨parted_look hparted, by rwa [look_upcoming]⟩

/-- A value after a look is the same. -/
theorem holds_ok_look (value : α) :
    stop.comparison.Holds (fun scanner => .ok value scanner.look)
      (fun scanner => .ok value scanner.look) (stop.seeing token) :=
  holds_look (holds_seeing (.pure value) token)

/-- The next token of the first scanner is that of the second one too. -/
theorem together_upcoming (h : stop.comparison.together scanner scanner')
    (hupcoming : scanner.upcoming = .ok token) :
    scanner'.ahead = token :: (scanner.ahead.tail ++ stop.rest) ∧
      scanner'.upcoming = .ok token := by
  have hahead : scanner'.ahead = token :: (scanner.ahead.tail ++ stop.rest) := by
    rw [h.2.2]
    rw [upcoming, h.1.sameEnd.ending, stop.ending] at hupcoming
    cases hlist : scanner.ahead with
    | nil => rw [hlist] at hupcoming; cases hupcoming
    | cons other others => rw [hlist] at hupcoming; cases hupcoming; rfl
  exact ⟨hahead, upcoming_of_ahead hahead⟩

/-- A token stands for the end in both scanners or in none. -/
theorem together_ends_iff (h : stop.comparison.together scanner scanner') (token : Token κ) :
    scanner'.Ends token ↔ scanner.Ends token := by
  rw [h.2.1.sameEnd.ends_iff, h.1.sameEnd.ends_iff, Ends, Ends, stop.endKind, stop.endText]

/-- Blaming the next token compares. -/
theorem holds_blame (category : ErrorCategory) (message : String) :
    stop.comparison.Holds (α := α)
      (fun scanner => .error (.parse (.ofToken category token message)) scanner.look)
      (fun scanner => .error (.parse (.ofToken category token message)) scanner.look)
      (stop.seeing token) := by
  constructor
  · rintro scanner scanner' ⟨htogether, hupcoming, -⟩
    have hahead := (together_upcoming htogether hupcoming).1
    exact .error ⟨together_look htogether, .next (by rw [look_ahead, hahead])⟩
  · rintro failure scanner scanner' ⟨hparted, -⟩
    exact parted_look hparted

/-- Failing where a token comes next compares. -/
theorem holds_fail (message : String) (category : ErrorCategory) :
    stop.comparison.Holds (fail message category : Scan κ α) (fail message category)
      (stop.seeing token) := by
  have hblame := @holds_blame κ α stop token category message
  constructor
  · rintro scanner scanner' ⟨htogether, hupcoming, hupcoming'⟩
    rw [fail_eq, fail_eq, errorAt_of_ok hupcoming, errorAt_of_ok hupcoming']
    exact hblame.ends scanner scanner' ⟨htogether, hupcoming, hupcoming'⟩
  · rintro failure scanner scanner' ⟨hparted, hupcoming⟩
    rw [fail_eq]
    exact parted_look hparted

/-- Operations that go by the next token compare if what they do with it does. -/
theorem holds_onNext {operation operation' : Scan κ α} {next next' : Token κ → Scan κ α}
    (hfirst : ∀ scanner, operation scanner = scanner.onNext fun token => next token scanner)
    (hsecond : ∀ scanner, operation' scanner = scanner.onNext fun token => next' token scanner)
    (h : ∀ token, stop.comparison.Holds (next token) (next' token) (stop.seeing token)) :
    stop.comparison.Holds operation operation' := by
  have hkeeps (failure : Fault) (scanner scanner' : Scanner κ)
      (hparted : stop.comparison.parted failure scanner scanner') :
      stop.comparison.parted failure scanner (Result.last (operation' scanner')) := by
    rw [hsecond]
    cases hupcoming : scanner'.upcoming with
    | ok token =>
        rw [onNext_of_ok hupcoming]
        exact (h token).keeps failure scanner scanner' ⟨hparted, hupcoming⟩
    | error other =>
        rw [onNext_of_error hupcoming]
        exact parted_look hparted
  refine ⟨fun scanner scanner' htogether => ?_, hkeeps⟩
  cases hupcoming : scanner.upcoming with
  | ok token =>
      have hupcoming' := (together_upcoming htogether hupcoming).2
      rw [hfirst, hsecond, onNext_of_ok hupcoming, onNext_of_ok hupcoming']
      exact (h token).ends scanner scanner' ⟨htogether, hupcoming, hupcoming'⟩
  | error failure =>
      -- The first scanner has been stopped here.
      obtain ⟨hempty, hfault⟩ : scanner.ahead = [] ∧ failure = stop.fault := by
        rw [upcoming, htogether.1.sameEnd.ending, stop.ending] at hupcoming
        cases hlist : scanner.ahead with
        | nil => rw [hlist] at hupcoming; cases hupcoming; exact ⟨rfl, rfl⟩
        | cons other others => rw [hlist] at hupcoming; cases hupcoming
      have hahead : scanner'.ahead = stop.rest := by rw [htogether.2.2, hempty, List.nil_append]
      rw [hfault] at hupcoming
      rw [hfirst, onNext_of_error hupcoming]
      by_cases hsame : stop.rest = [] ∧ stop.second.ending = some stop.fault
      · have hending : scanner'.ending = some stop.fault := by
          rw [htogether.2.1.sameEnd.ending, hsame.2]
        have hupcoming' : scanner'.upcoming = .error stop.fault := by
          rw [upcoming, hahead, hsame.1, hending]
        rw [hsecond, onNext_of_error hupcoming']
        have hnothing : scanner'.look.ahead = [] := by rw [look_ahead, hahead, hsame.1]
        exact .error ⟨together_look htogether, .ending hnothing hending⟩
      · exact .parted (hkeeps stop.fault scanner.look scanner' (parted_look_first
          ⟨rfl, htogether.1, hempty, htogether.2.1, hahead ▸ List.suffix_refl _, hsame⟩))

/-- What is done after a look at the current token compares if it does where that token comes
next. -/
theorem holds_current {next next' : Token κ → Scan κ α}
    (h : ∀ token, stop.comparison.Holds (next token) (next' token) (stop.seeing token)) :
    stop.comparison.Holds (current >>= next) (current >>= next') :=
  @holds_onNext κ α stop _ _ (fun token scanner => next token scanner.look)
    (fun token scanner => next' token scanner.look) (fun _ => current_bind next)
    (fun _ => current_bind next') fun token => holds_look (h token)

variable [DecidableEq κ]

/-- Consuming the next token, and what is done after that, compares if the latter does. -/
theorem holds_consumingThen {next next' : Scan κ α} (h : stop.comparison.Holds next next') :
    stop.comparison.Holds (fun scanner => scanner.consumingThen token next)
      (fun scanner => scanner.consumingThen token next') (stop.seeing token) := by
  constructor
  · rintro scanner scanner' ⟨htogether, hupcoming, hupcoming'⟩
    have hsame := together_ends_iff htogether token
    unfold consumingThen
    by_cases hends : scanner.Ends token
    · rw [if_pos hends, if_pos (hsame.2 hends), errorAt_of_ok hupcoming, errorAt_of_ok hupcoming']
      exact (holds_blame _ _).ends scanner scanner' ⟨htogether, hupcoming, hupcoming'⟩
    · rw [if_neg hends, if_neg (mt hsame.1 hends)]
      refine h.ends _ _ ⟨htogether.1.advance hupcoming hends,
        htogether.2.1.advance hupcoming' (mt hsame.1 hends), ?_⟩
      rw [advance_ahead, advance_ahead, (together_upcoming htogether hupcoming).1, List.tail_cons]
  · rintro failure scanner scanner' ⟨hparted, hupcoming⟩
    unfold consumingThen
    by_cases hends : scanner'.Ends token
    · rw [if_pos hends]
      exact parted_look hparted
    · rw [if_neg hends]
      obtain ⟨hfault, hfirst, hempty, hsecond, hsuffix, hnot⟩ := hparted
      refine h.keeps failure scanner _ ⟨hfault, hfirst, hempty, hsecond.advance hupcoming hends,
        ?_, hnot⟩
      rw [advance_ahead]
      exact (List.tail_suffix _).trans hsuffix

/-- Consuming the next token compares. -/
theorem holds_consuming (value : α) :
    stop.comparison.Holds (fun scanner => scanner.consuming token value)
      (fun scanner => scanner.consuming token value) (stop.seeing token) :=
  holds_consumingThen (.pure value)

/-! ## Operations -/

/-- Asking for the end, and what is done after that, compares if the latter does where a token comes
next. -/
theorem holds_atEnd {next next' : Bool → Scan κ α}
    (h : ∀ answer token, stop.comparison.Holds (next answer) (next' answer) (stop.seeing token)) :
    stop.comparison.Holds (atEnd >>= next) (atEnd >>= next') := by
  have hequation (next : Bool → Scan κ α) (scanner : Scanner κ) : (atEnd >>= next) scanner =
      scanner.onNext fun token => next (decide (scanner.Ends token)) scanner.look := by
    rw [Rule.bind_apply, atEnd_eq, onNext, onNext]
    cases scanner.upcoming <;> rfl
  refine @holds_onNext κ α stop _ _
    (fun token scanner => next (decide (scanner.Ends token)) scanner.look)
    (fun token scanner => next' (decide (scanner.Ends token)) scanner.look)
    (hequation next) (hequation next') fun token => ⟨?_, ?_⟩
  · rintro scanner scanner' ⟨htogether, hupcoming⟩
    rw [decide_eq_decide.2 (together_ends_iff htogether token)]
    exact (holds_look (h _ token)).ends scanner scanner' ⟨htogether, hupcoming⟩
  · rintro failure scanner scanner' hparted
    exact (holds_look (h _ token)).keeps failure scanner scanner' hparted

/-- Consuming the current token compares. -/
theorem holds_consume : stop.comparison.Holds (consume : Scan κ String) consume :=
  @holds_onNext κ String stop _ _ (fun token scanner => scanner.consuming token token.text)
    (fun token scanner => scanner.consuming token token.text) consume_eq consume_eq
    fun token => holds_consuming token.text

/-- Trying to consume a text compares. -/
theorem holds_tryConsume (text : String) :
    stop.comparison.Holds (tryConsume text : Scan κ Bool) (tryConsume text) := by
  refine holds_onNext (fun _ => tryConsume_eq _ text) (fun _ => tryConsume_eq _ text)
    fun token => ?_
  split
  · exact holds_consuming true
  · exact holds_ok_look false

/-- A choice by a text compares if both ways do; the token is known to come next where the text is
not found. -/
theorem holds_choice {text : String} {yes yes' no no' : Scan κ α}
    (hyes : stop.comparison.Holds yes yes')
    (hno : ∀ token, stop.comparison.Holds no no' (stop.seeing token)) :
    stop.comparison.Holds
      (tryConsume text >>= fun found => if found = true then yes else no)
      (tryConsume text >>= fun found => if found = true then yes' else no') := by
  refine holds_onNext (fun _ => choice_eq _ text yes no) (fun _ => choice_eq _ text yes' no')
    fun token => ?_
  split
  · exact holds_consumingThen hyes
  · exact holds_look (hno token)

variable [KindText κ]

/-- Consuming a token of a kind compares. -/
theorem holds_consumeKind (kind : κ) (message : String) :
    stop.comparison.Holds (consumeKind kind message) (consumeKind kind message) := by
  refine holds_onNext (fun _ => consumeKind_eq _ kind message)
    (fun _ => consumeKind_eq _ kind message) fun token => ?_
  split
  · exact holds_consuming token.text
  · exact holds_blame _ _

/-- Consuming a text compares. -/
theorem holds_consumeText (text message : String) :
    stop.comparison.Holds (consumeText text message : Scan κ String) (consumeText text message) := by
  refine holds_onNext (fun _ => consumeText_eq _ text message)
    (fun _ => consumeText_eq _ text message) fun token => ?_
  split
  · exact holds_consuming text
  · exact holds_blame _ _

end Stop

end Scanner

end Parlance
