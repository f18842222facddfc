import Parlance.Proofs.Pl0.CorrectPrefix.Calculus

/-!
# Steps that keep the correct-prefix property

The operations of a scanner and of a session, choices by the next token, and loops: where the rest
of a text must be in some language, each leaves a place where it must be in another one. A loop
stands for `Repeats`, of what each of its rounds takes in, and `Parses` says of a part of the parser
which part of the grammar it takes in.
-/

namespace Parlance.Pl0.CorrectPrefix

open Scanner
open Supply (left)

/-! ## Questions for the next token -/

section

variable {σ α β γ : Type} [Supply σ] [Reads σ] {state : σ} {whole after : Language}
  {text : String} {texts : List String}

/-- What a question for a text comes to: the token with the text has been taken, the next token has
another text, or the stream fails. -/
inductive Answered (text : String) (state : σ) : EStateM.Result Fault σ Bool → Prop where
  | yes {token : Token Kind} {later : σ} :
      (Reads.scanner state).Takes token (Reads.scanner later) → token.text = text →
      Answered text state (.ok true later)
  | no {token : Token Kind} {later : σ} : (Reads.scanner state).upcoming = .ok token →
      token.text ≠ text → Reads.scanner later = (Reads.scanner state).look →
      Answered text state (.ok false later)
  | cut {fault : Fault} {later : σ} : (Reads.scanner state).upcoming = .error fault →
      Reads.scanner later = (Reads.scanner state).look → Answered text state (.error fault later)

/-- The operation asks for a text. -/
def Asks (test : EStateM Fault σ Bool) (text : String) : Prop :=
  ∀ state, Inside (Reads.scanner state) → Answered text state (test state)

/-- Trying to consume a text that the grammar quotes asks for it. -/
theorem tryConsume_asks (hmem : text ∈ terminals) :
    Asks (tryConsume text : Scan Kind Bool) text := by
  intro scanner (hinside : Inside scanner)
  rw [tryConsume_eq]
  cases hupcoming : scanner.upcoming with
  | error fault =>
      rw [onNext_of_error hupcoming]
      exact .cut hupcoming rfl
  | ok token =>
      rw [onNext_of_ok hupcoming]
      by_cases htext : token.text = text
      · obtain ⟨rest, hahead⟩ := hinside.ahead_eq hupcoming
        have htakes := hinside.toReady.takes_terminal hahead (htext ▸ hmem)
        rw [if_pos htext, consuming_of_not_ends htakes.not_ends]
        exact .yes htakes htext
      · rw [if_neg htext]
        exact .no hupcoming htext rfl

/-- A question of the scanner is one of the session. -/
theorem scan_asks {test : Scan Kind Bool} (h : Asks test text) :
    Asks (Parse.scan fun _ => test) text := by
  intro session hinside
  have hanswered := h session.scanner hinside
  unfold Parse.scan
  cases hrun : test session.scanner <;> simp only [hrun] at hanswered ⊢
  · cases hanswered with
    | yes htakes htext => exact .yes htakes htext
    | no hupcoming htext hlook => exact .no hupcoming htext hlook
  · cases hanswered with
    | cut hupcoming hlook => exact .cut hupcoming hlook

/-- A choice goes by the next token. -/
theorem Follows.choice {test : EStateM Fault σ Bool} {next : Bool → EStateM Fault σ β}
    (htest : Asks test text) (hinside : Inside (Reads.scanner state)) (hviable : Viable whole [])
    (hyes : ∀ token later, (Reads.scanner state).ahead = token :: (Reads.scanner later).ahead →
      token.text = text → Inside (Reads.scanner later) →
      Follows (next true) later (fun rest => whole (token :: rest)) after)
    (hno : ∀ token rest later, (Reads.scanner state).ahead = token :: rest → token.text ≠ text →
      Inside (Reads.scanner later) → (Reads.scanner later).ahead = token :: rest →
      Follows (next false) later whole after) :
    Follows (test >>= next) state whole after := by
  have hanswered := htest state hinside
  cases hrun : test state with
  | error fault later =>
      rw [hrun] at hanswered
      cases hanswered with
      | cut hupcoming hlook =>
          exact .cut hinside hviable hupcoming (by rw [Rule.bind_apply, hrun]) hlook
  | ok found later =>
      rw [hrun] at hanswered
      cases hanswered with
      | yes htakes htext =>
          exact .take hinside htakes (Rule.bind_of_ok hrun next)
            (hyes _ later htakes.ahead_eq htext (hinside.takes htakes))
      | no hupcoming htext hlook =>
          obtain ⟨rest, hahead⟩ := hinside.ahead_eq hupcoming
          have hreaches := Reaches.look hinside hlook
          refine .of_reaches (Rule.bind_of_ok hrun next) hreaches ⟨fun _ => id, fun _ _ => id⟩
            (hno _ rest later hahead htext hreaches.inside ?_)
          rw [hlook, look_ahead, hahead]

/-! ## Loops -/

/-- What a round of a loop comes to: an operand behind a token with one of the texts, nothing where
the next token has another text, or the failure of the stream. -/
inductive Rounded (texts : List String) (operand : EStateM Fault σ β) (make : β → α) (state : σ) :
    EStateM.Result Fault σ (Option α) → Prop where
  | taken {token : Token Kind} {later : σ} :
      (Reads.scanner state).Takes token (Reads.scanner later) → token.text ∈ texts →
      Rounded texts operand make state
        ((operand >>= fun right => pure (some (make right)) : EStateM Fault σ (Option α)) later)
  | declined {token : Token Kind} {later : σ} : (Reads.scanner state).upcoming = .ok token →
      token.text ∉ texts → Reads.scanner later = (Reads.scanner state).look →
      Rounded texts operand make state (.ok none later)
  | cut {fault : Fault} {later : σ} : (Reads.scanner state).upcoming = .error fault →
      Reads.scanner later = (Reads.scanner state).look →
      Rounded texts operand make state (.error fault later)

/-- The step of a loop takes in an operand behind a token with one of the texts. -/
def Rounds (texts : List String) (operand : EStateM Fault σ β)
    (step : α → EStateM Fault σ (Option α)) : Prop :=
  ∀ value state, Inside (Reads.scanner state) →
    ∃ make : β → α, Rounded texts operand make state (step value state)

/-- Collecting an item as long as there is a text takes in items behind it. -/
theorem collect_rounds {more : EStateM Fault σ Bool} {item : EStateM Fault σ β}
    (hmore : Asks more text) : Rounds [text] item (Rule.collect more item) := by
  intro values state hinside
  refine ⟨(· :: values), ?_⟩
  have hanswered := hmore state hinside
  unfold Rule.collect
  rw [Rule.bind_apply]
  cases hrun : more state with
  | error fault later =>
      rw [hrun] at hanswered
      cases hanswered with
      | cut hupcoming hlook => exact .cut hupcoming hlook
  | ok found later =>
      rw [hrun] at hanswered
      cases hanswered with
      | yes htakes htext => exact .taken htakes (by simp [htext])
      | no hupcoming htext hlook => exact .declined hupcoming (by simpa using htext) hlook

/-- A loop stands for rounds, if the operand stands for what a round takes in. -/
theorem Follows.iterate {operand : EStateM Fault σ β} {step : α → EStateM Fault σ (Option α)}
    {leads : Tokens → Tokens → Prop} {bound : Nat} (hrounds : Rounds texts operand step)
    (hviable : Viable after []) (hafter : Avoids texts after)
    (hoperand : ∀ state, Inside (Reads.scanner state) → left state < bound →
      Follows operand state (Then leads (Then (Repeats texts leads) after))
        (Then (Repeats texts leads) after)) :
    ∀ value state, Inside (Reads.scanner state) → left state ≤ bound →
      Follows (Rule.iterate step value) state (Then (Repeats texts leads) after) after := by
  intro value state
  induction hlength : left state using Nat.strongRecOn generalizing value state with
  | _ length ih =>
    intro hinside hbound
    obtain ⟨make, hround⟩ := hrounds value state hinside
    have hrun := Rule.iterate_eq step value state
    generalize step value state = outcome at hround hrun
    cases hround with
    | cut hupcoming hlook => exact .cut hinside hviable.repeats hupcoming hrun hlook
    | declined hupcoming htext hlook =>
        obtain ⟨others, hahead⟩ := hinside.ahead_eq hupcoming
        refine .stay hinside hrun hlook (fun rest hrest => .intro .done hrest) ?_
        rintro _ hnext ⟨hrepeats, hrest⟩
        obtain ⟨rest, rfl⟩ := hnext.starts hahead
        cases hrepeats with
        | done => exact hrest
        | round hmem _ _ => exact (htext hmem).elim
    | @taken token later htakes htext =>
        have hlt : left later < left state := by
          rw [Reads.left_eq, Reads.left_eq, ← left_eq_length, ← left_eq_length]
          exact htakes.left_lt
        have hinside' := hinside.takes htakes
        have hproper := hinside.proper token (by simp [htakes.ahead_eq])
        -- A round is an operand and the rest of the loop, which no bound refuses.
        have hgoes : Follows
            (operand >>= fun right =>
              Rule.below (left state) (Rule.iterate step (make right))) later
            (Then leads (Then (Repeats texts leads) after)) after := by
          refine (hoperand later hinside' (by omega)).bind fun right last _ hlast hle => ?_
          have hrest := ih (left last) (by omega) (make right) last rfl hlast (by omega)
          exact hrest.congr (Rule.below_of_lt (by omega) _)
        have hiff (rest : Tokens) :
            Then (Repeats texts leads) after (token :: rest) ↔
              Then leads (Then (Repeats texts leads) after) rest := by
          constructor
          · rintro ⟨hrepeats, hrest⟩
            cases hrepeats with
            | done => exact (hafter _ _ hproper hrest htext).elim
            | round _ hleads hrepeats => exact .intro hleads (.intro hrepeats hrest)
          · rintro ⟨hleads, hrepeats, hrest⟩
            exact .intro (.round htext hleads hrepeats) hrest
        refine .take hinside htakes ?_ (hgoes.of_iff hiff)
        rw [hrun, Rule.bind_apply, Rule.bind_apply]
        cases operand later <;> rfl

/-! ## Parts of the parser -/

/-- Where fewer than so many tokens are left, the operation takes in what leads on, in front of
whatever fits. -/
def Parses (operation : EStateM Fault σ α) (leads : Tokens → Tokens → Prop)
    (fits : Language → Prop) (bound : Nat) : Prop :=
  ∀ after, Viable after [] → fits after → ∀ state, Inside (Reads.scanner state) →
    left state < bound → Follows operation state (Then leads after) after

variable {leads span : Tokens → Tokens → Prop} {fits : Language → Prop}

/-- What an operation does under every bound, it does everywhere. -/
theorem Parses.follows {operation : EStateM Fault σ α}
    (h : ∀ bound, Parses operation leads fits bound) (hviable : Viable after [])
    (hfits : fits after) (hinside : Inside (Reads.scanner state)) :
    Follows operation state (Then leads after) after :=
  h (left state + 1) after hviable hfits state hinside (Nat.lt_succ_self _)

/-- A rule that calls itself takes in what its body does, where its calls take in the same. -/
theorem Parses.recursive {body : (Unit → EStateM Fault σ α) → Unit → EStateM Fault σ α}
    (hbody : ∀ inner bound, Parses inner leads fits bound →
      Parses (body (fun _ => inner) ()) leads fits (bound + 1)) (bound : Nat) :
    Parses (Rule.recursive body ()) leads fits bound := by
  induction bound with
  | zero => exact fun _ _ _ _ _ hlt => absurd hlt (Nat.not_lt_zero _)
  | succ bound ih =>
      intro after hviable hfits state hinside hlt
      have hinner : Parses (Rule.below (left state) (Rule.recursive body ())) leads fits
          (left state) := by
        intro after hviable hfits later hlater hless
        exact (ih after hviable hfits later hlater (by omega)).congr (Rule.below_of_lt hless _)
      exact (hbody _ _ hinner after hviable hfits state hinside (Nat.lt_succ_self _)).congr
        (Rule.recursive_eq body () state)

/-- What leads on in two steps, one after the other. -/
theorem then_iff {once more : Tokens → Tokens → Prop}
    (h : ∀ first rest, span first rest ↔ ∃ middle, once first middle ∧ more middle rest)
    (first : Tokens) : Then span after first ↔ Then once (Then more after) first := by
  constructor
  · rintro ⟨hspan, hafter⟩
    obtain ⟨middle, honce, hmore⟩ := (h _ _).1 hspan
    exact .intro honce (.intro hmore hafter)
  · rintro ⟨honce, hmore, hafter⟩
    exact .intro ((h _ _).2 ⟨_, honce, hmore⟩) hafter

/-- An item and a loop of more take in what the item and its rounds do. -/
theorem Parses.loop {item : EStateM Fault σ β} {step : α → EStateM Fault σ (Option α)}
    {start : β → α} {next : β → EStateM Fault σ γ} {narrower : Language → Prop} {bound : Nat}
    (hrounds : Rounds texts item step) (hitem : Parses item leads fits bound)
    (hspan : ∀ first rest, span first rest ↔
      ∃ middle, leads first middle ∧ Repeats texts leads middle rest)
    (hfits : ∀ after, narrower after →
      Avoids texts after ∧ fits (Then (Repeats texts leads) after))
    (hnext : ∀ first state after, Follows (Rule.iterate step (start first)) state
      (Then (Repeats texts leads) after) after →
        Follows (next first) state (Then (Repeats texts leads) after) after) :
    Parses (item >>= next) span narrower bound := by
  intro after hviable hnarrower state hinside hlt
  obtain ⟨havoids, hrest⟩ := hfits after hnarrower
  have hsequence : Follows (item >>= next) state
      (Then leads (Then (Repeats texts leads) after)) after := by
    refine (hitem _ hviable.repeats hrest state hinside hlt).bind
      fun first later _ hlater hle => hnext first later after ?_
    exact Follows.iterate hrounds hviable havoids (hitem _ hviable.repeats hrest) _ later hlater
      (by omega)
  exact hsequence.of_iff (then_iff hspan)

/-- Items with a separator are an item, and rounds of one behind the separator. -/
theorem spans_separated_iff {derives : Tokens → α → Tokens → Prop} (first rest : Tokens) :
    Spans (Separated text derives) first rest ↔
      ∃ middle, Spans derives first middle ∧ Repeats [text] (Spans derives) middle rest := by
  constructor
  · rintro ⟨h⟩
    induction h with
    | one hvalue => exact ⟨_, ⟨hvalue⟩, .done⟩
    | more hvalue htext _ ih =>
        obtain ⟨middle, hfirst, hrepeats⟩ := ih
        exact ⟨_, ⟨hvalue⟩, .round (by simp [htext]) hfirst hrepeats⟩
  · rintro ⟨middle, hfirst, hrepeats⟩
    induction hrepeats generalizing first with
    | done =>
        obtain ⟨hvalue⟩ := hfirst
        exact ⟨.one hvalue⟩
    | round hmem hleads _ ih =>
        obtain ⟨hvalue⟩ := hfirst
        obtain ⟨hothers⟩ := ih _ hleads
        exact ⟨.more hvalue (by simpa using hmem) hothers⟩

/-- Items are collected as long as there is a separator. -/
theorem Parses.separated {more : EStateM Fault σ Bool} {item : EStateM Fault σ α}
    {derives : Tokens → α → Tokens → Prop} {narrower : Language → Prop} {bound : Nat}
    (hmore : Asks more text) (hitem : Parses item (Spans derives) fits bound)
    (hfits : ∀ after, narrower after →
      Avoids [text] after ∧ fits (Then (Repeats [text] (Spans derives)) after)) :
    Parses (do
      let first ← item
      let rest ← Rule.iterate (Rule.collect more item) []
      return first :: rest.reverse) (Spans (Separated text derives)) narrower bound :=
  .loop (collect_rounds hmore) hitem spans_separated_iff hfits fun _ _ _ h => h.map

end

/-! ## Steps of a scanner -/

section

variable {α : Type} {scanner : Scanner Kind} {whole after : Language} {token : Token Kind}
  {rest : Tokens}

/-- What is done after a look goes by the next token. -/
theorem Follows.current {next : Token Kind → Scan Kind α} (hinside : Inside scanner)
    (hviable : Viable whole [])
    (h : ∀ token rest later, scanner.ahead = token :: rest → later.ahead = token :: rest →
      Inside later → Follows (next token) later whole after) :
    Follows (Scanner.current >>= next) scanner whole after := by
  cases hupcoming : scanner.upcoming with
  | error fault =>
      exact .cut hinside hviable hupcoming ((current_bind next).trans (onNext_of_error hupcoming _))
        rfl
  | ok token =>
      obtain ⟨rest, hahead⟩ := hinside.ahead_eq hupcoming
      exact .of_reaches ((current_bind next).trans (onNext_of_ok hupcoming _))
        (.look hinside rfl) ⟨fun _ => id, fun _ _ => id⟩
        (h token rest scanner.look hahead (by rw [look_ahead, hahead]) hinside.look)

/-- An operation that starts with a look fails as the stream does, or goes by the next token. -/
theorem Follows.looksFirst {operation : Scan Kind α} (hlooks : LooksFirst operation)
    (hinside : Inside scanner) (hviable : Viable whole [])
    (h : ∀ token rest, scanner.ahead = token :: rest → Follows operation scanner whole after) :
    Follows operation scanner whole after := by
  cases hupcoming : scanner.upcoming with
  | error fault => exact .cut hinside hviable hupcoming (hlooks.of_error hupcoming) rfl
  | ok token =>
      obtain ⟨rest, hahead⟩ := hinside.ahead_eq hupcoming
      exact h token rest hahead

/-- A choice by a text that the grammar quotes goes one way behind a token with it, and the other
way in front of any other token. -/
theorem Follows.word {text : String} {yes no : Scan Kind α} (hmem : text ∈ terminals)
    (hinside : Inside scanner) (hviable : Viable whole []) (hahead : scanner.ahead = token :: rest)
    (hyes : token.text = text → ∀ later : Scanner Kind, Inside later → later.ahead = rest →
      Follows yes later (fun others => whole (token :: others)) after)
    (hno : token.text ≠ text → ∀ later : Scanner Kind, Inside later → later.ahead = token :: rest →
      Follows no later whole after) :
    Follows (tryConsume text >>= fun found => if found = true then yes else no) scanner whole
      after := by
  refine .choice (tryConsume_asks hmem) hinside hviable ?_ ?_
  · intro next later hnext htext hlater
    obtain ⟨rfl, hrest⟩ := List.cons.inj (hahead.symm.trans hnext)
    exact hyes htext later hlater hrest.symm
  · intro next others later hnext htext hlater hsame
    obtain ⟨rfl, rfl⟩ := List.cons.inj (hahead.symm.trans hnext)
    exact hno htext later hlater hsame

/-- After a token has been consumed, what is left is what the whole goes on with behind it. -/
theorem Follows.consume {next : String → Scan Kind α} (hinside : Inside scanner)
    (htakes : scanner.Takes token scanner.advance)
    (h : ∀ later, Inside later →
      Follows (next token.text) later (fun rest => whole (token :: rest)) after) :
    Follows (Scanner.consume >>= next) scanner whole after :=
  .take hinside htakes (Rule.bind_of_ok (consume_ok_iff.2 ⟨token, htakes, rfl⟩) next)
    (h _ (hinside.takes htakes))

/-- A text that the grammar quotes is consumed, and any other is blamed. -/
theorem Follows.consumeText {text message : String} (hinside : Inside scanner)
    (hmem : text ∈ terminals) (hviable : Viable after []) :
    Follows (Scanner.consumeText text message) scanner (Next (·.text = text) after) after := by
  have hviable := hviable.quoted hmem
  have hrun := consumeText_eq scanner text message
  cases hupcoming : scanner.upcoming with
  | error fault =>
      rw [onNext_of_error hupcoming] at hrun
      exact .cut hinside hviable hupcoming hrun rfl
  | ok token =>
      rw [onNext_of_ok hupcoming] at hrun
      obtain ⟨rest, hahead⟩ := hinside.ahead_eq hupcoming
      by_cases htext : token.text = text
      · have htakes := hinside.toReady.takes_terminal hahead (htext ▸ hmem)
        rw [if_pos htext, consuming_of_not_ends htakes.not_ends] at hrun
        refine .ok hrun (.takes hinside htakes) ⟨fun rest hrest => .intro htext hrest, ?_⟩
        rintro rest - ⟨-, hrest⟩
        exact hrest
      · rw [if_neg htext] at hrun
        refine .stuck hinside hviable (.inl rfl) hupcoming ?_ hrun rfl
        rintro rest ⟨hnext, -⟩
        exact htext hnext

/-- A name or a number is consumed where it is wanted, and anything else is blamed. -/
theorem Follows.consumeKind {kind : Kind} {message : String} (hinside : Inside scanner)
    (hkind : kind = .identifier ∨ kind = .number) (hviable : Viable after []) :
    Follows (Scanner.consumeKind kind message) scanner (Next (·.kind = kind) after) after := by
  have hrun := consumeKind_eq scanner kind message
  cases hupcoming : scanner.upcoming with
  | error fault =>
      rw [onNext_of_error hupcoming] at hrun
      exact .cut hinside (hviable.kind hkind) hupcoming hrun rfl
  | ok token =>
      rw [onNext_of_ok hupcoming] at hrun
      obtain ⟨rest, hahead⟩ := hinside.ahead_eq hupcoming
      by_cases hsame : token.kind = kind
      · have hstop : token.kind ≠ .stop := by
          rw [hsame]
          rcases hkind with rfl | rfl <;> decide
        have htakes := hinside.toReady.takes_kind hahead hstop
        rw [if_pos hsame, consuming_of_not_ends htakes.not_ends] at hrun
        refine .ok hrun (.takes hinside htakes) ⟨fun rest hrest => .intro hsame hrest, ?_⟩
        rintro rest - ⟨-, hrest⟩
        exact hrest
      · rw [if_neg hsame] at hrun
        refine .stuck hinside (hviable.kind hkind) (.inl rfl) hupcoming ?_ hrun rfl
        rintro rest ⟨hnext, -⟩
        exact hsame hnext

/-- A failure blames the next token, if nothing goes on with it. -/
theorem Follows.fail {message : String} {category : ErrorCategory} (hinside : Inside scanner)
    (hviable : Viable whole []) (hcategory : category = .unexpectedToken ∨ category = .general)
    (hahead : scanner.ahead = token :: rest) (hdead : ∀ others, ¬ whole (token :: others)) :
    Follows (Scanner.fail message category : Scan Kind α) scanner whole after := by
  have hupcoming := upcoming_of_ahead hahead
  have hrun : (Scanner.fail message category : Scan Kind α) scanner =
      .error (.parse (.ofToken category token message)) scanner.look := by
    rw [fail_eq, errorAt_of_ok hupcoming]
  exact .stuck hinside hviable hcategory hupcoming hdead hrun rfl

/-- Breaking a rule on names is a failure in any case. -/
theorem Follows.violate {violation : Violation} (hinside : Inside scanner)
    (hcategory : violation.category = .semantic) :
    Follows (Pl0.violate violation : Scan Kind α) scanner whole after :=
  .semantic hinside hcategory (fail_eq scanner violation.message violation.category) rfl

/-- Nothing is done after a rule on names has been broken. -/
theorem Follows.violate_bind {β : Type} {violation : Violation} {next : β → Scan Kind α}
    (hinside : Inside scanner) (hcategory : violation.category = .semantic) :
    Follows (Pl0.violate violation >>= next) scanner whole after := by
  have hrun : (Pl0.violate violation >>= next) scanner =
      .error (.parse (scanner.errorAt violation.message violation.category)) scanner.look := by
    rw [Rule.bind_apply, Pl0.violate, fail_eq]
  exact .semantic hinside hcategory hrun rfl

end

/-! ## Steps of a session -/

section

variable {α : Type} {session : Session} {whole after : Language}

/-- A step of the scanner leaves the scope. -/
theorem scan_apply (parser : Scope → Scan Kind α) (session : Session) :
    Parse.scan parser session =
      match parser session.scope session.scanner with
      | .ok value scanner => .ok value { session with scanner }
      | .error fault scanner => .error fault { session with scanner } := rfl

/-- A step of the scanner is one of the session. -/
theorem Follows.scan {parser : Scope → Scan Kind α}
    (h : Follows (parser session.scope) session.scanner whole after) :
    Follows (Parse.scan parser) session whole after := by
  have hrun := scan_apply parser session
  cases h with
  | ok hvalue hreaches hresidual =>
      simp only [hvalue] at hrun
      exact .ok hrun hreaches hresidual
  | error hfault hreaches hblamed =>
      simp only [hfault] at hrun
      exact .error hrun hreaches hblamed

/-- A scope of its own is given up in the end. -/
theorem inside_apply (parser : Parse α) (session : Session) :
    Parse.inside parser session =
      match parser { session with scope := session.scope.child } with
      | .ok value last => .ok value { last with scope := session.scope }
      | .error fault last => .error fault { last with scope := session.scope } := rfl

/-- A scope of its own makes no difference to what is left. -/
theorem Follows.inside {parser : Parse α}
    (h : Follows parser { session with scope := session.scope.child } whole after) :
    Follows (Parse.inside parser) session whole after := by
  have hrun := inside_apply parser session
  cases h with
  | ok hvalue hreaches hresidual =>
      simp only [hvalue] at hrun
      exact .ok hrun hreaches hresidual
  | error hfault hreaches hblamed =>
      simp only [hfault] at hrun
      exact .error hrun hreaches hblamed

/-- A declaration changes the scope, or blames the token of the name. -/
theorem declare_apply (token : Token Kind) (violation : Violation)
    (declared? : Scope → Option Scope) (session : Session) :
    Parse.declare token violation declared? session =
      match declared? session.scope with
      | none => .error (.parse (.ofToken violation.category token violation.message)) session
      | some scope => .ok () { session with scope } := by
  have hget : (get : Parse Session) session = .ok session session := rfl
  rw [Parse.declare, Rule.bind_of_ok hget]
  cases declared? session.scope <;> rfl

/-- A declaration leaves what can stand there, or breaks a rule on names. -/
theorem Follows.declare {token : Token Kind} {violation : Violation}
    {declared? : Scope → Option Scope} (hinside : Inside session.scanner)
    (hcategory : violation.category = .semantic) :
    Follows (Parse.declare token violation declared?) session whole whole := by
  have hrun := declare_apply token violation declared? session
  cases hdeclared : declared? session.scope with
  | none =>
      simp only [hdeclared] at hrun
      exact .error hrun (.refl hinside) (.semantic hcategory)
  | some scope =>
      simp only [hdeclared] at hrun
      exact .ok hrun (.refl hinside) ⟨fun _ => id, fun _ _ => id⟩

/-- The name that comes next is consumed. -/
theorem declaredName_follows (hinside : Inside session.scanner) (hviable : Viable after []) :
    Follows declaredName session (Next (·.kind = .identifier) after) after := by
  refine .scan (.current hinside (hviable.kind (.inl rfl)) fun _ _ _ _ _ hlater => ?_)
  exact (Follows.consumeKind hlater (.inl rfl) hviable).map

end

end Parlance.Pl0.CorrectPrefix
