import Parlance.Proofs.Pl0.Blocks
import Parlance.Proofs.Scanner.Outcome

/-!
# What may still follow

A parser has the correct-prefix property if it never consumes a token that no sentence goes on with,
and blames a token only where none does. The property is one of every part of the parser: each is
called where the rest of the text must be in some language, its whole, and leaves a place where the
rest must be in another one. `Follows` relates the two by the tokens that are consumed: what may
stand after them is what the whole goes on with, as far as the next token shows, and a failure is
one of three: the next token goes on with nothing (`stuck`), the stream has no next token (`cut`),
or a rule on names is broken (`semantic`).

This is closed under sequences, choices by the next token, loops and recursion. Languages are of
lists of tokens up to the end of a text.
-/

namespace Parlance.Pl0.CorrectPrefix

open Scanner
open Supply (left)

/-! ## Languages -/

/-- What the tokens from some place on must be. -/
abbrev Language := Tokens → Prop

/-- Tokens that can be the rest of a text: pieces, and the token for the end. -/
inductive Completes : Tokens → Prop where
  | closing {token} : token.kind = .stop → token.text = "" → Completes [token]
  | piece {token rest} : lexer.IsPiece token → Completes rest → Completes (token :: rest)

/-- Something in the language starts with these tokens, and can be the rest of a text. -/
def Viable (whole : Language) (consumed : Tokens) : Prop :=
  ∃ rest, Completes rest ∧ whole (consumed ++ rest)

/-- A token that is accepted, and something of the language after it. -/
inductive Next (accepts : Token Kind → Prop) (after : Language) : Language where
  | intro {token rest} : accepts token → after rest → Next accepts after (token :: rest)

/-- What leads to something of the language. -/
inductive Then (leads : Tokens → Tokens → Prop) (after : Language) : Language where
  | intro {first rest} : leads first rest → after rest → Then leads after first

/-- The tokens between two places derive some value. -/
inductive Spans {α : Type} (derives : Tokens → α → Tokens → Prop) (first rest : Tokens) : Prop where
  | intro {value} : derives first value rest → Spans derives first rest

/-- Any number of rounds, each of a token with one of these texts and what it leads to. -/
inductive Repeats (texts : List String) (leads : Tokens → Tokens → Prop) :
    Tokens → Tokens → Prop where
  | done {rest} : Repeats texts leads rest rest
  | round {token second middle rest} : token.text ∈ texts → leads second middle →
      Repeats texts leads middle rest → Repeats texts leads (token :: second) rest

/-- Whatever is in the language starts with one of these texts, if the token is proper. -/
def Heads (texts : List String) (language : Language) : Prop :=
  ∀ token rest, Proper token → language (token :: rest) → token.text ∈ texts

/-- Nothing in the language starts with one of these texts, if the token is proper. -/
def Avoids (texts : List String) (language : Language) : Prop :=
  ∀ token rest, Proper token → language (token :: rest) → token.text ∉ texts

section

variable {whole part after : Language} {texts fewer : List String}
  {leads : Tokens → Tokens → Prop} {consumed rest : Tokens} {token : Token Kind}

/-- What is viable in a part of a language is viable in the whole. -/
theorem Viable.mono (h : Viable part consumed) (hmore : ∀ rest, part rest → whole rest) :
    Viable whole consumed :=
  h.imp fun _ hrest => ⟨hrest.1, hmore _ hrest.2⟩

/-- Where some piece is accepted, a language is viable if what follows it is. -/
theorem Viable.next {accepts : Token Kind → Prop} (hpiece : lexer.IsPiece token)
    (haccepts : accepts token) (h : Viable after []) : Viable (Next accepts after) [] := by
  obtain ⟨rest, hcompletes, hafter⟩ := h
  exact ⟨token :: rest, .piece hpiece hcompletes, .intro haccepts hafter⟩

/-- A language in which a quoted text comes first is viable if what follows it is. -/
theorem Viable.quoted {text : String} (hmem : text ∈ terminals) (h : Viable after []) :
    Viable (Next (·.text = text) after) [] := by
  obtain ⟨token, hpiece, htext⟩ := exists_quoted_piece hmem
  exact h.next hpiece htext

/-- A language in which a name or a number comes first is viable if what follows it is. -/
theorem Viable.kind {kind : Kind} (hkind : kind = .identifier ∨ kind = .number)
    (h : Viable after []) : Viable (Next (·.kind = kind) after) [] := by
  obtain ⟨token, hpiece, hsame⟩ := exists_piece_of_kind hkind
  exact h.next hpiece hsame

/-- Rounds may be left out. -/
theorem Viable.repeats (h : Viable after []) : Viable (Then (Repeats texts leads) after) [] :=
  h.mono fun _ hafter => .intro .done hafter

/-- What starts with some texts starts with none of others. -/
theorem Heads.avoids (h : Heads texts after) (hdisjoint : ∀ text ∈ texts, text ∉ fewer) :
    Avoids fewer after :=
  fun token rest hproper hafter => hdisjoint _ (h token rest hproper hafter)

/-- What starts with some texts starts with some of more. -/
theorem Heads.mono (h : Heads fewer after) (hmore : ∀ text ∈ fewer, text ∈ texts) :
    Heads texts after :=
  fun token rest hproper hafter => hmore _ (h token rest hproper hafter)

/-- What starts with none of some texts starts with none of fewer. -/
theorem Avoids.mono (h : Avoids texts after) (hfewer : ∀ text ∈ fewer, text ∈ texts) :
    Avoids fewer after :=
  fun token rest hproper hafter hmem => h token rest hproper hafter (hfewer _ hmem)

/-- A quoted text comes first. -/
theorem Next.heads {text : String} : Heads [text] (Next (·.text = text) after) := by
  rintro token rest - ⟨htext, -⟩
  simpa using htext

/-- Rounds start with their texts. -/
theorem Repeats.heads (h : Heads fewer after) :
    Heads (texts ++ fewer) (Then (Repeats texts leads) after) := by
  rintro token rest hproper ⟨hrepeats, hafter⟩
  cases hrepeats with
  | done => exact List.mem_append_right _ (h _ _ hproper hafter)
  | round hmem _ _ => exact List.mem_append_left _ hmem

/-- Where nothing starts with some texts, rounds start with them only if their own texts do. -/
theorem Repeats.avoids (h : Avoids fewer after) (hdisjoint : ∀ text ∈ texts, text ∉ fewer) :
    Avoids fewer (Then (Repeats texts leads) after) := by
  rintro token rest hproper ⟨hrepeats, hafter⟩
  cases hrepeats with
  | done => exact h _ _ hproper hafter
  | round hmem _ _ => exact hdisjoint _ hmem

/-- One round more may come last. -/
theorem Repeats.concat {first second middle : Tokens} (h : Repeats texts leads first middle)
    (hmiddle : middle = token :: second) (hmem : token.text ∈ texts) (hleads : leads second rest) :
    Repeats texts leads first rest := by
  induction h with
  | done => exact hmiddle ▸ .round hmem hleads .done
  | round hmem' hleads' _ ih => exact .round hmem' hleads' (ih hmiddle)

end

/-! ## Residuals -/

/-- Both lists start with the same token. -/
def SameNext (rest ahead : Tokens) : Prop :=
  ∃ token others others', rest = token :: others ∧ ahead = token :: others'

/-- Where the one list starts with a token, so does the other. -/
theorem SameNext.starts {rest ahead others : Tokens} {token : Token Kind} (h : SameNext rest ahead)
    (hahead : ahead = token :: others) : ∃ second, rest = token :: second := by
  obtain ⟨next, second, _, rfl, hnext⟩ := h
  cases hahead.symm.trans hnext
  exact ⟨second, rfl⟩

/-- What stands before both lists makes no difference. -/
theorem SameNext.append {rest ahead : Tokens} (h : SameNext rest ahead) (consumed : Tokens) :
    SameNext (consumed ++ rest) (consumed ++ ahead) := by
  cases consumed with
  | nil => exact h
  | cons token others => exact ⟨token, _, _, rfl, rfl⟩

/-- After the tokens that have been consumed, what the whole goes on with is what may come after, as
far as the next token shows. -/
structure Residual (whole after : Language) (consumed ahead : Tokens) : Prop where
  sound : ∀ rest, after rest → whole (consumed ++ rest)
  complete : ∀ rest, SameNext rest ahead → whole (consumed ++ rest) → after rest

/-- What is left is taken away in two steps as in one. -/
theorem Residual.trans {whole middle after : Language} {first second ahead : Tokens}
    (hfirst : Residual whole middle first (second ++ ahead))
    (hsecond : Residual middle after second ahead) :
    Residual whole after (first ++ second) ahead where
  sound rest hrest := by
    rw [List.append_assoc]
    exact hfirst.sound _ (hsecond.sound _ hrest)
  complete rest hnext hrest := by
    rw [List.append_assoc] at hrest
    exact hsecond.complete _ hnext (hfirst.complete _ (hnext.append second) hrest)

/-! ## Places in a text -/

/-- A scanner inside a text, which has a token for the end unless its stream fails. -/
structure Inside (scanner : Scanner Kind) : Prop extends Ready scanner where
  closed : scanner.ending = none →
    ∃ front closing, scanner.ahead = front ++ [closing] ∧ scanner.Ends closing

namespace Inside

variable {scanner start final : Scanner Kind} {token : Token Kind} {fault : Fault}

/-- Where a token comes next, it lies ahead. -/
theorem ahead_eq (h : Inside scanner) (hupcoming : scanner.upcoming = .ok token) :
    ∃ rest, scanner.ahead = token :: rest := by
  cases hahead : scanner.ahead with
  | cons next rest =>
      cases hupcoming.symm.trans (upcoming_of_ahead hahead)
      exact ⟨rest, rfl⟩
  | nil =>
      cases hending : scanner.ending with
      | none =>
          obtain ⟨front, closing, hfront, -⟩ := h.closed hending
          simp [hahead] at hfront
      | some fault => simp [upcoming, hahead, hending] at hupcoming

/-- A look does not leave the text. -/
theorem look (h : Inside scanner) : Inside scanner.look where
  toReady := h.toReady.passes (.look scanner)
  closed hending := by
    obtain ⟨front, closing, hahead, hends⟩ := h.closed hending
    exact ⟨front, closing, by rw [look_ahead, hahead], hends⟩

/-- Taking a token does not leave the text. -/
theorem takes (h : Inside start) (htakes : start.Takes token final) : Inside final where
  toReady := h.toReady.passes htakes.passes
  closed hending := by
    obtain ⟨front, closing, hahead, hends⟩ := h.closed (htakes.sameEnd.ending.symm.trans hending)
    rw [htakes.ahead_eq] at hahead
    cases front with
    | nil =>
        obtain ⟨rfl, -⟩ := List.cons.inj hahead
        exact (htakes.not_ends hends).elim
    | cons first front =>
        obtain ⟨-, hfront⟩ := List.cons.inj hahead
        exact ⟨front, closing, hfront, (htakes.sameEnd.ends_iff closing).2 hends⟩

end Inside

/-- These tokens are consumed between two places of a text. -/
structure Reaches (start final : Scanner Kind) (consumed : Tokens) : Prop where
  ahead_eq : start.ahead = consumed ++ final.ahead
  sameEnd : SameEnd start final
  inside : Inside final

namespace Reaches

variable {start middle final : Scanner Kind} {first second : Tokens} {token : Token Kind}

/-- Nothing is consumed by a look. -/
theorem look (h : Inside start) (hlook : final = start.look) : Reaches start final [] := by
  subst hlook
  exact ⟨by simp, look_sameEnd start, h.look⟩

/-- Nothing is consumed where a scanner stays. -/
theorem refl (h : Inside start) : Reaches start start [] := ⟨rfl, .refl start, h⟩

/-- A token that is taken is consumed. -/
theorem takes (h : Inside start) (htakes : start.Takes token final) :
    Reaches start final [token] :=
  ⟨htakes.ahead_eq, htakes.sameEnd, h.takes htakes⟩

/-- What is consumed in two steps is consumed. -/
theorem trans (hfirst : Reaches start middle first) (hsecond : Reaches middle final second) :
    Reaches start final (first ++ second) :=
  ⟨by rw [hfirst.ahead_eq, hsecond.ahead_eq, List.append_assoc],
    hfirst.sameEnd.trans hsecond.sameEnd, hsecond.inside⟩

/-- No more tokens are left than there were. -/
theorem length_le (h : Reaches start final first) : final.ahead.length ≤ start.ahead.length := by
  rw [h.ahead_eq, List.length_append]
  omega

end Reaches

/-! ## The relation -/

/-- A state that holds a scanner. -/
class Reads (σ : Type) [Supply σ] where
  scanner : σ → Scanner Kind
  left_eq : ∀ state : σ, left state = (scanner state).ahead.length

instance : Reads (Scanner Kind) := ⟨id, left_eq_length⟩

instance : Reads Session := ⟨Session.scanner, fun session => left_eq_length session.scanner⟩

/-- Why a part of the parser fails. -/
inductive Blamed (whole : Language) (consumed : Tokens) (final : Scanner Kind) : Fault → Prop where
  /-- The next token goes on with nothing, and is blamed. -/
  | stuck {category : ErrorCategory} {token : Token Kind} {rest : Tokens} {message : String} :
      category = .unexpectedToken ∨ category = .general → final.ahead = token :: rest →
      Viable whole consumed →
      (∀ others, SameNext others final.ahead → ¬ whole (consumed ++ others)) →
      Blamed whole consumed final (.parse (.ofToken category token message))
  /-- The stream fails in place of a next token. -/
  | cut {fault : Fault} : final.ahead = [] → final.ending = some fault → Viable whole consumed →
      Blamed whole consumed final fault
  /-- A rule on names is broken. -/
  | semantic {error : ParseError} : error.category = .semantic →
      Blamed whole consumed final (.parse error)

/-- An operation that starts where the rest of a text must be in one language leaves a place where
it must be in another one, or fails for one of the known reasons. -/
inductive Follows {σ α : Type} [Supply σ] [Reads σ] (operation : EStateM Fault σ α) (state : σ)
    (whole after : Language) : Prop where
  | ok {value : α} {final : σ} {consumed : Tokens} : operation state = .ok value final →
      Reaches (Reads.scanner state) (Reads.scanner final) consumed →
      Residual whole after consumed (Reads.scanner final).ahead →
      Follows operation state whole after
  | error {fault : Fault} {final : σ} {consumed : Tokens} : operation state = .error fault final →
      Reaches (Reads.scanner state) (Reads.scanner final) consumed →
      Blamed whole consumed (Reads.scanner final) fault → Follows operation state whole after

variable {σ α β : Type} [Supply σ] [Reads σ] {operation first : EStateM Fault σ α}
  {state later : σ} {whole middle after part : Language} {token : Token Kind} {rest : Tokens}

/-- What fails after some tokens have been consumed fails, if those lead from one language to the
other. -/
theorem Blamed.behind {consumed others : Tokens} {final : Scanner Kind} {fault : Fault}
    (h : Blamed middle others final fault)
    (hresidual : Residual whole middle consumed (others ++ final.ahead)) :
    Blamed whole (consumed ++ others) final fault := by
  have hviable (hviable : Viable middle others) : Viable whole (consumed ++ others) := by
    obtain ⟨rest, hcompletes, hmiddle⟩ := hviable
    exact ⟨rest, hcompletes, by rw [List.append_assoc]; exact hresidual.sound _ hmiddle⟩
  cases h with
  | stuck hcategory hahead hothers hdead =>
      refine .stuck hcategory hahead (hviable hothers) fun next hnext hwhole => ?_
      rw [List.append_assoc] at hwhole
      exact hdead next hnext (hresidual.complete _ (hnext.append others) hwhole)
  | cut hahead hending hothers => exact .cut hahead hending (hviable hothers)
  | semantic hcategory => exact .semantic hcategory

namespace Follows

/-! ## Steps -/

/-- An operation goes on as another one does from where these tokens have been consumed. -/
theorem of_reaches {other : EStateM Fault σ β} {next : EStateM Fault σ β} {consumed : Tokens}
    (hrun : next state = other later)
    (hreaches : Reaches (Reads.scanner state) (Reads.scanner later) consumed)
    (hresidual : Residual whole middle consumed (Reads.scanner later).ahead)
    (h : Follows other later middle after) : Follows next state whole after := by
  cases h with
  | ok hvalue hreaches' hresidual' =>
      rw [hreaches'.ahead_eq] at hresidual
      exact .ok (hrun.trans hvalue) (hreaches.trans hreaches') (hresidual.trans hresidual')
  | error hfault hreaches' hblamed =>
      rw [hreaches'.ahead_eq] at hresidual
      exact .error (hrun.trans hfault) (hreaches.trans hreaches') (hblamed.behind hresidual)

/-- Operations that do the same leave the same. -/
theorem congr {other : EStateM Fault σ α} (hrun : operation state = other state)
    (h : Follows other state whole after) : Follows operation state whole after := by
  cases h with
  | ok hvalue hreaches hresidual => exact .ok (hrun.trans hvalue) hreaches hresidual
  | error hfault hreaches hblamed => exact .error (hrun.trans hfault) hreaches hblamed

/-- A sequence goes on where its first step leaves off. -/
theorem bind {next : α → EStateM Fault σ β} (hfirst : Follows first state whole middle)
    (hnext : ∀ value later, first state = .ok value later → Inside (Reads.scanner later) →
      left later ≤ left state → Follows (next value) later middle after) :
    Follows (first >>= next) state whole after := by
  cases hfirst with
  | ok hvalue hreaches hresidual =>
      refine of_reaches (Rule.bind_of_ok hvalue next) hreaches hresidual
        (hnext _ _ hvalue hreaches.inside ?_)
      rw [Reads.left_eq, Reads.left_eq]
      exact hreaches.length_le
  | error hfault hreaches hblamed =>
      exact .error (by rw [Rule.bind_apply, hfault]) hreaches hblamed

/-- A part of the parser may know more of the whole, from its next token. -/
theorem narrow (h : Follows operation state part after) (hsound : ∀ rest, part rest → whole rest)
    (hcomplete : ∀ rest, SameNext rest (Reads.scanner state).ahead → whole rest → part rest) :
    Follows operation state whole after := by
  have hcomplete' {consumed rest : Tokens} {final : Scanner Kind}
      (hreaches : Reaches (Reads.scanner state) final consumed)
      (hnext : SameNext rest final.ahead) (hwhole : whole (consumed ++ rest)) :
      part (consumed ++ rest) :=
    hcomplete _ (hreaches.ahead_eq ▸ hnext.append consumed) hwhole
  cases h with
  | ok hvalue hreaches hresidual =>
      refine .ok hvalue hreaches ⟨fun rest hrest => hsound _ (hresidual.sound rest hrest), ?_⟩
      intro rest hnext hwhole
      exact hresidual.complete rest hnext (hcomplete' hreaches hnext hwhole)
  | error hfault hreaches hblamed =>
      refine .error hfault hreaches ?_
      cases hblamed with
      | stuck hcategory hahead hviable hdead =>
          exact .stuck hcategory hahead (hviable.mono hsound) fun rest hnext hwhole =>
            hdead rest hnext (hcomplete' hreaches hnext hwhole)
      | cut hahead hending hviable => exact .cut hahead hending (hviable.mono hsound)
      | semantic hcategory => exact .semantic hcategory

/-- Languages with the same tokens in them are the same. -/
theorem of_iff (h : Follows operation state part after) (hiff : ∀ rest, whole rest ↔ part rest) :
    Follows operation state whole after :=
  h.narrow (fun rest => (hiff rest).2) fun rest _ => (hiff rest).1

/-- After a token has been taken, what is left is what the whole goes on with behind it. -/
theorem take {next : EStateM Fault σ β} {other : EStateM Fault σ β}
    (hinside : Inside (Reads.scanner state))
    (htakes : (Reads.scanner state).Takes token (Reads.scanner later))
    (hrun : next state = other later)
    (h : Follows other later (fun rest => whole (token :: rest)) after) :
    Follows next state whole after :=
  of_reaches hrun (.takes hinside htakes) ⟨fun _ => id, fun _ _ => id⟩ h

/-- An operation that only looks leaves what can stand there. -/
theorem stay {value : α} (hinside : Inside (Reads.scanner state))
    (hrun : operation state = .ok value later)
    (hlook : Reads.scanner later = (Reads.scanner state).look)
    (hsound : ∀ rest, after rest → whole rest)
    (hcomplete : ∀ rest, SameNext rest (Reads.scanner state).ahead → whole rest → after rest) :
    Follows operation state whole after := by
  refine .ok hrun (.look hinside hlook) ⟨hsound, fun rest hnext => hcomplete rest ?_⟩
  rwa [hlook, look_ahead] at hnext

/-- A value takes no step. -/
theorem pure {value : α} (hinside : Inside (Reads.scanner state))
    (hsound : ∀ rest, after rest → whole rest)
    (hcomplete : ∀ rest, SameNext rest (Reads.scanner state).ahead → whole rest → after rest) :
    Follows (Pure.pure value) state whole after :=
  .ok rfl (.refl hinside) ⟨hsound, hcomplete⟩

/-- What is done with the value of an operation does not change what is left. -/
theorem map {make : α → β} (h : Follows first state whole after) :
    Follows (first >>= fun value => Pure.pure (make value)) state whole after :=
  h.bind fun _ _ _ hinside _ => pure hinside (fun _ => id) fun _ _ => id

/-- Where the stream fails, so does an operation that looks. -/
theorem cut {fault : Fault} (hinside : Inside (Reads.scanner state)) (hviable : Viable whole [])
    (hupcoming : (Reads.scanner state).upcoming = .error fault)
    (hrun : operation state = .error fault later)
    (hlook : Reads.scanner later = (Reads.scanner state).look) :
    Follows operation state whole after := by
  refine .error hrun (.look hinside hlook) (.cut ?_ ?_ hviable) <;> rw [hlook] <;>
    unfold upcoming at hupcoming <;> split at hupcoming <;> simp_all [(look_sameEnd _).ending]

/-- A token is blamed that nothing goes on with. -/
theorem stuck {category : ErrorCategory} {message : String}
    (hinside : Inside (Reads.scanner state)) (hviable : Viable whole [])
    (hcategory : category = .unexpectedToken ∨ category = .general)
    (hupcoming : (Reads.scanner state).upcoming = .ok token)
    (hdead : ∀ rest, ¬ whole (token :: rest))
    (hrun : operation state = .error (.parse (.ofToken category token message)) later)
    (hlook : Reads.scanner later = (Reads.scanner state).look) :
    Follows operation state whole after := by
  obtain ⟨others, hahead⟩ := hinside.ahead_eq hupcoming
  rw [← look_ahead, ← hlook] at hahead
  refine .error hrun (.look hinside hlook) (.stuck hcategory hahead hviable ?_)
  intro _ hnext hwhole
  obtain ⟨rest, rfl⟩ := hnext.starts hahead
  exact hdead rest hwhole

/-- Breaking a rule on names is a failure in any case. -/
theorem semantic {error : ParseError} (hinside : Inside (Reads.scanner state))
    (hcategory : error.category = .semantic) (hrun : operation state = .error (.parse error) later)
    (hlook : Reads.scanner later = (Reads.scanner state).look) :
    Follows operation state whole after :=
  .error hrun (.look hinside hlook) (.semantic hcategory)

end Follows

end Parlance.Pl0.CorrectPrefix
