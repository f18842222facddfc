import Parlance.Proofs.Pl0.Grammar
import Parlance.Proofs.Pl0.Lexemes
import Parlance.Proofs.Scanner.Ahead

/-!
# Reading tokens of PL/0

What is common to the parsers of all parts of a program. An operation gives a tree if the tree is
derived from the tokens that the operation consumes; it yields a tree if it succeeds with it and
leaves given tokens ahead. A chain of operations yields what its last one does.
-/

namespace Parlance.Pl0

open Scanner

variable {start final : Scanner Kind}

/-! ## What an operation gives -/

/-- A tree is derived from the tokens between two scanners, and its names are declared. -/
structure Gives {α : Type} (derives : Tokens → α → Tokens → Prop) (resolves : α → Prop)
    (start : Scanner Kind) (value : α) (final : Scanner Kind) : Prop where
  derives : derives start.ahead value final.ahead
  resolves : resolves value
  passes : start.Passes final

/-- A look before an operation makes no difference to what it gives. -/
theorem Gives.of_look {α : Type} {derives : Tokens → α → Tokens → Prop} {resolves : α → Prop}
    {value : α} (h : Gives derives resolves start.look value final) :
    Gives derives resolves start value final :=
  ⟨look_ahead start ▸ h.derives, h.resolves, (Passes.look start).trans h.passes⟩

/-! ## Scanners inside a text -/

/-- A scanner inside a text of PL/0. -/
structure Ready (scanner : Scanner Kind) : Prop where
  endKind : scanner.endKind = .stop
  endText : scanner.endText = ""
  proper : ∀ token ∈ scanner.ahead, Proper token

/-- Going on stays inside the text. -/
theorem Ready.passes (h : Ready start) (hpasses : start.Passes final) : Ready final where
  endKind := hpasses.sameEnd.endKind.trans h.endKind
  endText := hpasses.sameEnd.endText.trans h.endText
  proper := fun token htoken => h.proper token (hpasses.suffix.subset htoken)

/-- A token that the grammar quotes can be taken. -/
theorem Ready.takes_terminal (h : Ready start) {token : Token Kind} {rest : Tokens}
    (hahead : start.ahead = token :: rest) (htext : token.text ∈ terminals) :
    start.Takes token start.advance := by
  refine takes_advance hahead fun hends => ?_
  rw [hends.2, h.endText] at htext
  exact absurd htext (by decide)

/-- A token of another kind than that for the end can be taken. -/
theorem Ready.takes_kind (h : Ready start) {token : Token Kind} {rest : Tokens}
    (hahead : start.ahead = token :: rest) (hkind : token.kind ≠ .stop) :
    start.Takes token start.advance :=
  takes_advance hahead fun hends => hkind (hends.1.trans h.endKind)

/-- A token that the grammar quotes is neither a name nor a number. -/
theorem Ready.kind_of_terminal (h : Ready start) {token : Token Kind} {rest : Tokens}
    (hahead : start.ahead = token :: rest) (htext : token.text ∈ terminals) :
    token.kind ≠ .identifier ∧ token.kind ≠ .number := by
  have hproper := h.proper token (by simp [hahead])
  exact ⟨fun hkind => hproper (.inl hkind) htext, fun hkind => hproper (.inr hkind) htext⟩

/-- The operators are quoted. -/
theorem operators_terminal : ∀ text ∈ ["*", "/"] ++ ["+", "-"], text ∈ terminals := by decide

/-- A name or a number is no sign. -/
theorem Ready.not_sign (h : Ready start) {token : Token Kind} {rest : Tokens}
    (hahead : start.ahead = token :: rest)
    (hkind : token.kind = .identifier ∨ token.kind = .number) : token.text ∉ ["+", "-"] :=
  fun hmem => h.proper token (by simp [hahead]) hkind
    (operators_terminal _ (List.mem_append_right _ hmem))

/-! ## What an operation yields -/

/-- The operation succeeds with the value, and these tokens are left. -/
def Yields {α : Type} (operation : Scan Kind α) (start : Scanner Kind) (value : α)
    (rest : Tokens) : Prop :=
  ∃ final, operation start = .ok value final ∧ final.ahead = rest ∧ start.Passes final

namespace Yields

variable {α β : Type} {first : Scan Kind α} {next : α → Scan Kind β} {value other : α} {result : β}
  {middle rest rest' : Tokens}

/-- A chain yields what its second step does from where the first one leads. -/
theorem bind (hready : Ready start) (hfirst : Yields first start value middle)
    (hnext : ∀ later : Scanner Kind, Ready later → later.ahead = middle →
      Yields (next value) later result rest) : Yields (first >>= next) start result rest := by
  obtain ⟨later, hvalue, hahead, hpasses⟩ := hfirst
  obtain ⟨last, hresult, hrest, hpasses'⟩ := hnext later (hready.passes hpasses) hahead
  exact ⟨last, by rw [Rule.bind_of_ok hvalue, hresult], hrest, hpasses.trans hpasses'⟩

/-- A value is yielded where it is, without a step. -/
theorem pure (hahead : start.ahead = rest) : Yields (Pure.pure value) start value rest :=
  ⟨start, rfl, hahead, .refl start⟩

/-- What is done with a value does not change what is left. -/
theorem map {make : α → β} (h : Yields first start value rest) (hmake : make value = result) :
    Yields (first >>= fun value => Pure.pure (make value)) start result rest := by
  obtain ⟨last, hvalue, hahead, hpasses⟩ := h
  exact ⟨last, by rw [Rule.bind_of_ok hvalue, hmake]; rfl, hahead, hpasses⟩

/-- An operation yields one thing. -/
theorem unique (h : Yields first start value rest) (h' : Yields first start other rest') :
    value = other ∧ rest = rest' := by
  obtain ⟨_, hvalue, rfl, -⟩ := h
  obtain ⟨_, hother, rfl, -⟩ := h'
  cases hvalue.symm.trans hother
  exact ⟨rfl, rfl⟩

/-- What an operation leaves is the end of what it started with. -/
theorem suffix (h : Yields first start value rest) : rest <:+ start.ahead := by
  obtain ⟨_, _, rfl, hpasses⟩ := h
  exact hpasses.suffix

end Yields

variable {token : Token Kind} {rest : Tokens}

/-- A look yields the next token. -/
theorem current_yields (hahead : start.ahead = token :: rest) :
    Yields current start token (token :: rest) :=
  ⟨start.look, current_ok_iff.2 ⟨upcoming_of_ahead hahead, rfl⟩, by rw [look_ahead, hahead],
    .look start⟩

/-- Consuming yields the text of the token that is taken. -/
theorem consume_yields (hahead : start.ahead = token :: rest)
    (htakes : start.Takes token start.advance) : Yields consume start token.text rest :=
  ⟨_, consume_ok_iff.2 ⟨token, htakes, rfl⟩, by simp [hahead], htakes.passes⟩

/-- A token of a wanted kind is consumed. -/
theorem consumeKind_yields {kind : Kind} {message : String} (hready : Ready start)
    (hahead : start.ahead = token :: rest) (hkind : token.kind = kind) (hstop : kind ≠ .stop) :
    Yields (consumeKind kind message) start token.text rest := by
  have htakes := hready.takes_kind hahead (by rw [hkind]; exact hstop)
  exact ⟨_, consumeKind_ok_iff.2 ⟨token, htakes, hkind, rfl⟩, by simp [hahead], htakes.passes⟩

/-- A text that comes next is found and consumed. -/
theorem tryConsume_yields_true {text : String} (hready : Ready start)
    (hahead : start.ahead = token :: rest) (htext : token.text = text) (hmem : text ∈ terminals) :
    Yields (tryConsume text) start true rest := by
  have htakes := hready.takes_terminal hahead (by rw [htext]; exact hmem)
  exact ⟨_, tryConsume_true_iff.2 ⟨token, htakes, htext⟩, by simp [hahead], htakes.passes⟩

/-- A text that does not come next is not found. -/
theorem tryConsume_yields_false {text : String} (hahead : start.ahead = token :: rest)
    (htext : token.text ≠ text) : Yields (tryConsume text) start false (token :: rest) :=
  ⟨_, tryConsume_false_iff.2 ⟨token, upcoming_of_ahead hahead, htext, rfl⟩,
    by rw [look_ahead, hahead], .look start⟩

/-- A wanted text that comes next is consumed. -/
theorem consumeText_yields {text message : String} (hready : Ready start)
    (hahead : start.ahead = token :: rest) (htext : token.text = text) (hmem : text ∈ terminals) :
    Yields (consumeText text message) start text rest := by
  have htakes := hready.takes_terminal hahead (by rw [htext]; exact hmem)
  exact ⟨_, consumeText_ok_iff.2 ⟨rfl, token, htakes, htext⟩, by simp [hahead], htakes.passes⟩

/-! ## Choices by the next token -/

section

variable {β : Type} {text : String} {yes no : Scan Kind β} {result : β} {left : Tokens}

/-- A choice by a text goes one way or the other. -/
theorem choice_ok (h : (tryConsume text >>= fun found => if found = true then yes else no) start =
    .ok result final) :
    (∃ token taken, start.Takes token taken ∧ token.text = text ∧ yes taken = .ok result final) ∨
      no start.look = .ok result final := by
  obtain ⟨found, middle, htry, h⟩ := Rule.bind_ok_iff.1 h
  cases found with
  | true =>
      obtain ⟨token, htakes, htext⟩ := tryConsume_true_iff.1 htry
      exact .inl ⟨token, middle, htakes, htext, h⟩
  | false =>
      obtain ⟨token, -, -, rfl⟩ := tryConsume_false_iff.1 htry
      exact .inr h

/-- A choice goes the first way where the text comes next. -/
theorem choice_yields_yes (hready : Ready start) (hahead : start.ahead = token :: rest)
    (htext : token.text = text) (hmem : text ∈ terminals)
    (h : ∀ later : Scanner Kind, Ready later → later.ahead = rest → Yields yes later result left) :
    Yields (tryConsume text >>= fun found => if found = true then yes else no) start result left :=
  (tryConsume_yields_true hready hahead htext hmem).bind hready h

/-- A choice goes the second way where another text comes next. -/
theorem choice_yields_no (hready : Ready start) (hahead : start.ahead = token :: rest)
    (htext : token.text ≠ text)
    (h : ∀ later : Scanner Kind, Ready later → later.ahead = token :: rest →
      Yields no later result left) :
    Yields (tryConsume text >>= fun found => if found = true then yes else no) start result left :=
  (tryConsume_yields_false hahead htext).bind hready h

end

/-! ## Recursion -/

section

variable {α : Type} {value : α} {left : Tokens}

/-- A rule yields what its body does, with the rule itself for calls on fewer tokens. -/
theorem Yields.recursive {ι : Type} {body : (ι → Scan Kind α) → ι → Scan Kind α} {input : ι}
    (h : Yields
      (body (fun inner => Rule.below (Supply.left start) (Rule.recursive body inner)) input)
      start value left) : Yields (Rule.recursive body input) start value left := by
  obtain ⟨last, hvalue, hahead, hpasses⟩ := h
  exact ⟨last, (Rule.recursive_eq body input start).trans hvalue, hahead, hpasses⟩

/-- Under a bound that is kept an operation yields what it does without. -/
theorem Yields.below {operation : Scan Kind α} {limit : Nat}
    (h : Yields operation start value left) (hlimit : start.ahead.length < limit) :
    Yields (Rule.below limit operation) start value left := by
  obtain ⟨last, hvalue, hahead, hpasses⟩ := h
  exact ⟨last, by rw [Rule.below_of_lt (by simpa using hlimit), hvalue], hahead, hpasses⟩

end

end Parlance.Pl0
