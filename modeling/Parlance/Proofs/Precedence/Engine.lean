import Parlance.Precedence.Parser
import Parlance.Proofs.Scanner.Ahead

/-!
# One round of the parser by precedence

What it means that a part of the parser succeeds, for any grammar: parsing is parsing under a rule
that refuses to go on without having used up a token, an operand is a primary one or has a symbol in
front of it, and a round of the loop either declines or applies the operator that comes next.
-/

namespace Parlance.Precedence.Grammar

open Supply (left)

variable {γ κ ρ : Type} [DecidableEq κ] {grammar : Grammar γ κ ρ}

/-- The parser as the actions see it while an expression is parsed from this scanner on. -/
def within (grammar : Grammar γ κ ρ) (start : Scanner κ) : Reparse γ κ ρ := fun context limit =>
  Rule.below (left start) (grammar.parse context limit)

/-- Where fewer tokens lie ahead, the parser for the expressions inside is the parser. -/
theorem within_of_lt {start later : Scanner κ} (h : later.ahead.length < start.ahead.length)
    (context : γ) (limit : Limit) :
    grammar.within start context limit later = grammar.parse context limit later :=
  Rule.below_of_lt (by simpa using h) _

/-- Parsing an expression is parsing it with the parser for the expressions inside. -/
theorem parse_eq (grammar : Grammar γ κ ρ) (context : γ) (limit : Limit) (scanner : Scanner κ) :
    grammar.parse context limit scanner =
      grammar.expression (grammar.within scanner) context limit scanner :=
  Rule.recursive_eq _ _ _

variable {reparse : Reparse γ κ ρ} {context : γ} {limit : Limit} {scanner final : Scanner κ}
  {value : ρ}

/-- An operand is a primary one unless a symbol that stands before an operand comes next; such a
symbol is consumed, and the operand after it is parsed with the symbol's precedence as the limit. -/
theorem operand_ok_iff :
    grammar.operand reparse context scanner = .ok value final ↔
      ∃ token, scanner.upcoming = .ok token ∧
        match grammar.before.lookup token.text with
        | none => grammar.primary reparse context scanner.look = .ok value final
        | some row => ∃ taken inner middle, scanner.Takes token taken ∧
            reparse context (.upTo row.head.precedence) taken = .ok inner middle ∧
            row.action reparse context token.text inner middle = .ok value final := by
  unfold operand
  rw [Rule.bind_ok_iff]
  refine exists_congr fun token => ?_
  simp only [Scanner.current_ok_iff]
  cases hrow : grammar.before.lookup token.text with
  | none =>
      constructor
      · rintro ⟨_, ⟨hupcoming, rfl⟩, hprimary⟩
        exact ⟨hupcoming, hprimary⟩
      · rintro ⟨hupcoming, hprimary⟩
        exact ⟨_, ⟨hupcoming, rfl⟩, hprimary⟩
  | some row =>
      constructor
      · rintro ⟨_, ⟨hupcoming, rfl⟩, h⟩
        obtain ⟨symbol, taken, hconsume, h⟩ := Rule.bind_ok_iff.1 h
        obtain ⟨inner, middle, hinner, haction⟩ := Rule.bind_ok_iff.1 h
        obtain ⟨first, htakes, rfl⟩ := Scanner.consume_ok_iff.1 hconsume
        rw [Scanner.look_takes_iff] at htakes
        cases hupcoming.symm.trans htakes.upcoming_eq
        exact ⟨hupcoming, taken, inner, middle, htakes, hinner, haction⟩
      · rintro ⟨hupcoming, taken, inner, middle, htakes, hinner, haction⟩
        refine ⟨_, ⟨hupcoming, rfl⟩, ?_⟩
        exact Rule.bind_ok_iff.2 ⟨token.text, taken,
          Scanner.consume_ok_iff.2 ⟨token, Scanner.look_takes_iff.2 htakes, rfl⟩,
          Rule.bind_ok_iff.2 ⟨inner, middle, hinner, haction⟩⟩

/-- A round declines, having looked at the next token, if that is no operator which the limit
admits. -/
theorem extend_none_iff :
    grammar.extend reparse context limit value scanner = .ok none final ↔
      final = scanner.look ∧ ∃ token, scanner.upcoming = .ok token ∧
        ∀ row, grammar.tail.lookup token.text = some row →
          limit.admits row.head.precedence = false := by
  unfold extend
  rw [Rule.bind_ok_iff]
  constructor
  · rintro ⟨token, _, hcurrent, h⟩
    obtain ⟨hupcoming, rfl⟩ := Scanner.current_ok_iff.1 hcurrent
    cases hrow : grammar.tail.lookup token.text with
    | none =>
        simp only [hrow] at h
        cases h
        exact ⟨rfl, token, hupcoming, fun row hfound => by rw [hrow] at hfound; cases hfound⟩
    | some row =>
        simp only [hrow] at h
        by_cases hadmits : limit.admits row.head.precedence
        · rw [if_pos hadmits] at h
          obtain ⟨symbol, taken, -, h⟩ := Rule.bind_ok_iff.1 h
          cases haction : row.action with
          | after combine =>
              simp only [haction] at h
              obtain ⟨_, _, -, hnone⟩ := Rule.bind_ok_iff.1 h
              cases hnone
          | between right combine =>
              simp only [haction] at h
              obtain ⟨_, _, -, h⟩ := Rule.bind_ok_iff.1 h
              obtain ⟨_, _, -, hnone⟩ := Rule.bind_ok_iff.1 h
              cases hnone
        · rw [if_neg hadmits] at h
          cases h
          refine ⟨rfl, token, hupcoming, fun other hfound => ?_⟩
          cases hrow.symm.trans hfound
          simpa using hadmits
  · rintro ⟨rfl, token, hupcoming, hdeclines⟩
    refine ⟨token, _, Scanner.current_ok_iff.2 ⟨hupcoming, rfl⟩, ?_⟩
    cases hrow : grammar.tail.lookup token.text with
    | none => rfl
    | some row =>
        simp only [hdeclines row hrow]
        rfl

/-- The limit of the operand on the right of an operator between operands. -/
def rightLimit (rightAssociative : Bool) (precedence : Int) : Limit :=
  if rightAssociative then .upTo precedence else .below precedence

/-- A round applies the operator that comes next if the limit admits it: its symbol is consumed, and
then its second operand if it takes one. -/
theorem extend_some_iff {result : ρ} :
    grammar.extend reparse context limit value scanner = .ok (some result) final ↔
      ∃ token row taken, scanner.Takes token taken ∧
        grammar.tail.lookup token.text = some row ∧ limit.admits row.head.precedence = true ∧
        match row.action with
        | .after combine => combine reparse context token.text value taken = .ok result final
        | .between right combine => ∃ second middle,
            reparse context (rightLimit right row.head.precedence) taken = .ok second middle ∧
            combine reparse context token.text value second middle = .ok result final := by
  unfold extend
  rw [Rule.bind_ok_iff]
  constructor
  · rintro ⟨token, _, hcurrent, h⟩
    obtain ⟨hupcoming, rfl⟩ := Scanner.current_ok_iff.1 hcurrent
    cases hrow : grammar.tail.lookup token.text with
    | none =>
        simp only [hrow] at h
        cases h
    | some row =>
        simp only [hrow] at h
        by_cases hadmits : limit.admits row.head.precedence
        · rw [if_pos hadmits] at h
          obtain ⟨symbol, taken, hconsume, h⟩ := Rule.bind_ok_iff.1 h
          obtain ⟨first, htakes, rfl⟩ := Scanner.consume_ok_iff.1 hconsume
          rw [Scanner.look_takes_iff] at htakes
          cases hupcoming.symm.trans htakes.upcoming_eq
          refine ⟨token, row, taken, htakes, hrow, hadmits, ?_⟩
          cases haction : row.action with
          | after combine =>
              simp only [haction] at h
              obtain ⟨_, hcombine, hresult⟩ := Rule.map_ok_iff.1 h
              cases hresult
              exact hcombine
          | between right combine =>
              simp only [haction] at h
              obtain ⟨second, middle, hsecond, h⟩ := Rule.bind_ok_iff.1 h
              obtain ⟨_, hcombine, hresult⟩ := Rule.map_ok_iff.1 h
              cases hresult
              exact ⟨second, middle, hsecond, hcombine⟩
        · rw [if_neg hadmits] at h
          cases h
  · rintro ⟨token, row, taken, htakes, hrow, hadmits, h⟩
    refine ⟨token, _, Scanner.current_ok_iff.2 ⟨htakes.upcoming_eq, rfl⟩, ?_⟩
    simp only [hrow, hadmits]
    refine Rule.bind_ok_iff.2 ⟨token.text, taken,
      Scanner.consume_ok_iff.2 ⟨token, Scanner.look_takes_iff.2 htakes, rfl⟩, ?_⟩
    cases haction : row.action with
    | after combine =>
        simp only [haction] at h
        exact Rule.map_ok_iff.2 ⟨result, h, rfl⟩
    | between right combine =>
        simp only [haction] at h
        obtain ⟨second, middle, hsecond, hcombine⟩ := h
        exact Rule.bind_ok_iff.2 ⟨second, middle, hsecond,
          Rule.map_ok_iff.2 ⟨result, hcombine, rfl⟩⟩

end Parlance.Precedence.Grammar
