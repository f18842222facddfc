import Parlance.Regex.Match

/-!
# Expressions that spell words

An expression that spells a word letter by letter takes just that word, and a choice between such
expressions takes the first of the words that stands there. A repetition of characters of a set that
wants at least one takes as many of them as there are.
-/

namespace Parlance.Regex

/-- The set of one character, in one case. -/
def Charset.letter (c : Char) : Charset := ⟨[.letter c.toNat], false, .exact⟩

/-- The expression that spells a word. -/
def spelled (word : List Char) : Regex := ofList (word.map fun c => one (.letter c))

/-- The first of these expressions that leads on. -/
def anyOf : List Regex → Regex
  | [] => empty
  | [single] => single
  | first :: rest => alt first (anyOf rest)

/-! ## Places -/

namespace Cursor

variable {cursor : Cursor}

/-- The offset of a place is the number of characters before it. -/
def Placed (cursor : Cursor) : Prop := cursor.offset = cursor.before.length

/-- The place behind the next character has its offset. -/
theorem Placed.next (h : cursor.Placed) : cursor.next.Placed := by
  unfold Cursor.next
  split
  · exact h
  · exact congrArg (· + 1) h

/-- The places further on have their offsets. -/
theorem Placed.forward (h : cursor.Placed) (count : Nat) : (cursor.forward count).Placed := by
  induction count generalizing cursor with
  | zero => exact h
  | succ count ih => exact ih h.next

/-- At a place that has its offset, so many characters follow as are left. -/
theorem Placed.hasAfter_iff (h : cursor.Placed) (count : Nat) :
    cursor.hasAfter count = true ↔ count ≤ cursor.after.length := by
  rw [hasAfter, decide_eq_true_iff, h, cursor.size_eq]
  omega

end Cursor

/-! ## Words -/

variable {set : Charset} {word : List Char} {words : List (List Char)} {around : Surroundings}
  {next : Step} {cursor : Cursor} {memory : Memory}

/-- The only character in the set of a character is this one. -/
theorem Charset.letter_holds_iff {c d : Char} : (Charset.letter c).holds d = true ↔ d = c := by
  simp [letter, holds, lists, Folding.variants, ← Char.toNat_inj, eq_comm]

/-- The expression of one character leads on behind it, and nowhere else. -/
theorem attempt_letter (c : Char) :
    (one (Charset.letter c)).attempt around next cursor memory =
      if [c].isPrefixOf cursor.after then next cursor.next memory else memory.failure := by
  cases hafter : cursor.after with
  | nil => simp [attempt, hafter]
  | cons d rest =>
      have hsame : (Charset.letter c).holds d = [c].isPrefixOf (d :: rest) := by
        rw [Bool.eq_iff_iff, Charset.letter_holds_iff]
        simp only [List.isPrefixOf_cons_cons, List.isPrefixOf_nil_left, Bool.and_true, beq_iff_eq]
        exact ⟨Eq.symm, Eq.symm⟩
      simp only [attempt, hafter, hsame]

/-- The expression that spells a word leads on behind the word, and nowhere else. -/
theorem attempt_spelled :
    (spelled word).attempt around next cursor memory =
      if word.isPrefixOf cursor.after then next (cursor.forward word.length) memory
      else memory.failure := by
  induction word generalizing around next cursor with
  | nil => simp [spelled, ofList, attempt, Cursor.forward]
  | cons c others ih =>
      cases others with
      | nil => exact attempt_letter c
      | cons d others =>
          show (cat (one (Charset.letter c)) (spelled (d :: others))).attempt around next cursor
            memory = _
          rw [attempt, attempt_letter, ih]
          cases hafter : cursor.after with
          | nil => rfl
          | cons e rest =>
              by_cases he : c = e
              · subst he
                simp [hafter, Cursor.forward]
              · simp [he]

/-- What an attempt comes to that looks for one of these words: it ends behind the first of them that
stands there. -/
def Finds (words : List (List Char)) (cursor : Cursor) (memory : Memory) (outcome : Outcome) :
    Prop :=
  match words.find? (·.isPrefixOf cursor.after) with
  | some word => outcome = ⟨true, memory.resume (cursor.forward word.length)⟩
  | none => outcome.matched = false ∧ outcome.memory.marks = memory.marks

/-- The attempt of a single word. -/
theorem spelled_finds :
    Finds [word] cursor memory ((spelled word).attempt around .finish cursor memory) := by
  rw [Finds, attempt_spelled, List.find?_singleton]
  cases word.isPrefixOf cursor.after with
  | true => rfl
  | false => exact ⟨rfl, rfl⟩

/-- Nowhere else than where a word can start does it stand. -/
theorem not_isPrefixOf_of_canStart (h : (spelled word).canStart cursor = false) :
    word.isPrefixOf cursor.after = false := by
  cases word with
  | nil => cases h
  | cons c others =>
      have hfirst : (spelled (c :: others)).firstSet? = some (Charset.letter c) := by
        cases others <;> rfl
      rw [canStart, hfirst] at h
      cases hafter : cursor.after with
      | nil => rfl
      | cons d rest =>
          have hne : ¬ (Charset.letter c).holds d = true := by simpa [hafter] using h
          rw [Charset.letter_holds_iff] at hne
          rw [List.isPrefixOf_cons_cons, beq_eq_false_iff_ne.2 (Ne.symm hne), Bool.false_and]

/-- The attempt of a word that is one of several. -/
theorem enterAlternative_finds {repeated : Bool} :
    Finds [word] cursor memory
      (enterAlternative (spelled word) repeated ((spelled word).attempt around .finish) cursor
        memory) := by
  unfold enterAlternative
  split
  · rw [Step.tryFrom, attempt_spelled, Finds, List.find?_singleton]
    cases word.isPrefixOf cursor.after with
    | true => rfl
    | false =>
        refine ⟨rfl, ?_⟩
        show (if repeated then memory.marks else memory.marks.take memory.marks.length) = _
        rw [List.take_length, ite_self]
  · rename_i hstart
    rw [Finds, List.find?_singleton, not_isPrefixOf_of_canStart (by simpa using hstart)]
    exact ⟨rfl, rfl⟩

/-- The attempt of a word, and of something else where that is not found. -/
theorem alt_finds {second : Regex}
    (hsecond : ∀ memory, Finds words cursor memory
      (if second.isAlt then second.attempt around.closed .finish cursor memory
        else enterAlternative second around.repeated (second.attempt around.closed .finish) cursor
          memory)) :
    Finds (word :: words) cursor memory
      ((alt (spelled word) second).attempt around .finish cursor memory) := by
  have hfirst : Finds [word] cursor memory (enterAlternative (spelled word) around.repeated
      ((spelled word).attempt around.closed .finish) cursor memory) := enterAlternative_finds
  rw [Finds, List.find?_singleton] at hfirst
  rw [Finds, List.find?_cons, attempt]
  cases hstands : word.isPrefixOf cursor.after with
  | true =>
      simp only [hstands, if_true] at hfirst
      simp only [hfirst, if_true]
  | false =>
      simp only [hstands, Bool.false_eq_true, if_false] at hfirst
      have hrest := hsecond (enterAlternative (spelled word) around.repeated
        ((spelled word).attempt around.closed .finish) cursor memory).memory
      simp only [Finds, Memory.resume, hfirst.2] at hrest
      simp only [hfirst.1, Bool.false_eq_true, if_false]
      exact hrest

/-- A choice between words finds the first of them that stands there. -/
theorem anyOf_finds (hwords : words ≠ []) :
    Finds words cursor memory ((anyOf (words.map spelled)).attempt around .finish cursor memory) := by
  induction words generalizing around memory with
  | nil => exact (hwords rfl).elim
  | cons first others ih =>
      cases others with
      | nil => exact spelled_finds
      | cons second others =>
          refine alt_finds fun memory => ?_
          split
          · exact ih (List.cons_ne_nil _ _)
          · rename_i halt
            -- Only where a single word is left, what is left is no alternative.
            cases others with
            | nil => exact enterAlternative_finds
            | cons third others => exact (halt rfl).elim

/-- A choice between words matches the first of them that stands there. -/
theorem match?_anyOf (hwords : words ≠ []) (cursor : Cursor) :
    (anyOf (words.map spelled)).match? cursor =
      (words.find? (·.isPrefixOf cursor.after)).map fun word =>
        ⟨cursor.forward word.length, []⟩ := by
  have hfinds : Finds words cursor ⟨[], cursor⟩
      ((anyOf (words.map spelled)).attempt {} .finish cursor ⟨[], cursor⟩) := anyOf_finds hwords
  rw [Finds] at hfinds
  rw [match?]
  split at hfinds
  · rename_i word hword
    rw [hfinds, hword]
    rfl
  · rename_i hnone
    simp only [hfinds.1, hnone]
    rfl

/-- A choice between words has a match where one of them stands. -/
theorem match?_anyOf_isSome {rest : List Char} (hword : word ∈ words)
    (hafter : cursor.after = word ++ rest) :
    ((anyOf (words.map spelled)).match? cursor).isSome = true := by
  rw [match?_anyOf (List.ne_nil_of_mem hword), Option.isSome_map, List.find?_isSome]
  exact ⟨word, hword, List.isPrefixOf_iff_prefix.2 ⟨rest, hafter.symm⟩⟩

/-! ## Runs -/

/-- The longest run of accepted characters is taken if nothing has to follow it. -/
theorem longestFirst_finish {accepts : Char → Bool} {chars : List Char} {least : Nat}
    (hafter : cursor.after = chars) (h : least ≤ (chars.takeWhile accepts).length) :
    longestFirst accepts (Step.tryFrom .finish false) chars least none cursor memory =
      ⟨true, memory.resume (cursor.forward (chars.takeWhile accepts).length)⟩ := by
  induction chars generalizing cursor least with
  | nil =>
      obtain rfl : least = 0 := by simpa using h
      rfl
  | cons c rest ih =>
      cases hc : accepts c with
      | true =>
          rw [List.takeWhile_cons, hc, if_pos rfl, List.length_cons] at h ⊢
          have hrest := @ih cursor.next (least - 1) (by simp [hafter]) (by omega)
          simp only [longestFirst, hc, Option.map_none, hrest]
          simp [Cursor.forward]
      | false =>
          rw [List.takeWhile_cons, hc] at h ⊢
          obtain rfl : least = 0 := by simpa using h
          simp only [longestFirst, hc]
          rfl

/-- A repetition of characters that wants one matches as many of them as there are. -/
theorem match?_rounds (hplaced : cursor.Placed) :
    (rep .more 1 none (one set)).match? cursor =
      if (cursor.after.takeWhile set.holds).length = 0 then none
      else some ⟨cursor.forward (cursor.after.takeWhile set.holds).length, []⟩ := by
  have hattempt : (rep .more 1 none (one set)).attempt {} .finish cursor ⟨[], cursor⟩ =
      if !cursor.hasAfter 1 then Memory.failure ⟨[], cursor⟩
      else longestFirst set.holds (Step.tryFrom .finish false) cursor.after 1 none cursor
        ⟨[], cursor⟩ := rfl
  have hroom := hplaced.hasAfter_iff 1
  rw [match?, hattempt]
  cases hafter : cursor.after with
  | nil =>
      rw [hafter] at hroom
      rw [Bool.eq_false_iff.2 (mt hroom.1 (by simp))]
      rfl
  | cons c rest =>
      rw [hafter] at hroom
      rw [hroom.2 (by simp)]
      cases hc : set.holds c with
      | true =>
          have hrun : 1 ≤ ((c :: rest).takeWhile set.holds).length := by
            simp [hc]
          simp only [Bool.not_true, Bool.false_eq_true, if_false, longestFirst_finish hafter hrun]
          rw [if_neg (Nat.ne_of_gt hrun)]
          rfl
      | false => simp [longestFirst, hc, Memory.failure]

/-- A repetition of characters that wants one has a match only where one of them stands. -/
theorem match?_rounds_head {set : Charset} {cursor : Cursor} {found : Match}
    (h : (rep .more 1 none (one set)).match? cursor = some found) :
    ∃ c rest, cursor.after = c :: rest ∧ set.holds c = true := by
  have hroom : cursor.hasAfter 1 = true := by
    by_cases hroom : cursor.hasAfter 1 = true
    · exact hroom
    · simp [match?, attempt, character?, characterRounds, hroom, Memory.failure] at h
  cases hafter : cursor.after with
  | nil =>
      simp [match?, attempt, character?, characterRounds, longestFirst, hafter, hroom,
        Memory.failure] at h
  | cons c rest =>
      by_cases hholds : set.holds c = true
      · exact ⟨c, rest, rfl, hholds⟩
      · simp [match?, attempt, character?, characterRounds, longestFirst, hafter, hroom, hholds,
          Memory.failure] at h

end Parlance.Regex
