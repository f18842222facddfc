import Parlance.Proofs.Lexer.Patterns
import Parlance.Proofs.Sequence

/-!
# Quoted texts

The patterns of quoted texts are loops within loops, and a matcher that goes back has many ways
through such loops. Here there is one way at most, and it is found in one pass over the text: each
character up to the closing mark is passed by itself, or together with the backslash before it.
-/

namespace Parlance.Lexer.Patterns

open Regex (Charset Cursor optionalWays runWays)

/-! ## One pass over a text -/

/-- The number of characters up to and with the first mark that no backslash protects. The pass
gets stuck where the text ends, and at a backslash that has no character after it on its line. -/
def closing? (mark : Char) : List Char → Option Nat
  | [] => none
  | c :: rest =>
    if c = mark then some 1
    else if c = '\\' then
      match rest with
      | [] => none
      | d :: rest => if d = '\n' then none else (closing? mark rest).map (2 + ·)
    else (closing? mark rest).map (1 + ·)

/-- The number of characters of the quoted text that stands here. -/
def quoted? (mark : Char) : List Char → Option Nat
  | [] => none
  | c :: rest => if c = mark then (closing? mark rest).map (1 + ·) else none

/-- What the pass goes through: characters other than the mark and the backslash, and backslashes
with the character after them, which does not end the line. -/
inductive Passable (mark : Char) : List Char → Prop where
  | nil : Passable mark []
  | plain {c rest} : c ≠ mark → c ≠ '\\' → Passable mark rest → Passable mark (c :: rest)
  | escaped {c rest} : c ≠ '\n' → Passable mark rest → Passable mark ('\\' :: c :: rest)

/-- Where the pass gets stuck: at the end of the text, and at a backslash that stands before it or
before the end of a line. -/
inductive Stuck : List Char → Prop where
  | stop : Stuck []
  | cutOff : Stuck ['\\']
  | lineEnd {rest} : Stuck ('\\' :: '\n' :: rest)

variable {mark c : Char} {chars rest : List Char}

/-- The pass ends behind the mark. -/
theorem closing?_mark : closing? mark (mark :: rest) = some 1 := by
  rw [closing?.eq_def]
  simp

/-- A character that is no mark and no backslash is passed by itself. -/
theorem closing?_plain (hne : c ≠ mark) (hplain : c ≠ '\\') :
    closing? mark (c :: rest) = (closing? mark rest).map (1 + ·) := by
  rw [closing?.eq_def]
  simp [hne, hplain]

/-- A backslash is passed with the character after it. -/
theorem closing?_escaped (hmark : mark ≠ '\\') (hline : c ≠ '\n') :
    closing? mark ('\\' :: c :: rest) = (closing? mark rest).map (2 + ·) := by
  rw [closing?.eq_def]
  simp [hmark.symm, hline]

/-- The pass ends at no mark if it gets stuck at once. -/
theorem Stuck.closing?_eq (hmark : mark ≠ '\\') (h : Stuck chars) : closing? mark chars = none := by
  cases h <;> rw [closing?.eq_def] <;> simp [hmark.symm]

/-- The pass does not end at a mark if it gets stuck. -/
theorem closing?_eq_none_iff (hmark : mark ≠ '\\') :
    closing? mark chars = none ↔
      ∃ passed stuck, chars = passed ++ stuck ∧ Passable mark passed ∧ Stuck stuck := by
  constructor
  · intro h
    fun_induction closing? mark chars with
    | case1 => exact ⟨[], [], rfl, .nil, .stop⟩
    | case2 => cases h
    | case3 => exact ⟨[], _, rfl, .nil, .cutOff⟩
    | case4 => exact ⟨[], _, rfl, .nil, .lineEnd⟩
    | case5 d rest hline _ ih =>
        obtain ⟨passed, stuck, rfl, hpassed, hstuck⟩ := ih (Option.map_eq_none_iff.1 h)
        exact ⟨_, stuck, rfl, .escaped hline hpassed, hstuck⟩
    | case6 c rest hne hplain ih =>
        obtain ⟨passed, stuck, rfl, hpassed, hstuck⟩ := ih (Option.map_eq_none_iff.1 h)
        exact ⟨_, stuck, rfl, .plain hne hplain hpassed, hstuck⟩
  · rintro ⟨passed, stuck, rfl, hpassed, hstuck⟩
    induction hpassed with
    | nil => exact hstuck.closing?_eq hmark
    | plain hne hplain _ ih => simp [closing?_plain hne hplain, ih]
    | escaped hline _ ih => simp [closing?_escaped hmark hline, ih]

/-- The pass ends inside the text. -/
theorem closing?_le {length : Nat} (h : closing? mark chars = some length) :
    length ≤ chars.length := by
  fun_induction closing? mark chars generalizing length with
  | case1 | case3 | case4 => cases h
  | case2 =>
      cases h
      simp
  | case5 d rest hline _ ih =>
      obtain ⟨others, hothers, rfl⟩ := Option.map_eq_some_iff.1 h
      have hle := ih hothers
      simp only [List.length_cons]
      omega
  | case6 c rest hne hplain ih =>
      obtain ⟨others, hothers, rfl⟩ := Option.map_eq_some_iff.1 h
      have hle := ih hothers
      simp only [List.length_cons]
      omega

/-- Where no quoted text stands the mark is missing, or the pass gets stuck behind it. -/
theorem quoted?_eq_none_iff (hmark : mark ≠ '\\') :
    quoted? mark chars = none ↔
      chars.head? ≠ some mark ∨
        ∃ passed stuck, chars = mark :: (passed ++ stuck) ∧ Passable mark passed ∧ Stuck stuck := by
  cases chars with
  | nil => simp [quoted?]
  | cons c rest =>
      by_cases hc : c = mark
      · simp [quoted?, hc, closing?_eq_none_iff hmark]
      · simp [quoted?, hc]

/-- A quoted text ends inside the text. -/
theorem quoted?_le {length : Nat} (h : quoted? mark chars = some length) :
    length ≤ chars.length := by
  cases chars with
  | nil => cases h
  | cons c rest =>
      rw [quoted?] at h
      split at h
      · obtain ⟨others, hothers, rfl⟩ := Option.map_eq_some_iff.1 h
        have hle := closing?_le hothers
        simp only [List.length_cons]
        omega
      · cases h

/-- A content with a backslash before each mark and each backslash. -/
def escape (mark : Char) (content : List Char) : List Char :=
  content.flatMap fun c => if c = mark ∨ c = '\\' then ['\\', c] else [c]

/-- The pass goes through an escaped content up to the mark behind it. -/
theorem closing?_escape (hmark : mark ≠ '\\') (hline : mark ≠ '\n') (content rest : List Char) :
    closing? mark (escape mark content ++ mark :: rest) =
      some ((escape mark content).length + 1) := by
  induction content with
  | nil => exact closing?_mark
  | cons c others ih =>
      rw [escape, List.flatMap_cons, ← escape]
      by_cases hc : c = mark ∨ c = '\\'
      · have hnext : c ≠ '\n' := by
          rcases hc with rfl | rfl
          · exact hline
          · decide
        simp only [hc, if_true, List.cons_append, List.nil_append, closing?_escaped hmark hnext, ih,
          Option.map_some, List.length_cons]
        congr 1
        omega
      · obtain ⟨hne, hplain⟩ := not_or.1 hc
        simp only [hc, if_false, List.cons_append, List.nil_append, closing?_plain hne hplain, ih,
          Option.map_some, List.length_cons]
        congr 1
        omega

/-! ## The expressions of the patterns -/

/-- All characters but the mark and the backslash. -/
def unmarked (mark : Char) : Charset := .listing [mark, '\\'] true

/-- A backslash with the character after it, and the characters up to the next mark or backslash. -/
def escapedRun (mark : Char) : Regex :=
  .cat (.one (.listing ['\\'])) (.cat (.one (.listing ['\n'] true))
    (.rep .more 0 none (.one (unmarked mark))))

/-- The expression of a quoted text. -/
def quotedText (mark : Char) : Regex :=
  .cat (.one (.listing [mark])) (.cat (.rep .more 0 none (.one (unmarked mark)))
    (.cat (.rep .more 0 none (escapedRun mark)) (.one (.listing [mark]))))

/-- The patterns of quoted texts say just this. -/
theorem read_quoted :
    Regex.read doubleQuotedString.toList = .ok (quotedText '"') ∧
      Regex.read singleQuotedString.toList = .ok (quotedText '\'') := by
  simp only [← toOption_eq_some_iff]
  decide +kernel

/-! ## The one way through the loops -/

variable {cursor : Cursor}

/-- The set holds all characters but these two. -/
theorem unmarked_holds_iff : (unmarked mark).holds c = true ↔ c ≠ mark ∧ c ≠ '\\' := by
  simp [unmarked, Charset.listing_holds]

/-- The pass goes through unmarked characters one by one. -/
theorem closing?_run (mark : Char) (chars : List Char) :
    closing? mark chars = (closing? mark (chars.dropWhile (unmarked mark).holds)).map
      ((chars.takeWhile (unmarked mark).holds).length + ·) := by
  induction chars with
  | nil => rfl
  | cons c rest ih =>
      by_cases hc : (unmarked mark).holds c = true
      · obtain ⟨hne, hplain⟩ := unmarked_holds_iff.1 hc
        rw [closing?_plain hne hplain, ih, List.dropWhile_cons_of_pos hc,
          List.takeWhile_cons_of_pos hc, Option.map_map]
        congr 1
        funext length
        simp only [Function.comp_apply, List.length_cons]
        omega
      · simp [hc]

/-- No escape starts at another character than a backslash. -/
theorem escapedRun_ways_of_ne (h : cursor.after.head? ≠ some '\\') :
    (escapedRun mark).ways cursor = [] := by
  have hfirst : (Regex.one (.listing ['\\'])).ways cursor = [] := by
    cases hafter : cursor.after with
    | nil => simp [Regex.ways_listing, hafter]
    | cons c rest =>
        have hc : c ≠ '\\' := by simpa [hafter] using h
        simp [Regex.ways_listing, hafter, hc]
  rw [escapedRun, Regex.ways, hfirst, List.flatMap_nil]

/-- No escape starts where the pass gets stuck. -/
theorem escapedRun_ways_of_stuck (h : Stuck cursor.after) : (escapedRun mark).ways cursor = [] := by
  generalize hafter : cursor.after = chars at h
  cases h with
  | stop => exact escapedRun_ways_of_ne (by simp [hafter])
  | cutOff | lineEnd => simp [escapedRun, Regex.ways, hafter, Charset.listing_holds]

/-- An escape is a backslash, the character after it, and any run of unmarked characters. -/
theorem escapedRun_ways (hafter : cursor.after = '\\' :: c :: rest) (hline : c ≠ '\n') :
    (escapedRun mark).ways cursor =
      runWays (unmarked mark).holds rest 0 none (cursor.forward 2) := by
  simp [escapedRun, Regex.ways, Regex.character?, hafter, Charset.listing_holds, hline,
    Cursor.forward]

/-- Neither an escape nor the end of the quoted text stands at an unmarked character. -/
theorem rounds_unmarked {rounds : Nat} {last : Option Nat}
    (h : cursor.after.head?.any (unmarked mark).holds = true) :
    (optionalWays (escapedRun mark).ways rounds none last cursor).flatMap
      (Regex.one (.listing [mark])).ways = [] := by
  cases hafter : cursor.after with
  | nil => simp [hafter] at h
  | cons c rest =>
      obtain ⟨hne, hplain⟩ := unmarked_holds_iff.1 (by simpa [hafter] using h)
      have hround : (escapedRun mark).ways cursor = [] :=
        escapedRun_ways_of_ne (by simpa [hafter] using hplain)
      cases rounds with
      | zero => rfl
      | succ rounds => simp [optionalWays, hround, Regex.ways_listing, hafter, hne]

/-- Where no unmarked character stands the pass is stuck, or meets the mark, or a backslash with the
character that it protects. -/
theorem stuck_or_mark_or_escaped (h : chars.head?.any (unmarked mark).holds = false) :
    Stuck chars ∨ (∃ rest, chars = mark :: rest) ∨
      ∃ c rest, chars = '\\' :: c :: rest ∧ c ≠ '\n' := by
  cases chars with
  | nil => exact .inl .stop
  | cons c rest =>
      have hc : ¬ (c ≠ mark ∧ c ≠ '\\') := by
        rw [← unmarked_holds_iff]
        simpa using h
      by_cases hmark : c = mark
      · exact .inr (.inl ⟨rest, by rw [hmark]⟩)
      · obtain rfl : c = '\\' := by simpa [hmark] using hc
        cases rest with
        | nil => exact .inl .cutOff
        | cons d rest =>
            by_cases hline : d = '\n'
            · exact .inl (hline ▸ .lineEnd)
            · exact .inr (.inr ⟨d, rest, rfl, hline⟩)

/-- Behind a run of unmarked characters the rounds have one way at most to the mark: the one that
the pass takes. -/
theorem rounds_close (hmark : mark ≠ '\\') {rounds : Nat} {last : Option Nat}
    (hlast : last ≠ some cursor.offset) (hrounds : cursor.after.length < rounds)
    (hstop : cursor.after.head?.any (unmarked mark).holds = false) :
    (optionalWays (escapedRun mark).ways rounds none last cursor).flatMap
        (Regex.one (.listing [mark])).ways =
      ((closing? mark cursor.after).map cursor.forward).toList := by
  induction rounds generalizing cursor last with
  | zero => exact absurd hrounds (Nat.not_lt_zero _)
  | succ rounds ih =>
      have hround : optionalWays (escapedRun mark).ways (rounds + 1) none last cursor =
          ((escapedRun mark).ways cursor).flatMap
            (optionalWays (escapedRun mark).ways rounds none (some cursor.offset)) ++ [cursor] := by
        simp [optionalWays, hlast]
      rw [hround, List.flatMap_append, List.flatMap_assoc, List.flatMap_singleton,
        Regex.ways_listing]
      rcases stuck_or_mark_or_escaped hstop with hstuck | ⟨rest, hafter⟩ | ⟨c, rest, hafter, hline⟩
      · have hnone : cursor.after.head?.any (· ∈ [mark]) = false := by
          generalize cursor.after = chars at hstuck
          cases hstuck <;> simp [hmark.symm]
        rw [escapedRun_ways_of_stuck hstuck, hstuck.closing?_eq hmark, hnone]
        rfl
      · have hne : cursor.after.head? ≠ some '\\' := by simpa [hafter] using hmark
        rw [escapedRun_ways_of_ne hne, hafter, closing?_mark]
        simp [Cursor.forward]
      · -- The round goes behind the run that follows the escape, where the pass goes, too.
        let run := (rest.takeWhile (unmarked mark).holds).length
        have hplace : (cursor.forward (2 + run)).after = rest.dropWhile (unmarked mark).holds := by
          rw [← Cursor.forward_forward, Regex.after_run (by simp [hafter])]
        have hlength : (rest.dropWhile (unmarked mark).holds).length ≤ rest.length :=
          (List.dropWhile_suffix _).length_le
        have hfurther : some cursor.offset ≠ some (cursor.forward (2 + run)).offset := by
          simp only [Cursor.offset_forward, hafter, List.length_cons, ne_eq, Option.some.injEq]
          omega
        have hshorter : (cursor.forward (2 + run)).after.length < rounds := by
          rw [hplace]
          simp only [hafter, List.length_cons] at hrounds
          omega
        have hhere : (cursor.forward (2 + run)).after.head?.any (unmarked mark).holds = false :=
          hplace ▸ Regex.head?_dropWhile_any
        have hbehind : (cursor.forward 2).after = rest := by simp [hafter]
        rw [escapedRun_ways hafter hline,
          Regex.runWays_flatMap hbehind fun place h => rounds_unmarked h, Cursor.forward_forward,
          ih hfurther hshorter hhere, hplace, hafter, closing?_escaped hmark hline,
          closing?_run mark rest]
        have hpasses : (cursor.forward (2 + run)).forward =
            fun length => cursor.forward (2 + (run + length)) :=
          funext fun length => by rw [Cursor.forward_forward, Nat.add_assoc]
        simp [hmark.symm, Function.comp_def, hpasses, run]

/-- Behind the first mark there is one way at most to the next: the one that the pass takes. -/
theorem inside_ways (hmark : mark ≠ '\\') (cursor : Cursor) :
    (Regex.cat (.rep .more 0 none (.one (unmarked mark)))
        (.cat (.rep .more 0 none (escapedRun mark)) (.one (.listing [mark])))).ways cursor =
      ((closing? mark cursor.after).map cursor.forward).toList := by
  let ends (place : Cursor) : List Cursor :=
    (optionalWays (escapedRun mark).ways (place.size + 2) none none place).flatMap
      (Regex.one (.listing [mark])).ways
  let place := cursor.forward (cursor.after.takeWhile (unmarked mark).holds).length
  have hways : (Regex.cat (.rep .more 0 none (.one (unmarked mark)))
      (.cat (.rep .more 0 none (escapedRun mark)) (.one (.listing [mark])))).ways cursor =
        (runWays (unmarked mark).holds cursor.after 0 none cursor).flatMap ends := by
    simp [Regex.ways, Regex.character?, Regex.requiredWays, escapedRun, ends]
  have hplace : place.after = cursor.after.dropWhile (unmarked mark).holds := Regex.after_run rfl
  have hrounds : place.after.length < place.size + 2 := by
    rw [place.size_eq]
    omega
  have hlast : (none : Option Nat) ≠ some place.offset := by simp
  have hclose := rounds_close hmark hlast hrounds (hplace ▸ Regex.head?_dropWhile_any)
  have hpasses : place.forward = fun length =>
      cursor.forward ((cursor.after.takeWhile (unmarked mark).holds).length + length) :=
    funext fun length => Cursor.forward_forward _ _ _
  rw [hways, Regex.runWays_flatMap rfl fun place h => rounds_unmarked h]
  refine hclose.trans ?_
  rw [hplace, closing?_run mark cursor.after, hpasses]
  simp [Function.comp_def]

/-- A quoted text has the one way that the pass finds, and no other. -/
theorem quotedText_ways (hmark : mark ≠ '\\') (cursor : Cursor) :
    (quotedText mark).ways cursor = ((quoted? mark cursor.after).map cursor.forward).toList := by
  rw [quotedText, Regex.ways, Regex.ways_listing]
  cases hafter : cursor.after with
  | nil => rfl
  | cons c rest =>
      by_cases hc : c = mark
      · subst hc
        have hpasses : cursor.next.forward = fun length => cursor.forward (1 + length) :=
          funext fun length => Cursor.forward_forward cursor 1 length
        simp [quoted?, inside_ways hmark, hafter, hpasses, Function.comp_def]
      · simp [quoted?, hc]

/-- The expression of a quoted text matches as many characters as the pass goes through. -/
theorem quotedText_counts (hmark : mark ≠ '\\') : Counts (quotedText mark) (quoted? mark) where
  plain := rfl
  first cursor := by
    rw [quotedText_ways hmark]
    cases quoted? mark cursor.after <;> rfl
  le _ _ := quoted?_le
  nil := rfl

/-! ## The patterns -/

/-- What an expression of a quoted text matches, wherever in a text it is tried: as many characters
as one pass goes through, and nothing where the mark is missing or the pass gets stuck; a content
whose marks and backslashes have a backslash before them, between two marks, up to the second of
them. -/
structure MatchesQuoted (regex : Regex) (mark : Char) : Prop where
  span : ∀ text offset, spanAt? regex text offset =
    (quoted? mark (text.toList.drop offset)).map fun length => (offset, offset + length)
  span_none : ∀ text offset, spanAt? regex text offset = none ↔
    (text.toList.drop offset).head? ≠ some mark ∨
      ∃ passed stuck, text.toList.drop offset = mark :: (passed ++ stuck) ∧
        Passable mark passed ∧ Stuck stuck
  span_escaped : ∀ before content rest,
    spanAt? regex (String.ofList (before ++ mark :: escape mark content ++ mark :: rest))
      before.length = some (before.length, before.length + (escape mark content).length + 2)

/-- The expression of a quoted text does so. -/
theorem quotedText_matches (hmark : mark ≠ '\\') (hline : mark ≠ '\n') :
    MatchesQuoted (quotedText mark) mark where
  span := (quotedText_counts hmark).spanAt?_eq
  span_none text offset := by
    rw [(quotedText_counts hmark).spanAt?_eq, Option.map_eq_none_iff, quoted?_eq_none_iff hmark]
  span_escaped before content rest := by
    have hrest : (before ++ mark :: escape mark content ++ mark :: rest).drop before.length =
        mark :: (escape mark content ++ mark :: rest) := by simp
    rw [(quotedText_counts hmark).spanAt?_eq, String.toList_ofList, hrest, quoted?, if_pos rfl,
      closing?_escape hmark hline]
    simp only [Option.map_some, Option.some.injEq, Prod.mk.injEq, true_and]
    omega

/-- The patterns of quoted texts agree with one pass over the text, for both quotation marks. -/
theorem quotedStrings_onePass :
    (∃ regex, Regex.read doubleQuotedString.toList = .ok regex ∧ MatchesQuoted regex '"') ∧
      ∃ regex, Regex.read singleQuotedString.toList = .ok regex ∧ MatchesQuoted regex '\'' :=
  ⟨⟨_, read_quoted.1, quotedText_matches (by decide) (by decide)⟩,
    ⟨_, read_quoted.2, quotedText_matches (by decide) (by decide)⟩⟩

end Parlance.Lexer.Patterns
