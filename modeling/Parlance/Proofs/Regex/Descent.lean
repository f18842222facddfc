import Parlance.Proofs.Lexer.Tiling
import Parlance.Proofs.Regex.Ways

/-!
# The longest match

A matcher takes the way that it prefers, which need not be the longest one. The ways of an
expression descend through a form of texts if they lead behind each beginning that has the form, a
longer one before a shorter one. Sequences descend if no character of their first part begins the
second: whoever goes back in the first part then finds nothing there to make up for it.
-/

namespace Parlance.Regex

/-! ## Forms of texts -/

/-- So many of these characters, or more. -/
def Run (accepts : Char → Bool) (least : Nat) (chars : List Char) : Prop :=
  least ≤ chars.length ∧ ∀ c ∈ chars, accepts c = true

/-- A single one of these characters. -/
def Single (accepts : Char → Bool) (chars : List Char) : Prop := ∃ c, accepts c = true ∧ chars = [c]

/-- Something of the first form, and something of the second form behind it. -/
def Chain (first second : List Char → Prop) (chars : List Char) : Prop :=
  ∃ taken others, chars = taken ++ others ∧ first taken ∧ second others

/-- Nothing of the second form begins with a character of something of the first form. -/
def Apart (first second : List Char → Prop) : Prop :=
  ∀ taken c rest, first taken → c ∈ taken → ¬ second (c :: rest)

/-- The longest beginning of the text that has the form. -/
structure Longest (form : List Char → Prop) (chars taken : List Char) : Prop where
  begins : taken <+: chars
  hasForm : form taken
  longest : ∀ other, other <+: chars → form other → other.length ≤ taken.length

/-! ## Descending lengths -/

/-- The lengths of all beginnings of the text that have the form, the longest one first. -/
structure Descending (form : List Char → Prop) (chars : List Char) (lengths : List Nat) : Prop where
  mem_iff : ∀ n, n ∈ lengths ↔ n ≤ chars.length ∧ form (chars.take n)
  sorted : lengths.Pairwise (· > ·)

/-- The ways of the expression, from wherever it is, lead behind the beginnings that have the form,
the longest one first. -/
def Descends (regex : Regex) (form : List Char → Prop) : Prop :=
  ∀ cursor : Cursor, ∃ lengths,
    regex.ways cursor = lengths.map cursor.forward ∧ Descending form cursor.after lengths

variable {form first second : List Char → Prop} {chars : List Char} {lengths : List Nat}

/-- Forms that hold of the same texts have the same lengths. -/
theorem Descending.congr (h : Descending first chars lengths)
    (hsame : ∀ chars, first chars ↔ second chars) : Descending second chars lengths where
  mem_iff n := by rw [h.mem_iff, hsame]
  sorted := h.sorted

/-- No beginning has the form if there is no length. -/
theorem Descending.head?_eq_none_iff (h : Descending form chars lengths) :
    lengths.head? = none ↔ ∀ taken, taken <+: chars → ¬ form taken := by
  rw [List.head?_eq_none_iff, List.eq_nil_iff_forall_not_mem]
  constructor
  · intro hnone taken hbegins hform
    refine hnone taken.length ((h.mem_iff _).2 ⟨hbegins.length_le, ?_⟩)
    rwa [← List.prefix_iff_eq_take.1 hbegins]
  · intro hnone n hn
    exact hnone _ (List.take_prefix n chars) ((h.mem_iff n).1 hn).2

/-- The first length is that of the longest beginning of the form. -/
theorem Descending.head?_eq_some_iff {n : Nat} (h : Descending form chars lengths) :
    lengths.head? = some n ↔ ∃ taken, Longest form chars taken ∧ n = taken.length := by
  constructor
  · intro hhead
    obtain ⟨shorter, rfl⟩ := List.head?_eq_some_iff.1 hhead
    obtain ⟨hle, hform⟩ := (h.mem_iff n).1 (List.mem_cons_self ..)
    have hlength : (chars.take n).length = n := by rw [List.length_take, Nat.min_eq_left hle]
    refine ⟨chars.take n, ⟨List.take_prefix _ _, hform, ?_⟩, hlength.symm⟩
    intro other hbegins hother
    have hmem : other.length ∈ n :: shorter :=
      (h.mem_iff _).2 ⟨hbegins.length_le, by rwa [← List.prefix_iff_eq_take.1 hbegins]⟩
    rw [hlength]
    rcases List.mem_cons.1 hmem with heq | hshorter
    · exact Nat.le_of_eq heq
    · exact Nat.le_of_lt (List.rel_of_pairwise_cons h.sorted hshorter)
  · rintro ⟨taken, htaken, rfl⟩
    have hmem : taken.length ∈ lengths :=
      (h.mem_iff _).2 ⟨htaken.begins.length_le,
        by rw [← List.prefix_iff_eq_take.1 htaken.begins]; exact htaken.hasForm⟩
    cases hlengths : lengths with
    | nil => simp [hlengths] at hmem
    | cons n shorter =>
        subst hlengths
        obtain ⟨hle, hform⟩ := (h.mem_iff n).1 (List.mem_cons_self ..)
        have hlongest := htaken.longest _ (List.take_prefix n chars) hform
        rw [List.length_take, Nat.min_eq_left hle] at hlongest
        rcases List.mem_cons.1 hmem with heq | hshorter
        · exact congrArg some heq.symm
        · have hlt := List.rel_of_pairwise_cons h.sorted hshorter
          omega

/-- A chain is nothing only if its first part is. -/
theorem Chain.nil_left (h : Chain first second []) : first [] := by
  obtain ⟨taken, others, hnil, htaken, -⟩ := h
  obtain ⟨rfl, -⟩ := List.append_eq_nil_iff.1 hnil.symm
  exact htaken

/-- What may be left out is apart from what its form is apart from. -/
theorem Apart.optional_left (h : Apart first second) :
    Apart (fun chars => first chars ∨ chars = []) second := by
  rintro taken c rest (htaken | rfl) hc
  · exact h taken c rest htaken hc
  · cases hc

/-- What is apart from a form is apart from it and nothing. -/
theorem Apart.optional_right (h : Apart first second) :
    Apart first fun chars => second chars ∨ chars = [] := by
  rintro taken c rest htaken hc (hrest | hnil)
  · exact h taken c rest htaken hc hrest
  · cases hnil

/-! ## Expressions that descend -/

variable {regex body left right : Regex} {cursor : Cursor} {accepts : Char → Bool} {least : Nat}

/-- Forms that hold of the same texts are descended through alike. -/
theorem Descends.congr (h : regex.Descends first) (hsame : ∀ chars, first chars ↔ second chars) :
    regex.Descends second := fun cursor =>
  let ⟨lengths, hways, hlengths⟩ := h cursor
  ⟨lengths, hways, hlengths.congr hsame⟩

/-- A character descends through the single characters that it accepts. -/
theorem Descends.one (set : Charset) : (Regex.one set).Descends (Single set.holds) := by
  intro cursor
  cases hafter : cursor.after with
  | nil => exact ⟨[], by simp [ways, hafter], ⟨by simp [Single], .nil⟩⟩
  | cons c rest =>
      by_cases hc : set.holds c = true
      · refine ⟨[1], by simp [ways, hafter, hc, Cursor.forward], ⟨fun n => ?_, by simp⟩⟩
        cases n with
        | zero => simp [Single]
        | succ n => cases n <;> cases rest <;> simp [Single, hc]
      · refine ⟨[], by simp [ways, hafter, hc], ⟨fun n => ?_, .nil⟩⟩
        have hnone : ¬ Single set.holds ((c :: rest).take n) := by
          rintro ⟨d, hd, heq⟩
          cases n with
          | zero => cases heq
          | succ n =>
              obtain ⟨rfl, -⟩ := List.cons.inj heq
              exact hc hd
        simp [hnone]

/-- The lengths of a run of characters, the first of which is accepted. -/
theorem Descending.run_cons {c : Char} (hc : accepts c = true)
    (h : Descending (Run accepts (least - 1)) chars lengths) :
    Descending (Run accepts least) (c :: chars)
      (lengths.map (1 + ·) ++ if least = 0 then [0] else []) where
  mem_iff n := by
    cases n with
    | zero => by_cases hleast : least = 0 <;> simp [Run, hleast]
    | succ n =>
        have hmem : n + 1 ∈ (lengths.map (1 + ·) ++ if least = 0 then [0] else []) ↔
            n ∈ lengths := by
          by_cases hleast : least = 0 <;> simp [hleast, Nat.add_comm 1]
        have hleast : least - 1 ≤ min n chars.length ↔ least ≤ min n chars.length + 1 := by omega
        rw [hmem, h.mem_iff]
        simp [Run, hc, hleast]
  sorted := by
    refine List.pairwise_append.2 ⟨?_, ?_, ?_⟩
    · exact List.pairwise_map.2 (h.sorted.imp fun hlt => Nat.add_lt_add_left hlt 1)
    · split <;> simp
    · intro n hn m hm
      obtain ⟨k, -, rfl⟩ := List.mem_map.1 hn
      split at hm <;> simp at hm
      omega

/-- The lengths of a run where no character is accepted. -/
theorem Descending.run_stop (h : chars.head?.any accepts = false) :
    Descending (Run accepts least) chars (if least = 0 then [0] else []) where
  mem_iff n := by
    cases n with
    | zero => by_cases hleast : least = 0 <;> simp [Run, hleast]
    | succ n =>
        cases chars with
        | nil => by_cases hleast : least = 0 <;> simp [hleast]
        | cons c rest =>
            have hc : accepts c = false := by simpa using h
            by_cases hleast : least = 0 <;> simp [Run, hleast, hc]
  sorted := by split <;> simp

/-- Runs of characters descend. -/
theorem runWays_descending (hafter : cursor.after = chars) :
    ∃ lengths, runWays accepts chars least none cursor = lengths.map cursor.forward ∧
      Descending (Run accepts least) chars lengths := by
  induction chars generalizing cursor least with
  | nil =>
      refine ⟨_, ?_, .run_stop rfl⟩
      by_cases hleast : least = 0 <;> simp [runWays, hleast, Cursor.forward]
  | cons c rest ih =>
      cases hc : accepts c with
      | true =>
          have hnext : cursor.next.after = rest := by simp [hafter]
          obtain ⟨lengths, hways, hlengths⟩ := @ih cursor.next (least - 1) hnext
          refine ⟨_, ?_, hlengths.run_cons hc⟩
          have hpast : cursor.next.forward = fun n => cursor.forward (1 + n) :=
            funext fun n => Cursor.forward_forward cursor 1 n
          rw [hpast] at hways
          rw [runWays, if_pos (by simp [hc]), Option.map_none, hways, List.map_append, List.map_map]
          by_cases hleast : least = 0 <;> simp [hleast, Cursor.forward, Function.comp_def]
      | false =>
          refine ⟨_, ?_, .run_stop (by simp [hc])⟩
          by_cases hleast : least = 0 <;> simp [runWays, hc, hleast, Cursor.forward]

/-- A repetition of a character descends through the runs that are long enough. -/
theorem Descends.run (set : Charset) (least : Nat) :
    (rep .more least none (.one set)).Descends (Run set.holds least) :=
  fun _ => runWays_descending rfl

/-- An expression that takes one character has one way at most. -/
theorem ways_of_character? {set : Charset} (h : body.character? = some set) :
    body.ways cursor = if cursor.after.head?.any set.holds then [cursor.next] else [] := by
  fun_induction character? body with
  | case1 other =>
      cases h
      rfl
  | case2 body ih => simp [ways, ih h, apply_ite, List.flatMap]
  | case3 => cases h

/-- What may be left out is taken, or else left out. -/
theorem ways_optional :
    (rep .more 0 (some 1) body).ways cursor = body.ways cursor ++ [cursor] := by
  rw [ways]
  cases hset : body.character? with
  | none => simp [requiredWays, optionalWays_one]
  | some set =>
      rw [ways_of_character? hset]
      cases hafter : cursor.after with
      | nil => simp [runWays]
      | cons c rest =>
          cases rest <;> by_cases hc : set.holds c = true <;> simp [runWays, hc]

/-- What may be left out descends through its form, and to nothing at last. -/
theorem Descends.optional (h : body.Descends form) (hnil : ¬ form []) :
    (rep .more 0 (some 1) body).Descends fun chars => form chars ∨ chars = [] := by
  intro cursor
  obtain ⟨lengths, hways, hlengths⟩ := h cursor
  refine ⟨lengths ++ [0], by rw [ways_optional, hways]; simp [Cursor.forward], ⟨fun n => ?_, ?_⟩⟩
  · have hnothing : n ≤ cursor.after.length ∧ cursor.after.take n = [] ↔ n = 0 := by
      rw [← List.length_eq_zero_iff, List.length_take]
      omega
    rw [List.mem_append, hlengths.mem_iff, List.mem_singleton, and_or_left, hnothing]
  · refine List.pairwise_append.2 ⟨hlengths.sorted, by simp, fun n hn m hm => ?_⟩
    obtain rfl := List.mem_singleton.1 hm
    exact Nat.pos_of_ne_zero fun h => hnil (by simpa [h] using ((hlengths.mem_iff n).1 hn).2)

/-- Alternatives of which no two begin alike descend through both their forms. -/
theorem Descends.alt (hleft : left.Descends first) (hright : right.Descends second)
    (hfirst : ¬ first []) (hsecond : ¬ second [])
    (hunlike : ∀ c rest others, first (c :: rest) → ¬ second (c :: others)) :
    (Regex.alt left right).Descends fun chars => first chars ∨ second chars := by
  intro cursor
  obtain ⟨lefts, hlefts, hbefore⟩ := hleft cursor
  obtain ⟨rights, hrights, hbehind⟩ := hright cursor
  refine ⟨lefts ++ rights, by rw [ways, hlefts, hrights, List.map_append], ⟨fun n => ?_, ?_⟩⟩
  · rw [List.mem_append, hbefore.mem_iff, hbehind.mem_iff, ← and_or_left]
  · refine List.pairwise_append.2 ⟨hbefore.sorted, hbehind.sorted, fun n hn m hm => ?_⟩
    have hn := ((hbefore.mem_iff n).1 hn).2
    have hm := ((hbehind.mem_iff m).1 hm).2
    cases n with
    | zero => exact absurd hn hfirst
    | succ n =>
        cases m with
        | zero => exact absurd hm hsecond
        | succ m =>
            cases hafter : cursor.after with
            | nil => exact absurd (by simpa [hafter] using hn) hfirst
            | cons c rest =>
                rw [hafter, List.take_succ_cons] at hn hm
                exact absurd hm (hunlike _ _ _ hn)

/-- A beginning is a chain if it can be cut into something of the first form and, behind that,
something of the second form. -/
theorem chain_take_iff {n : Nat} :
    n ≤ chars.length ∧ Chain first second (chars.take n) ↔
      ∃ k m, k + m = n ∧ (k ≤ chars.length ∧ first (chars.take k)) ∧
        m ≤ (chars.drop k).length ∧ second ((chars.drop k).take m) := by
  constructor
  · rintro ⟨hle, taken, others, htake, htaken, hothers⟩
    have hlength : taken.length + others.length = n := by
      rw [← List.length_append, ← htake, List.length_take, Nat.min_eq_left hle]
    have hchars : chars = taken ++ (others ++ chars.drop n) := by
      rw [← List.append_assoc, ← htake, List.take_append_drop]
    refine ⟨taken.length, others.length, hlength, ⟨by omega, ?_⟩, ?_, ?_⟩
    · rwa [hchars, List.take_left]
    · rw [List.length_drop]
      omega
    · rwa [hchars, List.drop_left, List.take_left]
  · rintro ⟨k, m, rfl, ⟨hle, hfirst⟩, hrest, hsecond⟩
    rw [List.length_drop] at hrest
    exact ⟨by omega, _, _, List.take_add, hfirst, hsecond⟩

/-- A sequence descends through the chains of its forms, if they are apart. -/
theorem Descends.cat (hleft : left.Descends first) (hright : right.Descends second)
    (hapart : Apart first second) : (Regex.cat left right).Descends (Chain first second) := by
  intro cursor
  obtain ⟨lefts, hlefts, hbefore⟩ := hleft cursor
  obtain ⟨behind, hbehind⟩ := Classical.axiomOfChoice hright
  refine ⟨lefts.flatMap fun n => (behind (cursor.forward n)).map (n + ·), ?_, ⟨fun n => ?_, ?_⟩⟩
  · rw [ways, hlefts, List.flatMap_map, List.map_flatMap]
    congr 1
    funext n
    rw [(hbehind _).1, List.map_map]
    congr 1
    funext m
    exact Cursor.forward_forward _ _ _
  · simp only [List.mem_flatMap, List.mem_map, hbefore.mem_iff, (hbehind _).2.mem_iff,
      Cursor.after_forward, chain_take_iff]
    constructor
    · rintro ⟨k, hk, m, hm, rfl⟩
      exact ⟨k, m, rfl, hk, hm⟩
    · rintro ⟨k, m, rfl, hk, hm⟩
      exact ⟨k, hk, m, hm, rfl⟩
  · refine List.pairwise_flatMap.2 ⟨fun n _ => ?_, ?_⟩
    · exact List.pairwise_map.2 ((hbehind _).2.sorted.imp fun hlt => Nat.add_lt_add_left hlt n)
    · refine hbefore.sorted.imp_of_mem fun {k m} hk hm hlt stop hstop other hother => ?_
      obtain ⟨i, -, rfl⟩ := List.mem_map.1 hstop
      obtain ⟨j, hj, rfl⟩ := List.mem_map.1 hother
      have hlonger := (hbefore.mem_iff k).1 hk
      have hfurther := ((hbehind (cursor.forward m)).2.mem_iff j).1 hj
      -- Behind the shorter beginning stands a character of the longer one, so nothing follows.
      cases j with
      | zero => omega
      | succ j =>
          rw [Cursor.after_forward] at hfurther
          have hm : m < cursor.after.length := by omega
          rw [List.drop_eq_getElem_cons hm, List.take_succ_cons] at hfurther
          have hmem : cursor.after[m] ∈ cursor.after.take k :=
            List.mem_take_iff_getElem.2 ⟨m, by omega, rfl⟩
          exact absurd hfurther.2 (hapart _ _ _ hlonger.2 hmem)

end Parlance.Regex
