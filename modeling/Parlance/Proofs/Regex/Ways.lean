import Parlance.Proofs.Regex.Spelling

/-!
# The ways to match an expression

An expression without groups and conditions has ways to match from a place on, each of which ends at
some place; `ways` lists the ends in the order of preference. `attempt_settles` says that an attempt
tries just these, in this order, and takes the first that leads on: what is looked at ahead of an
attempt, so that it need not be made, never rules out a way. So a match is the first of the ways.
-/

namespace Parlance.Regex

/-! ## Ways -/

/-- The ends of runs of accepted characters, longest first: at least so many characters, and at most
so many if there is a bound. The list is what follows the place. -/
def runWays (accepts : Char → Bool) : List Char → Nat → Option Nat → Cursor → List Cursor
  | [], least, _, cursor => if least = 0 then [cursor] else []
  | c :: rest, least, most, cursor =>
    (if most ≠ some 0 && accepts c then
      runWays accepts rest (least - 1) (most.map (· - 1)) cursor.next else []) ++
      if least = 0 then [cursor] else []

/-- The ends of so many rounds. -/
def requiredWays (body : Cursor → List Cursor) : Nat → Cursor → List Cursor
  | 0, cursor => [cursor]
  | count + 1, cursor => (body cursor).flatMap (requiredWays body count)

/-- The ends of at most so many rounds, if there is a bound, more rounds first; the last round
started at the offset `last`. The first number bounds the rounds. -/
def optionalWays (body : Cursor → List Cursor) :
    Nat → Option Nat → Option Nat → Cursor → List Cursor
  | 0, _, _, _ => []
  | rounds + 1, most, last, cursor =>
    (if most ≠ some 0 && last ≠ some cursor.offset then
      (body cursor).flatMap
        (optionalWays body rounds (most.map (· - 1)) (some cursor.offset)) else []) ++ [cursor]

/-- Is the expression made of characters, sequences, alternatives, and repetitions that prefer more
rounds? -/
def isPlain : Regex → Bool
  | empty | one _ => true
  | cat first second | alt first second => first.isPlain && second.isPlain
  | rep .more _ _ body => body.isPlain
  | _ => false

/-- The places where a match of a plain expression can end, in the order of preference. -/
def ways : Regex → Cursor → List Cursor
  | empty, cursor => [cursor]
  | one set, cursor => if cursor.after.head?.any set.holds then [cursor.next] else []
  | cat first second, cursor => (first.ways cursor).flatMap second.ways
  | alt first second, cursor => first.ways cursor ++ second.ways cursor
  | rep _ least most body, cursor =>
    match body.character? with
    | some set => runWays set.holds cursor.after least most cursor
    | none =>
      (requiredWays body.ways least cursor).flatMap
        (optionalWays body.ways (cursor.size + 2) (most.map (· - least)) none)
  | _, _ => []

/-! ## What is seen ahead of an attempt -/

variable {regex : Regex} {cursor : Cursor}

/-- An expression that consists of nothing has one way, which takes nothing. -/
theorem ways_of_isVoid (h : regex.isVoid = true) : regex.ways cursor = [cursor] := by
  induction regex with
  | empty => rfl
  | cat first second ihFirst ihSecond =>
      obtain ⟨hfirst, hsecond⟩ := Bool.and_eq_true_iff.1 h
      simp [ways, ihFirst hfirst, ihSecond hsecond]
  | _ => cases h

/-- An expression that begins with a set has no way from a place at which no character of the set
stands. -/
theorem ways_of_firstSet {set : Charset} (hset : regex.firstSet? = some set)
    (h : cursor.after.head?.any set.holds = false) : regex.ways cursor = [] := by
  induction regex with
  | one other =>
      rw [firstSet?] at hset
      split at hset <;> cases hset
      simp [ways, h]
  | cat first second ihFirst ihSecond =>
      rw [firstSet?] at hset
      split at hset
      · rename_i hvoid
        simp [ways, ways_of_isVoid hvoid, ihSecond hset]
      · simp [ways, ihFirst hset]
  | _ => cases hset

/-- Where an expression cannot start it has no way. -/
theorem ways_of_canStart (h : regex.canStart cursor = false) : regex.ways cursor = [] := by
  unfold canStart at h
  cases hset : regex.firstSet? with
  | none => simp [hset] at h
  | some set => exact ways_of_firstSet hset (by simpa [hset] using h)

/-- A set that is one letter holds that letter only. -/
theorem Charset.holds_of_letter? {set : Charset} {letter : Nat} (h : set.letter? = some letter)
    (c : Char) : set.holds c = (c.toNat == letter) := by
  unfold letter? at h
  split at h <;> cases h
  simp [holds, lists, Folding.variants, Bool.beq_eq_decide_eq, eq_comm]

/-- Fewer characters than a run wants are no run. -/
theorem runWays_of_lt {accepts : Char → Bool} {chars : List Char} {least : Nat} {most : Option Nat}
    (h : chars.length < least) : runWays accepts chars least most cursor = [] := by
  have hleast : least ≠ 0 := Nat.ne_of_gt (Nat.zero_lt_of_lt h)
  induction chars generalizing cursor least most with
  | nil => simp [runWays, hleast]
  | cons c rest ih =>
      rw [List.length_cons] at h
      by_cases hone : least - 1 = 0
      · omega
      · simp [runWays, ih (by omega) hone, hleast]

/-! ## Attempts -/

/-- An attempt ends at this place, or in vain if there is none, and leaves the groups as they
were. -/
def Outcome.Reaches (outcome : Outcome) (memory : Memory) : Option Cursor → Prop
  | some stop => outcome = ⟨true, memory.resume stop⟩
  | none => outcome.matched = false ∧ outcome.memory.marks = memory.marks

/-- From every place the step ends at the first of these ends, and leaves the groups as they were.
-/
def Step.Settles (step : Step) (ends : Cursor → List Cursor) : Prop :=
  ∀ cursor memory, cursor.Placed → (step cursor memory).Reaches memory (ends cursor).head?

namespace Outcome.Reaches

variable {outcome later : Outcome} {memory other : Memory} {first second : Option Cursor}

/-- A failure reaches nothing. -/
theorem failure : memory.failure.Reaches memory none := ⟨rfl, rfl⟩

/-- Of what is known beforehand only the groups matter. -/
theorem of_marks (h : outcome.Reaches other first) (hmarks : other.marks = memory.marks) :
    outcome.Reaches memory first := by
  cases first with
  | some stop => exact h.trans (by rw [Memory.resume, Memory.resume, hmarks])
  | none => exact ⟨h.1, h.2.trans hmarks⟩

/-- An attempt succeeds if it reaches a place. -/
theorem matched_eq (h : outcome.Reaches memory first) : outcome.matched = first.isSome := by
  cases first with
  | some stop => exact congrArg Outcome.matched h
  | none => exact h.1

/-- Of two attempts, the second of which is made if the first is in vain, the first counts that
reaches a place. -/
theorem orElse (h : outcome.Reaches memory first)
    (hlater : outcome.memory.marks = memory.marks → later.Reaches memory second) :
    (if outcome.matched then outcome else later).Reaches memory (first.or second) := by
  rw [h.matched_eq]
  cases first with
  | some stop => exact h
  | none => exact hlater h.2

/-- Where reading is taken up after a failure does not matter. -/
theorem failingAt (h : outcome.Reaches memory first) (cursor : Cursor) :
    (outcome.failingAt cursor).Reaches memory first := by
  rw [Outcome.failingAt, h.matched_eq]
  cases first with
  | some stop => exact h
  | none => exact ⟨rfl, h.2⟩

end Outcome.Reaches

open Regex.Outcome (Reaches)

variable {around : Surroundings} {next : Step} {ends : Cursor → List Cursor} {memory : Memory}

/-- The end of an expression ends where it is. -/
theorem Step.finish_settles : Step.finish.Settles fun cursor => [cursor] := fun _ _ _ => rfl

/-- A way that is come back from ends where it does. -/
theorem Step.Settles.tryFrom (h : next.Settles ends) (repeated : Bool) :
    (next.tryFrom repeated).Settles ends := by
  intro cursor memory hplaced
  have hnext : (next cursor (memory.resume cursor)).Reaches memory (ends cursor).head? :=
    (h cursor (memory.resume cursor) hplaced).of_marks rfl
  rw [Step.tryFrom, hnext.matched_eq]
  cases hends : (ends cursor).head? with
  | some stop => rwa [hends] at hnext
  | none =>
      rw [hends] at hnext
      refine ⟨rfl, ?_⟩
      simp [Memory.failure, Memory.backTo, hnext.2]

/-- A run of characters ends with the longest one that leads on. -/
theorem longestFirst_reaches {accepts : Char → Bool} {chars : List Char} {least : Nat}
    {most : Option Nat} (h : next.Settles ends) (hplaced : cursor.Placed) :
    (longestFirst accepts next chars least most cursor memory).Reaches memory
      ((runWays accepts chars least most cursor).flatMap ends).head? := by
  -- After the longer runs comes the place itself, if the run may stop there.
  have hstop (least : Nat) {cursor : Cursor} (hplaced : cursor.Placed) (memory : Memory) :
      (if least = 0 then next cursor memory else memory.failure).Reaches memory
        ((if least = 0 then [cursor] else []).flatMap ends).head? := by
    split
    · simpa using h cursor memory hplaced
    · exact .failure
  induction chars generalizing least most cursor memory with
  | nil => exact hstop least hplaced memory
  | cons c rest ih =>
      rw [longestFirst, runWays, List.flatMap_append, List.head?_append]
      split
      · have hlonger : (longestFirst accepts next rest (least - 1) (most.map (· - 1)) cursor.next
            memory).Reaches memory ((runWays accepts rest (least - 1) (most.map (· - 1))
              cursor.next).flatMap ends).head? := ih hplaced.next
        by_cases hleast : least = 0
        · subst hleast
          simpa using hlonger.orElse fun hmarks => (hstop 0 hplaced _).of_marks hmarks
        · simpa [hleast] using hlonger
      · simpa using hstop least hplaced memory

section

variable {body : Step → Step} {bodyWays : Cursor → List Cursor}

/-- A step of an expression tries the ways of the expression and goes on from each. -/
def Tries (body : Step → Step) (bodyWays : Cursor → List Cursor) : Prop :=
  ∀ {next : Step} {ends : Cursor → List Cursor}, next.Settles ends →
    (body next).Settles fun cursor => (bodyWays cursor).flatMap ends

/-- Rounds that have to be made go on from their ends. -/
theorem requiredRounds_settles (hbody : Tries body bodyWays) (h : next.Settles ends) (count : Nat) :
    (requiredRounds body next count).Settles fun cursor =>
      (requiredWays bodyWays count cursor).flatMap ends := by
  induction count with
  | zero =>
      intro cursor memory hplaced
      simpa [requiredWays, requiredRounds] using h cursor memory hplaced
  | succ count ih =>
      intro cursor memory hplaced
      have hround := hbody ih cursor (memory.resume cursor) hplaced
      simp only [requiredWays, List.flatMap_assoc]
      exact (hround.failingAt cursor).of_marks rfl

/-- Rounds that may be made go on from their ends, more rounds first. -/
theorem optionalRounds_settles (hbody : Tries body bodyWays) (h : next.Settles ends)
    (repeated : Bool) (rounds : Nat) (most last : Option Nat) :
    (optionalRounds body .more repeated next rounds most last).Settles fun cursor =>
      (optionalWays bodyWays rounds most last cursor).flatMap ends := by
  induction rounds generalizing most last with
  | zero => exact fun cursor memory _ => .failure
  | succ rounds ih =>
      intro cursor memory hplaced
      have hstop (memory : Memory) : (Outcome.failingAt (next cursor memory) cursor).Reaches memory
          ([cursor].flatMap ends).head? := by
        simpa using (h cursor memory hplaced).failingAt cursor
      simp only [optionalRounds, optionalWays, List.flatMap_append, List.head?_append]
      split
      · have hround := hbody (ih (most.map (· - 1)) (some cursor.offset)) cursor
          (memory.resume cursor) hplaced
        rw [List.flatMap_assoc]
        exact (hround.of_marks rfl).orElse fun _ => (hstop _).of_marks rfl
      · have hstay : (Outcome.failingAt (next cursor (memory.resume cursor)) cursor).Reaches memory
            ([cursor].flatMap ends).head? := (hstop _).of_marks rfl
        simpa using hstay

end

/-- What follows is not found where the next character is not the letter that is known to follow. -/
def Heralded (around : Surroundings) (ends : Cursor → List Cursor) : Prop :=
  ∀ letter ∈ around.following, ∀ cursor : Cursor, cursor.isAt letter = false → ends cursor = []

/-- Where nothing is known to follow, nothing is looked for. -/
theorem heralded_of_none (h : around.following = none) : Heralded around ends := by
  simp [Heralded, h]

/-- The letter that a plain expression begins with is found before it and what follows it. -/
theorem Heralded.before (h : Heralded around ends) (second : Regex) :
    Heralded (around.before second) fun cursor => (second.ways cursor).flatMap ends := by
  intro letter hletter cursor hat
  unfold Surroundings.before at hletter
  split at hletter
  · rename_i hvoid
    simpa [ways_of_isVoid hvoid] using h letter hletter cursor hat
  · obtain ⟨set, hset, hsame⟩ := Option.bind_eq_some_iff.1 hletter
    have hholds : set.holds = fun c => c.toNat == letter :=
      funext (Charset.holds_of_letter? hsame)
    have hnone : cursor.after.head?.any set.holds = false := by rwa [hholds]
    simp [ways_of_firstSet hset hnone]

/-- An alternative that is entered tries its ways, and one that is not has none. -/
theorem enterAlternative_reaches {repeated : Bool}
    (h : next.Settles fun cursor => (regex.ways cursor).flatMap ends) (hplaced : cursor.Placed) :
    (enterAlternative regex repeated next cursor memory).Reaches memory
      ((regex.ways cursor).flatMap ends).head? := by
  unfold enterAlternative
  split
  · exact h.tryFrom repeated cursor memory hplaced
  · rename_i hstart
    rw [ways_of_canStart (by simpa using hstart)]
    exact .failure

/-- A repetition of characters ends with the longest run that leads on. -/
theorem characterRounds_reaches {accepts : Char → Bool} {least : Nat} {most : Option Nat}
    (hheralded : Heralded around ends) (h : next.Settles ends) (hplaced : cursor.Placed) :
    (characterRounds .more accepts least most
      (fun cursor memory =>
        if around.following.all cursor.isAt then next.tryFrom around.repeated cursor memory
        else memory.failure) next cursor memory).Reaches memory
      ((runWays accepts cursor.after least most cursor).flatMap ends).head? := by
  have henter : Step.Settles (fun cursor memory =>
      if around.following.all cursor.isAt then next.tryFrom around.repeated cursor memory
      else memory.failure) ends := by
    intro cursor memory hplaced
    simp only
    split
    · exact h.tryFrom around.repeated cursor memory hplaced
    · rename_i hat
      obtain ⟨letter, hletter, hnot⟩ : ∃ letter ∈ around.following, cursor.isAt letter = false := by
        cases hfollowing : around.following with
        | none => simp [hfollowing] at hat
        | some letter => exact ⟨letter, rfl, by simpa [hfollowing] using hat⟩
      rw [hheralded letter hletter cursor hnot]
      exact .failure
  unfold characterRounds
  split
  · rename_i hroom
    have hshort : cursor.after.length < least := by
      rwa [Bool.not_eq_true', ← Bool.not_eq_true, hplaced.hasAfter_iff, Nat.not_le] at hroom
    rw [runWays_of_lt hshort]
    exact .failure
  · exact (longestFirst_reaches henter hplaced).of_marks rfl

/-- An attempt of a plain expression tries its ways, in order, and takes the first that leads on. -/
theorem attempt_settles (hplain : regex.isPlain = true) (hheralded : Heralded around ends)
    (h : next.Settles ends) :
    (regex.attempt around next).Settles fun cursor => (regex.ways cursor).flatMap ends := by
  induction regex generalizing around next ends with
  | empty =>
      intro cursor memory hplaced
      simpa [ways, attempt] using h cursor memory hplaced
  | one set =>
      intro cursor memory hplaced
      cases hafter : cursor.after with
      | nil => simpa [ways, attempt, hafter] using Reaches.failure
      | cons c rest =>
          by_cases hc : set.holds c = true
          · simpa [ways, attempt, hafter, hc] using h cursor.next memory hplaced.next
          · simpa [ways, attempt, hafter, hc] using Reaches.failure
  | cat first second ihFirst ihSecond =>
      obtain ⟨hfirst, hsecond⟩ := Bool.and_eq_true_iff.1 hplain
      intro cursor memory hplaced
      simp only [ways, List.flatMap_assoc]
      exact ihFirst hfirst (hheralded.before second) (ihSecond hsecond hheralded h) cursor memory
        hplaced
  | alt first second ihFirst ihSecond =>
      obtain ⟨hfirst, hsecond⟩ := Bool.and_eq_true_iff.1 hplain
      have hclosed : Heralded around.closed ends := heralded_of_none rfl
      intro cursor memory hplaced
      simp only [ways, attempt, List.flatMap_append, List.head?_append]
      refine (enterAlternative_reaches (ihFirst hfirst hclosed h) hplaced).orElse fun hmarks => ?_
      split
      · exact (ihSecond hsecond hclosed h cursor _ hplaced).of_marks hmarks
      · exact (enterAlternative_reaches (ihSecond hsecond hclosed h) hplaced).of_marks hmarks
  | rep preference least most body ih =>
      cases preference with
      | more =>
          intro cursor memory hplaced
          simp only [ways, attempt]
          cases hset : body.character? with
          | some set => exact characterRounds_reaches hheralded h hplaced
          | none =>
              simp only [openRounds, List.flatMap_assoc]
              have hbody : Tries (body.attempt ⟨true, none⟩) body.ways := fun hnext =>
                ih hplain (heralded_of_none rfl) hnext
              exact requiredRounds_settles hbody
                (optionalRounds_settles hbody h around.repeated _ _ _) least cursor memory hplaced
      | fewer | kept => cases hplain
  | _ => cases hplain

/-- A match of a plain expression is the first of its ways. -/
theorem match?_eq_ways (hplain : regex.isPlain = true) (hplaced : cursor.Placed) :
    regex.match? cursor = (regex.ways cursor).head?.map fun stop => ⟨stop, []⟩ := by
  have hheralded : Heralded {} fun cursor => [cursor] := heralded_of_none rfl
  have h := attempt_settles hplain hheralded Step.finish_settles cursor ⟨[], cursor⟩ hplaced
  simp only [List.flatMap_singleton'] at h
  rw [match?, h.matched_eq]
  cases hways : (regex.ways cursor).head? with
  | none => rfl
  | some stop =>
      rw [hways] at h
      rw [show regex.attempt {} .finish cursor ⟨[], cursor⟩ = _ from h]
      rfl

/-! ## Runs and rounds -/

variable {accepts : Char → Bool} {chars : List Char}

/-- Behind a run stands what the run leaves over. -/
theorem after_run (hafter : cursor.after = chars) :
    (cursor.forward (chars.takeWhile accepts).length).after = chars.dropWhile accepts := by
  rw [Cursor.after_forward, hafter]
  induction chars generalizing cursor with
  | nil => rfl
  | cons c rest ih =>
      by_cases hc : accepts c = true
      · have hnext : cursor.next.after = rest := by simp [hafter]
        simpa [hc] using ih hnext
      · simp [hc]

/-- What a run leaves over does not begin with a character of the run. -/
theorem head?_dropWhile_any : (chars.dropWhile accepts).head?.any accepts = false := by
  have h := List.head?_dropWhile_not accepts chars
  cases hrest : (chars.dropWhile accepts).head? with
  | none => rfl
  | some c => simpa [hrest] using h

/-- Where what follows a run cannot begin with a character of the run, the run is the longest
one. -/
theorem runWays_flatMap (hafter : cursor.after = chars)
    (hends : ∀ place : Cursor, place.after.head?.any accepts = true → ends place = []) :
    (runWays accepts chars 0 none cursor).flatMap ends =
      ends (cursor.forward (chars.takeWhile accepts).length) := by
  induction chars generalizing cursor with
  | nil => simp [runWays, Cursor.forward]
  | cons c rest ih =>
      cases hc : accepts c with
      | true =>
          have hnext : cursor.next.after = rest := by simp [hafter]
          have hlonger := ih hnext
          simpa [runWays, hc, hends cursor (by simp [hafter, hc]), Cursor.forward] using hlonger
      | false => simp [runWays, hc, Cursor.forward]

/-- At most one round of something is a round of it or nothing. -/
theorem optionalWays_one (body : Cursor → List Cursor) (rounds : Nat) :
    optionalWays body (rounds + 2) (some 1) none cursor = body cursor ++ [cursor] := by
  simp [optionalWays]

end Parlance.Regex
