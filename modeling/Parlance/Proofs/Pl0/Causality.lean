import Parlance.Proofs.Pl0.Hosts

/-!
# What a run knows of its input

A run on some numbers and the run on these and further ones do the same until the first of them asks
for a number that it does not have. So what a run does before it asks for a number depends on those
that it has read before, and not on this one or on later ones: `run_causal`.
-/

namespace Parlance.Pl0

/-- A run on as many numbers as `count`, next to the run on these and more: the second one has the
further numbers left as well, until the first one fails because it has read all of its own. From
there on the second may do anything, after what both have done. -/
def furtherInput (more : List Int) (count : Nat) : Comparison RunFault Transcript Transcript where
  together short long := long = ⟨short.input ++ more, short.events⟩ ∧
    short.events.count .asked + short.input.length = count
  ended fault short long := fault ≠ .pastEnd ∧ long = ⟨short.input ++ more, short.events⟩
  parted fault short long := fault = .pastEnd ∧ ∃ front later,
    short.events = front ++ [.asked] ∧ front.count .asked = count ∧
      long.events = front ++ .asked :: later

variable {more : List Int} {count : Nat}

/-- A run that goes on alone keeps what it has done. -/
theorem furtherInput_record {fault : RunFault} {short long : Transcript}
    (h : (furtherInput more count).parted fault short long) (input : List Int) (event : Event) :
    (furtherInput more count).parted fault short
      (Transcript.record ⟨input, long.events⟩ event) := by
  obtain ⟨hfault, front, later, hshort, hcount, hlong⟩ := h
  exact ⟨hfault, front, later ++ [event], hshort, hcount, by simp [Transcript.record, hlong]⟩

/-- A number that is asked for is the same for both runs, or there is none for the first one. -/
theorem furtherInput_read (more : List Int) (count : Nat) :
    (furtherInput more count).Holds Host.ofNumbers.read Host.ofNumbers.read := by
  constructor
  · rintro ⟨input, events⟩ long ⟨rfl, hcount⟩
    cases input with
    | nil =>
        refine .parted ⟨rfl, events, [], rfl, by simpa using hcount, ?_⟩
        cases more <;> rfl
    | cons value rest =>
        refine .ok ⟨rfl, ?_⟩
        simp only [Transcript.record, List.count_append, List.count_singleton_self]
        simp only [List.length_cons] at hcount
        omega
  · rintro fault short ⟨input, events⟩ hparted
    cases input with
    | nil => exact furtherInput_record hparted [] .asked
    | cons value rest => exact furtherInput_record hparted rest .asked

/-- Both runs write the same number. -/
theorem furtherInput_write (more : List Int) (count : Nat) (value : Int) :
    (furtherInput more count).Holds (Host.ofNumbers.write value) (Host.ofNumbers.write value) := by
  constructor
  · rintro ⟨input, events⟩ long ⟨rfl, hcount⟩
    exact .ok ⟨rfl, by simpa [Transcript.record, List.count_append] using hcount⟩
  · rintro fault short ⟨input, events⟩ hparted
    exact furtherInput_record hparted input (.wrote value)

/-- Two runs on numbers, one of which has further ones, compare. -/
theorem furtherInput_serves (more : List Int) (count : Nat) :
    (furtherInput more count).Serves Host.ofNumbers Host.ofNumbers where
  own fault _ _ htogether hown := by
    refine ⟨?_, htogether.1⟩
    rintro rfl
    exact hown
  read := furtherInput_read more count
  write := furtherInput_write more count

variable {program : Program} {fuel : Nat} {numbers : List Int}

/-- The run on numbers and the run on these and more compare. -/
theorem run_further (program : Program) (fuel : Nat) (numbers more : List Int) :
    (furtherInput more numbers.length).Ends (program.run .ofNumbers fuel ⟨numbers, []⟩)
      (program.run .ofNumbers fuel ⟨numbers ++ more, []⟩) :=
  ((furtherInput_serves more numbers.length).program program fuel).ends _ _ ⟨rfl, by simp⟩

/-- The events of a run, cut at a question of a given number, fall apart in one way only. -/
theorem front_unique {front front' later later' : List Event}
    (h : front ++ .asked :: later = front' ++ .asked :: later')
    (hcount : front.count .asked = front'.count .asked) : front = front' := by
  obtain ⟨middle, hfront, hlater⟩ | ⟨middle, hfront, hlater⟩ := List.append_eq_append_iff.1 h
  all_goals
    cases middle with
    | nil => simp [hfront]
    | cons event middle =>
        -- The other part would have one more question.
        obtain ⟨rfl, -⟩ := List.cons.inj hlater
        simp [hfront, List.count_append] at hcount

/-- The run on numbers does not fail for want of one, and then more of them change nothing, or it
does, and the run on more goes on from there. -/
theorem events_further (program : Program) (fuel : Nat) (numbers more : List Int) :
    program.events fuel (numbers ++ more) = program.events fuel numbers ∨
      ∃ front later, front.count .asked = numbers.length ∧
        program.events fuel numbers = front ++ [.asked] ∧
        program.events fuel (numbers ++ more) = front ++ .asked :: later := by
  have hends := run_further program fuel numbers more
  unfold Program.events
  generalize program.run .ofNumbers fuel ⟨numbers, []⟩ = short,
    program.run .ofNumbers fuel ⟨numbers ++ more, []⟩ = long at hends
  cases hends with
  | ok htogether =>
      obtain ⟨rfl, -⟩ := htogether
      exact .inl rfl
  | error hended =>
      obtain ⟨-, rfl⟩ := hended
      exact .inl rfl
  | parted hparted =>
      obtain ⟨-, front, later, hshort, hcount, hlong⟩ := hparted
      exact .inr ⟨front, later, hcount, hshort, hlong⟩

/-- A run asks for another number, after it has asked for as many as there are, if and only if the
run on more of them does, and until then they have done the same. -/
theorem asks_further_iff (more : List Int) {front : List Event}
    (hcount : front.count .asked = numbers.length) :
    (∃ later, program.events fuel numbers = front ++ .asked :: later) ↔
      ∃ later, program.events fuel (numbers ++ more) = front ++ .asked :: later := by
  obtain hsame | ⟨front', later, hcount', hshort, hlong⟩ :=
    events_further program fuel numbers more
  · rw [hsame]
  · rw [hshort, hlong]
    constructor
    · rintro ⟨other, hevents⟩
      obtain rfl := front_unique hevents (by omega)
      exact ⟨later, rfl⟩
    · rintro ⟨other, hevents⟩
      obtain rfl := front_unique hevents (by omega)
      exact ⟨[], rfl⟩

/-- Where a run asks for a number after it has asked for as many as `count`, so does every run whose
first numbers, so many, are the same, and until then it has done the same. -/
theorem asks_of_take_eq {other : List Int} {front later : List Event}
    (h : numbers.take count = other.take count) (hcount : front.count .asked = count)
    (hevents : program.events fuel numbers = front ++ .asked :: later) :
    ∃ later, program.events fuel other = front ++ .asked :: later := by
  by_cases hlength : numbers.length < count
  · -- Both are the same numbers.
    have hother : other.length < count := by
      have hsame := congrArg List.length h
      rw [List.length_take, List.length_take] at hsame
      omega
    rw [List.take_of_length_le (Nat.le_of_lt hlength),
      List.take_of_length_le (Nat.le_of_lt hother)] at h
    exact ⟨later, h ▸ hevents⟩
  · have hcommon : front.count .asked = (numbers.take count).length := by
      rw [List.length_take]
      omega
    rw [← List.take_append_drop count other, ← h, ← asks_further_iff _ hcommon,
      asks_further_iff (numbers.drop count) hcommon, List.take_append_drop]
    exact ⟨later, hevents⟩

/-- A run that ends without asking for a number that it does not have, ends in the same way after
the same events if there are more numbers, which it leaves. One that ends because there is no number
has done until then just what the run on more numbers does until it asks for the same one. So what
is done before a number is asked for depends on none but those before it. -/
theorem run_causal (program : Program) (fuel : Nat) :
    (∀ numbers more : List Int,
      match program.run .ofNumbers fuel ⟨numbers, []⟩ with
      | .ok _ after =>
        program.run .ofNumbers fuel ⟨numbers ++ more, []⟩ =
          .ok () ⟨after.input ++ more, after.events⟩
      | .error fault after =>
        (fault ≠ .pastEnd → program.run .ofNumbers fuel ⟨numbers ++ more, []⟩ =
          .error fault ⟨after.input ++ more, after.events⟩) ∧
        (fault = .pastEnd → ∃ front later, front.count .asked = numbers.length ∧
          after.events = front ++ [.asked] ∧
          program.events fuel (numbers ++ more) = front ++ .asked :: later)) ∧
    ∀ numbers other : List Int, ∀ count, numbers.take count = other.take count →
      ∀ front later, front.count .asked = count →
        program.events fuel numbers = front ++ .asked :: later →
        ∃ later, program.events fuel other = front ++ .asked :: later := by
  refine ⟨fun numbers more => ?_, fun numbers other count h front later hcount hevents =>
    asks_of_take_eq h hcount hevents⟩
  have hends := run_further program fuel numbers more
  unfold Program.events
  generalize program.run .ofNumbers fuel ⟨numbers, []⟩ = short,
    program.run .ofNumbers fuel ⟨numbers ++ more, []⟩ = long at hends
  cases hends with
  | ok htogether => exact congrArg _ htogether.1
  | error hended => exact ⟨fun _ => congrArg _ hended.2, fun hpast => (hended.1 hpast).elim⟩
  | parted hparted =>
      obtain ⟨hpast, front, later, hshort, hcount, hlong⟩ := hparted
      exact ⟨fun hnot => (hnot hpast).elim, fun _ => ⟨front, later, hcount, hshort, hlong⟩⟩

/-- A program that reads a number and writes what it gives when it is divided by the next one, until
that is zero. -/
def divisions : Program where
  block :=
    { variableNames := ["x", "y"]
      statement := .whileDo (.odd (.number 1)) (.sequence
        [.read "x", .read "y", .write (.binary "/" (.symbol "x") (.symbol "y"))]) }

/-- A run that asks for a third number and has two, next to one that has the third and not the
fourth, and to one that goes on to a division by zero. -/
theorem run_causal_divisions :
    (∃ front later, front.count .asked = 2 ∧
      [.asked, .asked, .wrote 3, .asked] = front ++ [.asked] ∧
      divisions.events 9 [7, 2, 5] = front ++ .asked :: later) ∧
    (∃ later, divisions.events 9 [7, 2, 1, 0, 4] =
      [.asked, .asked, .wrote 3] ++ .asked :: later) ∧
    divisions.run .ofNumbers 9 ⟨[7, 0] ++ [4], []⟩ =
      .error .divisionByZero ⟨[] ++ [4], [.asked, .asked]⟩ := by
  obtain ⟨hfurther, hsame⟩ := run_causal divisions 9
  have hshort : divisions.run .ofNumbers 9 ⟨[7, 2], []⟩ =
      .error .pastEnd ⟨[], [.asked, .asked, .wrote 3, .asked]⟩ :=
    rfl
  have hzero : divisions.run .ofNumbers 9 ⟨[7, 0], []⟩ =
      .error .divisionByZero ⟨[], [.asked, .asked]⟩ :=
    rfl
  have hmore := hfurther [7, 2] [5]
  have hends := hfurther [7, 0] [4]
  rw [hshort] at hmore
  rw [hzero] at hends
  refine ⟨hmore.2 rfl, ?_, hends.1 (by decide)⟩
  exact hsame [7, 2] [7, 2, 1, 0, 4] 2 rfl [.asked, .asked, .wrote 3] [] rfl
    (congrArg (fun result => (Result.last result).events) hshort)

end Parlance.Pl0
