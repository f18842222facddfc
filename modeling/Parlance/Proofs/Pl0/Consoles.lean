import Parlance.Pl0.CommandLine
import Parlance.Proofs.Pl0.Hosts

/-!
# Runs on a console

On a console a program does what it does on the integers among the lines that are left there. It
reads the shortest beginning of these lines that holds as many integers as it asks for, or all of
them if they do not hold so many, and each line of it that holds none is reported: `runsAs`.
-/

namespace Parlance

/-- The failure of an operation, if it has failed. -/
def Result.fault? {ε σ α : Type} : EStateM.Result ε σ α → Option ε
  | .ok _ _ => none
  | .error fault _ => some fault

namespace Pl0

/-! ## Lines -/

/-- The integer that a line holds between blanks, if it does. -/
def integer? (line : String) : Option Int := Text.readInt? (Text.trim line.toList)

/-- The integers that lines hold. -/
def integers (lines : List String) : List Int := lines.filterMap integer?

/-- The lines that hold no integer. -/
def rejected (lines : List String) : List String := lines.filter fun line => (integer? line).isNone

/-- The shortest beginning of the lines that holds so many integers, or all of them if they do not
hold so many. -/
structure TakenFor (count : Nat) (lines taken : List String) : Prop where
  beginning : taken <+: lines
  enough : count ≤ (integers taken).length ∨ taken = lines
  shortest : ∀ other, other <+: lines → count ≤ (integers other).length → taken <+: other

section

variable {lines front rest : List String} {line : String} {value : Int}

@[simp] theorem integers_append (first second : List String) :
    integers (first ++ second) = integers first ++ integers second :=
  List.filterMap_append

/-- A line with an integer comes before the integers of the others. -/
theorem integers_cons (h : integer? line = some value) :
    integers (line :: rest) = value :: integers rest :=
  List.filterMap_cons_some h

/-- Among lines without integers all are rejected. -/
theorem rejected_eq_self (h : integers front = []) : rejected front = front := by
  refine List.filter_eq_self.2 fun line hmem => ?_
  rw [List.filterMap_eq_nil_iff.1 h line hmem]
  rfl

/-- A line with an integer is not rejected. -/
theorem rejected_append (h : integers front = []) (hline : integer? line = some value)
    (before : List String) : rejected (before ++ (front ++ [line])) = rejected before ++ front := by
  have hlast : rejected [line] = [] := by simp [rejected, hline]
  calc
    rejected (before ++ (front ++ [line])) =
        rejected before ++ (rejected front ++ rejected [line]) := by simp [rejected]
    _ = rejected before ++ front := by rw [rejected_eq_self h, hlast, List.append_nil]

/-- Looking for an integer finds the first line that holds one, or no line does. -/
theorem seekInteger_cases (lines : List String) :
    (∃ front line value rest, seekInteger lines = (front, some (value, rest)) ∧
        lines = front ++ line :: rest ∧ integers front = [] ∧ integer? line = some value) ∨
      seekInteger lines = (lines, none) ∧ integers lines = [] := by
  induction lines with
  | nil => exact .inr ⟨rfl, rfl⟩
  | cons line rest ih =>
      unfold seekInteger
      cases hline : Text.readInt? (Text.trim line.toList) with
      | some value => exact .inl ⟨[], line, value, rest, rfl, rfl, rfl, hline⟩
      | none =>
          have hnone : ∀ front, integers (line :: front) = integers front := fun front =>
            List.filterMap_cons_none hline
          obtain ⟨front, found, value, later, hseek, rfl, hfront, hfound⟩ | ⟨hseek, hrest⟩ := ih
          · refine .inl ⟨line :: front, found, value, later, ?_, rfl, ?_, hfound⟩
            · rw [hseek]
            · rw [hnone, hfront]
          · refine .inr ⟨?_, ?_⟩
            · rw [hseek]
            · rw [hnone, hrest]

/-- Lines up to one with an integer are the shortest beginning with their integers. -/
theorem takenFor_of_last {count : Nat} {taken : List String}
    (hlast : ∀ line, taken.getLast? = some line → (integer? line).isSome)
    (hcount : (integers taken).length = count) : TakenFor count (taken ++ rest) taken := by
  refine ⟨List.prefix_append _ _, .inl (Nat.le_of_eq hcount.symm), fun other hother henough => ?_⟩
  rcases List.prefix_or_prefix_of_prefix (List.prefix_append taken rest) hother with h | ⟨more, h⟩
  · exact h
  -- What is missing from the other lines would hold no integer, so it cannot have a last line.
  · have hmore : integers more = [] := by
      rw [← h, integers_append, List.length_append] at hcount
      exact List.eq_nil_of_length_eq_zero (by omega)
    rcases List.eq_nil_or_concat more with rfl | ⟨init, line, rfl⟩
    · have hsame : taken = other := h.symm.trans (List.append_nil other)
      exact hsame ▸ List.prefix_refl taken
    · have hline := hlast line (by rw [← h, List.concat_eq_append, ← List.append_assoc]; simp)
      have hnone := List.filterMap_eq_nil_iff.1 hmore line (by simp)
      rw [hnone] at hline
      cases hline

/-- All lines are taken for more integers than they hold. -/
theorem takenFor_all {count : Nat} (h : (integers lines).length < count) :
    TakenFor count lines lines := by
  refine ⟨List.prefix_refl _, .inr rfl, fun other hother henough => ?_⟩
  obtain ⟨more, rfl⟩ := hother
  rw [integers_append, List.length_append] at h
  omega

end

/-! ## Reading and printing -/

/-- What a run has left of a console after it has taken these lines, if the transcript is that of
the run on their integers. -/
structure Leaves (before : Console) (taken : List String) (after : Console)
    (transcript : Transcript) : Prop where
  lines : before.input = taken ++ after.input
  printed : after.printed = (transcript.outputs.map toString).reverse ++ before.printed
  reported : after.reported = ((rejected taken).map rejection).reverse ++ before.reported

/-- A run on a console, next to the run on the integers of its lines: as long as neither has ended,
the last line that has been taken is the one with the last integer. -/
def onConsole (before : Console) : Comparison RunFault Console Transcript where
  together after transcript := transcript.input = integers after.input ∧
    ∃ taken, Leaves before taken after transcript ∧
      (integers taken).length = transcript.events.count .asked ∧
      ∀ line, taken.getLast? = some line → (integer? line).isSome
  ended _ after transcript := ∃ taken, Leaves before taken after transcript ∧
    TakenFor (transcript.events.count .asked) before.input taken
  parted _ _ _ := False

section

variable {before after : Console} {transcript : Transcript} {taken : List String}

/-- Asking for a number writes none. -/
@[simp] theorem Transcript.outputs_asked (input : List Int) (events : List Event) :
    (Transcript.record ⟨input, events⟩ .asked).outputs = Transcript.outputs ⟨input, events⟩ := by
  simp [Transcript.record, Transcript.outputs, Event.written?]

/-- A number that is written is the last one. -/
@[simp] theorem Transcript.outputs_wrote (transcript : Transcript) (value : Int) :
    (transcript.record (.wrote value)).outputs = transcript.outputs ++ [value] := by
  simp [Transcript.record, Transcript.outputs, Event.written?]

/-- The rejected lines before the one with an integer are reported when that is read, and all lines
are if there is none. -/
theorem ofConsole_read (console : Console) :
    Host.ofConsole.read console =
      match seekInteger console.input with
      | (front, some (value, rest)) => .ok value { console with
          input := rest, reported := (front.map rejection).reverse ++ console.reported }
      | (front, none) => .error .pastEnd { console with
          input := [], reported := (front.map rejection).reverse ++ console.reported } := by
  have hreported (front : List String) :
      front.foldl (fun reported line => rejection line :: reported) console.reported =
        (front.map rejection).reverse ++ console.reported := List.foldl_flip_cons_eq_append
  unfold Host.ofConsole
  dsimp only
  rw [Rule.bind_apply]
  dsimp only [get, getThe, MonadStateOf.get, EStateM.get]
  rcases seekInteger console.input with ⟨front, _ | ⟨value, rest⟩⟩
  · dsimp only
    rw [← hreported]
    rfl
  · dsimp only
    rw [← hreported]
    rfl

/-- Reading compares: the console gives the next integer of its lines, or has none as well. -/
theorem onConsole_read (before : Console) :
    (onConsole before).Holds Host.ofConsole.read Host.ofNumbers.read := by
  refine ⟨?_, fun _ _ _ => False.elim⟩
  rintro after ⟨input, events⟩ ⟨rfl, taken, hleaves, hcount, hlast⟩
  obtain ⟨hlines, hprinted, hreported⟩ := hleaves
  rw [ofConsole_read]
  obtain ⟨front, line, value, rest, hseek, hinput, hfront, hline⟩ | ⟨hseek, hnone⟩ :=
    seekInteger_cases after.input
  · have hintegers : integers after.input = value :: integers rest := by
      rw [hinput, integers_append, hfront, List.nil_append, integers_cons hline]
    have hnumbers : Host.ofNumbers.read ⟨integers after.input, events⟩ =
        .ok value (Transcript.record ⟨integers rest, events⟩ .asked) := by
      simp only [Host.ofNumbers, hintegers]
    rw [hseek, hnumbers]
    refine .ok ⟨rfl, taken ++ (front ++ [line]), ⟨?_, ?_, ?_⟩, ?_, ?_⟩
    · rw [hlines, hinput]
      simp
    · rw [Transcript.outputs_asked]
      exact hprinted
    · rw [rejected_append hfront hline, List.map_append, List.reverse_append, List.append_assoc]
      exact congrArg ((front.map rejection).reverse ++ ·) hreported
    · rw [integers_append, integers_append, hfront, integers_cons hline]
      simp only [Transcript.record, List.count_append, List.count_singleton_self, ← hcount]
      simp [integers]
    · rintro last hmem
      simp only [List.getLast?_append, List.getLast?_singleton, Option.some_or,
        Option.some.injEq] at hmem
      rw [← hmem, hline]
      rfl
  · have hnumbers : Host.ofNumbers.read ⟨integers after.input, events⟩ =
        .error .pastEnd (Transcript.record ⟨[], events⟩ .asked) := by
      simp only [Host.ofNumbers, hnone]
    rw [hseek, hnumbers]
    refine .error ⟨taken ++ after.input, ⟨?_, ?_, ?_⟩, ?_⟩
    · rw [hlines, List.append_nil]
    · rw [Transcript.outputs_asked]
      exact hprinted
    · rw [rejected, List.filter_append, ← rejected, ← rejected, rejected_eq_self hnone,
        List.map_append, List.reverse_append, List.append_assoc]
      exact congrArg ((after.input.map rejection).reverse ++ ·) hreported
    · rw [← hlines]
      refine takenFor_all ?_
      rw [hlines, integers_append, hnone, List.append_nil, hcount]
      simp [Transcript.record]

/-- Printing compares. -/
theorem onConsole_write (before : Console) (value : Int) :
    (onConsole before).Holds (Host.ofConsole.write value) (Host.ofNumbers.write value) := by
  refine ⟨?_, fun _ _ _ => False.elim⟩
  rintro after transcript ⟨hinput, taken, ⟨hlines, hprinted, hreported⟩, hcount, hlast⟩
  refine .ok ⟨hinput, taken, ⟨hlines, ?_, hreported⟩, ?_, hlast⟩
  · rw [Transcript.outputs_wrote, List.map_append, List.reverse_append, List.append_assoc]
    exact congrArg (toString value :: ·) hprinted
  · simp [Transcript.record, hcount]

/-- While runs go on, the lines that have been taken are those for the integers asked for. -/
theorem taken_of_together (h : (onConsole before).together after transcript) :
    ∃ taken, Leaves before taken after transcript ∧
      TakenFor (transcript.events.count .asked) before.input taken := by
  obtain ⟨-, taken, hleaves, hcount, hlast⟩ := h
  exact ⟨taken, hleaves, hleaves.lines ▸ takenFor_of_last hlast hcount⟩

/-- A console answers as the integers of its lines do. -/
theorem onConsole_serves (before : Console) :
    (onConsole before).Serves Host.ofConsole Host.ofNumbers where
  own _ _ _ htogether _ := taken_of_together htogether
  read := onConsole_read before
  write := onConsole_write before

end

/-! ## Runs -/

/-- The run of a program on the integers of some lines. -/
def Program.runOn (program : Program) (lines : List String) :
    EStateM.Result RunFault Transcript Unit :=
  program.run .ofNumbers lifetime ⟨integers lines, []⟩

/-- On a console the program ends as it does on the integers of the lines there, and prints the same
numbers. It takes the shortest beginning of the lines that holds the integers that it asks for, and
the lines of these that hold none are reported in order. -/
structure RunsAs (program : Program) (before after : Console) (ending : Option RunFault) :
    Prop where
  ending : Result.fault? (program.runOn before.input) = ending
  output : after.output = before.output ++ String.join
    ((Result.last (program.runOn before.input)).outputs.map fun value => toString value ++ "\n")
  lines : ∃ taken, before.input = taken ++ after.input ∧
    TakenFor ((Result.last (program.runOn before.input)).events.count .asked) before.input taken ∧
    after.errors = before.errors ++ String.join ((rejected taken).map rejection)

/-- Every run on a console is the one on the integers of its lines. -/
theorem runsAs (program : Program) (before : Console) :
    RunsAs program before (Result.last (program.run .ofConsole lifetime before))
      (Result.fault? (program.run .ofConsole lifetime before)) := by
  have hends := ((onConsole_serves before).program program lifetime).ends before
    ⟨integers before.input, []⟩
    ⟨rfl, [], ⟨rfl, by simp [Transcript.outputs], by simp [rejected]⟩, rfl, by simp⟩
  obtain ⟨hending, taken, hleaves, htaken⟩ :
      Result.fault? (program.runOn before.input) =
          Result.fault? (program.run .ofConsole lifetime before) ∧
        ∃ taken, Leaves before taken (Result.last (program.run .ofConsole lifetime before))
            (Result.last (program.runOn before.input)) ∧
          TakenFor ((Result.last (program.runOn before.input)).events.count .asked) before.input
            taken := by
    unfold Program.runOn
    generalize program.run .ofConsole lifetime before = result, program.run .ofNumbers _ _ = result'
      at hends
    cases hends with
    | ok htogether => exact ⟨rfl, taken_of_together htogether⟩
    | error hended => exact ⟨rfl, hended⟩
    | parted hparted => exact hparted.elim
  refine ⟨hending, ?_, taken, hleaves.lines, htaken, ?_⟩
  · simp [Console.output, hleaves.printed, String.join_append, Function.comp_def]
  · simp [Console.errors, hleaves.reported, String.join_append]

end Pl0

end Parlance
