import Parlance.Proofs.Pl0.Consoles
import Parlance.Proofs.Pl0.Consumption
import Parlance.Proofs.Pl0.Soundness

/-!
# Running files

The command that runs files treats them in order, on one console. Each file is parsed and its
program runs on the lines that the files before it have left. The first one that is no program, or
whose run fails, ends the command with one message; later files are not opened. Nothing else goes
wrong, unless a program runs on and on: `perform_treats`.
-/

namespace Parlance

namespace Pl0

open Scanner

/-! ## What can go wrong -/

/-- The program has not ended on this console after as many steps as a run has fuel. -/
def Program.Endless (program : Program) (console : Console) : Prop :=
  ∃ count last, lifetime ≤ count ∧
    Configuration.Steps .ofConsole count (.start program console) last

/-- A program that has been parsed fails on a console by a division or for want of input, if it does
not run on and on. -/
theorem parsed_run_fails {text : String} {program : Program} {fault : RunFault}
    {before after : Console} (h : parseProgram text = .ok program)
    (hrun : program.run .ofConsole lifetime before = .error fault after) :
    (fault = .divisionByZero ∨ fault = .pastEnd) ∨ fault = .outOfFuel ∧ program.Endless before := by
  obtain ⟨last, failed, ⟨count, hsteps⟩, hstep, -⟩ | houtOfFuel := Program.run_error hrun
  · have hsound := step_sound (steps_sound (start_sound h before) hsteps) hstep
    refine .inl (hsound.imp_right fun hraises => ?_)
    rcases hraises with ⟨console, later, hread⟩ | ⟨value, console, later, hwrite⟩
    · rw [ofConsole_read] at hread
      split at hread <;> cases hread
      rfl
    · cases hwrite
  · exact .inr houtOfFuel

namespace CommandLine

open Parlance.CommandLine (Reading Switch Word operandRun)

/-! ## Treating files -/

/-- The text of a file as a program sees it: each line end is one line feed. -/
def fileText (text : String) : String := String.ofList (Text.unifyNewlines text.toList)

/-- A console after a text has been parsed: the trace is reported if that is wanted. -/
def parsed (traced : Bool) (text : String) (console : Console) : Console :=
  if traced then console.report (parseTraced text true).2.trace else console

/-- How the command ends: after its last file, with a message about the last one that it has opened,
or not at all, for the program at a path runs on and on. -/
inductive Ending where
  | finished
  | refused (message : String)
  | endless (path : String)

/-- What the command leaves behind: the message is the last thing that is reported. -/
def Ending.outcome (last : Console) : Ending → Outcome × Option Stop
  | finished => (⟨0, last.output, last.errors⟩, none)
  | refused message => (⟨1, last.output, last.errors ++ (message ++ "\n")⟩, none)
  | endless path => (⟨1, last.output, last.errors⟩, some (.failed path .outOfFuel))

/-- The command treats the files at these paths, one after the other: it parses each and runs its
program from the console that the one before has left. The last one may be no program, or the run of
its program may fail or go on and on; that is how the command ends. -/
inductive Treats (read : String → Except Files.FileFault String) (traced : Bool) :
    List String → Console → Console → Ending → Prop where
  | finished {console} : Treats read traced [] console console .finished
  | runs {path paths text program start middle last ending} : read path = .ok text →
      parseProgram (fileText text) = .ok program →
      RunsAs program (parsed traced (fileText text) start) middle none →
      Treats read traced paths middle last ending →
      Treats read traced (path :: paths) start last ending
  | rejected {path text error diagnostic start} : read path = .ok text →
      parseProgram (fileText text) = .error (.parse error) →
      (Source.mk path (fileText text) true).diagnosticOfError error = .ok diagnostic →
      Treats read traced [path] start (parsed traced (fileText text) start) (.refused diagnostic)
  | fails {path text program fault start last} : read path = .ok text →
      parseProgram (fileText text) = .ok program →
      RunsAs program (parsed traced (fileText text) start) last (some fault) →
      fault = .divisionByZero ∨ fault = .pastEnd →
      Treats read traced [path] start last (.refused s!"{path}: runtime error: {fault.message}")
  | endless {path text program start last} : read path = .ok text →
      parseProgram (fileText text) = .ok program →
      RunsAs program (parsed traced (fileText text) start) last (some .outOfFuel) →
      program.Endless (parsed traced (fileText text) start) →
      Treats read traced [path] start last (.endless path)

section

variable {read : String → Except Files.FileFault String} {options : Options} {path text : String}

/-- Parsing reports the trace, and then gives the program or rejects the text. -/
theorem parse_apply (source : Source) (traced : Bool) (console : Console) :
    parse source traced console =
      match parseProgram source.text with
      | .ok program => .ok program (parsed traced source.text console)
      | .error fault => reject source fault (parsed traced source.text console) := by
  rw [← parseTraced_fst source.text traced]
  unfold parse parsed
  cases traced with
  | true => rcases parseTraced source.text true with ⟨fault | program, scanner⟩ <;> rfl
  | false => rcases parseTraced source.text false with ⟨fault | program, scanner⟩ <;> rfl

/-- A report comes after what has been reported. -/
theorem report_errors (console : Console) (report : String) :
    (console.report report).errors = console.errors ++ report := by
  simp [Console.report, Console.errors, String.join_append]

/-- Where the command ends for a reason that it reports, its message is the last one. -/
theorem outcome_reported {stop : Stop} {last : Console} (h : stop.isReported) :
    outcome (.error stop last) = (Ending.refused stop.message).outcome last := by
  simp only [outcome, if_pos h, report_errors, Ending.outcome]

/-- An error that can be shown is what the command ends with. -/
theorem reject_apply {α : Type} {source : Source} {error : ParseError} {diagnostic : String}
    (h : source.diagnosticOfError error = .ok diagnostic) (console : Console) :
    (reject source (.parse error) : Step α) console = .error (.rejected diagnostic) console := by
  unfold reject
  simp only [h]
  rfl

/-- A file is treated without looking at others: its program runs to the end, or the command ends
with it. -/
theorem processFile_treats (hmode : options.mode = .run) (hread : read path = .ok text)
    (start : Console) :
    (∃ program middle, parseProgram (fileText text) = .ok program ∧
        RunsAs program (parsed options.traced (fileText text) start) middle none ∧
        processFile read options path start = .ok () middle) ∨
      ∃ stop last ending, Treats read options.traced [path] start last ending ∧
        ending ≠ .finished ∧ processFile read options path start = .error stop last ∧
        outcome (.error stop last) = ending.outcome last := by
  have hprocess : processFile read options path start =
      (parse ⟨path, fileText text, true⟩ options.traced >>= execute path) start := by
    unfold processFile processText
    simp only [hread, hmode]
    rfl
  rw [Rule.bind_apply, parse_apply] at hprocess
  cases hparse : parseProgram (fileText text) with
  | error fault =>
      obtain ⟨error, diagnostic, rfl, hshown⟩ :=
        @parseProgram_shown ⟨path, fileText text, true⟩ fault hparse
      simp only [hparse, reject_apply hshown] at hprocess
      exact .inr ⟨_, _, _, .rejected hread hparse hshown, nofun, hprocess, outcome_reported rfl⟩
  | ok program =>
      have hruns := runsAs program (parsed options.traced (fileText text) start)
      simp only [hparse, execute] at hprocess
      cases hrun :
          program.run .ofConsole lifetime (parsed options.traced (fileText text) start) with
      | ok _ middle =>
          rw [hrun] at hruns hprocess
          exact .inl ⟨program, middle, rfl, hruns, hprocess⟩
      | error fault last =>
          rw [hrun] at hruns hprocess
          rcases parsed_run_fails hparse hrun with hfault | ⟨rfl, hendless⟩
          · refine .inr ⟨_, _, _, .fails hread hparse hruns hfault, nofun, hprocess, ?_⟩
            exact outcome_reported (by rcases hfault with rfl | rfl <;> rfl)
          · exact .inr ⟨_, _, _, .endless hread hparse hruns hendless, nofun, hprocess, rfl⟩

/-- Treating a file depends on no other. -/
theorem processFile_congr {read' : String → Except Files.FileFault String}
    (h : read' path = read path) (options : Options) :
    processFile read' options path = processFile read options path := by
  unfold processFile
  rw [h]

/-- Files that can be read are treated in order up to the first one that the command ends with; what
the others hold makes no difference. -/
theorem processAll_treats (hmode : options.mode = .run) {paths : List String}
    (hreadable : ∀ path ∈ paths, ∃ text, read path = .ok text) (start : Console) :
    ∃ opened last ending, opened <+: paths ∧ (ending = .finished → opened = paths) ∧
      Treats read options.traced opened start last ending ∧
      ∀ read', (∀ path ∈ opened, read' path = read path) →
        outcome (processAll read' options paths start) = ending.outcome last := by
  induction paths generalizing start with
  | nil => exact ⟨[], start, .finished, List.prefix_refl _, fun _ => rfl, .finished, fun _ _ => rfl⟩
  | cons path others ih =>
      obtain ⟨⟨text, hread⟩, hothers⟩ := List.forall_mem_cons.1 hreadable
      have hall (read' : String → Except Files.FileFault String) (h : read' path = read path) :
          processAll read' options (path :: others) start =
            (processFile read options path >>= fun _ => processAll read' options others) start := by
        rw [← processFile_congr h]
        rfl
      obtain ⟨program, middle, hparse, hruns, hprocess⟩ |
          ⟨stop, last, ending, htreats, hends, hprocess, houtcome⟩ :=
        processFile_treats hmode hread start
      · obtain ⟨opened, last, ending, hopened, hfinished, htreats, houtcome⟩ := ih hothers middle
        refine ⟨path :: opened, last, ending, List.cons_prefix_cons.2 ⟨rfl, hopened⟩,
          fun h => congrArg (List.cons path) (hfinished h), .runs hread hparse hruns htreats,
          fun read' hsame => ?_⟩
        obtain ⟨hpath, hsame⟩ := List.forall_mem_cons.1 hsame
        rw [hall read' hpath, Rule.bind_of_ok hprocess]
        exact houtcome read' hsame
      · refine ⟨[path], last, ending, List.cons_prefix_cons.2 ⟨rfl, List.nil_prefix⟩,
          fun h => (hends h).elim, htreats, fun read' hsame => ?_⟩
        rw [hall read' (hsame path List.mem_cons_self), Rule.bind_apply, hprocess]
        exact houtcome

/-! ## The command -/

/-- The operands at the beginning of some that nothing follows are all of them. -/
theorem operandRun_operands (paths : List String) :
    operandRun (paths.map .operand) = (paths, []) := by
  induction paths with
  | nil => rfl
  | cons path others ih => rw [List.map_cons, operandRun, ih]

/-- Behind two hyphens there may be any paths, as long as there are some. -/
theorem request_paths {paths : List String} (h : paths ≠ []) :
    command.request ("--" :: paths) = .ok (.run [] paths) := by
  have hread : Word.readAll command.allSwitches ("--" :: paths) =
      .ok (.divider :: paths.map .operand) := by
    rw [Word.readAll, if_pos rfl]
  have htaken : ({} : Reading).takeOperands command ("--" :: paths) = ⟨[], some paths, []⟩ := by
    simp [Reading.takeOperands, h]
  show (Word.readAll command.allSwitches ("--" :: paths) >>=
    Reading.advance command command.allSwitches {}) = _
  rw [hread]
  show Reading.advance command command.allSwitches {} (.divider :: paths.map .operand) = _
  rw [Reading.advance, operandRun_operands]
  dsimp only
  rw [htaken, Reading.advance]
  · rfl
  all_goals
    intro _ hword
    cases hword

end

/-- A program that prints what it reads, one that divides by what it reads, and otherwise no
program. -/
def dividingFiles (path : String) : Except Files.FileFault String :=
  .ok (if path = "one" then "VAR x; BEGIN ? x; ! x END."
    else if path = "two" then "VAR y; BEGIN ? y; ! 6 / y END."
    else "BEGIN")

end CommandLine

end Pl0

end Parlance
