import Parlance.Proofs.Pl0.Evaluation
import Parlance.Proofs.Pl0.Programs
import Parlance.Proofs.Pl0.Scoping
import Parlance.Proofs.Pl0.Simulation

/-!
# What a program that has been parsed cannot do

Each frame that the machine makes for a parsed program is an activation of a block of the program,
and the frames around it are activations of the blocks around that one. It holds the constants of
its block, with their values, and the variables. A step keeps this, so every name that a statement
uses is found: a run fails by dividing by zero, or as its host does, and in no other way.
-/

namespace Parlance.Pl0

open Frames Pl0.Action Pl0.Configuration

variable {σ : Type} {host : Host σ} {program : Program}

/-! ## Sound frames -/

/-- The frames are activations of blocks that keep the rules, each in its place, with the values of
the constants of its block. -/
structure Frames.Sound (program : Program) (frames : Frames) : Prop where
  linked : frames.Linked
  rooted : ∀ number < frames.length, (frames.frame number).parent = none →
    (frames.frame number).block = program.block
  nested : ∀ number < frames.length, ∀ parent, (frames.frame number).parent = some parent →
    (frames.frame parent).block.procedures.lookup (frames.frame number).name =
      some (frames.frame number).block
  parsed : ∀ number < frames.length,
    (frames.frame number).block.ParsedIn (frames.around number)
  known : ∀ number < frames.length, (frames.frame number).block.Known
  names : ∀ number < frames.length, (frames.frame number).values.map Prod.fst =
    (frames.frame number).block.symbols.map Prod.fst
  constants : ∀ number < frames.length, ∀ constant ∈ (frames.frame number).block.constants,
    (frames.frame number).values.lookup constant.1 = some constant.2

/-- A statement that is to be run in a frame is part of the statement of the frame's block. -/
structure Task.Sound (frames : Frames) (task : Task) : Prop where
  lt_length : task.2 < frames.length
  part : (frames.frame task.2).block.statement.Contains task.1

/-- The frames are sound, and what is to be run is part of their blocks. -/
structure Configuration.Sound (program : Program) (now : Configuration σ) : Prop where
  frames : now.frames.Sound program
  tasks : ∀ task ∈ now.tasks, task.Sound now.frames

/-! ## New activations -/

/-- A block that declares no name twice starts with its constants, and its variables as zero. -/
theorem Activation.start_values {block : Block} (h : (block.symbols.map Prod.fst).Nodup) :
    (Activation.start block).values =
      block.constants ++ block.variableNames.map fun name => (name, 0) := by
  have hnodup : ((block.constants ++ block.variableNames.map fun name => (name, (0 : Int))).map
      Prod.fst).Nodup := by
    simpa [Block.symbols, Function.comp_def] using h
  have hconstants : (([] ++ block.constants).map Prod.fst).Nodup := by
    rw [List.map_append] at hnodup
    exact (List.nodup_append.1 hnodup).1
  rw [start, Ledger.putAll_of_nodup hconstants, List.nil_append, Ledger.putAll_of_nodup hnodup]

/-- A new activation holds the constants and variables of its block. -/
theorem Activation.start_names {block : Block} (h : (block.symbols.map Prod.fst).Nodup) :
    (Activation.start block).values.map Prod.fst = block.symbols.map Prod.fst := by
  rw [start_values h]
  simp [Block.symbols, Function.comp_def]

/-- A new activation holds the values of the constants of its block. -/
theorem Activation.start_constants {block : Block} {constant : String × Int}
    (h : (block.symbols.map Prod.fst).Nodup) (hmem : constant ∈ block.constants) :
    (Activation.start block).values.lookup constant.1 = some constant.2 := by
  refine Ledger.lookup_of_mem ?_ ?_
  · rw [start_names h]
    exact h
  · rw [start_values h]
    exact List.mem_append_left _ hmem

/-- The body of a procedure has been parsed where its declaration has come. -/
theorem Block.ParsedIn.procedure {block body : Block} {outer : List Declared} {name : String}
    (h : block.ParsedIn outer) (hbody : block.procedures.lookup name = some body) :
    body.ParsedIn (block.declaredFor name :: outer) := by
  obtain ⟨hlt, rfl⟩ := Ledger.lookup_idxOf hbody
  cases h with
  | intro _ _ hbodies _ => exact hbodies _ hlt

/-- The operators of a procedure's body are those of the grammar if those of the block are. -/
theorem Block.Known.procedure {block body : Block} {name : String} (h : block.Known)
    (hbody : block.procedures.lookup name = some body) : body.Known := by
  obtain ⟨hlt, rfl⟩ := Ledger.lookup_idxOf hbody
  cases h with
  | intro _ hbodies => exact hbodies _ (List.getElem_mem hlt)

/-! ## What keeps frames sound -/

namespace Frames.Sound

variable {frames later : Frames} {number holder parent : Nat} {name : String} {value : Int}
  {body : Block} {touched : List Nat}

/-- What a sound frame sees fits its scope. -/
theorem fits (h : frames.Sound program) (hlt : number < frames.length) :
    (frames.view number).Fits (frames.scope number).levels := by
  induction number using h.linked.induct with
  | root number hparent =>
      rw [view_root hparent, Scope.levels, scope, around_root hparent]
      exact ⟨h.names number hlt, trivial⟩
  | inner number parent hparent ih =>
      have hparentLt := Nat.lt_trans (h.linked number parent hparent) hlt
      rw [view_inner h.linked hparent, Scope.levels, scope, around_inner h.linked hparent]
      refine ⟨h.names number hlt, ?_⟩
      have hrest := ih hparentLt
      cases hview : frames.view parent with
      | nil =>
          rw [hview] at hrest
          exact hrest.elim
      | cons activation rest =>
          rw [hview] at hrest
          exact hrest

/-- Frames stay sound if the constants do. -/
theorem of_follows (h : frames.Sound program) (hfollows : Follows touched frames later)
    (hlength : later.length = frames.length)
    (hconstants : ∀ number < frames.length, ∀ constant ∈ (frames.frame number).block.constants,
      (later.frame number).values.lookup constant.1 = some constant.2) : later.Sound program := by
  have hblock {number : Nat} (hlt : number < frames.length) :
      (later.frame number).block = (frames.frame number).block := hfollows.block_eq hlt
  have hname {number : Nat} (hlt : number < frames.length) :
      (later.frame number).name = (frames.frame number).name :=
    congrArg (fun label => label.2.1) (hfollows.label number hlt)
  have haround {number : Nat} (hlt : number < frames.length) :
      later.around number = frames.around number :=
    around_congr h.linked hfollows.linked fun other hle =>
      hfollows.label other (Nat.lt_of_le_of_lt hle hlt)
  refine ⟨hfollows.linked, ?_, ?_, ?_, ?_, ?_, ?_⟩ <;> rw [hlength] <;> intro number hlt
  · intro hparent
    rw [hfollows.parent_eq hlt] at hparent
    rw [hblock hlt]
    exact h.rooted number hlt hparent
  · intro parent hparent
    rw [hfollows.parent_eq hlt] at hparent
    rw [hblock hlt, hname hlt, hblock (Nat.lt_trans (h.linked number parent hparent) hlt)]
    exact h.nested number hlt parent hparent
  · rw [hblock hlt, haround hlt]
    exact h.parsed number hlt
  · rw [hblock hlt]
    exact h.known number hlt
  · rw [hblock hlt, ← h.names number hlt]
    exact congrArg (fun label => label.2.2.2) (hfollows.label number hlt)
  · rw [hblock hlt]
    exact hconstants number hlt

/-- Frames stay sound if a variable gets another value. -/
theorem put (h : frames.Sound program) (hlt : number < frames.length)
    (hholder : frames.holder? number name = some holder)
    (hvariable : (frames.frame holder).block.symbols.lookup name = some none) :
    (frames.put holder name value).Sound program := by
  have hholderLt := Nat.lt_of_le_of_lt (le_of_mem_staticChain h.linked (holder?_mem hholder)) hlt
  refine h.of_follows (follows_put h.linked hlt hholder (List.mem_singleton_self _)) put_length
    fun other hother constant hmem => ?_
  by_cases heq : other = holder
  · subst heq
    rw [put_frame_self hother]
    have hne : constant.1 ≠ name := by
      -- A name that stands for a variable is that of no constant.
      intro hname
      obtain ⟨hsymbols, -, -, -⟩ := h.parsed other hother
      have hconstant : (frames.frame other).block.symbols.lookup constant.1 =
          some (some constant.2) := by
        refine Ledger.lookup_of_mem hsymbols (List.mem_append_left _ ?_)
        exact List.mem_map_of_mem hmem
      rw [hname, hvariable] at hconstant
      cases hconstant
    rw [← h.constants other hother constant hmem]
    exact Ledger.put_lookup_of_ne hne
  · rw [put_frame_of_ne heq]
    exact h.constants other hother constant hmem

/-- Frames stay sound if a procedure of one of them gets a frame. -/
theorem add (h : frames.Sound program) (hlt : parent < frames.length)
    (hbody : (frames.frame parent).block.procedures.lookup name = some body) :
    (frames.add name body parent).Sound program := by
  have hold {number : Nat} (hnumber : number < frames.length) :
      (frames.add name body parent).frame number = frames.frame number := add_frame_of_lt hnumber
  have haround {number : Nat} (hnumber : number < frames.length) :
      (frames.add name body parent).around number = frames.around number :=
    around_congr h.linked (h.linked.add hlt) fun other hle => by
      rw [hold (Nat.lt_of_le_of_lt hle hnumber)]
  have hparsed := (h.parsed parent hlt).procedure hbody
  obtain ⟨hsymbols, -, -, -⟩ := id hparsed
  -- Each part holds of the old frames, which stay, and of the new one.
  refine ⟨h.linked.add hlt, ?_, ?_, ?_, ?_, ?_, ?_⟩ <;> rw [add_length] <;> intro number hnumber <;>
    rcases Nat.lt_succ_iff_lt_or_eq.1 hnumber with hnumber | rfl
  · rw [hold hnumber]
    exact h.rooted number hnumber
  · intro hparent
    rw [add_frame_length] at hparent
    cases hparent
  · intro other hparent
    rw [hold hnumber] at hparent ⊢
    rw [hold (Nat.lt_trans (h.linked number other hparent) hnumber)]
    exact h.nested number hnumber other hparent
  · intro other hparent
    rw [add_frame_length] at hparent ⊢
    cases hparent
    rw [hold hlt]
    exact hbody
  · rw [hold hnumber, haround hnumber]
    exact h.parsed number hnumber
  · rw [add_frame_length, add_around_length h.linked hlt]
    exact hparsed
  · rw [hold hnumber]
    exact h.known number hnumber
  · rw [add_frame_length]
    exact (h.known parent hlt).procedure hbody
  · rw [hold hnumber]
    exact h.names number hnumber
  · rw [add_frame_length]
    exact Activation.start_names hsymbols
  · rw [hold hnumber]
    exact h.constants number hnumber
  · rw [add_frame_length]
    exact fun constant hmem => Activation.start_constants hsymbols hmem

end Frames.Sound

/-! ## Steps -/

/-- The host may fail with this fault. -/
def Host.Raises (host : Host σ) (fault : RunFault) : Prop :=
  (∃ state after, host.read state = .error fault after) ∨
    ∃ value state after, host.write value state = .error fault after

/-- What a step of a sound machine comes to: a sound machine, or a failure for which the program is
to blame by a division, or the host. -/
def StepSound (program : Program) (host : Host σ) :
    EStateM.Result RunFault (Configuration σ) Unit → Prop
  | .ok _ after => after.Sound program
  | .error fault _ => fault = .divisionByZero ∨ host.Raises fault

section

variable {frames later : Frames} {tasks : List Task} {number : Nat} {state : σ} {name : String}
  {touched : List Nat}

/-- What is part of the block of a frame is so when the frame has got other values. -/
theorem Task.Sound.follows {task : Task} (h : task.Sound frames)
    (hfollows : Follows touched frames later) : task.Sound later := by
  refine ⟨Nat.lt_of_lt_of_le h.lt_length hfollows.length_le, ?_⟩
  rw [hfollows.block_eq h.lt_length]
  exact h.part

/-- What is to be run in a sound frame keeps the rules on names in the scope of the frame. -/
theorem Task.Sound.resolves {task : Task} (h : task.Sound frames) (hframes : frames.Sound program) :
    task.1.Resolves (frames.scope task.2) := by
  obtain ⟨-, -, -, hresolves⟩ := (hframes.parsed task.2 h.lt_length).wellScoped
  exact h.part.resolves hresolves

/-- What is to be run in a sound frame has the operators of the grammar. -/
theorem Task.Sound.known {task : Task} (h : task.Sound frames) (hframes : frames.Sound program) :
    task.1.Known := by
  obtain ⟨hknown, -⟩ := hframes.known task.2 h.lt_length
  exact h.part.known hknown

/-- Giving a variable another value is sound. -/
theorem set_sound {value : Int} (hframes : frames.Sound program)
    (htasks : ∀ task ∈ tasks, task.Sound frames) (hlt : number < frames.length)
    (hvariable : (frames.scope number).symbol? name = some none) :
    StepSound program host (Action.set number name value ⟨frames, tasks, state⟩) := by
  obtain ⟨holder, hholder, hdeclared⟩ := holder?_of_symbol? hframes.linked
    (fun other hle => hframes.names other (Nat.lt_of_le_of_lt hle hlt)) hvariable
  have hfollows : Follows (frames.staticChain number) frames (frames.put holder name value) :=
    follows_put hframes.linked hlt hholder (holder?_mem hholder)
  simp only [Action.set, hholder]
  exact ⟨hframes.put hlt hholder hdeclared,
    fun task hmem => (htasks task hmem).follows hfollows⟩

/-- Calling a procedure that is visible is sound. -/
theorem enter_sound (hframes : frames.Sound program)
    (htasks : ∀ task ∈ tasks, task.Sound frames) (hlt : number < frames.length)
    (hprocedure : (frames.scope number).hasProcedure name) :
    StepSound program host (Action.enter number name ⟨frames, tasks, state⟩) := by
  obtain ⟨_, parent, _, body, -, -, -, hdeclarer, -⟩ :=
    declarer?_of_visible hframes.linked hprocedure
  obtain ⟨hmem, hbody⟩ := declarer?_spec hdeclarer
  have hparent := Nat.lt_of_le_of_lt (le_of_mem_staticChain hframes.linked hmem) hlt
  have hfollows : Follows [] frames (frames.add name body parent) :=
    follows_add hframes.linked hparent
  simp only [enter, hdeclarer]
  refine ⟨hframes.add hparent hbody, List.forall_mem_cons.2 ⟨⟨?_, ?_⟩, fun task hmem => ?_⟩⟩
  · simp
  · rw [add_frame_length]
    exact .refl
  · exact (htasks task hmem).follows hfollows

/-- Putting statements in front is sound if they keep the rules. -/
theorem push_sound {statements : List Statement} (hframes : frames.Sound program)
    (htasks : ∀ task ∈ tasks, task.Sound frames)
    (h : ∀ statement ∈ statements, Task.Sound frames (statement, number)) :
    StepSound program host (push statements number ⟨frames, tasks, state⟩) := by
  refine ⟨hframes, fun task hmem => ?_⟩
  rcases List.mem_append.1 hmem with hmem | hmem
  · obtain ⟨statement, hstatement, rfl⟩ := List.mem_map.1 hmem
    exact h statement hstatement
  · exact htasks task hmem

/-- Putting statements in front under a condition is sound if all keep the rules. -/
theorem if_sound {condition : Condition} {statements : List Statement}
    (hframes : frames.Sound program) (htasks : ∀ task ∈ tasks, task.Sound frames)
    (hlt : number < frames.length) (hresolves : condition.Resolves (frames.scope number))
    (hknown : condition.Known)
    (h : ∀ statement ∈ statements, Task.Sound frames (statement, number)) :
    StepSound program host ((do
      if ← see number (Run.ofChain condition.eval) then push statements number : Action σ Unit)
        ⟨frames, tasks, state⟩) := by
  rw [Rule.bind_apply, see_ofChain]
  cases hvalue : condition.eval (frames.view number) with
  | ok holds =>
      cases holds with
      | true => exact push_sound hframes htasks h
      | false => exact ⟨hframes, htasks⟩
  | error fault => exact .inl (Condition.eval_fault (hframes.fits hlt) hresolves hknown hvalue)

/-- Writing the value of an expression that keeps the rules is sound. -/
theorem write_sound {value : Expr} (hframes : frames.Sound program)
    (htasks : ∀ task ∈ tasks, task.Sound frames) (hlt : number < frames.length)
    (hresolves : value.Resolves (frames.scope number)) (hknown : value.Known) :
    StepSound program host (see number
      (do Run.ofHost (host.write (← Run.ofChain value.eval))) ⟨frames, tasks, state⟩) := by
  unfold see
  rw [Rule.bind_apply, Run.ofChain]
  cases hvalue : value.eval (frames.view number) with
  | ok result =>
      simp only [Run.ofHost]
      cases hwrite : host.write result state with
      | ok done after => exact ⟨hframes, htasks⟩
      | error fault after => exact .inr (.inr ⟨result, state, after, hwrite⟩)
  | error fault => exact .inl (Expr.eval_fault (hframes.fits hlt) hresolves hknown hvalue)

/-- What comes next in a sound machine is sound. -/
theorem perform_sound {statement : Statement} (hframes : frames.Sound program)
    (htasks : ∀ task ∈ tasks, task.Sound frames) (htask : Task.Sound frames (statement, number)) :
    StepSound program host (statement.perform host number ⟨frames, tasks, state⟩) := by
  have hlt := htask.lt_length
  have hresolves := htask.resolves hframes
  have hknown := htask.known hframes
  have hpart {inner : Statement} (h : statement.Contains inner) :
      Task.Sound frames (inner, number) := ⟨hlt, htask.part.trans h⟩
  cases statement with
  | assign name value =>
      rw [Statement.perform, Rule.bind_apply, see_ofChain]
      cases hvalue : value.eval (frames.view number) with
      | ok result => exact set_sound hframes htasks hlt hresolves.1
      | error fault =>
          exact .inl (Expr.eval_fault (hframes.fits hlt) hresolves.2 hknown hvalue)
  | call name => exact enter_sound hframes htasks hlt hresolves
  | read name =>
      rw [Statement.perform, Rule.bind_apply, see_ofHost]
      cases hvalue : host.read state with
      | ok result after => exact set_sound hframes htasks hlt hresolves
      | error fault after => exact .inr (.inl ⟨state, after, hvalue⟩)
  | write value => exact write_sound hframes htasks hlt hresolves hknown
  | sequence statements =>
      exact push_sound hframes htasks fun statement hmem => hpart (.sequence hmem .refl)
  | ifThen condition inner =>
      refine if_sound hframes htasks hlt hresolves.1 hknown.1 fun statement hmem => ?_
      cases List.mem_singleton.1 hmem
      exact hpart (.ifThen .refl)
  | whileDo condition inner =>
      refine if_sound hframes htasks hlt hresolves.1 hknown.1 ?_
      rw [List.forall_mem_cons]
      refine ⟨hpart (.whileDo .refl), fun statement hmem => ?_⟩
      cases List.mem_singleton.1 hmem
      exact htask
  | empty => exact ⟨hframes, htasks⟩

/-- A step of a sound machine is sound. -/
theorem step_sound {now : Configuration σ}
    {result : EStateM.Result RunFault (Configuration σ) Unit} (h : now.Sound program)
    (hstep : now.step? host = some result) : StepSound program host result := by
  obtain ⟨frames, tasks, state⟩ := now
  cases tasks with
  | nil => cases hstep
  | cons task tasks =>
      cases hstep
      exact perform_sound h.frames (fun task hmem => h.tasks task (List.mem_cons_of_mem _ hmem))
        (h.tasks task List.mem_cons_self)

/-- What a sound machine comes to is sound. -/
theorem steps_sound {first last : Configuration σ} {count : Nat} (h : first.Sound program)
    (hsteps : Steps host count first last) : last.Sound program := by
  induction hsteps with
  | refl => exact h
  | step hstep _ ih => exact ih (step_sound h hstep)

end

/-! ## Programs that have been parsed -/

/-- The frames are activations of a block of the program and of the blocks around it, innermost
first: each is one of a procedure that the block of the next one declares under the frame's name,
and the last is one of the program's own block. -/
inductive Enclosing (program : Program) : List Frame → Prop where
  | whole {frame} : frame.block = program.block → frame.parent = none → Enclosing program [frame]
  | inside {frame outer rest} :
      outer.block.procedures.lookup frame.name = some frame.block →
      Enclosing program (outer :: rest) → Enclosing program (frame :: outer :: rest)

/-- The frame holds the constants of its block, with their values, and its variables. -/
structure Frame.Holds (frame : Frame) : Prop where
  names : frame.values.map Prod.fst =
    frame.block.constants.map Prod.fst ++ frame.block.variableNames
  distinct : (frame.values.map Prod.fst).Nodup
  constants : ∀ constant ∈ frame.block.constants,
    frame.values.lookup constant.1 = some constant.2

/-- What holds whenever the program runs with this host from this state. In all that the machine
comes to, every frame stands inside the frames of the blocks around its own, and holds what its
block declares. A step fails by dividing by zero or as the host does, and so does the run, unless
the machine goes on for as many steps as the run has fuel. -/
structure RunsSoundly (program : Program) (host : Host σ) (state : σ) : Prop where
  live : ∀ now, Reaches host (.start program state) now → ∀ task ∈ now.tasks,
    task.2 < now.frames.length
  enclosing : ∀ now, Reaches host (.start program state) now → ∀ number < now.frames.length,
    Enclosing program ((now.frames.staticChain number).map now.frames.frame)
  holds : ∀ now, Reaches host (.start program state) now → ∀ number < now.frames.length,
    (now.frames.frame number).Holds
  steps : ∀ now, Reaches host (.start program state) now → ∀ fault after,
    now.step? host = some (.error fault after) → fault = .divisionByZero ∨ host.Raises fault
  run : ∀ fuel fault after, program.run host fuel state = .error fault after →
    (fault = .divisionByZero ∨ host.Raises fault) ∨
      fault = .outOfFuel ∧ ∃ count last, fuel ≤ count ∧
        Steps host count (.start program state) last

section

variable {frames : Frames} {number : Nat} {text : String}

/-- A sound frame stands inside those of the blocks around its own. -/
theorem Frames.Sound.enclosing (h : frames.Sound program) (hlt : number < frames.length) :
    Enclosing program ((frames.staticChain number).map frames.frame) := by
  induction number using h.linked.induct with
  | root number hparent =>
      rw [staticChain_root hparent]
      exact .whole (h.rooted number hlt hparent) hparent
  | inner number parent hparent ih =>
      have hrest := ih (Nat.lt_trans (h.linked number parent hparent) hlt)
      have hbody := h.nested number hlt parent hparent
      rw [staticChain_inner h.linked hparent, List.map_cons]
      cases hgrandparent : (frames.frame parent).parent with
      | none =>
          rw [staticChain_root hgrandparent] at hrest ⊢
          exact .inside hbody hrest
      | some grandparent =>
          rw [staticChain_inner h.linked hgrandparent] at hrest ⊢
          exact .inside hbody hrest

/-- A sound frame holds what its block declares. -/
theorem Frames.Sound.holds (h : frames.Sound program) (hlt : number < frames.length) :
    (frames.frame number).Holds := by
  obtain ⟨hsymbols, -, -, -⟩ := h.parsed number hlt
  have hnames := h.names number hlt
  refine ⟨?_, ?_, h.constants number hlt⟩
  · rw [hnames]
    simp [Block.symbols, Function.comp_def]
  · rw [hnames]
    exact hsymbols

/-- The machine is sound at the beginning of a program that has been parsed. -/
theorem start_sound (h : parseProgram text = .ok program) (state : σ) :
    (Configuration.start program state).Sound program := by
  obtain ⟨final, hfinal⟩ := parseProgram_ok_iff_program.1 h
  obtain ⟨hparsed, _, sentence, _, -, -, -, _, hderives, -⟩ := program_gives hfinal
  obtain ⟨hsymbols, -, -, -⟩ := id hparsed
  have hroot : ((Configuration.start program state).frames.frame 0).parent = none := rfl
  have hzero {number : Nat} (hlt : number < (Configuration.start program state).frames.length) :
      number = 0 := Nat.lt_one_iff.1 hlt
  refine ⟨⟨start_linked program state, ?_, ?_, ?_, ?_, ?_, ?_⟩, fun task hmem => ?_⟩
  · intro number hlt _
    cases hzero hlt
    rfl
  · intro number hlt parent hparent
    cases hzero hlt
    cases hparent
  · intro number hlt
    cases hzero hlt
    rw [around_root hroot]
    exact hparsed
  · intro number hlt
    cases hzero hlt
    exact hderives.known
  · intro number hlt
    cases hzero hlt
    exact Activation.start_names hsymbols
  · intro number hlt constant hmem
    cases hzero hlt
    exact Activation.start_constants hsymbols hmem
  · cases List.mem_singleton.1 hmem
    exact ⟨Nat.zero_lt_one, .refl⟩

/-- A program that has been parsed runs soundly, whatever its host does. -/
theorem parsed_runsSoundly (h : parseProgram text = .ok program) (host : Host σ) (state : σ) :
    RunsSoundly program host state := by
  have hsound {now : Configuration σ} (hreaches : Reaches host (.start program state) now) :
      now.Sound program := by
    obtain ⟨count, hsteps⟩ := hreaches
    exact steps_sound (start_sound h state) hsteps
  refine ⟨fun now hreaches task hmem => ((hsound hreaches).tasks task hmem).lt_length,
    fun now hreaches number hlt => (hsound hreaches).frames.enclosing hlt,
    fun now hreaches number hlt => (hsound hreaches).frames.holds hlt,
    fun now hreaches fault after hstep => step_sound (hsound hreaches) hstep,
    fun fuel fault after hrun => ?_⟩
  obtain ⟨last, failed, hreaches, hstep, -⟩ | houtOfFuel := Program.run_error hrun
  · exact .inl (step_sound (hsound hreaches) hstep)
  · exact .inr houtOfFuel

/-- A text whose procedure hides a constant by a variable of the same name. -/
def hidingText : String :=
  "CONST n = 1; VAR x; PROCEDURE p; VAR n; n := x; BEGIN CALL p; ! n / x END."

/-- A program that hides a constant runs soundly, although it divides by zero. -/
theorem parsed_runsSoundly_hiding : ∃ program, parseProgram hidingText = .ok program ∧
    RunsSoundly program (.ofTape 1) ⟨[], []⟩ := by
  have hok : (parseProgram hidingText).isOk = true := by decide +kernel
  cases hparse : parseProgram hidingText with
  | ok program => exact ⟨program, rfl, parsed_runsSoundly hparse _ _⟩
  | error fault =>
      rw [hparse] at hok
      cases hok

end

end Parlance.Pl0
