import Parlance.Pl0.Interpreter
import Parlance.Proofs.Ledger

/-!
# Frames

The run of a program, one statement after the other. The machine keeps every activation that it has
made as a frame, in the order in which they were made, and a frame refers to the frame of the block
around it by its number. What a statement can see is the chain of frames that starts at its own. The
steps take the operations on chains from the run itself, so that the two can be compared: the run
works on the chain that the statement at hand can see, and the machine on all frames at once.
-/

namespace Parlance.Pl0

/-- An activation with the name of the procedure that it runs, and the number of the frame of the
block around it. The frame of the program's own block has neither. -/
structure Frame extends Activation where
  name : String := ""
  parent : Option Nat := none
  deriving Repr, Inhabited

/-- What a frame keeps for good: all of it but the values of its names. -/
def Frame.label (frame : Frame) : Block × String × Option Nat × List String :=
  (frame.block, frame.name, frame.parent, frame.values.map Prod.fst)

/-- The frames that have been made, in order. -/
abbrev Frames := List Frame

namespace Frames

/-- The frame with this number. -/
def frame (frames : Frames) (number : Nat) : Frame := frames.getD number default

/-- The numbers of a frame and of the frames around it, innermost first. -/
def staticChain (frames : Frames) (number : Nat) : List Nat :=
  match (frames.frame number).parent with
  | none => [number]
  | some parent => if parent < number then number :: staticChain frames parent else [number]
termination_by number

/-- The chain that a statement in this frame can see. -/
def view (frames : Frames) (number : Nat) : Chain :=
  (frames.staticChain number).map fun number => (frames.frame number).toActivation

/-- The innermost frame in which the name has a value. -/
def holder? (frames : Frames) (number : Nat) (name : String) : Option Nat :=
  (frames.staticChain number).find? fun number =>
    ((frames.frame number).values.lookup name).isSome

/-- The innermost frame whose block declares the procedure, with the procedure's block. -/
def declarer? (frames : Frames) (number : Nat) (name : String) : Option (Nat × Block) :=
  (frames.staticChain number).findSome? fun number =>
    ((frames.frame number).block.procedures.lookup name).map fun body => (number, body)

/-- The frames in which a name of one of them has another value. -/
def put (frames : Frames) (number : Nat) (name : String) (value : Int) : Frames :=
  frames.modify number fun frame => { frame with values := Ledger.put frame.values name value }

/-- The frames and a new one for a procedure, with the frame of the block that declares it. -/
def add (frames : Frames) (name : String) (body : Block) (parent : Nat) : Frames :=
  frames ++ [{ toActivation := .start body, name, parent := some parent }]

end Frames

/-- A statement that is still to be run, and the number of its frame. -/
abbrev Task := Statement × Nat

/-- The frames, what is still to be run, and the state of the host. -/
structure Configuration (σ : Type) where
  frames : Frames
  tasks : List Task
  host : σ

/-- An action of the machine. -/
abbrev Action (σ : Type) := EStateM RunFault (Configuration σ)

namespace Action

variable {σ α : Type}

/-- Does what a run does that leaves its chain alone, on the chain that this frame can see. -/
def see (number : Nat) (operation : Run σ α) : Action σ α := fun now =>
  match operation ⟨now.frames.view number, now.host⟩ with
  | .ok value after => .ok value { now with host := after.host }
  | .error fault after => .error fault { now with host := after.host }

/-- Gives a name another value in the innermost frame that holds it. -/
def set (number : Nat) (name : String) (value : Int) : Action σ Unit := fun now =>
  match now.frames.holder? number name with
  | some holder => .ok () { now with frames := now.frames.put holder name value }
  | none => .error (.undefinedSymbol name) now

/-- Puts statements in front of those that are still to be run. -/
def push (statements : List Statement) (number : Nat) : Action σ Unit :=
  modify fun now => { now with tasks := statements.map (·, number) ++ now.tasks }

/-- Makes a frame for a procedure, whose statement comes next. -/
def enter (number : Nat) (name : String) : Action σ Unit := fun now =>
  match now.frames.declarer? number name with
  | some (parent, body) =>
    .ok () { now with
      frames := now.frames.add name body parent
      tasks := (body.statement, now.frames.length) :: now.tasks }
  | none => .error (.undefinedProcedure name) now

end Action

open Pl0.Action in
/-- Does the first thing that a statement does; what it leaves to be done is put in front. -/
def Statement.perform {σ : Type} (host : Host σ) (number : Nat) : Statement → Action σ Unit
  | assign name value => do set number name (← see number (Run.ofChain value.eval))
  | call name => enter number name
  | read name => do set number name (← see number (Run.ofHost host.read))
  | write value => see number do Run.ofHost (host.write (← Run.ofChain value.eval))
  | sequence statements => push statements number
  | ifThen condition inner => do
    if ← see number (Run.ofChain condition.eval) then push [inner] number
  | whileDo condition inner => do
    if ← see number (Run.ofChain condition.eval) then
      push [inner, .whileDo condition inner] number
  | empty => pure ()

namespace Configuration

variable {σ : Type}

/-- The machine at the beginning of a program. -/
def start (program : Program) (host : σ) : Configuration σ :=
  ⟨[{ toActivation := .start program.block }], [(program.block.statement, 0)], host⟩

/-- A step of the machine, as long as there is something to be run. -/
def step? (host : Host σ) (now : Configuration σ) :
    Option (EStateM.Result RunFault (Configuration σ) Unit) :=
  match now.tasks with
  | [] => none
  | (statement, number) :: tasks => some (statement.perform host number { now with tasks })

/-- The machine comes from one configuration to another by so many steps. -/
inductive Steps (host : Host σ) : Nat → Configuration σ → Configuration σ → Prop where
  | refl {now} : Steps host 0 now now
  | step {count first second last} : first.step? host = some (.ok () second) →
      Steps host count second last → Steps host (count + 1) first last

/-- The machine comes from one configuration to another. -/
def Reaches (host : Host σ) (first last : Configuration σ) : Prop :=
  ∃ count, Steps host count first last

/-- What the machine comes to by so many steps, if none of them fails. -/
def after? (host : Host σ) : Nat → Configuration σ → Option (Configuration σ)
  | 0, now => some now
  | count + 1, now =>
    match now.step? host with
    | some (.ok () next) => next.after? host count
    | _ => none

/-- What the machine comes to by so many steps can be computed. -/
theorem after?_eq_some_iff {count : Nat} {first last : Configuration σ} {host : Host σ} :
    first.after? host count = some last ↔ Steps host count first last := by
  constructor
  · intro h
    induction count generalizing first with
    | zero =>
        cases h
        exact .refl
    | succ count ih =>
        unfold after? at h
        split at h
        · rename_i next hstep
          exact .step hstep (ih h)
        · cases h
  · intro h
    induction h with
    | refl => rfl
    | step hstep _ ih =>
        rw [after?, hstep]
        exact ih

/-- The procedure that is to be called next, and the frame of the call. -/
def calling? (now : Configuration σ) : Option (String × Nat) :=
  match now.tasks with
  | (.call name, number) :: _ => some (name, number)
  | _ => none

/-- A call is what is to be run next where a procedure is to be called. -/
theorem tasks_of_calling? {now : Configuration σ} {name : String} {number : Nat}
    (hcall : now.calling? = some (name, number)) :
    now.tasks = (.call name, number) :: now.tasks.tail := by
  obtain ⟨frames, tasks, current⟩ := now
  unfold calling? at hcall
  split at hcall
  · rename_i rest htasks
    cases hcall
    subst htasks
    rfl
  · cases hcall

/-- A call makes a frame for the body that the innermost frame declares, and goes on with it. -/
theorem step?_of_calling? {host : Host σ} {now : Configuration σ} {name : String}
    {number declarer : Nat} {body : Block} (hcall : now.calling? = some (name, number))
    (hdeclarer : now.frames.declarer? number name = some (declarer, body)) :
    now.step? host = some (.ok () ⟨now.frames.add name body declarer,
      (body.statement, now.frames.length) :: now.tasks.tail, now.host⟩) := by
  rw [step?, tasks_of_calling? hcall]
  simp only [Statement.perform, Action.enter, hdeclarer, List.tail_cons]

end Configuration

/-! ## Looking and asking -/

namespace Action

variable {σ α : Type}

/-- The machine asks the chain that a frame sees. -/
theorem see_ofChain (number : Nat) (question : Chain → Except RunFault α) (now : Configuration σ) :
    see number (Run.ofChain question) now =
      match question (now.frames.view number) with
      | .ok value => .ok value now
      | .error fault => .error fault now := by
  unfold see Run.ofChain
  cases question (now.frames.view number) <;> rfl

/-- The machine lets the host do what a run lets it do. -/
theorem see_ofHost (number : Nat) (operation : EStateM RunFault σ α) (now : Configuration σ) :
    see number (Run.ofHost operation) now =
      match operation now.host with
      | .ok value host => .ok value { now with host }
      | .error fault host => .error fault { now with host } := by
  unfold see Run.ofHost
  cases operation now.host <;> rfl

end Action

/-! ## Static chains -/

namespace Frames

variable {frames later : Frames} {number other holder parent : Nat} {name : String} {value : Int}
  {body : Block}

/-- Every frame has been made after the frame of the block around it. -/
def Linked (frames : Frames) : Prop :=
  ∀ number parent, (frames.frame number).parent = some parent → parent < number

/-- What holds of frames without a parent, and of a frame if it holds of its parent, holds of all.
-/
theorem Linked.induct (hlinked : frames.Linked) {motive : Nat → Prop}
    (root : ∀ number, (frames.frame number).parent = none → motive number)
    (inner : ∀ number parent, (frames.frame number).parent = some parent → motive parent →
      motive number) (number : Nat) : motive number := by
  induction number using Nat.strongRecOn with
  | ind number ih =>
      cases hparent : (frames.frame number).parent with
      | none => exact root number hparent
      | some parent => exact inner number parent hparent (ih parent (hlinked number parent hparent))

/-- The chain of a frame without a parent. -/
theorem staticChain_root (h : (frames.frame number).parent = none) :
    frames.staticChain number = [number] := by
  rw [staticChain]
  simp only [h]

/-- The chain of a frame with a parent. -/
theorem staticChain_inner (hlinked : frames.Linked)
    (h : (frames.frame number).parent = some parent) :
    frames.staticChain number = number :: frames.staticChain parent := by
  rw [staticChain]
  simp only [h]
  exact if_pos (hlinked number parent h)

/-- The frames of a chain have been made one after the other. -/
theorem le_of_mem_staticChain (hlinked : frames.Linked) (hmem : other ∈ frames.staticChain number) :
    other ≤ number := by
  induction number using hlinked.induct with
  | root number hparent =>
      rw [staticChain_root hparent, List.mem_singleton] at hmem
      exact Nat.le_of_eq hmem
  | inner number parent hparent ih =>
      rw [staticChain_inner hlinked hparent, List.mem_cons] at hmem
      have hlt := hlinked number parent hparent
      rcases hmem with rfl | hmem
      · exact Nat.le_refl _
      · exact Nat.le_trans (ih hmem) (Nat.le_of_lt hlt)

/-- A frame is in no chain of a frame made before it. -/
theorem not_mem_staticChain (hlinked : frames.Linked) (hlt : number < other) :
    other ∉ frames.staticChain number :=
  fun hmem => Nat.not_le_of_lt hlt (le_of_mem_staticChain hlinked hmem)

/-- No frame is on a chain twice. -/
theorem staticChain_nodup (hlinked : frames.Linked) (number : Nat) :
    (frames.staticChain number).Nodup := by
  induction number using hlinked.induct with
  | root number hparent => simp [staticChain_root hparent]
  | inner number parent hparent ih =>
      rw [staticChain_inner hlinked hparent, List.nodup_cons]
      exact ⟨not_mem_staticChain hlinked (hlinked number parent hparent), ih⟩

/-- What a frame of a chain sees is part of the chain. -/
theorem staticChain_subset (hlinked : frames.Linked) (hmem : other ∈ frames.staticChain number) :
    frames.staticChain other ⊆ frames.staticChain number := by
  induction number using hlinked.induct with
  | root number hparent =>
      rw [staticChain_root hparent, List.mem_singleton] at hmem
      rw [hmem]
      exact List.Subset.refl _
  | inner number parent hparent ih =>
      rw [staticChain_inner hlinked hparent, List.mem_cons] at hmem
      rcases hmem with rfl | hmem
      · exact List.Subset.refl _
      · rw [staticChain_inner hlinked hparent]
        exact List.subset_cons_of_subset _ (ih hmem)

/-- A chain is given by the parents of its frames. -/
theorem staticChain_congr (hlinked : frames.Linked) (hlater : later.Linked)
    (h : ∀ other ≤ number, (later.frame other).parent = (frames.frame other).parent) :
    later.staticChain number = frames.staticChain number := by
  induction number using hlinked.induct with
  | root number hparent =>
      have hsame := (h number (Nat.le_refl _)).trans hparent
      rw [staticChain_root hparent, staticChain_root hsame]
  | inner number parent hparent ih =>
      have hsame := (h number (Nat.le_refl _)).trans hparent
      have hlt := hlinked number parent hparent
      rw [staticChain_inner hlinked hparent, staticChain_inner hlater hsame,
        ih fun other hle => h other (Nat.le_trans hle (Nat.le_of_lt hlt))]

/-- What is seen is given by the frames of the chain. -/
theorem view_congr (hchain : later.staticChain number = frames.staticChain number)
    (h : ∀ other ∈ frames.staticChain number, later.frame other = frames.frame other) :
    later.view number = frames.view number := by
  unfold view
  rw [hchain]
  exact List.map_congr_left fun other hmem => by rw [h other hmem]

/-- What a frame without a parent sees. -/
theorem view_root (h : (frames.frame number).parent = none) :
    frames.view number = [(frames.frame number).toActivation] := by
  rw [view, staticChain_root h, List.map_singleton]

/-- What a frame with a parent sees. -/
theorem view_inner (hlinked : frames.Linked) (h : (frames.frame number).parent = some parent) :
    frames.view number = (frames.frame number).toActivation :: frames.view parent := by
  rw [view, staticChain_inner hlinked h, List.map_cons]
  rfl

/-! ## Other values and more frames -/

/-- A frame with another value for a name. -/
theorem put_frame_self (h : number < frames.length) :
    (frames.put number name value).frame number =
      { frames.frame number with
        values := Ledger.put (frames.frame number).values name value } := by
  simp [put, frame, List.getD_eq_getElem?_getD, h]

/-- Other frames keep their values. -/
theorem put_frame_of_ne (h : other ≠ number) :
    (frames.put number name value).frame other = frames.frame other := by
  simp [put, frame, List.getD_eq_getElem?_getD, Ne.symm h]

/-- Another value is no other parent. -/
@[simp] theorem put_frame_parent :
    ((frames.put number name value).frame other).parent = (frames.frame other).parent := by
  by_cases hother : other = number
  · subst hother
    by_cases hlt : other < frames.length
    · rw [put_frame_self hlt]
    · simp [put, frame, List.getD_eq_getElem?_getD, hlt]
  · rw [put_frame_of_ne hother]

/-- No frame is lost by another value. -/
@[simp] theorem put_length : (frames.put number name value).length = frames.length := by
  simp [put]

/-- The frames before a new one stay. -/
theorem add_frame_of_lt (h : other < frames.length) :
    (frames.add name body parent).frame other = frames.frame other := by
  simp [add, frame, List.getD_eq_getElem?_getD, List.getElem?_append_left h]

/-- The new frame is the last one. -/
@[simp] theorem add_frame_length :
    (frames.add name body parent).frame frames.length =
      { toActivation := .start body, name, parent := some parent } := by
  simp [add, frame, List.getD_eq_getElem?_getD]

/-- There is one frame more. -/
@[simp] theorem add_length : (frames.add name body parent).length = frames.length + 1 := by
  simp [add]

/-- Frames with another value have been made in the same order. -/
theorem Linked.put (hlinked : frames.Linked) : (frames.put number name value).Linked := by
  intro other parent h
  rw [put_frame_parent] at h
  exact hlinked other parent h

/-- A frame that refers to one that is there is made after it. -/
theorem Linked.add (hlinked : frames.Linked) (hparent : parent < frames.length) :
    (frames.add name body parent).Linked := by
  intro other grandparent h
  rcases Nat.lt_trichotomy other frames.length with hlt | rfl | hgt
  · rw [add_frame_of_lt hlt] at h
    exact hlinked other grandparent h
  · rw [add_frame_length, Option.some.injEq] at h
    exact h ▸ hparent
  · have hnone : (frames.add name body parent).frame other = default := by
      rw [frame, List.getD_eq_getElem?_getD, List.getElem?_eq_none (by simp; omega)]
      rfl
    rw [hnone] at h
    cases h

/-- The chains of the frames before a new one stay. -/
theorem add_staticChain (hlinked : frames.Linked) (hparent : parent < frames.length)
    (hlt : number < frames.length) :
    (frames.add name body parent).staticChain number = frames.staticChain number :=
  staticChain_congr hlinked (hlinked.add hparent) fun other hle => by
    rw [add_frame_of_lt (Nat.lt_of_le_of_lt hle hlt)]

/-- The chain of a new frame goes on with that of its parent. -/
theorem add_staticChain_length (hlinked : frames.Linked) (hparent : parent < frames.length) :
    (frames.add name body parent).staticChain frames.length =
      frames.length :: frames.staticChain parent := by
  have hnew : ((frames.add name body parent).frame frames.length).parent = some parent := by simp
  rw [staticChain_inner (hlinked.add hparent) hnew, add_staticChain hlinked hparent hparent]

/-- A new frame sees the beginning of its block, and what its parent sees. -/
theorem add_view_length (hlinked : frames.Linked) (hparent : parent < frames.length) :
    (frames.add name body parent).view frames.length = .start body :: frames.view parent := by
  rw [view, add_staticChain_length hlinked hparent, List.map_cons, add_frame_length, view]
  refine congrArg _ (List.map_congr_left fun other hmem => ?_)
  rw [add_frame_of_lt (Nat.lt_of_le_of_lt (le_of_mem_staticChain hlinked hmem) hparent)]

/-- Other values make no other chains. -/
theorem put_staticChain (hlinked : frames.Linked) :
    (frames.put other name value).staticChain number = frames.staticChain number :=
  staticChain_congr hlinked hlinked.put fun _ _ => put_frame_parent

/-! ## Looking for names -/

/-- Looking for a name in a frame without a parent. -/
theorem holder?_root (h : (frames.frame number).parent = none) :
    frames.holder? number name =
      if ((frames.frame number).values.lookup name).isSome then some number else none := by
  rw [holder?, staticChain_root h, List.find?_singleton]

/-- Looking for a name in a frame with a parent. -/
theorem holder?_inner (hlinked : frames.Linked) (h : (frames.frame number).parent = some parent) :
    frames.holder? number name =
      if ((frames.frame number).values.lookup name).isSome then some number
      else frames.holder? parent name := by
  rw [holder?, staticChain_inner hlinked h, List.find?_cons, holder?]
  cases ((frames.frame number).values.lookup name).isSome <;> rfl

/-- The frame in which a name is found is on the chain. -/
theorem holder?_mem (h : frames.holder? number name = some holder) :
    holder ∈ frames.staticChain number :=
  List.mem_of_find?_eq_some h

/-- The frame in which a name is found has a value for it. -/
theorem holder?_holds (h : frames.holder? number name = some holder) :
    ((frames.frame holder).values.lookup name).isSome = true := by
  have hfound := List.find?_some (p := fun number =>
    ((frames.frame number).values.lookup name).isSome) h
  exact hfound

/-- Giving a name another value in the frame that holds it does to what is seen what giving it
another value there does. -/
theorem set?_view (hlinked : frames.Linked) (hlt : number < frames.length) :
    (frames.view number).set? name value =
      (frames.holder? number name).map fun holder =>
        (frames.put holder name value).view number := by
  induction number using hlinked.induct with
  | root number hparent =>
      have hparent' {holder : Nat} :
          ((frames.put holder name value).frame number).parent = none :=
        put_frame_parent.trans hparent
      rw [view_root hparent, holder?_root hparent, Chain.set?]
      split
      · rw [Option.map_some, view_root hparent', put_frame_self hlt]
      · rfl
  | inner number parent hparent ih =>
      have hless := hlinked number parent hparent
      have hparent' {holder : Nat} :
          ((frames.put holder name value).frame number).parent = some parent :=
        put_frame_parent.trans hparent
      rw [view_inner hlinked hparent, holder?_inner hlinked hparent, Chain.set?]
      split
      -- The frame itself holds the name, and is not on the chain of its parent.
      · have hrest : (frames.put number name value).view parent = frames.view parent :=
          view_congr (put_staticChain hlinked) fun other hmem =>
            put_frame_of_ne fun heq => not_mem_staticChain hlinked hless (heq ▸ hmem)
        rw [Option.map_some, view_inner hlinked.put hparent', put_frame_self hlt, hrest]
      · rw [ih (Nat.lt_trans hless hlt), Option.map_map]
        refine Option.map_congr fun holder hholder => ?_
        have hle := le_of_mem_staticChain hlinked (holder?_mem hholder)
        rw [view_inner hlinked.put hparent', put_frame_of_ne (by omega)]
        rfl

/-- Looking for a procedure in a frame without a parent. -/
theorem declarer?_root (h : (frames.frame number).parent = none) :
    frames.declarer? number name =
      ((frames.frame number).block.procedures.lookup name).map fun body => (number, body) := by
  rw [declarer?, staticChain_root h, List.findSome?_cons]
  cases (frames.frame number).block.procedures.lookup name <;> rfl

/-- Looking for a procedure in a frame with a parent. -/
theorem declarer?_inner (hlinked : frames.Linked) (h : (frames.frame number).parent = some parent) :
    frames.declarer? number name =
      (((frames.frame number).block.procedures.lookup name).map fun body => (number, body)).or
        (frames.declarer? parent name) := by
  rw [declarer?, staticChain_inner hlinked h, List.findSome?_cons, declarer?]
  cases (frames.frame number).block.procedures.lookup name <;> rfl

/-- The frame that declares a procedure is on the chain, and its block declares the procedure with
that body. -/
theorem declarer?_spec (h : frames.declarer? number name = some (parent, body)) :
    parent ∈ frames.staticChain number ∧
      (frames.frame parent).block.procedures.lookup name = some body := by
  obtain ⟨other, hmem, hother⟩ := List.exists_of_findSome?_eq_some h
  rw [Option.map_eq_some_iff] at hother
  obtain ⟨found, hfound, heq⟩ := hother
  cases heq
  exact ⟨hmem, hfound⟩

/-- What is seen is split where the procedure is found: before what the frame that declares it
sees. -/
theorem splitAtProcedure?_view (hlinked : frames.Linked) (number : Nat) (name : String) :
    match frames.declarer? number name with
    | none => (frames.view number).splitAtProcedure? name = none
    | some (declarer, body) => ∃ inner, frames.staticChain number =
        inner ++ frames.staticChain declarer ∧
        (frames.view number).splitAtProcedure? name =
          some (inner.map fun number => (frames.frame number).toActivation, body,
            frames.view declarer) := by
  induction number using hlinked.induct with
  | root number hparent =>
      rw [declarer?_root hparent, view_root hparent, Chain.splitAtProcedure?]
      cases (frames.frame number).block.procedures.lookup name with
      | none => rfl
      | some body => exact ⟨[], rfl, by rw [view_root hparent]; rfl⟩
  | inner number parent hparent ih =>
      rw [declarer?_inner hlinked hparent, view_inner hlinked hparent, Chain.splitAtProcedure?]
      cases (frames.frame number).block.procedures.lookup name with
      | none =>
          cases hdeclarer : frames.declarer? parent name with
          | none =>
              rw [hdeclarer] at ih
              simp [ih]
          | some found =>
              obtain ⟨declarer, body⟩ := found
              rw [hdeclarer] at ih
              obtain ⟨inner, hchain, hsplit⟩ := ih
              refine ⟨number :: inner, ?_, ?_⟩
              · rw [staticChain_inner hlinked hparent, hchain, List.cons_append]
              · simp [hsplit]
      | some body => exact ⟨[], rfl, by rw [view_inner hlinked hparent]; rfl⟩

/-! ## What becomes of frames -/

/-- More frames have been made, and names of some frames have been given other values. -/
structure Follows (touched : List Nat) (frames later : Frames) : Prop where
  linked : later.Linked
  length_le : frames.length ≤ later.length
  label : ∀ number < frames.length, (later.frame number).label = (frames.frame number).label
  untouched : ∀ number < frames.length, number ∉ touched →
    later.frame number = frames.frame number

namespace Follows

variable {touched more : List Nat} {middle : Frames}

/-- Frames become what they are if nothing happens. -/
theorem refl (hlinked : frames.Linked) : Follows touched frames frames :=
  ⟨hlinked, Nat.le_refl _, fun _ _ => rfl, fun _ _ _ => rfl⟩

/-- What becomes of what has become of frames has become of them, if of those that were there at
the beginning none is touched later that may not be touched at all. -/
theorem trans_of (hfirst : Follows touched frames middle) (hsecond : Follows more middle later)
    (hmore : ∀ number ∈ more, number < frames.length → number ∈ touched) :
    Follows touched frames later where
  linked := hsecond.linked
  length_le := Nat.le_trans hfirst.length_le hsecond.length_le
  label := fun number hlt =>
    (hsecond.label number (Nat.lt_of_lt_of_le hlt hfirst.length_le)).trans (hfirst.label number hlt)
  untouched := fun number hlt hnot =>
    (hsecond.untouched number (Nat.lt_of_lt_of_le hlt hfirst.length_le)
      fun hmem => hnot (hmore number hmem hlt)).trans (hfirst.untouched number hlt hnot)

/-- What becomes of what has become of frames has become of them. -/
theorem trans (hfirst : Follows touched frames middle) (hsecond : Follows touched middle later) :
    Follows touched frames later :=
  hfirst.trans_of hsecond fun _ hmem _ => hmem

/-- Parents stay. -/
theorem parent_eq (h : Follows touched frames later) (hlt : number < frames.length) :
    (later.frame number).parent = (frames.frame number).parent :=
  congrArg (fun label => label.2.2.1) (h.label number hlt)

/-- Blocks stay. -/
theorem block_eq (h : Follows touched frames later) (hlt : number < frames.length) :
    (later.frame number).block = (frames.frame number).block :=
  congrArg (fun label => label.1) (h.label number hlt)

/-- Chains stay. -/
theorem staticChain_eq (h : Follows touched frames later) (hlinked : frames.Linked)
    (hlt : number < frames.length) : later.staticChain number = frames.staticChain number :=
  staticChain_congr hlinked h.linked fun _ hle => h.parent_eq (Nat.lt_of_le_of_lt hle hlt)

end Follows

/-- A name that is held may be given another value. -/
theorem follows_put {touched : List Nat} (hlinked : frames.Linked) (hlt : number < frames.length)
    (hholder : frames.holder? number name = some holder) (hmem : holder ∈ touched) :
    Follows touched frames (frames.put holder name value) := by
  have hheld := holder?_holds hholder
  have hle := le_of_mem_staticChain hlinked (holder?_mem hholder)
  refine ⟨hlinked.put, Nat.le_of_eq put_length.symm, fun other _ => ?_, fun other _ hnot => ?_⟩
  · by_cases heq : other = holder
    · subst heq
      rw [put_frame_self (Nat.lt_of_le_of_lt hle hlt)]
      simp [Frame.label, Ledger.put_names hheld]
    · rw [put_frame_of_ne heq]
  · exact put_frame_of_ne fun heq => hnot (heq ▸ hmem)

/-- A frame may be added for a procedure of one that is there. -/
theorem follows_add {touched : List Nat} (hlinked : frames.Linked)
    (hparent : parent < frames.length) : Follows touched frames (frames.add name body parent) :=
  ⟨hlinked.add hparent, by simp, fun _ hlt => by rw [add_frame_of_lt hlt],
    fun _ hlt _ => add_frame_of_lt hlt⟩

end Frames

end Parlance.Pl0
