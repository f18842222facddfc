import Parlance.Proofs.Pl0.Soundness

/-!
# What a call touches

A called block works on a new frame and on those that the frame of the declaring block sees, and so
does all that it calls in turn: the chain of every frame that is made during the call goes on with
new frames until it comes to this part of the old ones. So a call leaves all other frames alone,
and among them the frame of the caller, unless the procedure is one of the caller's own.

The invariant is kept by single steps of the machine. A call of a run is what the machine does until
the tasks that waited behind the call come next.
-/

namespace Parlance.Pl0

open Frames Pl0.Action Pl0.Configuration

variable {σ : Type} {host : Host σ} {state : σ} {program : Program} {text : String}

/-! ## What a step touches -/

/-- Of the first so many frames the task sees only those of a chain. -/
structure Task.Confined (bound : Nat) (chain : List Nat) (frames : Frames) (task : Task) :
    Prop where
  lt_length : task.2 < frames.length
  mem : ∀ other ∈ frames.staticChain task.2, other < bound → other ∈ chain

/-- What a statement comes to in a frame. It may give values to names of the frames that it sees,
and what it leaves to be done sees no others of the frames that were there before. -/
def Touches (frames : Frames) (number : Nat) (tasks : List Task) :
    EStateM.Result RunFault (Configuration σ) Unit → Prop
  | .ok _ after => Follows (frames.staticChain number) frames after.frames ∧
      ∃ above, after.tasks = above ++ tasks ∧
        ∀ task ∈ above, task.Confined frames.length (frames.staticChain number) after.frames
  | .error _ after => after.frames = frames

section

variable {frames : Frames} {tasks : List Task} {number : Nat} {name : String}

/-- What is left to be done in the frame itself sees what the statement has seen. -/
theorem confined_self (hlt : number < frames.length) (statement : Statement) :
    Task.Confined frames.length (frames.staticChain number) frames (statement, number) :=
  ⟨hlt, fun _ hmem _ => hmem⟩

/-- Looking touches nothing. -/
theorem see_touches (operation : Run σ Unit) (hlinked : frames.Linked) :
    Touches frames number tasks (see number operation ⟨frames, tasks, state⟩) := by
  unfold see
  cases operation ⟨frames.view number, state⟩ with
  | ok value after => exact ⟨.refl hlinked, [], rfl, fun task hmem => (List.not_mem_nil hmem).elim⟩
  | error fault after => rfl

/-- Giving a name a value touches the frame that holds it. -/
theorem set_touches (operation : Run σ Int) (hlinked : frames.Linked)
    (hlt : number < frames.length) :
    Touches frames number tasks
      ((see number operation >>= set number name) ⟨frames, tasks, state⟩) := by
  rw [Rule.bind_apply, see]
  cases operation ⟨frames.view number, state⟩ with
  | ok value after =>
      simp only [Action.set]
      cases hholder : frames.holder? number name with
      | none => rfl
      | some holder =>
          exact ⟨follows_put hlinked hlt hholder (holder?_mem hholder), [], rfl,
            fun task hmem => (List.not_mem_nil hmem).elim⟩
  | error fault after => rfl

/-- Putting statements in front touches nothing. -/
theorem push_touches (statements : List Statement) (hlinked : frames.Linked)
    (hlt : number < frames.length) :
    Touches frames number tasks (push statements number ⟨frames, tasks, state⟩) := by
  refine ⟨.refl hlinked, statements.map (·, number), rfl, fun task hmem => ?_⟩
  obtain ⟨statement, -, rfl⟩ := List.mem_map.1 hmem
  exact confined_self hlt statement

/-- Putting statements in front under a condition touches nothing. -/
theorem if_touches (condition : Condition) (statements : List Statement) (hlinked : frames.Linked)
    (hlt : number < frames.length) :
    Touches frames number tasks ((do
      if ← see number (Run.ofChain condition.eval) then push statements number : Action σ Unit)
        ⟨frames, tasks, state⟩) := by
  rw [Rule.bind_apply, see_ofChain]
  cases condition.eval (frames.view number) with
  | ok holds =>
      cases holds with
      | true => exact push_touches statements hlinked hlt
      | false => exact ⟨.refl hlinked, [], rfl, fun task hmem => (List.not_mem_nil hmem).elim⟩
  | error fault => rfl

/-- The frame of a called block sees, of those before it, what the declaring frame sees. -/
theorem confined_add {parent : Nat} {body : Block} (hlinked : frames.Linked)
    (hparent : parent < frames.length) :
    Task.Confined frames.length (frames.staticChain parent) (frames.add name body parent)
      (body.statement, frames.length) := by
  refine ⟨by simp, fun other hmem hlt => ?_⟩
  rw [add_staticChain_length hlinked hparent, List.mem_cons] at hmem
  exact hmem.resolve_left (Nat.ne_of_lt hlt)

/-- A call makes a frame and touches none. -/
theorem enter_touches (hlinked : frames.Linked) (hlt : number < frames.length) :
    Touches frames number tasks (enter number name ⟨frames, tasks, state⟩) := by
  unfold enter
  cases hdeclarer : frames.declarer? number name with
  | none => rfl
  | some found =>
      obtain ⟨parent, body⟩ := found
      have hmem := (declarer?_spec hdeclarer).1
      have hparent := Nat.lt_of_le_of_lt (le_of_mem_staticChain hlinked hmem) hlt
      have hconfined : Task.Confined frames.length (frames.staticChain parent)
          (frames.add name body parent) (body.statement, frames.length) :=
        confined_add hlinked hparent
      refine ⟨follows_add hlinked hparent, [(body.statement, frames.length)], rfl,
        fun task htask => ?_⟩
      cases List.mem_singleton.1 htask
      exact ⟨hconfined.lt_length, fun other hother hbefore =>
        staticChain_subset hlinked hmem (hconfined.mem other hother hbefore)⟩

/-- A statement touches only what it sees. -/
theorem perform_touches (statement : Statement) (hlinked : frames.Linked)
    (hlt : number < frames.length) :
    Touches frames number tasks (statement.perform host number ⟨frames, tasks, state⟩) := by
  cases statement with
  | assign name value => exact set_touches _ hlinked hlt
  | call name => exact enter_touches hlinked hlt
  | read name => exact set_touches _ hlinked hlt
  | write value => exact see_touches _ hlinked
  | sequence statements => exact push_touches statements hlinked hlt
  | ifThen condition inner => exact if_touches condition [inner] hlinked hlt
  | whileDo condition inner =>
      exact if_touches condition [inner, .whileDo condition inner] hlinked hlt
  | empty => exact ⟨.refl hlinked, [], rfl, fun task hmem => (List.not_mem_nil hmem).elim⟩

end

/-! ## What happens during a call -/

/-- The machine comes from one configuration to another, and all the time there is something to be
done before the tasks that wait. -/
inductive During (host : Host σ) (waiting : List Task) : Configuration σ → Configuration σ → Prop
    where
  | refl {now} : During host waiting now now
  | step {first second last task above} : first.tasks = task :: above ++ waiting →
      first.step? host = some (.ok () second) → During host waiting second last →
      During host waiting first last

/-- What the call that comes next ends with, and the fault if it fails: the tasks that have waited
behind it come next, or something that is done before them fails. -/
inductive CallEnds (host : Host σ) (now : Configuration σ) :
    Option RunFault → Configuration σ → Prop where
  | returns {last} : During host now.tasks.tail now last → last.tasks = now.tasks.tail →
      CallEnds host now none last
  | fails {last task above fault after} : During host now.tasks.tail now last →
      last.tasks = task :: above ++ now.tasks.tail →
      last.step? host = some (.error fault after) → CallEnds host now (some fault) after

/-- During a call, of the frames that were there at its beginning only those of a chain have got
other values, and what is to be done before the tasks that wait sees only those of them. -/
structure Calling (entry : Frames) (chain : List Nat) (waiting : List Task)
    (now : Configuration σ) : Prop where
  follows : Follows chain entry now.frames
  tasks : ∃ above, now.tasks = above ++ waiting ∧
    ∀ task ∈ above, task.Confined entry.length chain now.frames

/-- What a step during a call comes to: more of the call, or a failure with frames of which again
only those of the chain have got other values. -/
def StepCalling (entry : Frames) (chain : List Nat) (waiting : List Task) :
    EStateM.Result RunFault (Configuration σ) Unit → Prop
  | .ok _ after => Calling entry chain waiting after
  | .error _ after => Follows chain entry after.frames

section

variable {entry frames later : Frames} {chain touched : List Nat} {waiting above : List Task}
  {now last : Configuration σ} {task : Task} {bound : Nat}

/-- What sees only some of the frames does so when these have got other values. -/
theorem Task.Confined.follows (h : task.Confined bound chain frames) (hlinked : frames.Linked)
    (hfollows : Follows touched frames later) : task.Confined bound chain later := by
  refine ⟨Nat.lt_of_lt_of_le h.lt_length hfollows.length_le, fun other hmem hlt => ?_⟩
  rw [hfollows.staticChain_eq hlinked h.lt_length] at hmem
  exact h.mem other hmem hlt

/-- A step of a call touches no frame that was there at its beginning and is not of the chain. -/
theorem Calling.perform (hfollows : Follows chain entry frames)
    (hconfined : ∀ other ∈ task :: above, other.Confined entry.length chain frames) :
    StepCalling entry chain waiting
      (task.1.perform host task.2 ⟨frames, above ++ waiting, state⟩) := by
  have htask := hconfined task List.mem_cons_self
  have htouches : Touches frames task.2 (above ++ waiting)
      (task.1.perform host task.2 ⟨frames, above ++ waiting, state⟩) :=
    perform_touches task.1 hfollows.linked htask.lt_length
  cases hresult : task.1.perform host task.2 ⟨frames, above ++ waiting, state⟩ with
  | error fault after =>
      rw [hresult] at htouches
      show Follows chain entry after.frames
      rw [htouches]
      exact hfollows
  | ok value after =>
      rw [hresult] at htouches
      obtain ⟨hstep, new, hnew, hsees⟩ := htouches
      refine ⟨hfollows.trans_of hstep htask.mem, new ++ above, by rw [hnew, List.append_assoc],
        fun other hmem => ?_⟩
      rcases List.mem_append.1 hmem with hmem | hmem
      -- What is new sees what the task has seen, and what was to be done sees what it saw.
      · have hother := hsees other hmem
        refine ⟨hother.lt_length, fun seen hseen hlt => ?_⟩
        exact htask.mem seen (hother.mem seen hseen (Nat.lt_of_lt_of_le hlt hfollows.length_le)) hlt
      · exact (hconfined other (List.mem_cons_of_mem _ hmem)).follows hfollows.linked hstep

/-- A step of a call is followed by more of the call, or fails. -/
theorem Calling.step {result : EStateM.Result RunFault (Configuration σ) Unit}
    (h : Calling entry chain waiting now) (htasks : now.tasks = task :: above ++ waiting)
    (hstep : now.step? host = some result) : StepCalling entry chain waiting result := by
  obtain ⟨frames, tasks, state⟩ := now
  obtain ⟨hfollows, _, hsplit, hconfined⟩ := h
  obtain rfl := List.append_cancel_right (hsplit.symm.trans htasks)
  obtain rfl : tasks = task :: above ++ waiting := htasks
  cases hstep
  exact Calling.perform hfollows hconfined

/-- All that is done during a call leaves the frames alone that were there at its beginning and are
not of the chain. -/
theorem Calling.during (h : Calling entry chain waiting now)
    (hduring : During host waiting now last) : Calling entry chain waiting last := by
  induction hduring with
  | refl => exact h
  | step htasks hstep _ ih => exact ih (h.step htasks hstep)

/-- A call touches only what the frame of the declaring block sees. -/
theorem CallEnds.follows {name : String} {number declarer : Nat} {body : Block}
    {fault? : Option RunFault} (hlinked : now.frames.Linked) (hlt : number < now.frames.length)
    (hcall : now.calling? = some (name, number))
    (hdeclarer : now.frames.declarer? number name = some (declarer, body))
    (hends : CallEnds host now fault? last) :
    Follows (now.frames.staticChain declarer) now.frames last.frames := by
  have hmem := (declarer?_spec hdeclarer).1
  have hparent := Nat.lt_of_le_of_lt (le_of_mem_staticChain hlinked hmem) hlt
  have hstep : now.step? host = some (.ok () ⟨now.frames.add name body declarer,
      (body.statement, now.frames.length) :: now.tasks.tail, now.host⟩) :=
    step?_of_calling? hcall hdeclarer
  -- Before the call there is nothing that ends; its first step makes the frame.
  have hcalling {later : Configuration σ} (hduring : During host now.tasks.tail now later) :
      later = now ∨
        Calling now.frames (now.frames.staticChain declarer) now.tasks.tail later := by
    cases hduring with
    | refl => exact .inl rfl
    | step _ hsecond hrest =>
        cases hstep.symm.trans hsecond
        refine .inr (Calling.during ⟨follows_add hlinked hparent, [_], rfl, ?_⟩ hrest)
        rw [List.forall_mem_singleton]
        exact confined_add hlinked hparent
  cases hends with
  | returns hduring htasks =>
      obtain rfl | h := hcalling hduring
      · rw [tasks_of_calling? hcall] at htasks
        exact (List.cons_ne_self _ _ htasks).elim
      · exact h.follows
  | fails hduring htasks hfails =>
      obtain rfl | h := hcalling hduring
      · cases hstep.symm.trans hfails
      · exact h.step htasks hfails

end

/-! ## A call of a run -/

/-- The configuration with more tasks that wait behind all the others. -/
def Configuration.before (now : Configuration σ) (waiting : List Task) : Configuration σ :=
  { now with tasks := now.tasks ++ waiting }

/-- What an action comes to, with more tasks that wait behind all the others. -/
def resultBefore {α : Type} (waiting : List Task) :
    EStateM.Result RunFault (Configuration σ) α → EStateM.Result RunFault (Configuration σ) α
  | .ok value after => .ok value (after.before waiting)
  | .error fault after => .error fault (after.before waiting)

/-- An action does the same whatever waits behind the tasks. -/
def KeepsWaiting {α : Type} (action : Action σ α) : Prop :=
  ∀ now waiting, action (now.before waiting) = resultBefore waiting (action now)

section

variable {α β : Type} {number : Nat}

/-- One action after another does the same whatever waits, if both do. -/
theorem KeepsWaiting.bind {first : Action σ α} {next : α → Action σ β} (hfirst : KeepsWaiting first)
    (hnext : ∀ value, KeepsWaiting (next value)) : KeepsWaiting (first >>= next) := by
  intro now waiting
  rw [Rule.bind_apply, Rule.bind_apply, hfirst now waiting]
  cases first now with
  | ok value after => exact hnext value after waiting
  | error fault after => rfl

/-- Looking does the same whatever waits. -/
theorem see_keepsWaiting (number : Nat) (operation : Run σ α) :
    KeepsWaiting (see number operation) := by
  intro now waiting
  simp only [see, Configuration.before]
  cases operation ⟨now.frames.view number, now.host⟩ with
  | ok value after => rfl
  | error fault after => rfl

/-- Giving a name a value does the same whatever waits. -/
theorem set_keepsWaiting (number : Nat) (name : String) (value : Int) :
    KeepsWaiting (Action.set number name value : Action σ Unit) := by
  intro now waiting
  simp only [Action.set, Configuration.before]
  cases now.frames.holder? number name with
  | some holder => rfl
  | none => rfl

/-- Calling a procedure does the same whatever waits. -/
theorem enter_keepsWaiting (number : Nat) (name : String) :
    KeepsWaiting (enter number name : Action σ Unit) := by
  intro now waiting
  simp only [enter, Configuration.before]
  cases now.frames.declarer? number name with
  | some found => rfl
  | none => rfl

/-- Putting statements in front does the same whatever waits. -/
theorem push_keepsWaiting (statements : List Statement) (number : Nat) :
    KeepsWaiting (push statements number : Action σ Unit) := by
  intro now waiting
  show EStateM.Result.ok () _ = .ok () _
  simp only [before, List.append_assoc]

/-- Putting statements in front under a condition does the same whatever waits. -/
theorem if_keepsWaiting (condition : Condition) (statements : List Statement) (number : Nat) :
    KeepsWaiting (do
      if ← see number (Run.ofChain condition.eval) then push statements number : Action σ Unit) :=
  (see_keepsWaiting number _).bind fun holds => by
    cases holds with
    | true => exact push_keepsWaiting statements number
    | false => exact fun _ _ => rfl

/-- A statement does the same whatever waits. -/
theorem perform_keepsWaiting (host : Host σ) (number : Nat) (statement : Statement) :
    KeepsWaiting (statement.perform host number) := by
  cases statement with
  | assign name value =>
      exact (see_keepsWaiting number _).bind fun _ => set_keepsWaiting number name _
  | call name => exact enter_keepsWaiting number name
  | read name =>
      exact (see_keepsWaiting number _).bind fun _ => set_keepsWaiting number name _
  | write value => exact see_keepsWaiting number _
  | sequence statements => exact push_keepsWaiting statements number
  | ifThen condition inner => exact if_keepsWaiting condition [inner] number
  | whileDo condition inner =>
      exact if_keepsWaiting condition [inner, .whileDo condition inner] number
  | empty => exact fun _ _ => rfl

end

section

variable {first last : Configuration σ} {waiting : List Task} {count : Nat}

/-- A step is the same whatever waits behind the tasks. -/
theorem step?_before {result : EStateM.Result RunFault (Configuration σ) Unit}
    (h : first.step? host = some result) (waiting : List Task) :
    (∃ task above, first.tasks = task :: above) ∧
      (first.before waiting).step? host = some (resultBefore waiting result) := by
  obtain ⟨frames, tasks, state⟩ := first
  cases tasks with
  | nil => cases h
  | cons task tasks =>
      cases h
      exact ⟨⟨task, tasks, rfl⟩, congrArg some
        (perform_keepsWaiting host task.2 task.1 ⟨frames, tasks, state⟩ waiting)⟩

/-- What the machine does without the tasks that wait is done before them. -/
theorem During.of_steps (h : Steps host count first last) (waiting : List Task) :
    During host waiting (first.before waiting) (last.before waiting) := by
  induction h with
  | refl => exact .refl
  | @step count first second last hstep _ ih =>
      obtain ⟨⟨task, above, htasks⟩, hstep⟩ := step?_before hstep waiting
      have hbefore : (first.before waiting).tasks = task :: above ++ waiting := by
        rw [before, htasks]
      exact .step hbefore hstep ih

end

/-- The machine ends a call as a run does: with what the frame of the call sees and the state of the
host, or with the fault. A run may use up its fuel before. -/
def CallEndsAs (host : Host σ) (now : Configuration σ) (number : Nat) :
    EStateM.Result RunFault (Machine σ) Unit → Prop
  | .ok _ machine => ∃ after, CallEnds host now none after ∧
      after.frames.view number = machine.chain ∧ after.host = machine.host
  | .error fault machine => fault = .outOfFuel ∨
      ∃ after, CallEnds host now (some fault) after ∧ after.host = machine.host

section

variable {now : Configuration σ} {name : String} {number : Nat}

/-- The machine ends a call as each run of it does. -/
theorem callEndsAs_run (hlinked : now.frames.Linked) (hlt : number < now.frames.length)
    (hcall : now.calling? = some (name, number)) (fuel : Nat) :
    CallEndsAs host now number
      ((Statement.call name).run host fuel ⟨now.frames.view number, now.host⟩) := by
  have hmatches := run_matches host fuel (.call name) [] now.host hlinked hlt
  -- The machine that has only the call to do, and the one that goes on after it.
  have hnow : Configuration.before ⟨now.frames, [(.call name, number)], now.host⟩ now.tasks.tail =
      now := by
    show Configuration.mk now.frames ((.call name, number) :: now.tasks.tail) now.host = now
    rw [← tasks_of_calling? hcall]
  cases hresult : (Statement.call name).run host fuel ⟨now.frames.view number, now.host⟩ with
  | ok done machine =>
      rw [hresult] at hmatches
      obtain ⟨later, ⟨count, hsteps⟩, -, hview⟩ := hmatches
      have hduring := During.of_steps hsteps now.tasks.tail
      rw [hnow] at hduring
      exact ⟨_, .returns hduring rfl, hview, rfl⟩
  | error fault machine =>
      rw [hresult] at hmatches
      obtain ⟨last, after, ⟨count, hsteps⟩, hfails, hhost⟩ | ⟨hfault, -⟩ := hmatches
      · have hduring := During.of_steps hsteps now.tasks.tail
        rw [hnow] at hduring
        obtain ⟨⟨task, above, htasks⟩, hstep⟩ := step?_before hfails now.tasks.tail
        have hbefore : (last.before now.tasks.tail).tasks = task :: above ++ now.tasks.tail := by
          rw [before, htasks]
        exact .inr ⟨_, .fails hduring hbefore hstep, hhost⟩
      · exact .inl hfault

/-- All of the frames keep their names, and those that are not of the chain keep their values. -/
structure Spared (chain : List Nat) (frames later : Frames) : Prop where
  names : ∀ other < frames.length, other < later.length ∧
    (later.frame other).values.map Prod.fst = (frames.frame other).values.map Prod.fst
  values : ∀ other < frames.length, other ∉ chain →
    (later.frame other).values = (frames.frame other).values

/-- What becomes of frames spares those that are not touched. -/
theorem Frames.Follows.spared {touched : List Nat} {frames later : Frames}
    (h : Follows touched frames later) : Spared touched frames later where
  names other hlt := ⟨Nat.lt_of_lt_of_le hlt h.length_le,
    congrArg (fun label => label.2.2.2) (h.label other hlt)⟩
  values other hlt hnot := by rw [h.untouched other hlt hnot]

/-- Wherever a program that has been parsed comes to a call, a frame that the caller sees declares
the procedure. However the call ends, of the frames that were there before only this one and those
around it can have got other values, and none another name; the frame of the caller is among the
others unless it declares the procedure itself. A run of the call ends as the call of the machine
does. -/
theorem call_spares (h : parseProgram text = .ok program)
    (hreaches : Reaches host (.start program state) now)
    (hcall : now.calling? = some (name, number)) :
    ∃ declarer body, now.frames.declarer? number name = some (declarer, body) ∧
      declarer ∈ now.frames.staticChain number ∧
      (∀ fault? after, CallEnds host now fault? after →
        Spared (now.frames.staticChain declarer) now.frames after.frames ∧
          (declarer ≠ number →
            (after.frames.frame number).values = (now.frames.frame number).values)) ∧
      ∀ fuel, CallEndsAs host now number
        ((Statement.call name).run host fuel ⟨now.frames.view number, now.host⟩) := by
  obtain ⟨count, hsteps⟩ := hreaches
  have hsound := steps_sound (start_sound h state) hsteps
  have hlinked := hsound.frames.linked
  have htask : Task.Sound now.frames (.call name, number) :=
    hsound.tasks _ (tasks_of_calling? hcall ▸ List.mem_cons_self)
  obtain ⟨-, declarer, -, body, -, -, -, hdeclarer, -⟩ :=
    declarer?_of_visible hlinked (htask.resolves hsound.frames)
  have hmem := (declarer?_spec hdeclarer).1
  refine ⟨declarer, body, hdeclarer, hmem, fun fault? after hends => ?_,
    callEndsAs_run hlinked htask.lt_length hcall⟩
  have hspared := (hends.follows hlinked htask.lt_length hcall hdeclarer).spared
  refine ⟨hspared, fun hne => hspared.values number htask.lt_length fun hnumber => hne ?_⟩
  exact Nat.le_antisymm (le_of_mem_staticChain hlinked hmem)
    (le_of_mem_staticChain hlinked hnumber)

end

/-- A text whose procedure calls itself and writes its own variable afterwards. -/
def recursiveText : String :=
  "VAR n; PROCEDURE p; VAR k; BEGIN k := n; n := n - 1; IF n > 0 THEN CALL p; ! k END; " ++
    "BEGIN n := 2; CALL p END."

/-- The variable of a procedure that calls itself has its value again when the call ends, although
the called block has given a variable of the same name another value. -/
theorem call_spares_recursive : ∃ program now after, parseProgram recursiveText = .ok program ∧
    Reaches (.ofTape 2) (.start program ⟨[], []⟩) now ∧ now.calling? = some ("p", 1) ∧
    CallEnds (.ofTape 2) now none after ∧ (now.frames.frame 1).values = [("k", 2)] ∧
    (after.frames.frame 1).values = [("k", 2)] ∧ after.host.output = [1] := by
  have hrun : ((parseProgram recursiveText).toOption.bind fun program =>
      (Configuration.start program ⟨[], []⟩).after? (.ofTape 2) 7).map (fun now =>
        (now.calling?, (now.frames.declarer? 1 "p").map Prod.fst, (now.frames.frame 1).values)) =
      some (some ("p", 1), some 0, [("k", 2)]) := by decide +kernel
  have hcalled : ((parseProgram recursiveText).toOption.bind fun program =>
      (Configuration.start program ⟨[], []⟩).after? (.ofTape 2) 7).map (fun now =>
        match (Statement.call "p").run (.ofTape 2) 9 ⟨now.frames.view 1, now.host⟩ with
        | .ok _ machine => some machine.host.output
        | .error _ _ => none) = some (some [1]) := by decide +kernel
  obtain ⟨now, hnow, heq⟩ := Option.map_eq_some_iff.1 hrun
  rw [hnow, Option.map_some, Option.some.injEq] at hcalled
  obtain ⟨program, hprogram, hnow⟩ := Option.bind_eq_some_iff.1 hnow
  simp only [Prod.mk.injEq] at heq
  obtain ⟨hcall, hzero, hvalues⟩ := heq
  have hparse := toOption_eq_some_iff.1 hprogram
  have hreaches : Reaches (.ofTape 2) (.start program ⟨[], []⟩) now :=
    ⟨7, after?_eq_some_iff.1 hnow⟩
  obtain ⟨declarer, body, hdeclarer, -, hspares, hends⟩ := call_spares hparse hreaches hcall
  rw [hdeclarer, Option.map_some, Option.some.injEq] at hzero
  have hend := hends 9
  split at hcalled
  · rename_i machine hmachine
    rw [hmachine] at hend
    obtain ⟨after, hafter, -, hhost⟩ := hend
    refine ⟨program, now, after, hparse, hreaches, hcall, hafter, hvalues, ?_, ?_⟩
    · rw [(hspares none after hafter).2 (by omega), hvalues]
    · rw [hhost]
      exact Option.some.inj hcalled
  · cases hcalled

end Parlance.Pl0
