import Parlance.Proofs.Pl0.Frames
import Parlance.Proofs.Scanner.Rule

/-!
# The machine makes the run

A run of a statement from the chain that a frame sees is what the machine does with the statement in
that frame: it comes to the same end, with the same chain in sight and the same state of the host,
or to the same failure. Of the frames that were there before, only those on the chain may have other
values then. A run that uses up its fuel is one for which the machine takes at least so many steps.
-/

namespace Parlance.Pl0

open Frames Pl0.Action Pl0.Configuration

variable {σ α : Type} {host : Host σ} {state : σ}

/-! ## Steps -/

namespace Configuration

variable {first second third : Configuration σ} {count more : Nat}

/-- Steps follow steps. -/
theorem Steps.trans (hfirst : Steps host count first second)
    (hsecond : Steps host more second third) : Steps host (count + more) first third := by
  induction hfirst with
  | refl => rwa [Nat.zero_add]
  | step hstep _ ih =>
      rw [Nat.add_right_comm]
      exact .step hstep (ih hsecond)

/-- Reaching is passed on. -/
theorem Reaches.trans (hfirst : Reaches host first second) (hsecond : Reaches host second third) :
    Reaches host first third := by
  obtain ⟨count, hfirst⟩ := hfirst
  obtain ⟨more, hsecond⟩ := hsecond
  exact ⟨count + more, hfirst.trans hsecond⟩

/-- A step reaches what it leads to. -/
theorem Reaches.step (h : first.step? host = some (.ok () second)) : Reaches host first second :=
  ⟨1, .step h .refl⟩

/-- The machine comes to a step that fails with this fault and leaves the host in this state. -/
def Fails (host : Host σ) (first : Configuration σ) (fault : RunFault) (state : σ) : Prop :=
  ∃ last after, Reaches host first last ∧ last.step? host = some (.error fault after) ∧
    after.host = state

/-- What fails later fails. -/
theorem Fails.of_reaches {fault : RunFault} (hreaches : Reaches host first second)
    (h : Fails host second fault state) : Fails host first fault state := by
  obtain ⟨last, after, hlast, hfails, hstate⟩ := h
  exact ⟨last, after, hreaches.trans hlast, hfails, hstate⟩

end Configuration

/-! ## What a run comes to -/

/-- The machine comes from a configuration to where these tasks are left, in the way in which the
run ends: the chain that the frame sees is that of the run, and of these frames only those that may
be touched have other values. Where the fuel is used up, it has taken so many steps. -/
def Matches (host : Host σ) (fuel : Nat) (touched : List Nat) (number : Nat) (frames : Frames)
    (tasks : List Task) (first : Configuration σ) :
    EStateM.Result RunFault (Machine σ) Unit → Prop
  | .ok _ after => ∃ later, Reaches host first ⟨later, tasks, after.host⟩ ∧
      Follows touched frames later ∧ later.view number = after.chain
  | .error fault after => Fails host first fault after.host ∨
      fault = .outOfFuel ∧ ∃ count last, fuel ≤ count ∧ Steps host count first last

namespace Matches

variable {fuel number : Nat} {touched : List Nat} {frames later : Frames} {tasks : List Task}
  {first second : Configuration σ} {result : EStateM.Result RunFault (Machine σ) Unit}

/-- What the machine does after steps that a run does not count. -/
theorem of_reaches (hreaches : Reaches host first second) (hfollows : Follows touched frames later)
    (h : Matches host fuel touched number later tasks second result) :
    Matches host fuel touched number frames tasks first result := by
  cases result with
  | ok done after =>
      obtain ⟨last, hlast, hmore, hview⟩ := h
      exact ⟨last, hreaches.trans hlast, hfollows.trans hmore, hview⟩
  | error fault after =>
      obtain hfails | ⟨hfault, count, last, hle, hsteps⟩ := h
      · exact .inl (hfails.of_reaches hreaches)
      · obtain ⟨more, hmore⟩ := hreaches
        exact .inr ⟨hfault, more + count, last, by omega, hmore.trans hsteps⟩

/-- What the machine does after a step that a run counts. -/
theorem of_step (hstep : first.step? host = some (.ok () second))
    (hfollows : Follows touched frames later)
    (h : Matches host fuel touched number later tasks second result) :
    Matches host (fuel + 1) touched number frames tasks first result := by
  cases result with
  | ok done after =>
      obtain ⟨last, hlast, hmore, hview⟩ := h
      exact ⟨last, (Reaches.step hstep).trans hlast, hfollows.trans hmore, hview⟩
  | error fault after =>
      obtain hfails | ⟨hfault, count, last, hle, hsteps⟩ := h
      · exact .inl (hfails.of_reaches (.step hstep))
      · exact .inr ⟨hfault, count + 1, last, by omega, .step hstep hsteps⟩

/-- One run after another is matched by what the machine does for the first, and then for the
second. -/
theorem bind {operation next : Run σ Unit} {machine : Machine σ} {middle : List Task}
    (hfirst : Matches host fuel touched number frames middle first (operation machine))
    (hnext : ∀ later state, Follows touched frames later →
      Matches host fuel touched number later tasks ⟨later, middle, state⟩
        (next ⟨later.view number, state⟩)) :
    Matches host fuel touched number frames tasks first
      ((operation >>= fun _ => next) machine) := by
  rw [Rule.bind_apply]
  cases hresult : operation machine with
  | ok done after =>
      rw [hresult] at hfirst
      obtain ⟨later, hreaches, hfollows, hview⟩ := hfirst
      have hrest := hnext later after.host hfollows
      rw [hview] at hrest
      exact hrest.of_reaches hreaches hfollows
  | error fault after =>
      rw [hresult] at hfirst
      exact hfirst

end Matches

/-! ## Actions -/

/-- An action comes to what an operation of a run does. -/
inductive Agrees (touched : List Nat) (number : Nat) (frames : Frames) (tasks : List Task) :
    EStateM.Result RunFault (Machine σ) Unit →
    EStateM.Result RunFault (Configuration σ) Unit → Prop where
  | ok {machine : Machine σ} {later : Frames} : Follows touched frames later →
      later.view number = machine.chain →
      Agrees touched number frames tasks (.ok () machine) (.ok () ⟨later, tasks, machine.host⟩)
  | error {fault : RunFault} {machine : Machine σ} {after : Configuration σ} :
      after.host = machine.host →
      Agrees touched number frames tasks (.error fault machine) (.error fault after)

section

variable {fuel number : Nat} {touched : List Nat} {frames : Frames} {tasks : List Task}
  {first : Configuration σ} {result : EStateM.Result RunFault (Machine σ) Unit}
  {performed : EStateM.Result RunFault (Configuration σ) Unit}

/-- A step that comes to what a run does matches it. -/
theorem Agrees.matched (h : Agrees touched number frames tasks result performed)
    (hstep : first.step? host = some performed) :
    Matches host (fuel + 1) touched number frames tasks first result := by
  cases h with
  | ok hfollows hview => exact ⟨_, .step hstep, hfollows, hview⟩
  | error hhost => exact .inl ⟨first, _, ⟨0, .refl⟩, hstep, hhost⟩

/-- The operation leaves the chain as it is. -/
def KeepsChain (operation : Run σ α) : Prop :=
  ∀ machine, match operation machine with
    | .ok _ after => after.chain = machine.chain
    | .error _ after => after.chain = machine.chain

/-- Looking at the chain leaves it as it is. -/
theorem keepsChain_ofChain (question : Chain → Except RunFault α) :
    KeepsChain (Run.ofChain question : Run σ α) := by
  intro machine
  unfold Run.ofChain
  cases question machine.chain <;> rfl

/-- What the host does leaves the chain as it is. -/
theorem keepsChain_ofHost (operation : EStateM RunFault σ α) :
    KeepsChain (Run.ofHost operation) := by
  intro machine
  unfold Run.ofHost
  cases operation machine.host <;> rfl

/-- A sequence of operations that leave the chain as it is leaves it as it is. -/
theorem KeepsChain.bind {β : Type} {operation : Run σ α} {next : α → Run σ β}
    (hfirst : KeepsChain operation) (hnext : ∀ value, KeepsChain (next value)) :
    KeepsChain (operation >>= next) := by
  intro machine
  rw [Rule.bind_apply]
  have hmiddle := hfirst machine
  cases hresult : operation machine with
  | ok value after =>
      rw [hresult] at hmiddle
      have hlast := hnext value after
      simp only at hmiddle hlast ⊢
      cases hresult' : next value after with
      | ok _ last =>
          rw [hresult'] at hlast
          exact hlast.trans hmiddle
      | error _ last =>
          rw [hresult'] at hlast
          exact hlast.trans hmiddle
  | error fault after =>
      rw [hresult] at hmiddle
      exact hmiddle

/-- An operation that leaves the chain as it is does the same when it is done by the machine. -/
theorem see_agrees {operation : Run σ Unit} (hkeeps : KeepsChain operation)
    (hlinked : frames.Linked) :
    Agrees touched number frames tasks (operation ⟨frames.view number, state⟩)
      (see number operation ⟨frames, tasks, state⟩) := by
  have hchain := hkeeps ⟨frames.view number, state⟩
  unfold see
  cases hresult : operation ⟨frames.view number, state⟩ with
  | ok value after =>
      rw [hresult] at hchain
      exact .ok (.refl hlinked) hchain.symm
  | error fault after => exact .error rfl

/-- A value is given to a name by the machine as it is by a run. -/
theorem set_agrees {operation : Run σ Int} {name : String} (hkeeps : KeepsChain operation)
    (hlinked : frames.Linked) (hlt : number < frames.length) :
    Agrees (frames.staticChain number) number frames tasks
      ((operation >>= Run.set name) ⟨frames.view number, state⟩)
      ((see number operation >>= set number name) ⟨frames, tasks, state⟩) := by
  have hchain := hkeeps ⟨frames.view number, state⟩
  rw [Rule.bind_apply, Rule.bind_apply, see]
  cases hresult : operation ⟨frames.view number, state⟩ with
  | ok value after =>
      rw [hresult] at hchain
      simp only at hchain
      simp only [Run.set, Action.set, hchain, set?_view hlinked hlt]
      cases hholder : frames.holder? number name with
      | none => exact .error rfl
      | some holder =>
          exact .ok (follows_put hlinked hlt hholder (holder?_mem hholder)) rfl
  | error fault after => exact .error rfl

/-- What is done if a condition holds matches, if it does for the statements that it puts in front.
-/
theorem if_matches {condition : Condition} {statement : Statement} (statements : List Statement)
    {operation : Run σ Unit} (hlinked : frames.Linked)
    (hperform : statement.perform host number = (do
      if ← see number (Run.ofChain condition.eval) then push statements number))
    (hoperation : Matches host fuel touched number frames tasks
      ⟨frames, statements.map (·, number) ++ tasks, state⟩
      (operation ⟨frames.view number, state⟩)) :
    Matches host (fuel + 1) touched number frames tasks
      ⟨frames, (statement, number) :: tasks, state⟩
      ((do if ← Run.ofChain condition.eval then operation) ⟨frames.view number, state⟩) := by
  have hstep : Configuration.step? host ⟨frames, (statement, number) :: tasks, state⟩ =
      some ((do
        if ← see number (Run.ofChain condition.eval) then push statements number : Action σ Unit)
          ⟨frames, tasks, state⟩) := by
    rw [← hperform]
    rfl
  rw [Rule.bind_apply] at hstep ⊢
  simp only [see, Run.ofChain] at hstep ⊢
  cases hcondition : condition.eval (frames.view number) with
  | error fault =>
      simp only [hcondition] at hstep ⊢
      exact .inl ⟨_, _, ⟨0, .refl⟩, hstep, rfl⟩
  | ok holds =>
      simp only [hcondition] at hstep ⊢
      cases holds with
      | false =>
          exact ⟨frames, .step hstep, .refl hlinked, rfl⟩
      | true => exact hoperation.of_step hstep (.refl hlinked)

/-- What has become of frames and a new one has become of the frames, if the chain of the new one is
part of what may be touched. -/
theorem follows_of_add {name : String} {body : Block} {parent : Nat} {later : Frames}
    (hlinked : frames.Linked) (hparent : parent < frames.length)
    (hchain : frames.staticChain parent ⊆ touched)
    (h : Follows (frames.length :: frames.staticChain parent) (frames.add name body parent) later) :
    Follows touched frames later :=
  (follows_add hlinked hparent).trans_of h fun _ hmem hlt =>
    hchain ((List.mem_cons.1 hmem).resolve_left (Nat.ne_of_lt hlt))

/-- After a call the caller sees its own frames as they were, and those from the declarer's on as
the called block has left them. -/
theorem view_of_add {name : String} {body : Block} {parent : Nat} {later : Frames}
    {inner : List Nat} (hlinked : frames.Linked) (hlt : number < frames.length)
    (hparent : parent < frames.length)
    (hchain : frames.staticChain number = inner ++ frames.staticChain parent)
    (h : Follows (frames.length :: frames.staticChain parent) (frames.add name body parent) later) :
    later.view number = inner.map (fun other => (frames.frame other).toActivation) ++
      (later.view frames.length).drop 1 := by
  have hadded : (frames.add name body parent).Linked := hlinked.add hparent
  have hnew : frames.length < (frames.add name body parent).length := by
    rw [add_length]
    omega
  have hcallee : later.staticChain frames.length = frames.length :: frames.staticChain parent := by
    rw [h.staticChain_eq hadded hnew, add_staticChain_length hlinked hparent]
  have hcaller : later.staticChain number = inner ++ frames.staticChain parent := by
    rw [h.staticChain_eq hadded (Nat.lt_trans hlt hnew), add_staticChain hlinked hparent hlt,
      hchain]
  rw [view, view, hcallee, hcaller, List.map_append, List.map_cons, List.drop_one, List.tail_cons]
  refine congrArg (· ++ _) (List.map_congr_left fun other hmem => ?_)
  -- The frames inside the declarer's are not on the chain of the called block.
  have hother : other < frames.length :=
    Nat.lt_of_le_of_lt (le_of_mem_staticChain hlinked (hchain ▸ List.mem_append_left _ hmem)) hlt
  have hnodup := staticChain_nodup hlinked number
  rw [hchain, List.nodup_append] at hnodup
  rw [h.untouched other (Nat.lt_trans hother hnew), add_frame_of_lt hother]
  rw [List.mem_cons, not_or]
  exact ⟨Nat.ne_of_lt hother, fun hmem' => hnodup.2.2 _ hmem _ hmem' rfl⟩

/-- A procedure is called by the machine as it is by a run, if its statement is run as it is. -/
theorem call_matches {name : String} {run : Statement → Run σ Unit} (hlinked : frames.Linked)
    (hlt : number < frames.length)
    (hrun : ∀ (later : Frames) (inner : Nat) body tasks state, later.Linked → inner < later.length →
      Matches host fuel (later.staticChain inner) inner later tasks
        ⟨later, (body, inner) :: tasks, state⟩ (run body ⟨later.view inner, state⟩)) :
    Matches host (fuel + 1) (frames.staticChain number) number frames tasks
      ⟨frames, (.call name, number) :: tasks, state⟩
      (Run.call run name ⟨frames.view number, state⟩) := by
  have hsplit := splitAtProcedure?_view hlinked number name
  have hstep : Configuration.step? host ⟨frames, (.call name, number) :: tasks, state⟩ =
      some (enter number name ⟨frames, tasks, state⟩) := rfl
  unfold enter at hstep
  unfold Run.call
  cases hdeclarer : frames.declarer? number name with
  | none =>
      rw [hdeclarer] at hsplit
      simp only [hdeclarer] at hstep
      simp only [hsplit]
      exact .inl ⟨_, _, ⟨0, .refl⟩, hstep, rfl⟩
  | some found =>
      obtain ⟨parent, body⟩ := found
      rw [hdeclarer] at hsplit
      obtain ⟨inner, hchain, hsplit⟩ := hsplit
      simp only [hdeclarer] at hstep
      simp only [hsplit]
      have hmem := (declarer?_spec hdeclarer).1
      have hsubset := staticChain_subset hlinked hmem
      have hparent := Nat.lt_of_le_of_lt (le_of_mem_staticChain hlinked hmem) hlt
      -- The called block sees its own new frame and what the declarer sees.
      have hbody := hrun (frames.add name body parent) frames.length body.statement tasks state
        (hlinked.add hparent) (by simp)
      rw [add_view_length hlinked hparent, add_staticChain_length hlinked hparent] at hbody
      cases hresult : run body.statement ⟨.start body :: frames.view parent, state⟩ with
      | ok done after =>
          rw [hresult] at hbody
          obtain ⟨later, hreaches, hfollows, hview⟩ := hbody
          refine ⟨later, (Reaches.step hstep).trans hreaches,
            follows_of_add hlinked hparent hsubset hfollows, ?_⟩
          rw [view_of_add hlinked hlt hparent hchain hfollows, hview]
      | error fault after =>
          rw [hresult] at hbody
          obtain hfails | ⟨hfault, count, last, hle, hsteps⟩ := hbody
          · exact .inl (hfails.of_reaches (.step hstep))
          · exact .inr ⟨hfault, count + 1, last, by omega, .step hstep hsteps⟩

/-- Statements one after the other are run by the machine as they are by a run, if each is. -/
theorem forM_matches {run : Statement → Run σ Unit} {statements : List Statement}
    (hlinked : frames.Linked) (hlt : number < frames.length)
    (hrun : ∀ (later : Frames) statement tasks state, later.Linked → number < later.length →
      Matches host fuel (later.staticChain number) number later tasks
        ⟨later, (statement, number) :: tasks, state⟩ (run statement ⟨later.view number, state⟩)) :
    Matches host fuel (frames.staticChain number) number frames tasks
      ⟨frames, statements.map (·, number) ++ tasks, state⟩
      (statements.forM run ⟨frames.view number, state⟩) := by
  induction statements generalizing frames state with
  | nil => exact ⟨frames, ⟨0, .refl⟩, .refl hlinked, rfl⟩
  | cons statement others ih =>
      -- The first statement may have made frames, but the chain of this one stays.
      refine (hrun frames statement _ state hlinked hlt).bind fun later state hfollows => ?_
      rw [← hfollows.staticChain_eq hlinked hlt]
      exact ih hfollows.linked (Nat.lt_of_lt_of_le hlt hfollows.length_le)

/-- A statement is run by the machine in a frame as it is run from the chain that the frame sees. -/
theorem run_matches (host : Host σ) (fuel : Nat) (statement : Statement) (tasks : List Task)
    (state : σ) (hlinked : frames.Linked) (hlt : number < frames.length) :
    Matches host fuel (frames.staticChain number) number frames tasks
      ⟨frames, (statement, number) :: tasks, state⟩
      (statement.run host fuel ⟨frames.view number, state⟩) := by
  -- The induction is on the fuel, for the statement of a called block is no part of the call.
  induction fuel generalizing statement frames number tasks state with
  | zero => exact .inr ⟨rfl, 0, _, Nat.le_refl _, .refl⟩
  | succ fuel ih =>
      cases statement with
      | assign name value =>
          exact (set_agrees (keepsChain_ofChain _) hlinked hlt).matched rfl
      | call name =>
          exact call_matches hlinked hlt fun later inner body tasks state hlinked hlt =>
            ih body tasks state hlinked hlt
      | read name => exact (set_agrees (keepsChain_ofHost _) hlinked hlt).matched rfl
      | write value =>
          exact (see_agrees ((keepsChain_ofChain _).bind fun _ => keepsChain_ofHost _)
            hlinked).matched rfl
      | sequence statements =>
          exact (forM_matches hlinked hlt fun later statement tasks state hlinked hlt =>
            ih statement tasks state hlinked hlt).of_step rfl (.refl hlinked)
      | ifThen condition inner =>
          exact if_matches [inner] hlinked rfl (ih inner tasks state hlinked hlt)
      | whileDo condition inner =>
          refine if_matches [inner, .whileDo condition inner] hlinked rfl ?_
          refine (ih inner _ state hlinked hlt).bind fun later state hfollows => ?_
          rw [← hfollows.staticChain_eq hlinked hlt]
          exact ih _ tasks state hfollows.linked (Nat.lt_of_lt_of_le hlt hfollows.length_le)
      | empty => exact ⟨frames, .step rfl, .refl hlinked, rfl⟩

end

/-! ## Programs -/

namespace Configuration

variable {first second last : Configuration σ} {count more : Nat}

/-- The machine cannot make a step from here. -/
def Stuck (host : Host σ) (last : Configuration σ) : Prop :=
  ∀ after, last.step? host ≠ some (.ok () after)

/-- Steps to where the machine is stuck go through all that can be reached, and are no fewer. -/
theorem Steps.through (hsecond : Steps host more first second) (hlast : Steps host count first last)
    (hstuck : Stuck host last) : more ≤ count ∧ Steps host (count - more) second last := by
  induction hsecond generalizing count with
  | refl => exact ⟨Nat.zero_le _, hlast⟩
  | @step more first middle second hstep _ ih =>
      cases hlast with
      | refl => exact (hstuck _ hstep).elim
      | @step count _ middle' _ hstep' hrest =>
          cases hstep.symm.trans hstep'
          obtain ⟨hle, hrest⟩ := ih hrest
          exact ⟨Nat.succ_le_succ hle, by rwa [Nat.add_sub_add_right]⟩

/-- There is one configuration at most in which the machine is stuck. -/
theorem Reaches.stuck_unique (hfirst : Reaches host first second)
    (hsecond : Reaches host first last) (hstuck : Stuck host second)
    (hstuck' : Stuck host last) : second = last := by
  obtain ⟨more, hfirst⟩ := hfirst
  obtain ⟨count, hsecond⟩ := hsecond
  obtain ⟨-, hrest⟩ := hfirst.through hsecond hstuck'
  generalize count - more = left at hrest
  cases hrest with
  | refl => rfl
  | step hstep _ => exact (hstuck _ hstep).elim

/-- Where nothing is to be run, the machine is stuck. -/
theorem stuck_of_done (h : last.tasks = []) : Stuck host last := by
  intro after hstep
  rw [step?, h] at hstep
  cases hstep

/-- Where a step fails, the machine is stuck. -/
theorem stuck_of_error {fault : RunFault} {after : Configuration σ}
    (h : last.step? host = some (.error fault after)) : Stuck host last := by
  intro other hstep
  cases h.symm.trans hstep

end Configuration

variable {program : Program} {after : σ} {fault : RunFault}

/-- The frame of the program's own block has no parent. -/
theorem start_linked (program : Program) (state : σ) :
    (Configuration.start program state).frames.Linked := by
  intro number parent hparent
  cases number with
  | zero => cases hparent
  | succ number => cases hparent

/-- A program is run by the machine as it is by a run. -/
theorem program_matches (host : Host σ) (program : Program) (state : σ) (fuel : Nat) :
    Matches host fuel [0] 0 (Configuration.start program state).frames []
      (Configuration.start program state)
      (program.block.statement.run host fuel ⟨[.start program.block], state⟩) := by
  have hroot : ((Configuration.start program state).frames.frame 0).parent = none := rfl
  have hmatches := run_matches host fuel program.block.statement [] state
    (start_linked program state) (Nat.zero_lt_one : 0 < 1)
  rw [staticChain_root hroot, view_root hroot] at hmatches
  exact hmatches

section

variable {fuel : Nat}

/-- Where a run of a program ends, the machine comes to where nothing is left to be run. -/
theorem Program.run_ok (h : program.run host fuel state = .ok () after) :
    ∃ last, Reaches host (.start program state) last ∧ last.tasks = [] ∧ last.host = after := by
  have hmatches := program_matches host program state fuel
  unfold Program.run at h
  split at h
  · rename_i machine hrun
    cases h
    rw [hrun] at hmatches
    obtain ⟨later, hreaches, -⟩ := hmatches
    exact ⟨_, hreaches, rfl, rfl⟩
  · cases h

/-- Where a run of a program fails, the machine comes to a step that fails, or goes on for as many
steps as the run has had fuel. -/
theorem Program.run_error (h : program.run host fuel state = .error fault after) :
    Fails host (.start program state) fault after ∨
      fault = .outOfFuel ∧ ∃ count last, fuel ≤ count ∧
        Steps host count (.start program state) last := by
  have hmatches := program_matches host program state fuel
  unfold Program.run at h
  split at h
  · cases h
  · rename_i fault' machine hrun
    cases h
    rw [hrun] at hmatches
    exact hmatches

end

/-- A program ends in a run exactly if the machine comes to where nothing is left to be run. -/
theorem Program.run_ok_iff :
    (∃ fuel, program.run host fuel state = .ok () after) ↔
      ∃ last, Reaches host (.start program state) last ∧ last.tasks = [] ∧ last.host = after := by
  constructor
  · rintro ⟨fuel, h⟩
    exact run_ok h
  · rintro ⟨last, ⟨count, hsteps⟩, htasks, rfl⟩
    have hstuck : Stuck host last := stuck_of_done htasks
    -- The machine is done after fewer steps than the run has fuel.
    refine ⟨count + 1, ?_⟩
    cases hrun : program.run host (count + 1) state with
    | ok done after =>
        obtain ⟨other, hreaches, hdone, rfl⟩ := run_ok hrun
        rw [hreaches.stuck_unique ⟨count, hsteps⟩ (stuck_of_done hdone) hstuck]
    | error fault after =>
        obtain ⟨failed, _, hfailed, hstep, -⟩ | ⟨-, more, longer, hle, hlonger⟩ := run_error hrun
        · cases hfailed.stuck_unique ⟨count, hsteps⟩ (stuck_of_error hstep) hstuck
          rw [step?, htasks] at hstep
          cases hstep
        · have hmore := (hlonger.through hsteps hstuck).1
          omega

/-- A program fails in a run exactly if the machine comes to a step that fails. -/
theorem Program.run_error_iff (hfault : fault ≠ .outOfFuel) :
    (∃ fuel, program.run host fuel state = .error fault after) ↔
      Fails host (.start program state) fault after := by
  constructor
  · rintro ⟨fuel, h⟩
    exact (run_error h).resolve_right fun houtOfFuel => hfault houtOfFuel.1
  · rintro ⟨last, failed, ⟨count, hsteps⟩, hstep, rfl⟩
    have hstuck : Stuck host last := stuck_of_error hstep
    refine ⟨count + 1, ?_⟩
    cases hrun : program.run host (count + 1) state with
    | ok done after =>
        obtain ⟨other, hreaches, hdone, -⟩ := run_ok hrun
        cases hreaches.stuck_unique ⟨count, hsteps⟩ (stuck_of_done hdone) hstuck
        rw [step?, hdone] at hstep
        cases hstep
    | error fault' after =>
        obtain ⟨other, failed', hfailed, hstep', rfl⟩ | ⟨-, more, longer, hle, hlonger⟩ :=
          run_error hrun
        · cases hfailed.stuck_unique ⟨count, hsteps⟩ (stuck_of_error hstep') hstuck
          cases hstep.symm.trans hstep'
          rfl
        · have hmore := (hlonger.through hsteps hstuck).1
          omega

end Parlance.Pl0
