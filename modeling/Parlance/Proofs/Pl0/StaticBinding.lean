import Parlance.Proofs.Pl0.Soundness

/-!
# Which procedure a call means

The parser takes a call for the innermost procedure of that name that has been declared before; the
run takes it for the innermost one that is declared at all. A block between the two may declare the
name after the procedure in which the call stands. `bindsStatically_iff` says that the two agree
exactly where no block does so, and `late_declaration_called` that they do not always agree.
-/

namespace Parlance.Pl0

open Frames Pl0.Action Pl0.Configuration

variable {σ : Type} {host : Host σ} {state : σ} {program : Program} {text : String}

/-- The run takes a call for the procedure that the parser has taken it for. The parser has parsed
the statement in which the call stands in the scope of the frame, and finds there the declaration in
the block of the frame `resolved`, with the body `declared`. The step makes a frame for this body,
whose parent is that frame, and goes on with its statement. -/
def BindsStatically (host : Host σ) (now : Configuration σ) (name : String) (number : Nat) : Prop :=
  ∃ resolved declared after scanner final,
    statement (now.frames.scope number) scanner =
      .ok (now.frames.frame number).block.statement final ∧
    (now.frames.frame number).block.statement.Contains (.call name) ∧
    now.frames.resolved? number name = some resolved ∧
    (now.frames.frame resolved).block.procedures.lookup name = some declared ∧
    now.step? host = some (.ok () after) ∧
    after.frames = now.frames.add name declared resolved ∧
    after.tasks = (declared.statement, now.frames.length) :: now.tasks.tail

section

variable {now : Configuration σ} {name : String} {number : Nat}

/-- The last of the frames tells what its parent is. -/
theorem Frames.add_parent_inj {frames : Frames} {body other : Block} {parent outer : Nat}
    (h : frames.add name body parent = frames.add name other outer) : parent = outer := by
  have hlast := congrArg (fun later => (later.frame frames.length).parent) h
  simpa using hlast

/-- Wherever the machine comes to a call in a run of a program that has been parsed, the parser has
found a declaration for it, and the call is run for that one exactly if no block of a frame nearer
to the call declares the name. -/
theorem bindsStatically_iff (h : parseProgram text = .ok program)
    (hreaches : Reaches host (.start program state) now)
    (hcall : now.calling? = some (name, number)) :
    BindsStatically host now name number ↔
      ∃ resolved, now.frames.resolved? number name = some resolved ∧
        ∀ nearer ∈ now.frames.staticChain number, resolved < nearer →
          (now.frames.frame nearer).block.procedures.lookup name = none := by
  obtain ⟨count, hsteps⟩ := hreaches
  have hsound := steps_sound (start_sound h state) hsteps
  have htask : Task.Sound now.frames (.call name, number) :=
    hsound.tasks _ (tasks_of_calling? hcall ▸ List.mem_cons_self)
  obtain ⟨-, -, -, hstatement⟩ := hsound.frames.parsed number htask.lt_length
  obtain ⟨found, declarer, declared, body, hfound, -, hdeclared, hdeclarer, hiff⟩ :=
    declarer?_of_visible hsound.frames.linked (htask.resolves hsound.frames)
  have hresolved : now.frames.resolved? number name = some found := hfound
  constructor
  · rintro ⟨resolved, _, after, _, _, -, -, hsome, -, hstep, hframes, -⟩
    rw [hresolved, Option.some.injEq] at hsome
    subst hsome
    -- The step makes a frame whose parent is the frame that declares the procedure for the run.
    rw [step?_of_calling? hcall hdeclarer] at hstep
    cases hstep
    exact ⟨found, hresolved, hiff.1 (add_parent_inj hframes)⟩
  · rintro ⟨resolved, hsome, hnone⟩
    rw [hresolved, Option.some.injEq] at hsome
    subst hsome
    obtain rfl := hiff.2 hnone
    obtain rfl : declared = body :=
      Option.some.inj (hdeclared.symm.trans (declarer?_spec hdeclarer).2)
    exact ⟨declarer, declared, _, _, _, hstatement, htask.part, hresolved, hdeclared,
      step?_of_calling? hcall hdeclarer, rfl, rfl⟩

end

/-- A text in which a procedure hides one of the same name, and is called after that. -/
def earlyText : String :=
  "PROCEDURE p; ! 1; PROCEDURE q; PROCEDURE p; ! 2; CALL p; CALL q."

/-- A call of a procedure that hides another is run for the one that hides. -/
theorem bindsStatically_iff_hiding : ∃ program now, parseProgram earlyText = .ok program ∧
    Reaches (.ofTape 1) (.start program ⟨[], []⟩) now ∧ now.calling? = some ("p", 1) ∧
    now.frames.resolved? 1 "p" = some 1 ∧ BindsStatically (.ofTape 1) now "p" 1 := by
  have hrun : ((parseProgram earlyText).toOption.bind fun program =>
      (Configuration.start program ⟨[], []⟩).after? (.ofTape 1) 1).map (fun now =>
        (now.calling?, now.frames.resolved? 1 "p", now.frames.staticChain 1)) =
      some (some ("p", 1), some 1, [1, 0]) := by decide +kernel
  obtain ⟨now, hnow, heq⟩ := Option.map_eq_some_iff.1 hrun
  obtain ⟨program, hprogram, hnow⟩ := Option.bind_eq_some_iff.1 hnow
  obtain ⟨hcall, hresolved, hchain⟩ : now.calling? = some ("p", 1) ∧
      now.frames.resolved? 1 "p" = some 1 ∧ now.frames.staticChain 1 = [1, 0] := by
    simpa using heq
  have hparse := toOption_eq_some_iff.1 hprogram
  have hreaches : Reaches (.ofTape 1) (.start program ⟨[], []⟩) now :=
    ⟨1, after?_eq_some_iff.1 hnow⟩
  refine ⟨program, now, hparse, hreaches, hcall, hresolved,
    (bindsStatically_iff hparse hreaches hcall).2 ⟨1, hresolved, fun nearer hmem hlt => ?_⟩⟩
  simp only [hchain, List.mem_cons, List.not_mem_nil, or_false] at hmem
  omega

/-- A text in which `q` declares a procedure `p` after the procedure `r`, which calls `p`. -/
def lateText : String :=
  "PROCEDURE p; ! 1; PROCEDURE q; PROCEDURE r; CALL p; PROCEDURE p; ! 2; CALL r; CALL q."

/-- The parser takes the call in `r` for the procedure of the program's own block, and the run takes
it for the one that is declared later: the program writes 2. -/
theorem late_declaration_called : ∃ program now after, parseProgram lateText = .ok program ∧
    Reaches (.ofTape 1) (.start program ⟨[], []⟩) now ∧ now.calling? = some ("p", 2) ∧
    now.frames.resolved? 2 "p" = some 0 ∧ ¬ BindsStatically (.ofTape 1) now "p" 2 ∧
    program.run (.ofTape 1) 9 ⟨[], []⟩ = .ok () after ∧ after.output = [2] := by
  have hrun : ((parseProgram lateText).toOption.bind fun program =>
      (Configuration.start program ⟨[], []⟩).after? (.ofTape 1) 2).map (fun now =>
        (now.calling?, now.frames.resolved? 2 "p", (now.frames.declarer? 2 "p").map Prod.fst)) =
      some (some ("p", 2), some 0, some 1) := by decide +kernel
  have hwritten : (parseProgram lateText).toOption.bind (fun program =>
      match program.run (.ofTape 1) 9 ⟨[], []⟩ with
      | .ok _ after => some after.output
      | .error _ _ => none) = some [2] := by decide +kernel
  obtain ⟨now, hnow, heq⟩ := Option.map_eq_some_iff.1 hrun
  obtain ⟨program, hprogram, hnow⟩ := Option.bind_eq_some_iff.1 hnow
  obtain ⟨hcall, hresolved, declarer, hdeclarer⟩ : now.calling? = some ("p", 2) ∧
      now.frames.resolved? 2 "p" = some 0 ∧
      ∃ body, now.frames.declarer? 2 "p" = some (1, body) := by
    simpa using heq
  have hbinds : ¬ BindsStatically (.ofTape 1) now "p" 2 := by
    rintro ⟨resolved, _, _, _, _, -, -, hsome, -, hstep, hframes, -⟩
    rw [hresolved, Option.some.injEq] at hsome
    rw [step?_of_calling? hcall hdeclarer] at hstep
    cases hstep
    -- The parent of the new frame would be both the frame of the program and that of `q`.
    cases hsome.trans (add_parent_inj hframes).symm
  rw [hprogram, Option.bind_some] at hwritten
  split at hwritten
  · rename_i after hafter
    exact ⟨program, now, after, toOption_eq_some_iff.1 hprogram, ⟨2, after?_eq_some_iff.1 hnow⟩,
      hcall, hresolved, hbinds, hafter, Option.some.inj hwritten⟩
  · cases hwritten

end Parlance.Pl0
