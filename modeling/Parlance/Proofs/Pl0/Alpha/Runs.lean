import Parlance.Proofs.Pl0.Alpha.Blocks
import Parlance.Proofs.Pl0.Soundness

/-!
# Runs of blocks that differ in the names of constants and variables

A run looks names up as they are written, in whatever activations there are. Of blocks that are
alike the activations hold the same values under corresponding names, and each step of a run keeps
that, so the runs come to the same end. That names are found at all is what keeps a failure from
naming them.
-/

namespace Parlance.Pl0

variable {α σ : Type}

/-! ## Chains -/

/-- The activations of two chains are of blocks that are alike, and hold the same values under
corresponding names. -/
inductive Chain.Alike : List Pairing → Chain → Chain → Prop where
  | nil : Chain.Alike [] [] []
  | cons {pairing pairings activation activation' chain chain'} :
      activation.block.Alike (pairing :: pairings) activation'.block →
      Paired pairing.pairs activation.values activation'.values →
      Chain.Alike pairings chain chain' →
      Chain.Alike (pairing :: pairings) (activation :: chain) (activation' :: chain')

namespace Chain.Alike

variable {pairing : Pairing} {pairings : List Pairing} {chain chain' : Chain} {name name' : String}

/-- The chains hold the same values, activation by activation. -/
theorem values (h : Chain.Alike pairings chain chain') :
    PairedAll pairings (chain.map Activation.values) (chain'.map Activation.values) := by
  induction h with
  | nil => exact .nil
  | cons _ hvalues _ ih => exact .cons hvalues ih

/-- Names that correspond have the same value. -/
theorem get? (h : Chain.Alike pairings chain chain') (hname : Corresponds pairings name name') :
    ∃ value, chain.get? name = some value ∧ chain'.get? name' = some value := by
  obtain ⟨value, hvalue, hvalue'⟩ := hname.lookup h.values
  rw [List.findSome?_map] at hvalue hvalue'
  exact ⟨value, hvalue, hvalue'⟩

/-- Names that correspond can be given the same value. -/
theorem set? (h : Chain.Alike pairings chain chain') (hname : Corresponds pairings name name')
    (value : Int) : ∃ after after', chain.set? name value = some after ∧
      chain'.set? name' value = some after' ∧ Chain.Alike pairings after after' := by
  induction h with
  | nil => cases hname
  | @cons pairing pairings activation activation' chain chain' hblock hvalues hchain ih =>
      rw [Chain.set?, Chain.set?]
      cases hname with
      | here hmem =>
          obtain ⟨_, hheld, hheld'⟩ := hvalues.lookup pairing.nodup pairing.nodup' hmem
          rw [hheld, hheld']
          exact ⟨_, _, rfl, rfl, .cons hblock
            (hvalues.put pairing.nodup pairing.nodup' hmem value) hchain⟩
      | there hnot hnot' hname =>
          -- Neither name may be held here, or one of the runs would change another variable.
          obtain ⟨after, after', hafter, hafter', halike⟩ := ih hname
          rw [hvalues.lookup_eq_none hnot, hvalues.lookup_eq_none' hnot', hafter, hafter']
          exact ⟨_, _, rfl, rfl, .cons hblock hvalues halike⟩

/-- New activations of blocks that are alike are alike. -/
theorem start {block block' : Block} (hblock : block.Alike (pairing :: pairings) block')
    (h : Chain.Alike pairings chain chain') :
    Chain.Alike (pairing :: pairings) (.start block :: chain) (.start block' :: chain') := by
  refine .cons hblock ?_ h
  have hvalues {block : Block} (hnodup : (block.symbols.map Prod.fst).Nodup) :
      (Activation.start block).values =
        block.symbols.map fun entry => (entry.1, entry.2.getD 0) := by
    rw [Activation.start_values hnodup]
    simp [Block.symbols, Function.comp_def]
  cases hblock with
  | intro hsymbols _ _ =>
      rw [hvalues (hsymbols.names ▸ pairing.nodup), hvalues (hsymbols.names' ▸ pairing.nodup')]
      exact hsymbols.map fun value => value.getD 0

/-- A procedure is found in neither chain, or in both at the same place, with bodies that are alike.
What is inside that place stays alike on top of other chains that are. -/
theorem splitAtProcedure? (h : Chain.Alike pairings chain chain') :
    chain.splitAtProcedure? name = none ∧ chain'.splitAtProcedure? name = none ∨
      ∃ inner inner' body body' outer outer' pairing others,
        chain.splitAtProcedure? name = some (inner, body, outer) ∧
        chain'.splitAtProcedure? name = some (inner', body', outer') ∧
        body.Alike (pairing :: others) body' ∧ Chain.Alike others outer outer' ∧
        ∀ after after', Chain.Alike others after after' →
          Chain.Alike pairings (inner ++ after) (inner' ++ after') := by
  induction h with
  | nil => exact .inl ⟨rfl, rfl⟩
  | @cons pairing pairings activation activation' chain chain' hblock hvalues hchain ih =>
      rw [Chain.splitAtProcedure?, Chain.splitAtProcedure?]
      have hprocedures : ProceduresAlike (pairing :: pairings) activation.block.procedures
          activation'.block.procedures := by
        cases hblock with
        | intro _ hprocedures _ => exact hprocedures
      -- Procedures keep their names, so both chains are searched for the same one and part at the
      -- same activation, whatever the two name their constants and variables.
      obtain ⟨hnone, hnone'⟩ | ⟨inner, body, body', hbody, hbody', halike⟩ :=
        @hprocedures.lookup _ _ _ name
      · rw [hnone, hnone']
        obtain ⟨hrest, hrest'⟩ | ⟨inner, inner', body, body', outer, outer', level, others, hsplit,
          hsplit', halike, houter, hinner⟩ := ih
        · exact .inl ⟨by rw [hrest]; rfl, by rw [hrest']; rfl⟩
        · refine .inr ⟨activation :: inner, activation' :: inner', body, body', outer, outer',
            level, others, by rw [hsplit]; rfl, by rw [hsplit']; rfl, halike, houter, ?_⟩
          exact fun after after' hafter => .cons hblock hvalues (hinner after after' hafter)
      · rw [hbody, hbody']
        exact .inr ⟨[], [], body, body', _, _, inner, _, rfl, rfl, halike,
          .cons hblock hvalues hchain, fun after after' hafter => hafter⟩

/-- Without their innermost activations, chains that are alike still are. -/
theorem drop_one (h : Chain.Alike (pairing :: pairings) chain chain') :
    Chain.Alike pairings (chain.drop 1) (chain'.drop 1) := by
  cases h with
  | cons _ _ h => exact h

end Chain.Alike

/-! ## Runs -/

/-- The runs have come to the same end, in the same state of the host, with chains that are
alike. -/
inductive EndsAlike (pairings : List Pairing) :
    EStateM.Result RunFault (Machine σ) α → EStateM.Result RunFault (Machine σ) α → Prop where
  | ok {value chain chain' host} : Chain.Alike pairings chain chain' →
      EndsAlike pairings (.ok value ⟨chain, host⟩) (.ok value ⟨chain', host⟩)
  | error {fault chain chain' host} : Chain.Alike pairings chain chain' →
      EndsAlike pairings (.error fault ⟨chain, host⟩) (.error fault ⟨chain', host⟩)

/-- The runs come to the same end from chains that are alike. -/
def Run.Alike (pairings : List Pairing) (run run' : Run σ α) : Prop :=
  ∀ chain chain' host, Chain.Alike pairings chain chain' →
    EndsAlike pairings (run ⟨chain, host⟩) (run' ⟨chain', host⟩)

namespace Run.Alike

variable {β : Type} {pairings : List Pairing}

/-- Doing nothing is alike. -/
theorem pure (value : α) : Run.Alike pairings (pure value : Run σ α) (pure value) :=
  fun _ _ _ h => .ok h

/-- Failing alike is alike. -/
theorem throw (fault : RunFault) : Run.Alike pairings (throw fault : Run σ α) (throw fault) :=
  fun _ _ _ h => .error h

/-- Steps that are alike, one after the other, are alike. -/
theorem bind {run run' : Run σ α} {next next' : α → Run σ β} (h : Run.Alike pairings run run')
    (hnext : ∀ value, Run.Alike pairings (next value) (next' value)) :
    Run.Alike pairings (run >>= next) (run' >>= next') := by
  intro chain chain' host hchain
  have hends := h chain chain' host hchain
  rw [Rule.bind_apply, Rule.bind_apply]
  generalize run ⟨chain, host⟩ = result, run' ⟨chain', host⟩ = result' at hends
  cases hends with
  | ok hafter => exact hnext _ _ _ _ hafter
  | error hafter => exact .error hafter

/-- What the host does is alike. -/
theorem ofHost (operation : EStateM RunFault σ α) :
    Run.Alike pairings (Run.ofHost operation) (Run.ofHost operation) := by
  intro chain chain' host hchain
  unfold Run.ofHost
  cases operation host with
  | ok value after => exact .ok hchain
  | error fault after => exact .error hchain

/-- What chains that are alike say alike is alike. -/
theorem ofChain {question question' : Chain → Except RunFault α}
    (h : ∀ chain chain', Chain.Alike pairings chain chain' → question' chain' = question chain) :
    Run.Alike pairings (Run.ofChain question : Run σ α) (Run.ofChain question') := by
  intro chain chain' host hchain
  unfold Run.ofChain
  rw [h chain chain' hchain]
  cases question chain with
  | ok value => exact .ok hchain
  | error fault => exact .error hchain

/-- Giving corresponding names the same value is alike. -/
theorem set {name name' : String} (hname : Corresponds pairings name name') (value : Int) :
    Run.Alike pairings (Run.set name value : Run σ Unit) (Run.set name' value) := by
  intro chain chain' host hchain
  obtain ⟨after, after', hafter, hafter', halike⟩ := hchain.set? hname value
  unfold Run.set
  rw [hafter, hafter']
  exact .ok halike

/-- Calling a procedure is alike if running bodies that are alike is. -/
theorem call {run : Statement → Run σ Unit}
    (hrun : ∀ pairings statement statement', Statement.Alike pairings statement statement' →
      Run.Alike pairings (run statement) (run statement')) (name : String) :
    Run.Alike pairings (Run.call run name) (Run.call run name) := by
  intro chain chain' host hchain
  unfold Run.call
  obtain ⟨hnone, hnone'⟩ | ⟨inner, inner', body, body', outer, outer', pairing, others, hsplit,
    hsplit', hbody, houter, hinner⟩ := @hchain.splitAtProcedure? _ _ _ name
  · simp only [hnone, hnone']
    exact .error hchain
  · have hstatement : body.statement.Alike (pairing :: others) body'.statement := by
      cases hbody with
      | intro _ _ hstatement => exact hstatement
    have hends := hrun _ _ _ hstatement _ _ host (Chain.Alike.start hbody houter)
    simp only [hsplit, hsplit']
    generalize run body.statement _ = result, run body'.statement _ = result' at hends
    cases hends with
    | ok hafter => exact .ok (hinner _ _ hafter.drop_one)
    | error hafter => exact .error (hinner _ _ hafter.drop_one)

/-- Running statements one after the other is alike if running each is. -/
theorem forM {run : Statement → Run σ Unit} {statements statements' : List Statement}
    (hrun : ∀ statement statement', Statement.Alike pairings statement statement' →
      Run.Alike pairings (run statement) (run statement'))
    (h : StatementsAlike pairings statements statements') :
    Run.Alike pairings (statements.forM run) (statements'.forM run) := by
  induction statements generalizing statements' with
  | nil =>
      cases h
      exact pure ()
  | cons statement others ih =>
      cases h with
      | cons hstatement hothers =>
          exact (hrun _ _ hstatement).bind fun _ => ih hothers

end Run.Alike

section

variable {pairings : List Pairing} {chain chain' : Chain}

/-- Expressions that are alike have the same value in chains that are. -/
theorem Expr.Alike.eval_eq {value value' : Expr} (h : value.Alike pairings value')
    (hchain : Chain.Alike pairings chain chain') : value'.eval chain' = value.eval chain := by
  induction h with
  | number => rfl
  | symbol hname =>
      obtain ⟨result, hresult, hresult'⟩ := hchain.get? hname
      rw [Expr.eval, Expr.eval, hresult, hresult']
  | negate _ ih => rw [Expr.eval, Expr.eval, ih]
  | binary _ _ ih ih' => rw [Expr.eval, Expr.eval, ih, ih']

/-- Conditions that are alike are true alike in chains that are alike. -/
theorem Condition.Alike.eval_eq {test test' : Condition} (h : test.Alike pairings test')
    (hchain : Chain.Alike pairings chain chain') : test'.eval chain' = test.eval chain := by
  cases h with
  | odd hvalue => rw [Condition.eval, Condition.eval, hvalue.eval_eq hchain]
  | relation hleft hright =>
      rw [Condition.eval, Condition.eval, hleft.eval_eq hchain, hright.eval_eq hchain]

end

/-- Statements that are alike are run alike, with any fuel. -/
theorem Statement.Alike.run {pairings : List Pairing} {statement statement' : Statement}
    (h : statement.Alike pairings statement') (host : Host σ) (fuel : Nat) :
    Run.Alike pairings (statement.run host fuel) (statement'.run host fuel) := by
  -- The induction is on the fuel, for a call goes on with the statement of another block.
  induction fuel generalizing pairings statement statement' with
  | zero => exact Run.Alike.throw .outOfFuel
  | succ fuel ih =>
      have hvalue {value value' : Expr} (hvalue : value.Alike pairings value') :
          Run.Alike pairings (Run.ofChain value.eval : Run σ Int) (Run.ofChain value'.eval) :=
        .ofChain fun _ _ => hvalue.eval_eq
      have htest {test test' : Condition} (htest : test.Alike pairings test') :
          Run.Alike pairings (Run.ofChain test.eval : Run σ Bool) (Run.ofChain test'.eval) :=
        .ofChain fun _ _ => htest.eval_eq
      cases h with
      | assign hname halike => exact (hvalue halike).bind fun result => .set hname result
      | call => exact .call (fun _ _ _ halike => ih halike) _
      | read hname => exact (Run.Alike.ofHost host.read).bind fun result => .set hname result
      | write halike => exact (hvalue halike).bind fun result => .ofHost (host.write result)
      | sequence hstatements => exact .forM (fun _ _ halike => ih halike) hstatements
      | ifThen hcondition hbody =>
          refine (htest hcondition).bind fun holds => ?_
          cases holds with
          | true => exact ih hbody
          | false => exact .pure ()
      | whileDo hcondition hbody =>
          refine (htest hcondition).bind fun holds => ?_
          cases holds with
          | true => exact (ih hbody).bind fun _ => ih (.whileDo hcondition hbody)
          | false => exact .pure ()
      | empty => exact .pure ()

/-- A program whose block is like that of another one runs as that one does: with every host, from
each of its states and with any fuel, it comes to the same end in the same state of the host. -/
theorem Block.Alike.run_eq {pairing : Pairing} {block block' : Block}
    (h : block.Alike [pairing] block') (host : Host σ) (fuel : Nat) (state : σ) :
    Program.run host ⟨block'⟩ fuel state = Program.run host ⟨block⟩ fuel state := by
  have hstatement : block.statement.Alike [pairing] block'.statement := by
    cases h with
    | intro _ _ hstatement => exact hstatement
  have hends := hstatement.run host fuel _ _ state (Chain.Alike.start h .nil)
  unfold Program.run
  generalize block.statement.run host fuel _ = result, block'.statement.run host fuel _ = result'
    at hends
  cases hends with
  | ok _ => rfl
  | error _ => rfl

end Parlance.Pl0
