import Parlance.Proofs.Pl0.Frames
import Parlance.Proofs.Pl0.Resolution

/-!
# The scopes of frames

The statement of a block is parsed in a scope: all that the block declares, and of each block around
it what that one has declared when it comes to the procedure inside which the statement stands. The
chain of a frame has the same blocks, with all that they declare. So a constant or a variable is
found in the frame of the block whose declaration the parser has seen; a procedure is found there
too, or in a nearer frame whose block declares one of that name further on.
-/

namespace Parlance.Pl0

/-- The names that a block has declared when it comes to the body of this procedure. -/
def Block.declaredFor (block : Block) (name : String) : Declared :=
  block.declared ((block.procedures.map Prod.fst).idxOf name + 1)

/-- A procedure that is among the first of a block is one of the block. -/
theorem Block.lookup_of_declared {block : Block} {count : Nat} {name : String}
    (h : (block.declared count).procedures.contains name = true) :
    ∃ body, block.procedures.lookup name = some body := by
  rw [← Option.isSome_iff_exists, Ledger.lookup_isSome_iff_mem]
  rw [List.contains_iff_mem, declared, List.map_take] at h
  exact List.mem_of_mem_take h

namespace Frames

variable {frames later : Frames} {number parent : Nat} {name : String}

/-- What the blocks around that of a frame have declared when they come to it, innermost first. -/
def around (frames : Frames) (number : Nat) : List Declared :=
  match (frames.frame number).parent with
  | none => []
  | some parent =>
    if parent < number then
      (frames.frame parent).block.declaredFor (frames.frame number).name :: around frames parent
    else []
termination_by number

/-- The scope in which the statement of a frame's block is parsed. -/
def scope (frames : Frames) (number : Nat) : Scope where
  own := (frames.frame number).block.declared (frames.frame number).block.procedures.length
  outer := frames.around number

/-- The innermost frame whose block has declared the procedure for the parser. -/
def resolved? (frames : Frames) (number : Nat) (name : String) : Option Nat :=
  (((frames.staticChain number).zip (frames.scope number).levels).find? fun entry =>
    entry.2.procedures.contains name).map Prod.fst

/-- Nothing is around a frame without a parent. -/
theorem around_root (h : (frames.frame number).parent = none) : frames.around number = [] := by
  rw [around]
  simp only [h]

/-- The block of its parent is around a frame, and what is around that. -/
theorem around_inner (hlinked : frames.Linked) (h : (frames.frame number).parent = some parent) :
    frames.around number =
      (frames.frame parent).block.declaredFor (frames.frame number).name ::
        frames.around parent := by
  rw [around]
  simp only [h]
  exact if_pos (hlinked number parent h)

/-- What is around a frame is given by the labels of the frames. -/
theorem around_congr (hlinked : frames.Linked) (hlater : later.Linked)
    (h : ∀ other ≤ number, (later.frame other).label = (frames.frame other).label) :
    later.around number = frames.around number := by
  have hparent {other : Nat} (hle : other ≤ number) :
      (later.frame other).parent = (frames.frame other).parent :=
    congrArg (fun label => label.2.2.1) (h other hle)
  induction number using hlinked.induct with
  | root number hnone => rw [around_root hnone, around_root ((hparent (Nat.le_refl _)).trans hnone)]
  | inner number parent hsome ih =>
      have hlt := hlinked number parent hsome
      have hname : (later.frame number).name = (frames.frame number).name :=
        congrArg (fun label => label.2.1) (h number (Nat.le_refl _))
      have hblock : (later.frame parent).block = (frames.frame parent).block :=
        congrArg (fun label => label.1) (h parent (Nat.le_of_lt hlt))
      rw [around_inner hlinked hsome, around_inner hlater ((hparent (Nat.le_refl _)).trans hsome),
        hname, hblock]
      exact congrArg _ (ih (fun other hle => h other (Nat.le_trans hle (Nat.le_of_lt hlt)))
        fun hle => hparent (Nat.le_trans hle (Nat.le_of_lt hlt)))

/-- What is around a new frame is what its parent's block has declared for it, and what is around
the parent. -/
theorem add_around_length {body : Block} (hlinked : frames.Linked)
    (hparent : parent < frames.length) :
    (frames.add name body parent).around frames.length =
      (frames.frame parent).block.declaredFor name :: frames.around parent := by
  have hnew : ((frames.add name body parent).frame frames.length).parent = some parent := by simp
  have hrest : (frames.add name body parent).around parent = frames.around parent :=
    around_congr hlinked (hlinked.add hparent) fun other hle => by
      rw [add_frame_of_lt (Nat.lt_of_le_of_lt hle hparent)]
  rw [around_inner (hlinked.add hparent) hnew, hrest, add_frame_length, add_frame_of_lt hparent]

/-! ## Constants and variables -/

/-- The constants and variables of a frame without a parent are those of its block. -/
theorem scope_symbol?_root (h : (frames.frame number).parent = none) :
    (frames.scope number).symbol? name = (frames.frame number).block.symbols.lookup name := by
  rw [Scope.symbol?, Scope.levels, scope, around_root h, List.findSome?_cons]
  cases hsymbol : (frames.frame number).block.symbols.lookup name with
  | none => simp [Block.declared, hsymbol]
  | some entry => simp [Block.declared, hsymbol]

/-- The constants and variables of a frame with a parent are those of its block, and those of the
parent. -/
theorem scope_symbol?_inner (hlinked : frames.Linked)
    (h : (frames.frame number).parent = some parent) :
    (frames.scope number).symbol? name =
      ((frames.frame number).block.symbols.lookup name).or
        ((frames.scope parent).symbol? name) := by
  rw [Scope.symbol?, Scope.symbol?, Scope.levels, Scope.levels, scope, scope,
    around_inner hlinked h, List.findSome?_cons]
  cases hsymbol : (frames.frame number).block.symbols.lookup name with
  | none =>
      simp only [Block.declared, Block.declaredFor, hsymbol, Option.none_or, List.findSome?_cons]
  | some entry => simp [Block.declared, hsymbol]

/-- A name that stands for a constant or a variable is held by the frame whose block declares it. -/
theorem holder?_of_symbol? {entry : Option Int} (hlinked : frames.Linked)
    (hnames : ∀ other ≤ number, (frames.frame other).values.map Prod.fst =
      (frames.frame other).block.symbols.map Prod.fst)
    (h : (frames.scope number).symbol? name = some entry) :
    ∃ holder, frames.holder? number name = some holder ∧
      (frames.frame holder).block.symbols.lookup name = some entry := by
  have hheld {other : Nat} (hle : other ≤ number) :
      ((frames.frame other).values.lookup name).isSome =
        ((frames.frame other).block.symbols.lookup name).isSome := by
    rw [Bool.eq_iff_iff, Ledger.lookup_isSome_iff_mem, Ledger.lookup_isSome_iff_mem,
      hnames other hle]
  induction number using hlinked.induct with
  | root number hparent =>
      rw [scope_symbol?_root hparent] at h
      refine ⟨number, ?_, h⟩
      rw [holder?_root hparent, hheld (Nat.le_refl _), h]
      rfl
  | inner number parent hparent ih =>
      have hlt := hlinked number parent hparent
      rw [scope_symbol?_inner hlinked hparent] at h
      rw [holder?_inner hlinked hparent, hheld (Nat.le_refl _)]
      cases hsymbol : (frames.frame number).block.symbols.lookup name with
      | some found =>
          rw [hsymbol, Option.some_or] at h
          exact ⟨number, rfl, hsymbol.trans h⟩
      | none =>
          rw [hsymbol, Option.none_or] at h
          exact ih (fun other hle => hnames other (Nat.le_trans hle (Nat.le_of_lt hlt))) h
            fun hle => hheld (Nat.le_trans hle (Nat.le_of_lt hlt))

/-! ## Procedures -/

/-- The parser finds the declaration of a procedure that is visible, and the run finds one that is
as near or nearer. It is the same unless the block of a nearer frame declares the name, too. -/
theorem declarer?_of_visible {count : Nat} (hlinked : frames.Linked)
    (h : ((frames.frame number).block.declared count :: frames.around number).any
      (fun level => level.procedures.contains name) = true) :
    ∃ resolved declarer declared body,
      (((frames.staticChain number).zip
        ((frames.frame number).block.declared count :: frames.around number)).find? fun entry =>
          entry.2.procedures.contains name).map Prod.fst = some resolved ∧
      resolved ∈ frames.staticChain number ∧
      (frames.frame resolved).block.procedures.lookup name = some declared ∧
      frames.declarer? number name = some (declarer, body) ∧
      (declarer = resolved ↔ ∀ nearer ∈ frames.staticChain number, resolved < nearer →
        (frames.frame nearer).block.procedures.lookup name = none) := by
  induction number using hlinked.induct generalizing count with
  | root number hparent =>
      rw [around_root hparent, List.any_cons, List.any_nil, Bool.or_false] at h
      obtain ⟨body, hbody⟩ := Block.lookup_of_declared h
      rw [around_root hparent, staticChain_root hparent, declarer?_root hparent, hbody]
      refine ⟨number, number, body, body, ?_, List.mem_singleton_self _, hbody, rfl, ?_⟩
      · rw [List.zip_cons_cons, List.find?_cons, h]
        rfl
      · refine ⟨fun _ nearer hmem hlt => ?_, fun _ => rfl⟩
        exact (Nat.ne_of_gt hlt (List.mem_singleton.1 hmem)).elim
  | inner number parent hparent ih =>
      have hless := hlinked number parent hparent
      rw [staticChain_inner hlinked hparent, declarer?_inner hlinked hparent, List.zip_cons_cons]
      cases hown : ((frames.frame number).block.declared count).procedures.contains name with
      | true =>
          obtain ⟨body, hbody⟩ := Block.lookup_of_declared hown
          rw [hbody]
          refine ⟨number, number, body, body, ?_, List.mem_cons_self, hbody, rfl, ?_⟩
          · rw [List.find?_cons, hown]
            rfl
          · refine ⟨fun _ nearer hmem hlt => ?_, fun _ => rfl⟩
            rw [← staticChain_inner hlinked hparent] at hmem
            exact (Nat.not_le_of_lt hlt (le_of_mem_staticChain hlinked hmem)).elim
      | false =>
          rw [List.any_cons, hown, Bool.false_or, around_inner hlinked hparent] at h
          obtain ⟨resolved, declarer, declared, body, hresolved, hmem, hdeclared, hdeclarer,
            hiff⟩ := ih h
          have hfar : resolved < number :=
            Nat.lt_of_le_of_lt (le_of_mem_staticChain hlinked hmem) hless
          rw [around_inner hlinked hparent, List.find?_cons, hown]
          -- The block of the frame may declare the procedure further on.
          cases hbody : (frames.frame number).block.procedures.lookup name with
          | some nearerBody =>
              refine ⟨resolved, number, declared, nearerBody, hresolved,
                List.mem_cons_of_mem _ hmem, hdeclared, rfl, ?_⟩
              refine ⟨fun heq => (Nat.ne_of_gt hfar heq).elim, fun hnone => ?_⟩
              cases (hnone number List.mem_cons_self hfar).symm.trans hbody
          | none =>
              refine ⟨resolved, declarer, declared, body, hresolved, List.mem_cons_of_mem _ hmem,
                hdeclared, hdeclarer, hiff.trans ?_⟩
              rw [List.forall_mem_cons]
              exact ⟨fun hnone => ⟨fun _ => hbody, hnone⟩, fun hnone => hnone.2⟩

end Frames

end Parlance.Pl0
