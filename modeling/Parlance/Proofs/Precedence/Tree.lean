import Parlance.Proofs.Precedence.Engine
import Parlance.Proofs.Precedence.Table

/-!
# Trees of operators

The syntax trees that a table of operators speaks of, the order in which their tokens are read, and
the trees among them that respect precedence. A tree is canonical if every operator admits what its
right operand begins with, and no operator on the right edge of a left operand would have taken in
the operator that follows it. Neither condition mentions the parser.
-/

namespace Parlance.Precedence

/-- A syntax tree. A node holds the head of its operator and the symbol that it is written with. -/
inductive Tree (κ : Type) where
  | operand (token : Token κ)
  | before (head : Head) (symbol : String) (operand : Tree κ)
  | between (head : Head) (symbol : String) (left right : Tree κ)
  | after (head : Head) (symbol : String) (operand : Tree κ)

/-- Does the operator follow its first operand? -/
def Fixity.isTail : Fixity → Bool
  | unplaced | before => false
  | between | betweenRight | after => true

namespace Head

variable {γ κ : Type}

/-- The definition of the operator with this head whose action builds a tree. -/
def building (head : Head) : Entry γ κ (Tree κ) :=
  match head.fixity with
  | .unplaced => .unplaced head
  | .before => .placed
      ⟨head.precedence, head.symbols, .before fun _ _ symbol operand =>
        return .before head symbol operand⟩
  | .between => .placed
      ⟨head.precedence, head.symbols, .between false fun _ _ symbol left right =>
        return .between head symbol left right⟩
  | .betweenRight => .placed
      ⟨head.precedence, head.symbols, .between true fun _ _ symbol left right =>
        return .between head symbol left right⟩
  | .after => .placed
      ⟨head.precedence, head.symbols, .after fun _ _ symbol operand =>
        return .after head symbol operand⟩

/-- What the operator admits in the operand on its right: an operator that groups to the left admits
what binds tighter, any other also what binds equally. -/
def rightLimit (head : Head) : Limit :=
  match head.fixity with
  | .between => .below head.precedence
  | _ => .upTo head.precedence

end Head

namespace Tree

variable {κ : Type}

/-- The tokens of a tree from left to right. -/
inductive Reads : Tree κ → List (Token κ) → Prop where
  | operand (token) : Reads (.operand token) [token]
  | before (head) (symbol : Token κ) {operand tokens} :
      Reads operand tokens → Reads (.before head symbol.text operand) (symbol :: tokens)
  | between (head) (symbol : Token κ) {left right first second} :
      Reads left first → Reads right second →
      Reads (.between head symbol.text left right) (first ++ symbol :: second)
  | after (head) (symbol : Token κ) {operand tokens} :
      Reads operand tokens → Reads (.after head symbol.text operand) (tokens ++ [symbol])

/-- The tree is put together from these operators, each in its place and with one of its symbols,
and from operands that are accepted and are no symbols which stand before an operand. -/
def Over (heads : List Head) (accepts : Token κ → Prop) : Tree κ → Prop
  | operand token =>
      accepts token ∧ ∀ head ∈ heads, head.fixity = .before → token.text ∉ head.symbols
  | before head symbol inner =>
      head ∈ heads ∧ head.fixity = .before ∧ symbol ∈ head.symbols ∧ inner.Over heads accepts
  | between head symbol left right =>
      head ∈ heads ∧ (head.fixity = .between ∨ head.fixity = .betweenRight) ∧
        symbol ∈ head.symbols ∧ left.Over heads accepts ∧ right.Over heads accepts
  | after head symbol inner =>
      head ∈ heads ∧ head.fixity = .after ∧ symbol ∈ head.symbols ∧ inner.Over heads accepts

/-- The operators that are met on the way down along left operands. -/
def leftSpine : Tree κ → List Head
  | operand _ | before _ _ _ => []
  | between head _ left _ => head :: left.leftSpine
  | after head _ inner => head :: inner.leftSpine

/-- The limits of the operators that are met on the way down along right operands. -/
def rightEdge : Tree κ → List Limit
  | operand _ | after _ _ _ => []
  | before head _ inner => head.rightLimit :: inner.rightEdge
  | between head _ _ right => head.rightLimit :: right.rightEdge

/-- The tree respects precedence. -/
def Canonical : Tree κ → Prop
  | operand _ => True
  | before head _ inner =>
      inner.Canonical ∧
        ∀ tail ∈ inner.leftSpine, head.rightLimit.admits tail.precedence = true
  | between head _ left right =>
      left.Canonical ∧ right.Canonical ∧
        (∀ tail ∈ right.leftSpine, head.rightLimit.admits tail.precedence = true) ∧
        ∀ limit ∈ left.rightEdge, limit.admits head.precedence = false
  | after head _ inner =>
      inner.Canonical ∧ ∀ limit ∈ inner.rightEdge, limit.admits head.precedence = false

/-- A tree has at least one token. -/
theorem Reads.ne_nil {tree : Tree κ} {tokens : List (Token κ)} (h : tree.Reads tokens) :
    tokens ≠ [] := by
  cases h <;> simp

end Tree

/-! ## The tables of a grammar that builds trees -/

namespace Head

variable {γ κ : Type} {heads : List Head} {primary : Primary γ κ (Tree κ)}
  {grammar : Grammar γ κ (Tree κ)}

/-- The row of an operator that stands before its operand and builds a tree. -/
def beforeRow (head : Head) : Row (Unary γ κ (Tree κ)) :=
  ⟨head, fun _ _ symbol operand => return .before head symbol operand⟩

/-- What an operator that follows an operand does to build a tree. -/
def tailAction (head : Head) : Tail γ κ (Tree κ) :=
  match head.fixity with
  | .betweenRight =>
      .between true fun _ _ symbol left right => return .between head symbol left right
  | .after => .after fun _ _ symbol operand => return .after head symbol operand
  | _ => .between false fun _ _ symbol left right => return .between head symbol left right

/-- The operators that stand before their operand are found by their symbols. -/
theorem before_lookup_iff
    (h : Grammar.define (heads.map building) primary = .ok grammar) (symbol : String)
    (row : Row (Unary γ κ (Tree κ))) :
    grammar.before.lookup symbol = some row ↔
      ∃ head ∈ heads, head.fixity = .before ∧ symbol ∈ head.symbols ∧ row = head.beforeRow := by
  rw [Grammar.define_before_lookup_iff h]
  constructor
  · rintro ⟨operator, hplaced, hsymbol, hrow⟩
    obtain ⟨head, hhead, hbuilding⟩ := List.mem_map.1 hplaced
    rcases head with ⟨fixity, precedence, symbols⟩
    cases fixity <;> cases hbuilding <;> cases hrow
    exact ⟨_, hhead, rfl, hsymbol, rfl⟩
  · rintro ⟨head, hhead, hfixity, hsymbol, rfl⟩
    rcases head with ⟨fixity, precedence, symbols⟩
    cases hfixity
    exact ⟨_, List.mem_map.2 ⟨_, hhead, rfl⟩, hsymbol, rfl⟩

/-- The operators that follow an operand are found by their symbols. -/
theorem tail_lookup_iff
    (h : Grammar.define (heads.map building) primary = .ok grammar) (symbol : String)
    (row : Row (Tail γ κ (Tree κ))) :
    grammar.tail.lookup symbol = some row ↔
      ∃ head ∈ heads, head.fixity.isTail = true ∧ symbol ∈ head.symbols ∧
        row = ⟨head, head.tailAction⟩ := by
  rw [Grammar.define_tail_lookup_iff h]
  constructor
  · rintro ⟨operator, hplaced, hsymbol, hrow⟩
    obtain ⟨head, hhead, hbuilding⟩ := List.mem_map.1 hplaced
    rcases head with ⟨fixity, precedence, symbols⟩
    cases fixity <;> cases hbuilding <;> cases hrow <;>
      exact ⟨_, hhead, rfl, hsymbol, rfl⟩
  · rintro ⟨head, hhead, hfixity, hsymbol, rfl⟩
    rcases head with ⟨fixity, precedence, symbols⟩
    cases fixity <;> cases hfixity <;>
      exact ⟨_, List.mem_map.2 ⟨_, hhead, rfl⟩, hsymbol, rfl⟩

end Head

end Parlance.Precedence
