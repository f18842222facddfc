import Parlance.Proofs.Pl0.Derivation
import Parlance.Proofs.Pl0.Programs

/-!
# The names of a program

The names in a tree, in the order in which a text of the tree has them: they are the names that the
tokens stand for from which the tree is derived.
-/

namespace Parlance.Pl0

/-! ## Names of trees -/

/-- The names in an expression, in their order. -/
def Expr.identifiers : Expr → List String
  | number _ => []
  | symbol name => [name]
  | negate operand => operand.identifiers
  | binary _ left right => left.identifiers ++ right.identifiers
  | unspecified => []

/-- The names in a condition, in their order. -/
def Condition.identifiers : Condition → List String
  | odd operand => operand.identifiers
  | relation _ left right => left.identifiers ++ right.identifiers

mutual

/-- The names in a statement, in their order. -/
def Statement.identifiers : Statement → List String
  | .assign name value => name :: value.identifiers
  | .call name => [name]
  | .read name => [name]
  | .write value => value.identifiers
  | .sequence statements => statementIdentifiers statements
  | .ifThen test body => test.identifiers ++ body.identifiers
  | .whileDo test body => test.identifiers ++ body.identifiers
  | .empty => []

/-- The names in statements, in their order. -/
def statementIdentifiers : List Statement → List String
  | [] => []
  | statement :: others => statement.identifiers ++ statementIdentifiers others

end

mutual

/-- The names in a block, in their order. -/
def Block.identifiers : Block → List String
  | ⟨constants, names, procedures, statement⟩ =>
    constants.map Prod.fst ++ (names ++ (procedureIdentifiers procedures ++ statement.identifiers))

/-- The names in the declarations of procedures, in their order. -/
def procedureIdentifiers : List (String × Block) → List String
  | [] => []
  | (name, body) :: others => name :: (body.identifiers ++ procedureIdentifiers others)

end

/-- The names in statements are those of each. -/
theorem statementIdentifiers_eq (statements : List Statement) :
    statementIdentifiers statements = statements.flatMap Statement.identifiers := by
  induction statements with
  | nil => rfl
  | cons statement others ih => rw [statementIdentifiers, ih, List.flatMap_cons]

/-- What a block declares is among its names. -/
theorem Block.symbols_identifiers {block : Block} {name : String}
    (h : name ∈ block.symbols.map Prod.fst) : name ∈ block.identifiers := by
  obtain ⟨constants, names, procedures, statement⟩ := block
  simp only [symbols, List.map_append, List.map_map, List.mem_append, Function.comp_def,
    List.map_id'] at h
  rw [identifiers, List.mem_append, List.mem_append]
  exact h.imp_right .inl

/-- The names of a procedure's body are among those of the declarations of procedures. -/
theorem body_procedureIdentifiers {procedures : List (String × Block)} {procedure : String × Block}
    {name : String} (hmem : procedure ∈ procedures) (h : name ∈ procedure.2.identifiers) :
    name ∈ procedureIdentifiers procedures := by
  induction procedures with
  | nil => cases hmem
  | cons first others ih =>
      rw [procedureIdentifiers, List.mem_cons, List.mem_append]
      rcases List.mem_cons.1 hmem with rfl | hmem
      · exact .inr (.inl h)
      · exact .inr (.inr (ih hmem))

/-- The names of a procedure's body are among those of the block. -/
theorem Block.body_identifiers {block : Block} {procedure : String × Block} {name : String}
    (hmem : procedure ∈ block.procedures) (h : name ∈ procedure.2.identifiers) :
    name ∈ block.identifiers := by
  obtain ⟨constants, names, procedures, statement⟩ := block
  simp only [identifiers, List.mem_append]
  exact .inr (.inr (.inl (body_procedureIdentifiers hmem h)))

/-! ## Names of tokens -/

/-- The names that tokens stand for, in their order. -/
def identifiersOf (tokens : Tokens) : List String :=
  (tokens.filter fun token => token.kind = .identifier).map Token.text

/-- Up to what is left, the tokens stand for these names. What the grammar quotes stands for none,
if the tokens are proper. -/
def Spells (first : Tokens) (names : List String) (rest : Tokens) : Prop :=
  (∀ token ∈ first, Proper token) →
    (∀ token ∈ rest, Proper token) ∧ identifiersOf first = names ++ identifiersOf rest

namespace Spells

variable {first second rest : Tokens} {names more : List String} {token : Token Kind}
  {text : String}

/-- Nothing stands for no names. -/
theorem refl : Spells rest [] rest := fun h => ⟨h, rfl⟩

/-- The names follow one another as the tokens do. -/
theorem trans (hfirst : Spells first names second) (hsecond : Spells second more rest) :
    Spells first (names ++ more) rest := by
  intro h
  obtain ⟨hproper, hnames⟩ := hfirst h
  obtain ⟨hrest, hmore⟩ := hsecond hproper
  exact ⟨hrest, by rw [hnames, hmore, List.append_assoc]⟩

/-- A name stands for itself. -/
theorem identifier (hkind : token.kind = .identifier) : Spells (token :: rest) [token.text] rest :=
  fun h => ⟨fun _ hmem => h _ (List.mem_cons_of_mem _ hmem), by simp [identifiersOf, hkind]⟩

/-- What is no name stands for none. -/
theorem other (hkind : token.kind ≠ .identifier) : Spells (token :: rest) [] rest :=
  fun h => ⟨fun _ hmem => h _ (List.mem_cons_of_mem _ hmem), by simp [identifiersOf, hkind]⟩

/-- What the grammar quotes stands for no name. -/
theorem terminal (hmem : token.text ∈ terminals) : Spells (token :: rest) [] rest :=
  fun h => other (fun hkind => h token List.mem_cons_self (.inl hkind) hmem) h

/-- What the grammar quotes in this place stands for no name. -/
theorem quoted (htext : token.text = text) (hmem : text ∈ terminals := by decide) :
    Spells (token :: rest) [] rest :=
  terminal (htext ▸ hmem)

/-- What the grammar quotes behind the names adds none. -/
theorem closed (h : Spells first names (token :: rest)) (htext : token.text = text)
    (hmem : text ∈ terminals := by decide) : Spells first names rest := by
  have hclosed := h.trans (quoted htext hmem)
  rwa [List.append_nil] at hclosed

end Spells

/-! ## Names of derivations -/

section

variable {first rest : Tokens}

/-- The tokens of an expression stand for its names. -/
theorem Expr.Derives.spells {level : Level} {value : Expr}
    (h : Expr.Derives level first value rest) : Spells first value.identifiers rest := by
  induction h with
  | number hkind => exact .other (by simp [hkind])
  | name hkind => exact .identifier hkind
  | group hopening _ hclosing ih =>
      exact (Spells.quoted hopening).trans (ih.closed hclosing)
  | plus htext _ ih => exact (Spells.quoted htext).trans ih
  | minus htext _ ih => exact (Spells.quoted htext).trans ih
  | factor _ ih => exact ih
  | product _ hoperator _ ih ih' =>
      have hsubset : ["*", "/"] ⊆ terminals := by decide
      exact (ih.closed rfl (hsubset hoperator)).trans ih'
  | term _ ih => exact ih
  | sum _ hoperator _ ih ih' =>
      have hsubset : ["+", "-"] ⊆ terminals := by decide
      exact (ih.closed rfl (hsubset hoperator)).trans ih'

/-- The tokens of a condition stand for its names. -/
theorem Condition.Derives.spells {test : Condition} (h : Condition.Derives first test rest) :
    Spells first test.identifiers rest := by
  cases h with
  | odd htext hvalue => exact (Spells.quoted htext).trans hvalue.spells
  | relation hleft hoperator hright =>
      have hsubset : relations ⊆ terminals := by decide
      exact (hleft.spells.closed rfl (hsubset hoperator)).trans hright.spells

/-- The tokens of items with separators stand for their names, if those of each item do. -/
theorem Separated.spells {α : Type} {item : Tokens → α → Tokens → Prop} {separator : String}
    {identifiers : α → List String} {values : List α}
    (h : Separated separator item first values rest)
    (hitem : ∀ first value rest, item first value rest → Spells first (identifiers value) rest)
    (hseparator : separator ∈ terminals := by decide) :
    Spells first (values.flatMap identifiers) rest := by
  induction h with
  | one hvalue =>
      rw [List.flatMap_singleton]
      exact hitem _ _ _ hvalue
  | more hvalue htext _ ih =>
      rw [List.flatMap_cons]
      exact ((hitem _ _ _ hvalue).closed htext hseparator).trans ih

/-- The tokens of a section stand for the names of its items, if those of each item do. -/
theorem Section.spells {α : Type} {item : Tokens → α → Tokens → Prop} {keyword : String}
    {identifiers : α → List String} {values : List α} (h : Section keyword item first values rest)
    (hitem : ∀ first value rest, item first value rest → Spells first (identifiers value) rest)
    (hkeyword : keyword ∈ terminals := by decide) :
    Spells first (values.flatMap identifiers) rest := by
  cases h with
  | absent => exact .refl
  | present htext hitems hclosing =>
      exact (Spells.quoted htext hkeyword).trans
        ((hitems.spells hitem).closed hclosing)

/-- The tokens of a statement stand for its names. -/
theorem Statement.Derives.spells {statement : Statement}
    (h : Statement.Derives first statement rest) : Spells first statement.identifiers rest := by
  induction h using Statement.Derives.induct with
  | assign hkind htext hvalue =>
      exact (Spells.identifier hkind).trans ((Spells.quoted htext).trans hvalue.spells)
  | call htext hkind => exact (Spells.quoted htext).trans (.identifier hkind)
  | read htext hkind => exact (Spells.quoted htext).trans (.identifier hkind)
  | write htext hvalue => exact (Spells.quoted htext).trans hvalue.spells
  | sequence htext _ hclosing ih =>
      rw [Statement.identifiers, statementIdentifiers_eq]
      have hstatements := ih.spells fun _ _ _ hitem => hitem.2
      exact (Spells.quoted htext).trans (hstatements.closed hclosing)
  | ifThen htext htest hbetween _ ih =>
      exact (Spells.quoted htext).trans
        ((htest.spells.closed hbetween).trans ih)
  | whileDo htext htest hbetween _ ih =>
      exact (Spells.quoted htext).trans
        ((htest.spells.closed hbetween).trans ih)
  | empty => exact .refl

/-- The tokens of the declaration of a constant stand for its name. -/
theorem ConstantDerives.spells {constant : String × Int} (h : ConstantDerives first constant rest) :
    Spells first [constant.1] rest := by
  cases h with
  | intro hkind htext hnumber =>
      exact (Spells.identifier hkind).trans
        ((Spells.quoted htext).trans (.other (by simp [hnumber])))

/-- The token of the declaration of a variable stands for its name. -/
theorem VariableDerives.spells {name : String} (h : VariableDerives first name rest) :
    Spells first [name] rest := by
  cases h with
  | intro hkind => exact .identifier hkind

end

mutual

/-- The tokens of a block stand for its names. -/
theorem Block.Derives.spells {first rest : Tokens} {block : Block} :
    Block.Derives first block rest → Spells first block.identifiers rest
  | .intro hconstants hnames hprocedures hstatement => by
      have hconstants := hconstants.spells fun _ _ _ => ConstantDerives.spells
      have hnames := hnames.spells fun _ _ _ => VariableDerives.spells
      rw [← List.map_eq_flatMap] at hconstants
      rw [List.flatMap_singleton'] at hnames
      exact hconstants.trans (hnames.trans (hprocedures.spells.trans hstatement.spells))

/-- The tokens of the declaration of a procedure stand for its name and those of its body. -/
theorem ProcedureDerives.spells {first rest : Tokens} {procedure : String × Block} :
    ProcedureDerives first procedure rest →
      Spells first (procedure.1 :: procedure.2.identifiers) rest
  | .intro hkind htext hbody hclosing =>
      (Spells.identifier hkind).trans ((Spells.quoted htext).trans
        (hbody.spells.closed hclosing))

/-- The tokens of the declarations of procedures stand for their names and those of the bodies. -/
theorem ProceduresDerive.spells {first rest : Tokens} {procedures : List (String × Block)} :
    ProceduresDerive first procedures rest → Spells first (procedureIdentifiers procedures) rest
  | .none => .refl
  | .more htext hprocedure hothers =>
      (Spells.quoted htext).trans (hprocedure.spells.trans hothers.spells)

end

/-- The names in a program are those that the tokens of its text stand for. -/
theorem identifiers_tokenize {text : String} {program : Program}
    (h : parseProgram text = .ok program) :
    program.block.identifiers = identifiersOf (lexer.tokenize text).tokens := by
  obtain ⟨final, hfinal⟩ := parseProgram_ok_iff_program.1 h
  obtain ⟨-, opening, sentence, closing, hopening, hclosing, htokens, dot, hblock, htext⟩ :=
    program_gives hfinal
  have hproper : ∀ token ∈ sentence, Proper token := fun token hmem =>
    proper_of_mem_tokenize (by rw [htokens]; simp [hmem])
  obtain ⟨-, hnames⟩ := (hblock.spells.closed htext) hproper
  have hends : identifiersOf (lexer.tokenize text).tokens = identifiersOf sentence := by
    rw [htokens]
    simp [identifiersOf, hopening, hclosing]
  rw [hends, hnames]
  simp [identifiersOf]

end Parlance.Pl0
