import Parlance.Proofs.Pl0.Statements

/-!
# One derivation

Tokens begin with one expression, statement or block at most that is followed by what can follow
one. Expressions and statements are derived once because they are parsed: in a scope that declares
every name, what is derived is what the parser yields. The sections of a block can be told apart by
their first tokens.
-/

namespace Parlance.Pl0

variable {α : Type} {separator keyword : String} {derives : Tokens → α → Tokens → Prop}
  {values others : List α} {first rest rest' : Tokens} {texts fewer : List String}

/-! ## Expressions and statements -/

/-- A scope in which the texts of all these tokens are variables and procedures. -/
def Scope.declaring (tokens : Tokens) : Scope :=
  ⟨⟨tokens.map fun token => (token.text, none), tokens.map Token.text⟩, []⟩

/-- Every text of the tokens is a variable. -/
theorem Scope.declaring_symbol {tokens : Tokens} {token : Token Kind} (h : token ∈ tokens) :
    (Scope.declaring tokens).symbol? token.text = some none := by
  have hlookup : (tokens.map fun token => (token.text, (none : Option Int))).lookup token.text =
      some none := by
    induction tokens with
    | nil => cases h
    | cons first others ih =>
        rw [List.map_cons, List.lookup_cons]
        split
        · rfl
        · rcases List.mem_cons.1 h with rfl | hmem
          · simp_all
          · exact ih hmem
  simp [symbol?, levels, declaring, hlookup]

/-- Every text of the tokens is a procedure. -/
theorem Scope.declaring_procedure {tokens : Tokens} {token : Token Kind} (h : token ∈ tokens) :
    (Scope.declaring tokens).hasProcedure token.text = true := by
  simp only [hasProcedure, levels, declaring, List.any_cons, List.any_nil, Bool.or_false,
    List.contains_iff_mem]
  exact List.mem_map_of_mem h

/-- Every name of the tokens is declared. -/
theorem Scope.declaring_all (tokens : Tokens) : DeclaresAll (.declaring tokens) tokens :=
  fun _ htoken => ⟨declaring_symbol htoken, declaring_procedure htoken⟩

/-- A scanner over proper tokens is inside a text. -/
theorem ready_ofTokens {tokens : Tokens} (h : ∀ token ∈ tokens, Proper token) :
    Ready (.ofTokens tokens none .stop) :=
  ⟨rfl, rfl, h⟩

/-- Tokens begin with one expression at most that is followed by no operator. -/
theorem Expr.Derives.unique {value other : Expr} {next next' : Token Kind}
    (hproper : ∀ token ∈ first, Proper token)
    (h : Expr.Derives .expression first value (next :: rest))
    (h' : Expr.Derives .expression first other (next' :: rest'))
    (hnext : next.text ∉ ["*", "/"] ++ ["+", "-"])
    (hnext' : next'.text ∉ ["*", "/"] ++ ["+", "-"]) :
    value = other ∧ next :: rest = next' :: rest' := by
  have hready := ready_ofTokens hproper
  have hdeclares := Scope.declaring_all first
  exact (expression_yields hready h (hdeclares.expression h) hnext).unique
    (expression_yields hready h' (hdeclares.expression h') hnext')

/-- Tokens begin with one statement at most that is followed by what can follow one. -/
theorem Statement.Derives.unique {result other : Statement} {next next' : Token Kind}
    (hproper : ∀ token ∈ first, Proper token)
    (h : Statement.Derives first result (next :: rest))
    (h' : Statement.Derives first other (next' :: rest'))
    (hnext : next.text ∈ statementEnds) (hnext' : next'.text ∈ statementEnds) :
    result = other ∧ next :: rest = next' :: rest' := by
  have hready := ready_ofTokens hproper
  have hdeclares := Scope.declaring_all first
  exact (statement_yields hready h (hdeclares.statement h) hnext).unique
    (statement_yields hready h' (hdeclares.statement h') hnext')

/-! ## The first token -/

/-- The words that open the sections of a block. -/
def openers : List String := ["CONST", "VAR", "PROCEDURE"]

/-- The tokens begin with one whose text is none of these. -/
def StartsOutside (texts : List String) (tokens : Tokens) : Prop :=
  ∃ token others, tokens = token :: others ∧ token.text ∉ texts

/-- The tokens begin with one whose text is one of these. -/
def StartsInside (texts : List String) (tokens : Tokens) : Prop :=
  ∃ token others, tokens = token :: others ∧ token.text ∈ texts

/-- What begins with none of some texts begins with none of fewer. -/
theorem StartsOutside.mono (h : StartsOutside texts first) (hfewer : fewer ⊆ texts) :
    StartsOutside fewer first := by
  obtain ⟨token, others, rfl, htext⟩ := h
  exact ⟨token, others, rfl, fun hmem => htext (hfewer hmem)⟩

/-- What can follow a block. -/
def blockEnds : List String := [";", "."]

/-- What can follow a block can follow a statement. -/
theorem StartsInside.follows (h : StartsInside blockEnds first) :
    ∃ token others, first = token :: others ∧ token.text ∈ statementEnds := by
  have hmono : ∀ text ∈ blockEnds, text ∈ statementEnds := by decide
  obtain ⟨token, others, rfl, htext⟩ := h
  exact ⟨token, others, rfl, hmono _ htext⟩

/-- What the statement of a block and what follows it begin with opens no section. -/
theorem Statement.Derives.startsOutside {statement : Statement}
    (hproper : ∀ token ∈ first, Proper token) (h : Statement.Derives first statement rest)
    (hrest : StartsInside blockEnds rest) : StartsOutside openers first := by
  have hquoted : ∀ text ∈ openers, text ∈ terminals := by decide
  cases h with
  | assign hkind _ _ =>
      refine ⟨_, _, rfl, fun hmem => ?_⟩
      exact hproper _ List.mem_cons_self (.inl hkind) (hquoted _ hmem)
  | call htext _ => exact ⟨_, _, rfl, by rw [htext]; decide⟩
  | read htext _ => exact ⟨_, _, rfl, by rw [htext]; decide⟩
  | write htext _ => exact ⟨_, _, rfl, by rw [htext]; decide⟩
  | sequence htext _ _ => exact ⟨_, _, rfl, by rw [htext]; decide⟩
  | ifThen htext _ _ _ => exact ⟨_, _, rfl, by rw [htext]; decide⟩
  | whileDo htext _ _ _ => exact ⟨_, _, rfl, by rw [htext]; decide⟩
  | empty =>
      -- Nothing has been consumed, so what follows the block comes first.
      have hlack : ∀ text ∈ blockEnds, text ∉ openers := by decide
      obtain ⟨next, others, rfl, hnext⟩ := hrest
      exact ⟨next, others, rfl, hlack _ hnext⟩

/-- What a section and what follows it begin with is the word that opens the section, or does not
come from it. -/
theorem Section.startsOutside (h : Section keyword derives first values rest)
    (hrest : StartsOutside texts rest) (hfewer : fewer ⊆ texts) (hkeyword : keyword ∉ fewer) :
    StartsOutside fewer first := by
  cases h with
  | absent => exact hrest.mono hfewer
  | present htext _ _ => exact ⟨_, _, rfl, by rw [htext]; exact hkeyword⟩

/-- What procedures and what follows them begin with opens no other section. -/
theorem ProceduresDerive.startsOutside {procedures : List (String × Block)}
    (h : ProceduresDerive first procedures rest) (hrest : StartsOutside openers rest) :
    StartsOutside ["CONST", "VAR"] first := by
  cases h with
  | none => exact hrest.mono (by decide)
  | more htext _ _ => exact ⟨_, _, rfl, by rw [htext]; decide⟩

/-- Each part of a block can be told from the parts that could stand before it. -/
theorem Block.Derives.heads {second third fourth : Tokens} {constants : List (String × Int)}
    {names : List String} {procedures : List (String × Block)} {statement : Statement}
    (hproper : ∀ token ∈ first, Proper token)
    (hconstants : Section "CONST" ConstantDerives first constants second)
    (hnames : Section "VAR" VariableDerives second names third)
    (hprocedures : ProceduresDerive third procedures fourth)
    (hstatement : Statement.Derives fourth statement rest) (hrest : StartsInside blockEnds rest) :
    StartsOutside ["CONST"] second ∧ StartsOutside ["VAR"] third ∧
      StartsOutside openers fourth := by
  have hsecond := hconstants.constants_suffix
  have hthird := hnames.names_suffix.trans hsecond
  have hfourth := hprocedures.contextFree.suffix.trans hthird
  have hlast := hstatement.startsOutside
    (fun token htoken => hproper token (hfourth.subset htoken)) hrest
  have hprocedure := hprocedures.startsOutside hlast
  exact ⟨hnames.startsOutside hprocedure (by decide) (by decide), hprocedure.mono (by decide),
    hlast⟩

/-! ## Blocks -/

/-- Tokens begin with one sequence of items at most that no separator follows. -/
theorem Separated.unique (h : Separated separator derives first values rest)
    (hitem : ∀ first value rest other rest', derives first value rest →
      derives first other rest' → value = other ∧ rest = rest')
    (hrest : StartsOutside [separator] rest)
    (h' : Separated separator derives first others rest')
    (hrest' : StartsOutside [separator] rest') : values = others ∧ rest = rest' := by
  induction h generalizing others with
  | one hvalue =>
      cases h' with
      | one hother =>
          obtain ⟨rfl, rfl⟩ := hitem _ _ _ _ _ hvalue hother
          exact ⟨rfl, rfl⟩
      | more hother htext _ =>
          obtain ⟨-, rfl⟩ := hitem _ _ _ _ _ hvalue hother
          obtain ⟨_, _, heq, hnot⟩ := hrest
          cases heq
          exact (hnot (by simp [htext])).elim
  | more hvalue htext _ ih =>
      cases h' with
      | one hother =>
          obtain ⟨-, rfl⟩ := hitem _ _ _ _ _ hvalue hother
          obtain ⟨_, _, heq, hnot⟩ := hrest'
          cases heq
          exact (hnot (by simp [htext])).elim
      | more hother _ hothers =>
          obtain ⟨rfl, heq⟩ := hitem _ _ _ _ _ hvalue hother
          cases heq
          obtain ⟨rfl, rfl⟩ := ih hrest hothers
          exact ⟨rfl, rfl⟩

/-- Tokens begin with one section at most that its keyword does not follow. -/
theorem Section.unique (h : Section keyword derives first values rest)
    (hitem : ∀ first value rest other rest', derives first value rest →
      derives first other rest' → value = other ∧ rest = rest')
    (hrest : StartsOutside [keyword] rest)
    (h' : Section keyword derives first others rest') (hrest' : StartsOutside [keyword] rest') :
    values = others ∧ rest = rest' := by
  have hsemicolon {closing : Token Kind} {left : Tokens} (hclosing : closing.text = ";") :
      StartsOutside [","] (closing :: left) :=
    ⟨closing, left, rfl, by rw [hclosing]; decide⟩
  cases h with
  | absent =>
      cases h' with
      | absent => exact ⟨rfl, rfl⟩
      | present htext _ _ =>
          obtain ⟨_, _, heq, hnot⟩ := hrest
          cases heq
          exact (hnot (by simp [htext])).elim
  | present htext hitems hclosing =>
      cases h' with
      | absent =>
          obtain ⟨_, _, heq, hnot⟩ := hrest'
          cases heq
          exact (hnot (by simp [htext])).elim
      | present _ hothers hclosing' =>
          obtain ⟨rfl, heq⟩ := hitems.unique hitem (hsemicolon hclosing) hothers
            (hsemicolon hclosing')
          cases heq
          exact ⟨rfl, rfl⟩

/-- Tokens begin with one declaration of a constant at most. -/
theorem ConstantDerives.unique {constant other : String × Int}
    (h : ConstantDerives first constant rest) (h' : ConstantDerives first other rest') :
    constant = other ∧ rest = rest' := by
  cases h with
  | intro _ _ _ =>
      cases h' with
      | intro _ _ _ => exact ⟨rfl, rfl⟩

/-- Tokens begin with one declaration of a variable at most. -/
theorem VariableDerives.unique {name other : String} (h : VariableDerives first name rest)
    (h' : VariableDerives first other rest') : name = other ∧ rest = rest' := by
  cases h with
  | intro _ =>
      cases h' with
      | intro _ => exact ⟨rfl, rfl⟩

mutual

/-- Tokens begin with one block at most that is followed by what can follow one. -/
theorem Block.Derives.unique {first rest rest' : Tokens} {body other : Block}
    (hproper : ∀ token ∈ first, Proper token) :
    Block.Derives first body rest → StartsInside blockEnds rest →
    Block.Derives first other rest' → StartsInside blockEnds rest' →
    body = other ∧ rest = rest'
  | .intro hconstants hnames hprocedures hstatement, hrest,
      .intro hconstants' hnames' hprocedures' hstatement', hrest' => by
      -- Both derivations cut the tokens at the same places, section by section.
      obtain ⟨hsecond, hthird, hfourth⟩ :=
        Block.Derives.heads hproper hconstants hnames hprocedures hstatement hrest
      obtain ⟨hsecond', hthird', hfourth'⟩ :=
        Block.Derives.heads hproper hconstants' hnames' hprocedures' hstatement' hrest'
      obtain ⟨rfl, rfl⟩ := hconstants.unique (fun _ _ _ _ _ => ConstantDerives.unique) hsecond
        hconstants' hsecond'
      obtain ⟨rfl, rfl⟩ := hnames.unique (fun _ _ _ _ _ => VariableDerives.unique) hthird
        hnames' hthird'
      have hsuffix := hnames.names_suffix.trans hconstants.constants_suffix
      obtain ⟨rfl, rfl⟩ := hprocedures.unique
        (fun token htoken => hproper token (hsuffix.subset htoken)) hfourth hprocedures' hfourth'
      have hsuffix := hprocedures.contextFree.suffix.trans hsuffix
      obtain ⟨_, _, rfl, hnext⟩ := hrest.follows
      obtain ⟨_, _, rfl, hnext'⟩ := hrest'.follows
      obtain ⟨rfl, heq⟩ := hstatement.unique
        (fun token htoken => hproper token (hsuffix.subset htoken)) hstatement' hnext hnext'
      exact ⟨rfl, heq⟩

/-- Tokens begin with one declaration of a procedure at most. -/
theorem ProcedureDerives.unique {first rest rest' : Tokens} {procedure other : String × Block}
    (hproper : ∀ token ∈ first, Proper token) :
    ProcedureDerives first procedure rest → ProcedureDerives first other rest' →
    procedure = other ∧ rest = rest'
  | .intro _ _ hbody hclosing, .intro _ _ hbody' hclosing' => by
      have hinside {closing : Token Kind} {left : Tokens} (hclosing : closing.text = ";") :
          StartsInside blockEnds (closing :: left) :=
        ⟨closing, left, rfl, by rw [hclosing]; decide⟩
      obtain ⟨rfl, heq⟩ := hbody.unique (fun token htoken => hproper token (by simp [htoken]))
        (hinside hclosing) hbody' (hinside hclosing')
      cases heq
      exact ⟨rfl, rfl⟩

/-- Tokens begin with one sequence of procedures at most that no procedure follows. -/
theorem ProceduresDerive.unique {first rest rest' : Tokens}
    {procedures others : List (String × Block)}
    (hproper : ∀ token ∈ first, Proper token) :
    ProceduresDerive first procedures rest → StartsOutside openers rest →
    ProceduresDerive first others rest' → StartsOutside openers rest' →
    procedures = others ∧ rest = rest'
  | .none, _, .none, _ => ⟨rfl, rfl⟩
  | .none, hrest, .more htext _ _, _ => by
      obtain ⟨_, _, heq, hnot⟩ := hrest
      cases heq
      exact (hnot (by rw [htext]; decide)).elim
  | .more htext _ _, _, .none, hrest' => by
      obtain ⟨_, _, heq, hnot⟩ := hrest'
      cases heq
      exact (hnot (by rw [htext]; decide)).elim
  | .more _ hprocedure hothers, hrest, .more _ hprocedure' hothers', hrest' => by
      have hproper' := fun token htoken => hproper token (List.mem_cons_of_mem _ htoken)
      obtain ⟨rfl, rfl⟩ := hprocedure.unique hproper' hprocedure'
      have hsuffix := hprocedure.contextFree.suffix
      obtain ⟨rfl, rfl⟩ := hothers.unique
        (fun token htoken => hproper' token (hsuffix.subset htoken)) hrest hothers' hrest'
      exact ⟨rfl, rfl⟩

end

end Parlance.Pl0
