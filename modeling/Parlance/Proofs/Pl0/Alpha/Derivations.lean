import Mathlib.Data.List.Forall2
import Parlance.Proofs.Pl0.Alpha.Blocks
import Parlance.Proofs.Pl0.Identifiers
import Parlance.Proofs.Pl0.Respelling

/-!
# Derivations of blocks that differ in the names of constants and variables

If a tree is like one that is derived from some tokens, it is derived from the tokens that have its
names in the place of their own. So a text is parsed to such a tree if the names in it are replaced
by those of the tree.
-/

namespace Parlance.Pl0

/-! ## Tokens with other names -/

/-- The second tokens are the first ones with these names in the place of their own. -/
structure Respelled (names : List String) (first first' : Tokens) : Prop where
  proper : ∀ token ∈ first, Proper token
  pieces : kindsAndTexts first' = respell names (kindsAndTexts first)

namespace Respelled

variable {names : List String} {name : String} {token : Token Kind} {rest first' : Tokens}

/-- A name is replaced by the first of the others. -/
theorem identifier (h : Respelled (name :: names) (token :: rest) first')
    (hkind : token.kind = .identifier) :
    ∃ token' rest', first' = token' :: rest' ∧ token'.kind = .identifier ∧ token'.text = name ∧
      Respelled names rest rest' := by
  have hpieces : kindsAndTexts first' =
      respell (name :: names) ((token.kind, token.text) :: kindsAndTexts rest) := h.pieces
  rw [hkind, respell] at hpieces
  obtain ⟨token', rest', hfirst, hkind', htext, hrest⟩ := kindsAndTexts_cons hpieces
  exact ⟨token', rest', hfirst, hkind', htext, fun token hmem =>
    h.proper token (List.mem_cons_of_mem _ hmem), hrest⟩

/-- What is no name stays. -/
theorem other (h : Respelled names (token :: rest) first') (hkind : token.kind ≠ .identifier) :
    ∃ token' rest', first' = token' :: rest' ∧ token'.kind = token.kind ∧
      token'.text = token.text ∧ Respelled names rest rest' := by
  have hpieces : kindsAndTexts first' =
      respell names ((token.kind, token.text) :: kindsAndTexts rest) := h.pieces
  rw [respell_piece (.inl hkind)] at hpieces
  obtain ⟨token', rest', hfirst, hkind', htext, hrest⟩ := kindsAndTexts_cons hpieces
  exact ⟨token', rest', hfirst, hkind', htext, fun token hmem =>
    h.proper token (List.mem_cons_of_mem _ hmem), hrest⟩

/-- What the grammar quotes stays. -/
theorem terminal (h : Respelled names (token :: rest) first') (hmem : token.text ∈ terminals) :
    ∃ token' rest', first' = token' :: rest' ∧ token'.text = token.text ∧
      Respelled names rest rest' := by
  have hkind : token.kind ≠ .identifier := fun hkind =>
    h.proper token List.mem_cons_self (.inl hkind) hmem
  obtain ⟨token', rest', hfirst, -, htext, hrest⟩ := h.other hkind
  exact ⟨token', rest', hfirst, htext, hrest⟩

/-- What the grammar quotes in this place stays. -/
theorem quoted {text : String} (h : Respelled names (token :: rest) first')
    (htext : token.text = text) (hmem : text ∈ terminals := by decide) :
    ∃ token' rest', first' = token' :: rest' ∧ token'.text = text ∧ Respelled names rest rest' := by
  subst htext
  exact h.terminal hmem

end Respelled

/-- The value is derived from whatever has its names, and after them others, in the place of the
names of these tokens; what is left has the others in the place of the names of the rest. -/
def Rederives {α : Type} (derives : Tokens → α → Tokens → Prop) (first : Tokens)
    (names : List String) (value : α) (rest : Tokens) : Prop :=
  ∀ more first', Respelled (names ++ more) first first' →
    ∃ rest', derives first' value rest' ∧ Respelled more rest rest'

/-- What is derived from tokens with its names, before and after something that the grammar
quotes. -/
theorem Rederives.join {α β : Type} {derives : Tokens → α → Tokens → Prop}
    {derives' : Tokens → β → Tokens → Prop} {first second rest first' : Tokens}
    {names names' more : List String} {value : α} {value' : β} {between : Token Kind}
    (hfirst : Respelled ((names ++ names') ++ more) first first')
    (h : Rederives derives first names value (between :: second)) (hmem : between.text ∈ terminals)
    (h' : Rederives derives' second names' value' rest) :
    ∃ between' second' rest', derives first' value (between' :: second') ∧
      between'.text = between.text ∧ derives' second' value' rest' ∧ Respelled more rest rest' := by
  rw [List.append_assoc] at hfirst
  obtain ⟨after', hvalue, hafter⟩ := h _ first' hfirst
  obtain ⟨between', second', rfl, htext, hsecond⟩ := hafter.terminal hmem
  obtain ⟨rest', hvalue', hrest⟩ := h' more second' hsecond
  exact ⟨between', second', rest', hvalue, htext, hvalue', hrest⟩

/-! ## Expressions and conditions -/

section

variable {pairings : List Pairing} {first rest : Tokens}

/-- An expression is derived from tokens with its names if one that is like it is derived from the
tokens. -/
theorem Expr.Derives.rederives {level : Level} {value value' : Expr}
    (h : Expr.Derives level first value rest) (halike : value.Alike pairings value') :
    Rederives (Expr.Derives level) first value'.identifiers value' rest := by
  induction h generalizing value' with
  | number hkind =>
      intro more first' hfirst
      cases halike
      obtain ⟨token', rest', rfl, hkind', htext, hrest⟩ := hfirst.other (by simp [hkind])
      exact ⟨rest', htext ▸ .number (hkind'.trans hkind), hrest⟩
  | name hkind =>
      intro more first' hfirst
      cases halike
      obtain ⟨token', rest', rfl, hkind', rfl, hrest⟩ := hfirst.identifier hkind
      exact ⟨rest', .name hkind', hrest⟩
  | group hopening _ hclosing ih =>
      intro more first' hfirst
      obtain ⟨opening', inside', rfl, hopening', hinside⟩ := hfirst.quoted hopening
      obtain ⟨after', hvalue, hafter⟩ := ih halike more inside' hinside
      obtain ⟨closing', rest', rfl, hclosing', hrest⟩ := hafter.quoted hclosing
      exact ⟨rest', .group hopening' hvalue hclosing', hrest⟩
  | plus htext _ ih =>
      intro more first' hfirst
      obtain ⟨symbol', inside', rfl, htext', hinside⟩ := hfirst.quoted htext
      obtain ⟨rest', hvalue, hrest⟩ := ih halike more inside' hinside
      exact ⟨rest', .plus htext' hvalue, hrest⟩
  | minus htext _ ih =>
      intro more first' hfirst
      cases halike with
      | negate hoperand =>
          obtain ⟨symbol', inside', rfl, htext', hinside⟩ := hfirst.quoted htext
          obtain ⟨rest', hvalue, hrest⟩ := ih hoperand more inside' hinside
          exact ⟨rest', .minus htext' hvalue, hrest⟩
  | factor _ ih =>
      intro more first' hfirst
      obtain ⟨rest', hvalue, hrest⟩ := ih halike more first' hfirst
      exact ⟨rest', .factor hvalue, hrest⟩
  | product _ hoperator _ ih ih' =>
      intro more first' hfirst
      cases halike with
      | binary hleft hright =>
          have hsubset : ["*", "/"] ⊆ terminals := by decide
          obtain ⟨operator', second', rest', hleft', htext', hright', hrest⟩ :=
            Rederives.join hfirst (ih hleft) (hsubset hoperator) (ih' hright)
          rw [← htext'] at hoperator ⊢
          exact ⟨rest', .product hleft' hoperator hright', hrest⟩
  | term _ ih =>
      intro more first' hfirst
      obtain ⟨rest', hvalue, hrest⟩ := ih halike more first' hfirst
      exact ⟨rest', .term hvalue, hrest⟩
  | sum _ hoperator _ ih ih' =>
      intro more first' hfirst
      cases halike with
      | binary hleft hright =>
          have hsubset : ["+", "-"] ⊆ terminals := by decide
          obtain ⟨operator', second', rest', hleft', htext', hright', hrest⟩ :=
            Rederives.join hfirst (ih hleft) (hsubset hoperator) (ih' hright)
          rw [← htext'] at hoperator ⊢
          exact ⟨rest', .sum hleft' hoperator hright', hrest⟩

/-- A condition is derived from tokens with its names if one that is like it is derived from the
tokens. -/
theorem Condition.Derives.rederives {test test' : Condition} (h : Condition.Derives first test rest)
    (halike : test.Alike pairings test') :
    Rederives Condition.Derives first test'.identifiers test' rest := by
  intro more first' hfirst
  cases h with
  | odd htext hvalue =>
      cases halike with
      | odd hoperand =>
          obtain ⟨keyword', start', rfl, htext', hstart⟩ := hfirst.quoted htext
          obtain ⟨rest', hvalue', hrest⟩ := hvalue.rederives hoperand more start' hstart
          exact ⟨rest', .odd htext' hvalue', hrest⟩
  | relation hleft hoperator hright =>
      cases halike with
      | relation hleftAlike hrightAlike =>
          have hsubset : relations ⊆ terminals := by decide
          obtain ⟨operator', second', rest', hleft', htext', hright', hrest⟩ :=
            Rederives.join hfirst (hleft.rederives hleftAlike) (hsubset hoperator)
              (hright.rederives hrightAlike)
          rw [← htext'] at hoperator ⊢
          exact ⟨rest', .relation hleft' hoperator hright', hrest⟩

end

/-! ## Items -/

section

variable {α : Type} {item derives : Tokens → α → Tokens → Prop} {related : α → α → Prop}
  {identifiers : α → List String} {separator keyword : String} {values values' : List α}
  {first rest : Tokens}

/-- Items with separators are derived from tokens with their names if each is. -/
theorem Separated.rederives (h : Separated separator item first values rest)
    (hitem : ∀ first value rest value', item first value rest → related value value' →
      Rederives derives first (identifiers value') value' rest)
    (hvalues : List.Forall₂ related values values')
    (hseparator : separator ∈ terminals := by decide) :
    Rederives (Separated separator derives) first (values'.flatMap identifiers) values' rest := by
  induction h generalizing values' with
  | one hvalue =>
      obtain ⟨value', _, hrelated, hnil, rfl⟩ := List.forall₂_cons_left_iff.1 hvalues
      cases hnil
      intro more first' hfirst
      rw [List.flatMap_singleton] at hfirst
      obtain ⟨rest', hvalue', hrest⟩ := hitem _ _ _ _ hvalue hrelated more first' hfirst
      exact ⟨rest', .one hvalue', hrest⟩
  | more hvalue htext _ ih =>
      obtain ⟨value', others', hrelated, hothers, rfl⟩ := List.forall₂_cons_left_iff.1 hvalues
      intro more first' hfirst
      rw [List.flatMap_cons] at hfirst
      obtain ⟨between', second', rest', hvalue', htext', hothers', hrest⟩ :=
        Rederives.join hfirst (hitem _ _ _ _ hvalue hrelated) (htext ▸ hseparator) (ih hothers)
      exact ⟨rest', .more hvalue' (htext'.trans htext) hothers', hrest⟩

/-- A section is derived from tokens with its names if each of its items is. -/
theorem Section.rederives (h : Section keyword item first values rest)
    (hitem : ∀ first value rest value', item first value rest → related value value' →
      Rederives derives first (identifiers value') value' rest)
    (hvalues : List.Forall₂ related values values')
    (hkeyword : keyword ∈ terminals := by decide) :
    Rederives (Section keyword derives) first (values'.flatMap identifiers) values' rest := by
  intro more first' hfirst
  cases h with
  | absent =>
      cases hvalues
      exact ⟨first', .absent, hfirst⟩
  | present htext hitems hclosing =>
      obtain ⟨opening', start', rfl, htext', hstart⟩ := hfirst.quoted htext hkeyword
      obtain ⟨after', hitems', hafter⟩ := (hitems.rederives hitem hvalues) more start' hstart
      obtain ⟨closing', rest', rfl, hclosing', hrest⟩ := hafter.quoted hclosing
      exact ⟨rest', .present htext' hitems' hclosing', hrest⟩

end

/-! ## Statements -/

/-- Statements that are alike are alike one by one. -/
theorem StatementsAlike.forall₂ {pairings : List Pairing} {statements statements' : List Statement}
    (h : StatementsAlike pairings statements statements') :
    List.Forall₂ (Statement.Alike pairings) statements statements' := by
  induction statements generalizing statements' with
  | nil =>
      cases h
      exact .nil
  | cons statement others ih =>
      cases h with
      | cons hstatement hothers => exact .cons hstatement (ih hothers)

section

variable {pairings : List Pairing} {first rest : Tokens}

/-- A statement is derived from tokens with its names if one that is like it is derived from the
tokens. -/
theorem Statement.Derives.rederives {statement statement' : Statement}
    (h : Statement.Derives first statement rest) (halike : statement.Alike pairings statement') :
    Rederives Statement.Derives first statement'.identifiers statement' rest := by
  induction h using Statement.Derives.induct generalizing statement' with
  | assign hkind htext hvalue =>
      intro more first' hfirst
      cases halike with
      | assign _ hvalueAlike =>
          obtain ⟨name', others', rfl, hkind', rfl, hothers⟩ := hfirst.identifier hkind
          obtain ⟨becomes', start', rfl, htext', hstart⟩ := hothers.quoted htext
          obtain ⟨rest', hvalue', hrest⟩ := hvalue.rederives hvalueAlike more start' hstart
          exact ⟨rest', .assign hkind' htext' hvalue', hrest⟩
  | call htext hkind =>
      intro more first' hfirst
      cases halike
      obtain ⟨keyword', others', rfl, htext', hothers⟩ := hfirst.quoted htext
      obtain ⟨name', rest', rfl, hkind', hname, hrest⟩ := hothers.identifier hkind
      exact ⟨rest', hname ▸ .call htext' hkind', hrest⟩
  | read htext hkind =>
      intro more first' hfirst
      cases halike
      obtain ⟨keyword', others', rfl, htext', hothers⟩ := hfirst.quoted htext
      obtain ⟨name', rest', rfl, hkind', rfl, hrest⟩ := hothers.identifier hkind
      exact ⟨rest', .read htext' hkind', hrest⟩
  | write htext hvalue =>
      intro more first' hfirst
      cases halike with
      | write hvalueAlike =>
          obtain ⟨keyword', start', rfl, htext', hstart⟩ := hfirst.quoted htext
          obtain ⟨rest', hvalue', hrest⟩ := hvalue.rederives hvalueAlike more start' hstart
          exact ⟨rest', .write htext' hvalue', hrest⟩
  | sequence htext _ hclosing ih =>
      intro more first' hfirst
      cases halike with
      | sequence hstatements =>
          rw [identifiers, statementIdentifiers_eq] at hfirst
          obtain ⟨opening', start', rfl, htext', hstart⟩ := hfirst.quoted htext
          have hitems := ih.rederives (fun _ _ _ _ hitem halike => hitem.2 halike)
            hstatements.forall₂
          obtain ⟨after', hstatements', hafter⟩ := hitems more start' hstart
          obtain ⟨closing', rest', rfl, hclosing', hrest⟩ := hafter.quoted hclosing
          exact ⟨rest', .sequence htext' hstatements' hclosing', hrest⟩
  | ifThen htext htest hbetween _ ih =>
      intro more first' hfirst
      cases halike with
      | ifThen htestAlike hbodyAlike =>
          obtain ⟨keyword', start', rfl, htext', hstart⟩ := hfirst.quoted htext
          obtain ⟨between', second', rest', htest', hbetween', hbody', hrest⟩ :=
            Rederives.join hstart (htest.rederives htestAlike) (hbetween ▸ by decide)
              (ih hbodyAlike)
          exact ⟨rest', .ifThen htext' htest' (hbetween'.trans hbetween) hbody', hrest⟩
  | whileDo htext htest hbetween _ ih =>
      intro more first' hfirst
      cases halike with
      | whileDo htestAlike hbodyAlike =>
          obtain ⟨keyword', start', rfl, htext', hstart⟩ := hfirst.quoted htext
          obtain ⟨between', second', rest', htest', hbetween', hbody', hrest⟩ :=
            Rederives.join hstart (htest.rederives htestAlike) (hbetween ▸ by decide)
              (ih hbodyAlike)
          exact ⟨rest', .whileDo htext' htest' (hbetween'.trans hbetween) hbody', hrest⟩
  | empty =>
      intro more first' hfirst
      cases halike
      exact ⟨first', .empty, hfirst⟩

end

/-! ## Blocks -/

/-- Paired ledgers have the same values in the same order. -/
theorem Paired.values {α : Type} {pairs : List (String × String)}
    {ledger ledger' : List (String × α)} (h : Paired pairs ledger ledger') :
    ledger.map Prod.snd = ledger'.map Prod.snd := by
  induction h with
  | nil => rfl
  | cons _ ih => rw [List.map_cons, ih, List.map_cons]

/-- Blocks that are alike declare constants with the same values, and as many variables. -/
theorem Paired.sections {pairs : List (String × String)} {block block' : Block}
    (h : Paired pairs block.symbols block'.symbols) :
    List.Forall₂ (fun constant constant' => constant.2 = constant'.2) block.constants
        block'.constants ∧
      List.Forall₂ (fun _ _ => True) block.variableNames block'.variableNames := by
  have hvalues : block.constants.map Prod.snd = block'.constants.map Prod.snd := by
    simpa [Block.symbols, Function.comp_def] using congrArg (List.filterMap id) h.values
  have hlength : block.variableNames.length = block'.variableNames.length := by
    have hsymbols := congrArg List.length h.values
    have hconstants := congrArg List.length hvalues
    simp only [Block.symbols, List.length_map, List.length_append] at hsymbols hconstants
    omega
  constructor
  · have hequal : List.Forall₂ Eq (block.constants.map Prod.snd)
        (block'.constants.map Prod.snd) := List.forall₂_eq_eq_eq ▸ hvalues
    rwa [List.forall₂_map_left_iff, List.forall₂_map_right_iff] at hequal
  · exact List.forall₂_of_length_eq_of_get hlength fun _ _ _ => trivial

section

variable {first rest : Tokens}

/-- The declaration of a constant is derived from tokens with another name. -/
theorem ConstantDerives.rederives {constant constant' : String × Int}
    (h : ConstantDerives first constant rest) (hvalue : constant.2 = constant'.2) :
    Rederives ConstantDerives first [constant'.1] constant' rest := by
  intro more first' hfirst
  cases h with
  | intro hkind htext hnumber =>
      obtain ⟨name, value⟩ := constant'
      cases hvalue
      obtain ⟨name', others', rfl, hkind', rfl, hothers⟩ := hfirst.identifier hkind
      obtain ⟨binds', last', rfl, htext', hlast⟩ := hothers.quoted htext
      obtain ⟨value', rest', rfl, hnumber', hvalue, hrest⟩ := hlast.other (by simp [hnumber])
      exact ⟨rest', hvalue ▸ .intro hkind' htext' (hnumber'.trans hnumber), hrest⟩

/-- The declaration of a variable is derived from a token with another name. -/
theorem VariableDerives.rederives {name : String} (h : VariableDerives first name rest)
    (name' : String) : Rederives VariableDerives first [name'] name' rest := by
  intro more first' hfirst
  cases h with
  | intro hkind =>
      obtain ⟨token', rest', rfl, hkind', rfl, hrest⟩ := hfirst.identifier hkind
      exact ⟨rest', .intro hkind', hrest⟩

end

mutual

/-- A block is derived from tokens with its names if one that is like it is derived from the
tokens. -/
theorem Block.Derives.rederives {first rest : Tokens} {block block' : Block}
    {pairings : List Pairing} : Block.Derives first block rest → block.Alike pairings block' →
      Rederives Block.Derives first block'.identifiers block' rest
  | .intro hconstants hnames hprocedures hstatement, .intro hsymbols hbodies hlast => by
      obtain ⟨constants', names', procedures', statement'⟩ := block'
      obtain ⟨hconstants', hnames'⟩ := hsymbols.sections
      intro more first' hfirst
      simp only [Block.identifiers, List.append_assoc] at hfirst
      have hconstants := hconstants.rederives
        (fun _ _ _ _ hitem hvalue => hitem.rederives hvalue) hconstants'
      have hnames := hnames.rederives (fun _ _ _ name' hitem _ => hitem.rederives name') hnames'
      rw [← List.map_eq_flatMap] at hconstants
      rw [List.flatMap_singleton'] at hnames
      obtain ⟨second', hconstants, hsecond⟩ := hconstants _ first' hfirst
      obtain ⟨third', hnames, hthird⟩ := hnames _ second' hsecond
      obtain ⟨fourth', hprocedures, hfourth⟩ := hprocedures.rederives hbodies _ third' hthird
      obtain ⟨rest', hstatement, hrest⟩ := hstatement.rederives hlast more fourth' hfourth
      exact ⟨rest', .intro hconstants hnames hprocedures hstatement, hrest⟩

/-- The declaration of a procedure is derived from tokens with its names if one with a body that is
like its own is derived from the tokens. -/
theorem ProcedureDerives.rederives {first rest : Tokens} {procedure : String × Block}
    {body' : Block} {pairings : List Pairing} : ProcedureDerives first procedure rest →
      procedure.2.Alike pairings body' →
      Rederives ProcedureDerives first (procedure.1 :: body'.identifiers) (procedure.1, body') rest
  | .intro hkind htext hbody hclosing, halike => by
      intro more first' hfirst
      obtain ⟨name', others', rfl, hkind', hname, hothers⟩ := hfirst.identifier hkind
      obtain ⟨opening', start', rfl, htext', hstart⟩ := hothers.quoted htext
      obtain ⟨after', hbody', hafter⟩ := hbody.rederives halike more start' hstart
      obtain ⟨closing', rest', rfl, hclosing', hrest⟩ := hafter.quoted hclosing
      exact ⟨rest', hname ▸ .intro hkind' htext' hbody' hclosing', hrest⟩

/-- The declarations of procedures are derived from tokens with their names if some that are like
them are derived from the tokens. -/
theorem ProceduresDerive.rederives {first rest : Tokens}
    {procedures procedures' : List (String × Block)} {pairings : List Pairing} :
    ProceduresDerive first procedures rest →
      ProceduresAlike pairings procedures procedures' →
      Rederives ProceduresDerive first (procedureIdentifiers procedures') procedures' rest
  | .none, .nil => fun _ first' hfirst => ⟨first', .none, hfirst⟩
  | .more htext hprocedure hothers, .cons hbody hrest => by
      intro more first' hfirst
      obtain ⟨keyword', start', rfl, htext', hstart⟩ := hfirst.quoted htext
      rw [procedureIdentifiers, List.cons_append, List.append_assoc, ← List.cons_append] at hstart
      obtain ⟨second', hprocedure', hsecond⟩ := hprocedure.rederives hbody _ start' hstart
      obtain ⟨rest', hothers', hlast⟩ := hothers.rederives hrest more second' hsecond
      exact ⟨rest', .more htext' hprocedure' hothers', hlast⟩

end

/-! ## Programs -/

/-- A sentence of tokens with the names of a block is the block, if one that is like it is the
sentence. -/
theorem SentenceDerives.rederives {sentence sentence' : Tokens} {block block' : Block}
    {pairings : List Pairing} (h : SentenceDerives sentence block)
    (halike : block.Alike pairings block')
    (hsentence : Respelled block'.identifiers sentence sentence') :
    SentenceDerives sentence' block' := by
  obtain ⟨closing, hblock, htext⟩ := h
  rw [← List.append_nil block'.identifiers] at hsentence
  obtain ⟨after', hblock', hafter⟩ := hblock.rederives halike [] sentence' hsentence
  obtain ⟨closing', rest', rfl, htext', hrest⟩ := hafter.quoted htext
  have hnil : rest' = [] := List.map_eq_nil_iff.1 hrest.pieces
  subst hnil
  exact ⟨closing', hblock', htext'⟩

/-- A text is parsed to a block like that of its program, if its names are replaced by those of the
block. -/
theorem parseProgram_respellText {text : String} {program : Program} {block' : Block}
    {pairing : Pairing} (h : parseProgram text = .ok program)
    (halike : program.block.Alike [pairing] block')
    (hnames : ∀ name ∈ block'.identifiers, IsName name) :
    parseProgram (respellText block'.identifiers text) = .ok ⟨block'⟩ := by
  obtain ⟨final, hfinal⟩ := parseProgram_ok_iff_program.1 h
  obtain ⟨hparsed, opening, sentence, closing, hopening, hclosing, htokens, hsentence⟩ :=
    program_gives hfinal
  have hfailure : (lexer.tokenize text).failure = none := by rw [htokens]
  obtain ⟨hsplit, hend⟩ := tokenize_respellText hfailure hnames
  have hpieces : kindsAndTexts (lexer.tokenize (respellText block'.identifiers text)).tokens =
      (opening.kind, opening.text) :: (respell block'.identifiers (kindsAndTexts sentence) ++
        [(closing.kind, closing.text)]) := by
    have htext : split text = (opening.kind, opening.text) ::
        (kindsAndTexts sentence ++ [(closing.kind, closing.text)]) := by
      rw [split, htokens, List.cons_append, List.map_cons, List.map_append]
      rfl
    rw [htext, respell_piece (.inl (by simp [hopening])), respell_concat (by simp [hclosing])]
      at hsplit
    exact hsplit
  obtain ⟨opening', others', hothers, hopening', -, hmore⟩ := kindsAndTexts_cons hpieces
  obtain ⟨sentence', last', rfl, hsentence', hlast⟩ := List.map_eq_append_iff.1 hmore
  obtain ⟨closing', nothing, rfl, hclosing', -, hnothing⟩ := kindsAndTexts_cons hlast
  rw [kindsAndTexts, List.map_eq_nil_iff] at hnothing
  subst hnothing
  have hproper : ∀ token ∈ sentence, Proper token := fun token hmem =>
    proper_of_mem_tokenize (by rw [htokens]; simp [hmem])
  have htokens' : lexer.tokenize (respellText block'.identifiers text) =
      ⟨opening' :: sentence' ++ [closing'], none⟩ := by
    rw [List.cons_append, ← hothers, ← hend]
  -- The parser takes a sentence only in its own scopes, so the rules on names are needed again.
  refine parseProgram_ok_iff_program.2 (program_yields htokens' (hopening'.trans hopening)
    (hclosing'.trans hclosing) (hsentence.rederives halike ⟨hproper, hsentence'⟩) ?_)
  exact halike.wellScoped .nil hparsed.wellScoped

end Parlance.Pl0
