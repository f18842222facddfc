import Parlance.Pl0.Printer
import Parlance.Proofs.Number
import Parlance.Proofs.Pl0.Occurrence
import Parlance.Proofs.Pl0.Programs
import Parlance.Proofs.Pl0.Words
import Parlance.Proofs.Sequence

/-!
# Printed expressions and conditions

A printed expression has parentheses around every operator, so its tokens are those of its parts
between such signs, whatever follows it, and the tree is derived from them as a factor. The parser
reads it back, and so it does what a program consists of.
-/

namespace Parlance.Pl0

open Scanner

/-! ## What can be printed -/

/-- The text is one token, and stands for a name. -/
def IsName (name : String) : Prop :=
  split name = [(.start, ""), (.identifier, name), (.stop, "")]

/-- The numbers of the expression are not negative, its names are tokens, and its operators are
those of the grammar. -/
def Expr.Printable : Expr → Prop
  | number value => 0 ≤ value
  | symbol name => IsName name
  | negate operand => operand.Printable
  | binary operator left right =>
    operator ∈ ["+", "-", "*", "/"] ∧ left.Printable ∧ right.Printable
  | unspecified => False

/-- The expressions of the condition can be printed, and its relation is one of the grammar. -/
def Condition.Printable : Condition → Prop
  | odd operand => operand.Printable
  | relation operator left right => operator ∈ relations ∧ left.Printable ∧ right.Printable

/-- The parser reads the value from the text, from the token for its beginning up to that for its
end. -/
def ReadsBack {α : Type} (parser : Scan Kind α) (text : String) (value : α) : Prop :=
  ∃ final closing, (do
    let _ ← consumeKind .start
    parser : Scan Kind α) (.ofText lexer text) = .ok value final ∧
      final.ahead = [closing] ∧ closing.kind = .stop

/-! ## Tokens of printed expressions -/

/-- The kinds and texts of the tokens of a printed expression. -/
def Expr.lexemes : Expr → List (Kind × String)
  | number value => [(.number, toString value)]
  | symbol name => [(.identifier, name)]
  | negate operand => (.symbol, "(") :: (.symbol, "-") :: (operand.lexemes ++ [(.symbol, ")")])
  | binary operator left right =>
    (.symbol, "(") :: (left.lexemes ++ (.symbol, operator) :: (right.lexemes ++ [(.symbol, ")")]))
  | unspecified => []

/-- The kinds and texts of the tokens of a printed condition. -/
def Condition.lexemes : Condition → List (Kind × String)
  | odd operand => (.keyword, "ODD") :: operand.lexemes
  | relation operator left right =>
    left.lexemes ++ (if operator = "=" then .symbol else .comparison, operator) :: right.lexemes

section

variable {chars rest : List Char} {pieces more : List (Kind × String)} {tokens : Tokens}

/-- The signs around an expression, and the operators. -/
theorem signs_lex : ∀ sign ∈ ["(", ")", "-", "+", "*", "/"],
    IsLexeme .symbol sign ∧ ∃ c, sign.toList = [c] ∧ Closes c := by
  simp only [List.forall_mem_cons, List.not_mem_nil, false_implies, implies_true, and_true]
  refine ⟨⟨by decide, '(', rfl, by decide⟩, ⟨by decide, ')', rfl, by decide⟩,
    ⟨by decide, '-', rfl, by decide⟩, ⟨by decide, '+', rfl, by decide⟩,
    ⟨by decide, '*', rfl, by decide⟩, ⟨by decide, '/', rfl, by decide⟩⟩

/-- What is left before a space or a closing parenthesis is left alone by the token before it. -/
theorem stops_signs : Stops ' ' ∧ Stops ')' := by decide

/-- A sign is a token whatever follows it. -/
theorem sign_lexes {sign : String} (h : sign ∈ ["(", ")", "-", "+", "*", "/"]) :
    Lexes (sign.toList ++ rest) [(.symbol, sign)] rest := by
  obtain ⟨hlexeme, c, htext, hc⟩ := signs_lex sign h
  exact hlexeme.lexes_char htext hc

/-- A name on its own is a token. -/
theorem IsName.isLexeme {name : String} (h : IsName name) : IsLexeme .identifier name :=
  isLexeme_of_mem_split (h ▸ List.mem_cons_of_mem _ List.mem_cons_self) (by decide) (by decide)

/-- A number that is not negative is printed with its digits. -/
theorem print_number {value : Int} (h : 0 ≤ value) : toString value = toString value.toNat := by
  obtain ⟨count, rfl⟩ := Int.eq_ofNat_of_zero_le h
  rfl

/-- The characters of a printed change of sign. -/
theorem Expr.toList_print_negate (operand : Expr) :
    (negate operand).print.toList = "(".toList ++ ("-".toList ++ (operand.print.toList ++
      ")".toList)) := by
  have htext : (negate operand).print = "(" ++ "-" ++ operand.print ++ ")" := rfl
  rw [htext]
  simp only [String.toList_append, List.append_assoc]

/-- The characters of a printed operation. -/
theorem Expr.toList_print_binary (operator : String) (left right : Expr) :
    (binary operator left right).print.toList = "(".toList ++ (left.print.toList ++ ' ' ::
      (operator.toList ++ ' ' :: (right.print.toList ++ ")".toList))) := by
  have htext : (binary operator left right).print =
    "(" ++ left.print ++ " " ++ operator ++ " " ++ right.print ++ ")" := rfl
  have hspace : " ".toList = [' '] := rfl
  rw [htext]
  simp only [String.toList_append, List.append_assoc, hspace, List.cons_append, List.nil_append]

/-- What is printed begins with no blank character. -/
theorem Expr.Printable.head {value : Expr} (h : value.Printable) :
    ∃ c others, value.print.toList = c :: others ∧ blanks.holds c = false := by
  have hopening : blanks.holds '(' = false := by decide
  cases value with
  | number value =>
      rw [Expr.print, print_number h]
      exact (isLexeme_number value.toNat).head
  | symbol name => exact (IsName.isLexeme h).head
  | negate operand => exact ⟨'(', _, Expr.toList_print_negate operand, hopening⟩
  | binary operator left right =>
      exact ⟨'(', _, Expr.toList_print_binary operator left right, hopening⟩
  | unspecified => exact h.elim

/-- A blank is passed before what is printed. -/
theorem Expr.Printable.space_lexes {value : Expr} (h : value.Printable) :
    Lexes (' ' :: (value.print.toList ++ rest)) [] (value.print.toList ++ rest) :=
  lexes_space_append h.head

/-- A token is one between blanks, the second of which is passed before what is printed. -/
theorem IsLexeme.lexes_between {kind : Kind} {text : String} {value : Expr}
    (h : IsLexeme kind text) (hvalue : value.Printable) :
    Lexes (' ' :: (text.toList ++ ' ' :: (value.print.toList ++ rest))) [(kind, text)]
      (value.print.toList ++ rest) := by
  have hspace : Lexes (' ' :: (text.toList ++ ' ' :: (value.print.toList ++ rest))) []
      (text.toList ++ ' ' :: (value.print.toList ++ rest)) := lexes_space_append h.head
  have htoken := @IsLexeme.lexes (' ' :: (value.print.toList ++ rest)) _ _ h
    fun d hd => (Option.mem_some_iff.1 hd) ▸ stops_signs.1
  exact hspace.trans (htoken.trans hvalue.space_lexes)

/-- The tokens of a printed expression are those of its parts, if what follows is left alone. -/
theorem Expr.Printable.lexes {value : Expr} (h : value.Printable)
    (hrest : ∀ c ∈ rest.head?, Stops c) :
    Lexes (value.print.toList ++ rest) value.lexemes rest := by
  have hcloses {more : List Char} : ∀ c ∈ (")".toList ++ more).head?, Stops c :=
    fun c hc => (Option.mem_some_iff.1 hc) ▸ stops_signs.2
  induction value generalizing rest with
  | number value =>
      rw [Expr.print, Expr.lexemes, print_number h]
      exact (isLexeme_number value.toNat).lexes hrest
  | symbol name => exact (IsName.isLexeme h).lexes hrest
  | negate operand ih =>
      have hoperand := @ih (")".toList ++ rest) h hcloses
      rw [Expr.toList_print_negate]
      simp only [List.append_assoc]
      have hopening := @sign_lexes ("-".toList ++ (operand.print.toList ++ (")".toList ++ rest)))
        "(" (by decide)
      have hminus := @sign_lexes (operand.print.toList ++ (")".toList ++ rest)) "-" (by decide)
      have hclosing := @sign_lexes rest ")" (by decide)
      exact hopening.trans (hminus.trans (hoperand.trans hclosing))
  | binary operator left right ihleft ihright =>
      obtain ⟨hoperator, hleft, hright⟩ := h
      have hoperators : ["+", "-", "*", "/"] ⊆ ["(", ")", "-", "+", "*", "/"] := by decide
      have hlexeme := (signs_lex operator (hoperators hoperator)).1
      rw [Expr.toList_print_binary]
      simp only [List.append_assoc, List.cons_append]
      have hopening := @sign_lexes (left.print.toList ++ ' ' :: (operator.toList ++ ' ' ::
        (right.print.toList ++ (")".toList ++ rest)))) "(" (by decide)
      have hleft := @ihleft (' ' :: (operator.toList ++ ' ' ::
        (right.print.toList ++ (")".toList ++ rest)))) hleft
        fun c hc => (Option.mem_some_iff.1 hc) ▸ stops_signs.1
      have hbetween := @IsLexeme.lexes_between (")".toList ++ rest) _ _ _ hlexeme hright
      have hright := @ihright (")".toList ++ rest) hright hcloses
      have hclosing := @sign_lexes rest ")" (by decide)
      exact hopening.trans (hleft.trans (hbetween.trans (hright.trans hclosing)))
  | unspecified => exact h.elim

/-- A printed expression on its own is split into these tokens. -/
theorem Expr.Printable.lexes_alone {value : Expr} (h : value.Printable) :
    Lexes value.print.toList value.lexemes [] := by
  have hlexes : Lexes (value.print.toList ++ []) value.lexemes [] := h.lexes fun c hc => nomatch hc
  rwa [List.append_nil] at hlexes

/-- The relations are tokens. -/
theorem relations_lex : ∀ operator ∈ relations,
    IsLexeme (if operator = "=" then .symbol else .comparison) operator := by
  decide

/-- The characters of a printed test for odd numbers. -/
theorem Condition.toList_print_odd (operand : Expr) :
    (odd operand).print.toList = "ODD".toList ++ ' ' :: operand.print.toList := by
  have htext : (odd operand).print = "ODD " ++ operand.print := rfl
  rw [htext, String.toList_append]
  rfl

/-- The characters of a printed relation. -/
theorem Condition.toList_print_relation (operator : String) (left right : Expr) :
    (relation operator left right).print.toList =
      left.print.toList ++ ' ' :: (operator.toList ++ ' ' :: right.print.toList) := by
  have htext : (relation operator left right).print =
    left.print ++ " " ++ operator ++ " " ++ right.print := rfl
  have hspace : " ".toList = [' '] := rfl
  rw [htext]
  simp only [String.toList_append, List.append_assoc, hspace, List.cons_append, List.nil_append]

/-- The tokens of a printed condition are those of its parts. -/
theorem Condition.Printable.lexes {test : Condition} (h : test.Printable) :
    Lexes test.print.toList test.lexemes [] := by
  have hspace {more : List Char} : ∀ c ∈ (' ' :: more).head?, Stops c :=
    fun c hc => (Option.mem_some_iff.1 hc) ▸ stops_signs.1
  cases test with
  | odd operand =>
      have hkeyword : IsLexeme .keyword "ODD" := by decide
      have hblank : Lexes (' ' :: (operand.print.toList ++ [])) [] (operand.print.toList ++ []) :=
        Expr.Printable.space_lexes h
      rw [List.append_nil] at hblank
      rw [Condition.toList_print_odd]
      exact (hkeyword.lexes hspace).trans (hblank.trans (Expr.Printable.lexes_alone h))
  | relation operator left right =>
      obtain ⟨hoperator, hleft, hright⟩ := h
      have hbetween := @IsLexeme.lexes_between [] _ _ _ (relations_lex operator hoperator) hright
      rw [List.append_nil] at hbetween
      rw [Condition.toList_print_relation]
      exact (hleft.lexes hspace).trans (hbetween.trans hright.lexes_alone)

end

/-! ## Derivations -/

section

variable {tokens : Tokens}

/-- A number that is not negative is read back from what is printed. -/
theorem numberValue_print {value : Int} (h : 0 ≤ value) : numberValue (toString value) = value := by
  obtain ⟨count, rfl⟩ := Int.eq_ofNat_of_zero_le h
  have htext : toString (count : Int) = toString count := rfl
  rw [numberValue, htext, Nat.toString_eq_ofList_toDigits, String.toList_ofList,
    Text.readNat?_toDigits]
  rfl

/-- A token of these is the first of them. -/
theorem kindsAndTexts_cons {kind : Kind} {text : String} {more : List (Kind × String)}
    (h : kindsAndTexts tokens = (kind, text) :: more) :
    ∃ token others, tokens = token :: others ∧ token.kind = kind ∧ token.text = text ∧
      kindsAndTexts others = more := by
  obtain ⟨token, others, htokens, htoken, hothers⟩ := List.map_eq_cons_iff.1 h
  obtain ⟨hkind, htext⟩ := Prod.mk.inj htoken
  exact ⟨token, others, htokens, hkind, htext, hothers⟩

/-- The tokens of a printed expression are a factor, whatever follows. -/
theorem Expr.Printable.derives {value : Expr} (h : value.Printable)
    (htokens : kindsAndTexts tokens = value.lexemes) (rest : Tokens) :
    Expr.Derives .factor (tokens ++ rest) value rest := by
  induction value generalizing tokens rest with
  | number value =>
      obtain ⟨token, others, rfl, hkind, htext, hothers⟩ := kindsAndTexts_cons htokens
      rw [kindsAndTexts, List.map_eq_nil_iff] at hothers
      have hvalue : Derives .factor (token :: rest) (.number (numberValue token.text)) rest :=
        .number hkind
      rw [htext, numberValue_print h] at hvalue
      subst hothers
      exact hvalue
  | symbol name =>
      obtain ⟨token, others, rfl, hkind, htext, hothers⟩ := kindsAndTexts_cons htokens
      rw [kindsAndTexts, List.map_eq_nil_iff] at hothers
      subst hothers htext
      exact .name hkind
  | negate operand ih =>
      obtain ⟨opening, inside, rfl, -, hopening, hinside⟩ := kindsAndTexts_cons htokens
      obtain ⟨minus, others, rfl, -, hminus, hothers⟩ := kindsAndTexts_cons hinside
      obtain ⟨middle, last, rfl, hmiddle, hlast⟩ := List.map_eq_append_iff.1 hothers
      obtain ⟨closing, nothing, rfl, -, hclosing, hnothing⟩ := kindsAndTexts_cons hlast
      rw [kindsAndTexts, List.map_eq_nil_iff] at hnothing
      subst hnothing
      have hoperand := ih h hmiddle (closing :: rest)
      rw [List.cons_append, List.cons_append, List.append_assoc]
      exact .group hopening (.term (.factor (.minus hminus hoperand))) hclosing
  | binary operator left right ihleft ihright =>
      obtain ⟨hoperator, hleft, hright⟩ := h
      obtain ⟨opening, inside, rfl, -, hopening, hinside⟩ := kindsAndTexts_cons htokens
      obtain ⟨before, after, rfl, hbefore, hafter⟩ := List.map_eq_append_iff.1 hinside
      obtain ⟨symbol, second, rfl, -, hsymbol, hsecond⟩ := kindsAndTexts_cons hafter
      obtain ⟨middle, last, rfl, hmiddle, hlast⟩ := List.map_eq_append_iff.1 hsecond
      obtain ⟨closing, nothing, rfl, -, hclosing, hnothing⟩ := kindsAndTexts_cons hlast
      rw [kindsAndTexts, List.map_eq_nil_iff] at hnothing
      subst hnothing hsymbol
      have hleft := ihleft hleft hbefore (symbol :: (middle ++ closing :: rest))
      have hright := ihright hright hmiddle (closing :: rest)
      have hsame : opening :: (before ++ symbol :: (middle ++ [closing])) ++ rest =
          opening :: (before ++ symbol :: (middle ++ closing :: rest)) := by
        simp only [List.cons_append, List.append_assoc, List.nil_append]
      rw [hsame]
      refine .group hopening ?_ hclosing
      by_cases hproduct : symbol.text ∈ ["*", "/"]
      · exact .term (.product (.factor hleft) hproduct hright)
      · have hsum : symbol.text ∈ ["+", "-"] := by
          simp only [List.mem_cons, List.not_mem_nil, or_false] at hoperator hproduct ⊢
          grind
        exact .sum (.term (.factor hleft)) hsum (.factor hright)
  | unspecified => exact h.elim

/-- The tokens of a printed condition are a condition, whatever follows. -/
theorem Condition.Printable.derives {test : Condition} (h : test.Printable)
    (htokens : kindsAndTexts tokens = test.lexemes) (rest : Tokens) :
    Condition.Derives (tokens ++ rest) test rest := by
  cases test with
  | odd operand =>
      obtain ⟨keyword, inside, rfl, -, hkeyword, hinside⟩ := kindsAndTexts_cons htokens
      exact .odd hkeyword (.term (.factor (Expr.Printable.derives h hinside rest)))
  | relation operator left right =>
      obtain ⟨hoperator, hleft, hright⟩ := h
      obtain ⟨before, after, rfl, hbefore, hafter⟩ := List.map_eq_append_iff.1 htokens
      obtain ⟨symbol, second, rfl, -, hsymbol, hsecond⟩ := kindsAndTexts_cons hafter
      subst hsymbol
      have hleft := hleft.derives hbefore (symbol :: (second ++ rest))
      have hright := hright.derives hsecond rest
      rw [List.append_assoc, List.cons_append]
      exact .relation (.term (.factor hleft)) hoperator (.term (.factor hright))

end

/-! ## Reading back -/

section

variable {scope : Scope} {text : String} {value other : Expr} {test test' : Condition}

/-- What is yielded from the tokens of a text up to the one for its end is read from the text. -/
theorem readsBack_of_lexes {α : Type} {parser : Scan Kind α} {pieces : List (Kind × String)}
    {result : α}
    (hlexes : Lexes text.toList pieces [])
    (hparser : ∀ (start : Scanner Kind) (tokens : Tokens) (closing : Token Kind), Ready start →
      start.ahead = tokens ++ [closing] → kindsAndTexts tokens = pieces → closing.text = "" →
      Yields parser start result [closing]) : ReadsBack parser text result := by
  have hsplit : kindsAndTexts (lexer.tokenize text).tokens =
      (.start, "") :: (pieces ++ [(.stop, "")]) := hlexes.tokenize.1
  obtain ⟨opening, others, htokens, hopening, -, hothers⟩ := kindsAndTexts_cons hsplit
  obtain ⟨tokens, last, rfl, hpieces, hlast⟩ := List.map_eq_append_iff.1 hothers
  obtain ⟨closing, nothing, rfl, hclosing, hempty, hnothing⟩ := kindsAndTexts_cons hlast
  rw [kindsAndTexts, List.map_eq_nil_iff] at hnothing
  subst hnothing
  have hready := Session.ofText_ready text
  have hahead : (Session.ofText text).scanner.ahead = opening :: (tokens ++ [closing]) := htokens
  have hwhole : Yields (do
      let _ ← consumeKind .start
      parser : Scan Kind α) (Session.ofText text).scanner result [closing] :=
    (consumeKind_yields hready hahead hopening (by decide)).bind hready
      fun later hlater hafter => hparser later tokens closing hlater hafter hpieces hempty
  obtain ⟨final, hfinal, hrest, -⟩ := hwhole
  exact ⟨final, closing, hfinal, hrest, hclosing⟩

/-- One value is read from a text. -/
theorem ReadsBack.unique {α : Type} {parser : Scan Kind α} {result result' : α}
    (h : ReadsBack parser text result) (h' : ReadsBack parser text result') : result = result' := by
  obtain ⟨_, _, hfinal, -⟩ := h
  obtain ⟨_, _, hfinal', -⟩ := h'
  cases hfinal.symm.trans hfinal'
  rfl

/-- A printed expression is read back where its names are declared. -/
theorem Expr.Printable.reads (h : value.Printable) (hresolves : value.Resolves scope) :
    ReadsBack (expression scope) value.print value := by
  refine readsBack_of_lexes h.lexes_alone
    fun start tokens closing hready hahead htokens hclosing => ?_
  have hderives := h.derives htokens [closing]
  rw [← hahead] at hderives
  exact expression_yields hready (.term (.factor hderives)) hresolves (by rw [hclosing]; decide)

/-- A printed condition is read back where its names are declared. -/
theorem Condition.Printable.reads (h : test.Printable) (hresolves : test.Resolves scope) :
    ReadsBack (condition scope) test.print test := by
  refine readsBack_of_lexes h.lexes fun start tokens closing hready hahead htokens hclosing => ?_
  have hderives := h.derives htokens [closing]
  rw [← hahead] at hderives
  exact condition_yields hready hderives hresolves (by rw [hclosing]; decide)

/-- Tokens of any kinds and texts. -/
def tokensOf (pieces : List (Kind × String)) : Tokens :=
  pieces.map fun piece => ⟨.start, piece.1, piece.2⟩

/-- These tokens have the kinds and texts. -/
theorem kindsAndTexts_tokensOf (pieces : List (Kind × String)) :
    kindsAndTexts (tokensOf pieces) = pieces := by
  rw [kindsAndTexts, tokensOf, List.map_map]
  exact List.map_id pieces

/-- A text is split in one way. -/
theorem Lexes.unique {pieces more : List (Kind × String)} (h : Lexes text.toList pieces [])
    (h' : Lexes text.toList more []) : pieces = more := by
  have hsame := h.tokenize.1.symm.trans h'.tokenize.1
  exact List.append_cancel_right (List.cons.inj hsame).2

/-- Expressions that are printed alike are the same, for where all their names are declared the same
text is read as each of them. -/
theorem Expr.Printable.print_injective (h : value.Printable) (h' : other.Printable)
    (hprint : value.print = other.print) : value = other := by
  have hlexes := h'.lexes_alone
  rw [← hprint] at hlexes
  have htokens := kindsAndTexts_tokensOf value.lexemes
  have hdeclares := Scope.declaring_all (tokensOf value.lexemes ++ [])
  have hvalue := hdeclares.expression (h.derives htokens [])
  have hother := hdeclares.expression (h'.derives (htokens.trans (h.lexes_alone.unique hlexes)) [])
  exact (h.reads hvalue).unique (hprint ▸ h'.reads hother)

/-- Conditions that are printed alike are the same. -/
theorem Condition.Printable.print_injective (h : test.Printable) (h' : test'.Printable)
    (hprint : test.print = test'.print) : test = test' := by
  have hlexes := h'.lexes
  rw [← hprint] at hlexes
  have htokens := kindsAndTexts_tokensOf test.lexemes
  have hdeclares := Scope.declaring_all (tokensOf test.lexemes ++ [])
  have htest := hdeclares.condition (h.derives htokens [])
  have htest' := hdeclares.condition (h'.derives (htokens.trans (h.lexes.unique hlexes)) [])
  exact (h.reads htest).unique (hprint ▸ h'.reads htest')

end

/-! ## Programs -/

section

variable {text : String} {value : Expr} {test : Condition} {first rest : Tokens}

/-- Names are tokens on their own. -/
def NamesPrintable (tokens : Tokens) : Prop :=
  ∀ token ∈ tokens, token.kind = .identifier → IsName token.text

/-- The names further on are among the names. -/
theorem NamesPrintable.suffix (h : NamesPrintable first) (hsuffix : rest <:+ first) :
    NamesPrintable rest :=
  fun token hmem => h token (hsuffix.subset hmem)

/-- The names of a text are tokens on their own. -/
theorem namesPrintable_tokenize (text : String) : NamesPrintable (lexer.tokenize text).tokens :=
  fun token hmem hkind => by
    have hsplit : (token.kind, token.text) ∈ split text :=
      List.mem_map_of_mem (f := fun token : Token Kind => (token.kind, token.text)) hmem
    rw [hkind] at hsplit
    exact (isLexeme_of_mem_split hsplit (by decide) (by decide)).split

/-- What is derived from names that are tokens on their own can be printed. -/
theorem Expr.Derives.printable {level : Level} (h : Expr.Derives level first value rest)
    (hnames : NamesPrintable first) : value.Printable := by
  induction h with
  | number _ => exact Int.natCast_nonneg _
  | name hkind => exact hnames _ List.mem_cons_self hkind
  | group _ _ _ ih => exact ih (hnames.suffix (List.suffix_cons _ _))
  | plus _ _ ih => exact ih (hnames.suffix (List.suffix_cons _ _))
  | minus _ _ ih => exact ih (hnames.suffix (List.suffix_cons _ _))
  | factor _ ih => exact ih hnames
  | product hleft hoperator _ ihleft ihright =>
      have hsuffix := (List.suffix_cons _ _).trans hleft.contextFree.suffix
      have hsubset : ["*", "/"] ⊆ ["+", "-", "*", "/"] := by decide
      exact ⟨hsubset hoperator, ihleft hnames, ihright (hnames.suffix hsuffix)⟩
  | term _ ih => exact ih hnames
  | sum hleft hoperator _ ihleft ihright =>
      have hsuffix := (List.suffix_cons _ _).trans hleft.contextFree.suffix
      have hsubset : ["+", "-"] ⊆ ["+", "-", "*", "/"] := by decide
      exact ⟨hsubset hoperator, ihleft hnames, ihright (hnames.suffix hsuffix)⟩

/-- What is derived from names that are tokens on their own can be printed. -/
theorem Condition.Derives.printable (h : Condition.Derives first test rest)
    (hnames : NamesPrintable first) : test.Printable := by
  cases h with
  | odd _ hvalue =>
      exact hvalue.printable (hnames.suffix (List.suffix_cons _ _))
  | relation hleft hoperator hright =>
      have hsuffix := (List.suffix_cons _ _).trans hleft.contextFree.suffix
      exact ⟨hoperator, hleft.printable hnames, hright.printable (hnames.suffix hsuffix)⟩

/-- What stands inside an expression that can be printed can be printed. -/
theorem Expr.Contains.printable {whole part : Expr} (h : whole.Contains part)
    (hprintable : whole.Printable) : part.Printable := by
  induction h with
  | refl => exact hprintable
  | negate _ ih => exact ih hprintable
  | left _ ih => exact ih hprintable.2.1
  | right _ ih => exact ih hprintable.2.2

/-- The block of a program is derived from tokens of its text, and keeps the rules on names. -/
theorem parsed_derives {program : Program} (h : parseProgram text = .ok program) :
    ∃ first rest, Block.Derives first program.block rest ∧ NamesPrintable first ∧
      program.block.WellScoped [] := by
  obtain ⟨final, hfinal⟩ := parseProgram_ok_iff_program.1 h
  obtain ⟨hparsed, opening, sentence, closing, -, -, htokens, dot, hderives, -⟩ :=
    program_gives hfinal
  refine ⟨sentence, [dot], hderives, fun token hmem => ?_, hparsed.wellScoped⟩
  refine namesPrintable_tokenize text token ?_
  rw [htokens]
  exact List.mem_append_left _ (List.mem_cons_of_mem _ hmem)

/-- Where an expression or a condition occurs in a program, it is read back from what is printed. -/
theorem parsed_reads {program : Program} {levels : List Declared} {inner : Block}
    (h : parseProgram text = .ok program)
    (hinner : Block.Encloses [] program.block levels inner) :
    (∀ value, inner.statement.HasExpr value →
        ReadsBack (expression (inner.visible levels)) value.print value) ∧
      ∀ test, inner.statement.HasCondition test →
        ReadsBack (condition (inner.visible levels)) test.print test := by
  obtain ⟨first, rest, hderives, hnames, hwellScoped⟩ := parsed_derives h
  obtain ⟨start, after, hblock, hsuffix⟩ := hinner.derives hderives
  refine ⟨fun value hvalue => ?_, fun test htest => ?_⟩
  · obtain ⟨whole, place, later, hcontains, hwhole, hplace⟩ := hblock.hasExpr hvalue
    have hprintable := hcontains.printable (hwhole.printable (hnames.suffix (hplace.trans hsuffix)))
    exact hprintable.reads (hinner.resolves_expr hwellScoped hvalue)
  · obtain ⟨place, later, hderives, hplace⟩ := hblock.hasCondition htest
    have hprintable := hderives.printable (hnames.suffix (hplace.trans hsuffix))
    exact hprintable.reads (hinner.resolves_condition hwellScoped htest)

end

end Parlance.Pl0
