import Parlance.Pl0.Parser
import Parlance.Proofs.Lexer
import Parlance.Proofs.Regex.Spelling

/-!
# Tokens of PL/0 texts

No token for a name or a number has a text that the grammar quotes: the rule for keywords is tried
before the one for names, and every other text that is quoted begins with neither a letter nor a
digit. So the parser, which asks for some tokens by their kind and for others by their text, never
meets one that it could take for both.
-/

namespace Parlance.Pl0

open Regex (Charset Cursor anyOf spelled)

/-- The texts that the grammar quotes and that are no words. -/
def signs : List String :=
  relations ++ ["(", ")", ":=", ";", ".", ",", "!", "?", "+", "-", "*", "/"]

/-- The texts that the grammar quotes. -/
def terminals : List String := keywords ++ signs

/-- A token that stands for a name or a number is not one that the grammar quotes. -/
def Proper (token : Token Kind) : Prop :=
  token.kind = .identifier ∨ token.kind = .number → token.text ∉ terminals

/-- A token inside a text: it is proper, and stands for neither end. -/
def Inner (token : Token Kind) : Prop :=
  Proper token ∧ token.kind ≠ .start ∧ token.kind ≠ .stop

/-! ## The expressions of the rules -/

/-- The set of the decimal digits. -/
def digits : Charset := ⟨[.span 0x30 0x39], false, .exact⟩

/-- The set of the letters that names are made of. -/
def letters : Charset := ⟨[.span 0x61 0x7a, .span 0x41 0x5a], false, .exact⟩

/-- The rule for keywords spells them. -/
theorem keywordRule_regex :
    (lexerRule ("|".intercalate keywords) (some .keyword)).regex =
      anyOf ((keywords.map String.toList).map spelled) := by
  decide +kernel

/-- The rule for numbers wants a digit first. -/
theorem numberRule_regex :
    (lexerRule "[0-9]+" (some .number)).regex = .rep .more 1 none (.one digits) := by
  decide +kernel

/-- The rule for names wants a letter first. -/
theorem identifierRule_regex :
    (lexerRule "[a-zA-Z]+" (some .identifier)).regex = .rep .more 1 none (.one letters) := by
  decide +kernel

/-- What the grammar quotes and is no word begins with no letter. -/
theorem signs_lack_letters :
    ∀ sign ∈ signs, sign.toList.head?.all (fun c => !letters.holds c) = true := by
  decide +kernel

/-- What the grammar quotes begins with no digit. -/
theorem terminals_lack_digits :
    ∀ terminal ∈ terminals, terminal.toList.head?.all (fun c => !digits.holds c) = true := by
  decide +kernel

/-! ## The tokens that the rules make -/

variable {cursor : Cursor} {found : Regex.Match} {length : Nat}

/-- The rule of a name is tried in vain at every keyword, for that of the keywords comes first. -/
theorem keyword_matched {word : String} (hword : word ∈ keywords)
    (htext : String.ofList (cursor.after.take (length + 1)) = word) :
    ((lexerRule ("|".intercalate keywords) (some .keyword)).regex.match? cursor).isSome = true := by
  rw [keywordRule_regex]
  have hafter : cursor.after = word.toList ++ cursor.after.drop (length + 1) := by
    rw [← htext, String.toList_ofList, List.take_append_drop]
  exact Regex.match?_anyOf_isSome (List.mem_map_of_mem hword) hafter

/-- A piece that begins with a character is none of the texts that begin with others. -/
theorem piece_not_mem {set : Charset} {texts : List String} {c : Char} {rest : List Char}
    (hafter : cursor.after = c :: rest) (hholds : set.holds c = true)
    (hlack : ∀ text ∈ texts, text.toList.head?.all (fun c => !set.holds c) = true) :
    String.ofList (cursor.after.take (length + 1)) ∉ texts := by
  intro hmem
  have hall := hlack _ hmem
  rw [String.toList_ofList, hafter] at hall
  simp [hholds] at hall

/-- The tokens that the rules make are inner ones. -/
theorem piece_inner {token : Token Kind} (h : lexer.IsPiece token) : Inner token := by
  obtain ⟨cursor, rule, found, kind, length, hfirst, hkind, hlength, htokenKind, htokenText⟩ := h
  rw [Inner, Proper, htokenKind, htokenText]
  simp only [lexer, Lexer.firstMatch_cons_iff] at hfirst
  rcases hfirst with ⟨-, rfl⟩ | ⟨-, ⟨-, rfl⟩ | ⟨hkeyword, ⟨hfound, rfl⟩ | ⟨-, ⟨hfound, rfl⟩ |
    ⟨-, ⟨-, rfl⟩ | ⟨-, ⟨-, rfl⟩ | ⟨-, hnone⟩⟩⟩⟩⟩⟩
  · cases hkind
  · cases hkind
    simp
  · cases hkind
    rw [numberRule_regex] at hfound
    obtain ⟨c, rest, hafter, hholds⟩ := Regex.match?_rounds_head hfound
    exact ⟨fun _ => piece_not_mem hafter hholds terminals_lack_digits, by simp⟩
  · cases hkind
    rw [identifierRule_regex] at hfound
    obtain ⟨c, rest, hafter, hholds⟩ := Regex.match?_rounds_head hfound
    refine ⟨fun _ hmem => ?_, by simp⟩
    rcases List.mem_append.1 hmem with hword | hsign
    · have hmatched := keyword_matched hword rfl
      rw [hkeyword] at hmatched
      cases hmatched
    · exact piece_not_mem hafter hholds signs_lack_letters hsign
  · cases hkind
    simp
  · cases hkind
    simp
  · cases hnone

/-- The tokens of a text are one for the beginning, inner ones, and one for the end unless the text
has no more tokens for another reason. -/
theorem tokenize_inner (text : String) :
    ∃ opening pieces, opening.kind = .start ∧ (∀ token ∈ pieces, Inner token) ∧
      ((lexer.tokenize text).failure = none → ∃ closing, closing.kind = .stop ∧ closing.text = "" ∧
        (lexer.tokenize text).tokens = opening :: pieces ++ [closing]) ∧
      ((lexer.tokenize text).failure ≠ none →
        (lexer.tokenize text).tokens = opening :: pieces) := by
  obtain ⟨pieces, hpieces⟩ := lexer.tokensFrom_closes .start (.atStart text.toList)
  refine ⟨⟨.start, .start, ""⟩, pieces, rfl,
    fun token htoken => piece_inner (hpieces.made token htoken),
    fun hnone => ?_, fun hsome => ?_⟩
  · obtain ⟨position, htokens⟩ := hpieces.closes hnone
    exact ⟨⟨position, .stop, ""⟩, rfl, rfl, congrArg (List.cons _) htokens⟩
  · exact congrArg (List.cons _) (hpieces.fails hsome)

/-! ## Texts of one token -/

/-- The kinds and texts of the tokens that a text is split into. -/
def split (text : String) : List (Kind × String) :=
  (lexer.tokenize text).tokens.map fun token => (token.kind, token.text)

/-- Where a text is one token between those for its ends, there is such a piece. -/
theorem exists_piece {text : String} {kind : Kind}
    (h : split text = [(.start, ""), (kind, text), (.stop, "")]) :
    ∃ token, lexer.IsPiece token ∧ token.kind = kind ∧ token.text = text := by
  obtain ⟨pieces, hpieces⟩ := lexer.tokensFrom_closes .start (.atStart text.toList)
  have hsplit : (lexer.tokensFrom .start (.atStart text.toList)).tokens.map
      (fun token => (token.kind, token.text)) = [(kind, text), (.stop, "")] :=
    (List.cons.inj h).2
  obtain ⟨token, others, htokens, htoken, hothers⟩ := List.map_eq_cons_iff.1 hsplit
  have hmem : token ∈ pieces := by
    by_cases hfailure : (lexer.tokensFrom .start (.atStart text.toList)).failure = none
    · obtain ⟨position, hcloses⟩ := hpieces.closes hfailure
      rw [htokens] at hcloses
      cases pieces with
      | nil => simp_all
      | cons piece pieces => simp_all
    · simp [← hpieces.fails hfailure, htokens]
  obtain ⟨hkind, htext⟩ := Prod.mk.inj htoken
  exact ⟨token, hpieces.made token hmem, hkind, htext⟩

/-- Whatever the grammar quotes is one token. -/
theorem split_quoted : ∀ text ∈ terminals, ∃ kind ∈ [Kind.keyword, .comparison, .symbol],
    split text = [(.start, ""), (kind, text), (.stop, "")] := by
  decide +kernel

/-- For whatever the grammar quotes there is a piece. -/
theorem exists_quoted_piece {text : String} (hmem : text ∈ terminals) :
    ∃ token : Token Kind, lexer.IsPiece token ∧ token.text = text := by
  obtain ⟨kind, -, hsplit⟩ := split_quoted text hmem
  obtain ⟨token, hpiece, -, htext⟩ := exists_piece hsplit
  exact ⟨token, hpiece, htext⟩

/-- There are pieces for names and for numbers. -/
theorem exists_piece_of_kind {kind : Kind} (hkind : kind = .identifier ∨ kind = .number) :
    ∃ token : Token Kind, lexer.IsPiece token ∧ token.kind = kind := by
  have hname : split "x" = [(.start, ""), (.identifier, "x"), (.stop, "")] := by decide +kernel
  have hnumber : split "0" = [(.start, ""), (.number, "0"), (.stop, "")] := by decide +kernel
  rcases hkind with rfl | rfl
  · obtain ⟨token, hpiece, hsame, -⟩ := exists_piece hname
    exact ⟨token, hpiece, hsame⟩
  · obtain ⟨token, hpiece, hsame, -⟩ := exists_piece hnumber
    exact ⟨token, hpiece, hsame⟩

end Parlance.Pl0
