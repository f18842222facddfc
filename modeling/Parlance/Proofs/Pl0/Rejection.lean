import Mathlib.Data.Nat.Find
import Parlance.Proofs.Pl0.Placement
import Parlance.Proofs.Pl0.Separation

/-!
# Texts that are not split

A text is split up to its end if all its characters are blanks, letters, digits and marks, and every
colon has an equals sign behind it. Otherwise the lexer fails at the first character that strays
from this, and not before it: no token takes that character, and no token in front of it depends on
it, so that the tokens are those of the text that is cut there. This is `tokenize_rejects`.
-/

namespace Parlance.Pl0

open Regex (Charset Cursor)

/-! ## Characters that stray -/

/-- The characters of tokens that are no letters or digits. -/
def marks : List Char := "<>#();.,!?+-*/=:".toList

/-- The character can stand in a text that is split. -/
def Belongs (c : Char) : Prop :=
  Unicode.isBlank c = true ∨ c.isAlpha = true ∨ c.isDigit = true ∨ c ∈ marks

instance : DecidablePred Belongs :=
  fun c => inferInstanceAs (Decidable (Unicode.isBlank c = true ∨ _))

/-- The character at the offset can stand in no text that is split, or is a colon with no equals
sign behind it. -/
def Strays (chars : List Char) (offset : Nat) : Prop :=
  ∃ c, chars[offset]? = some c ∧ (¬ Belongs c ∨ c = ':' ∧ chars[offset + 1]? ≠ some '=')

variable {chars rest : List Char} {c : Char} {kind? : Option Kind} {count offset : Nat}

/-- Behind the first characters, the same ones stray. -/
theorem strays_drop : Strays (chars.drop count) offset ↔ Strays chars (count + offset) := by
  simp only [Strays, List.getElem?_drop, Nat.add_assoc]

/-- Whether the first character strays is up to it and the next one. -/
theorem strays_zero_iff :
    Strays (c :: rest) 0 ↔ ¬ Belongs c ∨ c = ':' ∧ rest.head? ≠ some '=' := by
  simp [Strays, List.head?_eq_getElem?]

/-- No character that is passed strays, whatever comes behind a word of the lexer. -/
theorem words_belong : ∀ word ∈ (keywords ++ comparisons ++ symbols).map String.toList,
    ∀ (offset : Nat) (h : offset < word.length),
      Belongs word[offset] ∧ (word[offset] = ':' → word[offset + 1]? = some '=') := by
  decide +kernel

/-- What a run takes is in its set. -/
theorem Shape.holds_of_run {set : Charset} (h : offset < (run set).taken chars) :
    ∃ c, chars[offset]? = some c ∧ set.holds c = true := by
  have hprefix := List.takeWhile_prefix (l := chars) set.holds
  have hlt : offset < chars.length := Nat.lt_of_lt_of_le h hprefix.length_le
  refine ⟨chars[offset], List.getElem?_eq_getElem hlt, ?_⟩
  rw [← hprefix.getElem h]
  exact List.mem_takeWhile_imp (List.getElem_mem h)

/-- What a rule for words takes is one of them. -/
theorem Shape.word_of_choice {words : List (List Char)} (h : offset < (choice words).taken chars) :
    ∃ word ∈ words, word <+: chars ∧ offset < word.length := by
  rw [taken] at h
  cases hword : words.find? fun word => word.isPrefixOf chars with
  | none => simp [hword] at h
  | some word =>
      rw [hword] at h
      exact ⟨word, (prefix_of_find? hword).1, (prefix_of_find? hword).2, h⟩

/-- A rule for words takes nothing where none of them stands. -/
theorem Shape.taken_choice_eq_zero_iff {words : List (List Char)} (h : (choice words).Proper) :
    (choice words).taken chars = 0 ↔ ∀ word ∈ words, ¬ word <+: chars := by
  rw [taken]
  cases hword : words.find? fun word => word.isPrefixOf chars with
  | none => simpa [List.isPrefixOf_iff_prefix] using List.find?_eq_none.1 hword
  | some word =>
      obtain ⟨hmem, hstands⟩ := prefix_of_find? hword
      refine ⟨fun hzero => ?_, fun hnone => absurd hstands (hnone word hmem)⟩
      obtain rfl := List.length_eq_zero_iff.1 hzero
      exact absurd hmem h.2

/-- No comparison stands where its first character does not. -/
theorem taken_comparisons_eq_zero_iff :
    (Shape.choice (comparisons.map String.toList)).taken (c :: rest) = 0 ↔ c ∉ "<>#".toList := by
  have hwords : comparisons.map String.toList = [['<', '='], ['>', '='], ['<'], ['>'], ['#']] := rfl
  have hmarks : "<>#".toList = ['<', '>', '#'] := rfl
  rw [Shape.taken_choice_eq_zero_iff (by decide), hwords, hmarks]
  simp only [List.forall_mem_cons, List.cons_prefix_cons, List.nil_prefix]
  grind

/-- No symbol stands where its first character does not, or where a colon is alone. -/
theorem taken_symbols_eq_zero_iff :
    (Shape.choice (symbols.map String.toList)).taken (c :: rest) = 0 ↔
      c ∉ "();.,!?+-*/=".toList ∧ (c = ':' → rest.head? ≠ some '=') := by
  have hwords : symbols.map String.toList = [['('], [')'], [':', '='], [';'], ['.'], [','], ['!'],
    ['?'], ['+'], ['-'], ['*'], ['/'], ['=']] := rfl
  have hmarks : "();.,!?+-*/=".toList =
    ['(', ')', ';', '.', ',', '!', '?', '+', '-', '*', '/', '='] := rfl
  rw [Shape.taken_choice_eq_zero_iff (by decide), hwords, hmarks]
  simp only [List.forall_mem_cons, List.cons_prefix_cons, List.nil_prefix,
    List.singleton_prefix_iff_head?_eq_some]
  simp only [List.mem_cons, List.not_mem_nil, false_implies, implies_true]
  grind

/-- The marks are those that begin a comparison or a symbol, and the colon. -/
theorem mem_marks_iff :
    c ∈ marks ↔ c ∈ "<>#".toList ∨ c ∈ "();.,!?+-*/=".toList ∨ c = ':' := by
  have hmarks : marks = "<>#".toList ++ ("();.,!?+-*/=".toList ++ [':']) := rfl
  rw [hmarks, List.mem_append, List.mem_append, List.mem_singleton]

/-- There is no piece where the first character strays, and only there. -/
theorem nextPiece?_eq_none_iff : nextPiece? (c :: rest) = none ↔ Strays (c :: rest) 0 := by
  rw [nextPiece?, Option.map_eq_none_iff, List.find?_eq_none, strays_zero_iff]
  simp only [shapes, List.forall_mem_cons, decide_eq_true_eq, not_not, Shape.taken_run_cons,
    taken_comparisons_eq_zero_iff, taken_symbols_eq_zero_iff]
  constructor
  · rintro ⟨hblank, -, hdigit, hletter, hcomparison, ⟨hsymbol, hcolon⟩, -⟩
    by_cases hc : c = ':'
    · exact .inr ⟨hc, hcolon hc⟩
    · refine .inl ?_
      rw [Belongs, ← blanks_holds_iff, ← letters_holds_iff, ← digits_holds_iff, mem_marks_iff]
      simp only [hblank, hletter, hdigit, hcomparison, hsymbol, hc, Bool.false_eq_true, or_self,
        not_false_eq_true]
  · rintro (hbelongs | ⟨rfl, hnext⟩)
    · rw [Belongs, ← blanks_holds_iff, ← letters_holds_iff, ← digits_holds_iff, mem_marks_iff]
        at hbelongs
      simp only [not_or, Bool.not_eq_true] at hbelongs
      obtain ⟨hblank, hletter, hdigit, hcomparison, hsymbol, hcolon⟩ := hbelongs
      exact ⟨hblank, keywords_taken_eq_zero hletter, hdigit, hletter, hcomparison,
        ⟨hsymbol, fun hc => absurd hc hcolon⟩, by simp⟩
    · have hletter : letters.holds ':' = false := by decide
      exact ⟨by decide, keywords_taken_eq_zero hletter, by decide, hletter, by decide,
        ⟨by decide, fun _ => hnext⟩, by simp⟩

/-- A character of one of the sets of the lexer belongs, and is no colon. -/
theorem belongs_of_holds {set : Charset} (hset : set ∈ [blanks, digits, letters])
    (hc : set.holds c = true) : Belongs c ∧ c ≠ ':' := by
  have hcolon : ∀ set ∈ [blanks, digits, letters], set.holds ':' = false := by decide
  refine ⟨?_, fun heq => ?_⟩
  · simp only [List.mem_cons, List.not_mem_nil, or_false] at hset
    rcases hset with rfl | rfl | rfl
    · exact .inl (blanks_holds_iff.1 hc)
    · exact .inr (.inr (.inl (digits_holds_iff.1 hc)))
    · exact .inr (.inl (letters_holds_iff.1 hc))
  · rw [heq, hcolon set hset] at hc
    cases hc

/-- What the rules of the lexer take has characters of these sets, or is one of its words. -/
theorem shapes_cases : ∀ entry ∈ shapes,
    (∃ set ∈ [blanks, digits, letters], entry.1 = .run set) ∨
      ∃ words, entry.1 = .choice words ∧
        words ⊆ (keywords ++ comparisons ++ symbols).map String.toList := by
  simp [shapes]

/-- No character of a piece strays. -/
theorem not_strays_of_nextPiece? (h : nextPiece? chars = some (kind?, count))
    (hlt : offset < count) : ¬ Strays chars offset := by
  obtain ⟨entry, hentry, heq⟩ := Option.map_eq_some_iff.1 h
  obtain ⟨-, rfl⟩ := Prod.mk.inj heq
  rintro ⟨c, hc, hstrays⟩
  rcases shapes_cases entry (List.mem_of_find?_eq_some hentry) with
    ⟨set, hset, hshape⟩ | ⟨words, hshape, hwords⟩
  · rw [hshape] at hlt
    obtain ⟨d, hd, hholds⟩ := Shape.holds_of_run hlt
    cases hc.symm.trans hd
    obtain ⟨hbelongs, hcolon⟩ := belongs_of_holds hset hholds
    exact hstrays.elim (absurd hbelongs) fun h => hcolon h.1
  · rw [hshape] at hlt
    obtain ⟨word, hmem, ⟨rest, rfl⟩, hword⟩ := Shape.word_of_choice hlt
    obtain ⟨hbelongs, hcolon⟩ := words_belong word (hwords hmem) offset hword
    rw [List.getElem?_append_left hword, List.getElem?_eq_getElem hword, Option.some.injEq] at hc
    subst hc
    refine hstrays.elim (absurd hbelongs) fun ⟨hc, hnext⟩ => hnext ?_
    have hequals := hcolon hc
    rw [List.getElem?_append_left (List.getElem?_eq_some_iff.1 hequals).1, hequals]

/-- There is a piece where the first character does not stray. -/
theorem exists_nextPiece? (hpos : 0 < chars.length) (h : ¬ Strays chars 0) :
    ∃ kind? count, nextPiece? chars = some (kind?, count) := by
  cases hpiece : nextPiece? chars with
  | some piece => exact ⟨piece.1, piece.2, rfl⟩
  | none =>
      obtain ⟨c, rest, rfl⟩ := List.exists_cons_of_length_pos hpos
      exact absurd (nextPiece?_eq_none_iff.1 hpiece) h

/-- A piece reaches no further than to a character that strays. -/
theorem nextPiece?_le (h : nextPiece? chars = some (kind?, count))
    (hend : offset = chars.length ∨ Strays chars offset) : count ≤ offset := by
  rcases hend with rfl | hstrays
  · exact (nextPiece?_bounds h).2
  · exact Nat.le_of_not_lt fun hlt => not_strays_of_nextPiece? h hlt hstrays

/-! ## Cuts of a text -/

section

variable {cursor short : Cursor} {position : Position}

/-- Up to an offset at which the text ends or a character strays, the first one that does, the lexer
makes the tokens of the text that ends there. -/
theorem tokensFrom_cut {length : Nat} (hplaced : cursor.Placed) (hshort : short.Placed)
    (hafter : cursor.after = chars) (hcut : short.after = chars.take length)
    (hle : length ≤ chars.length) (hnone : ∀ offset < length, ¬ Strays chars offset)
    (hend : length = chars.length ∨ Strays chars length) :
    ∃ tokens place, place.Placed ∧ place.after = chars.drop length ∧
      lexer.tokensFrom position short =
        ⟨tokens ++ [⟨position.advanceChars (chars.take length), .stop, ""⟩], none⟩ ∧
      lexer.tokensFrom position cursor =
        (lexer.tokensFrom (position.advanceChars (chars.take length)) place).prepend tokens := by
  induction length using Nat.strongRecOn generalizing cursor short position chars with
  | ind length ih =>
      rcases Nat.eq_zero_or_pos length with rfl | hpos
      · exact ⟨[], cursor, hplaced, hafter, tokensFrom_end hcut, rfl⟩
      -- The first character does not stray, so there is a piece, and it ends before the cut does.
      obtain ⟨kind?, count, hpiece⟩ :=
        exists_nextPiece? (Nat.lt_of_lt_of_le hpos hle) (hnone 0 hpos)
      obtain ⟨hcountPos, -⟩ := nextPiece?_bounds hpiece
      have hcount : count ≤ length := nextPiece?_le hpiece hend
      have hsplit : chars.take length =
          chars.take count ++ (chars.drop count).take (length - count) := by
        rw [← List.take_add, Nat.add_sub_cancel' hcount]
      obtain ⟨tokens, place, hplace, hrest, hfirst, hsecond⟩ :=
        @ih (length - count) (by omega) (chars.drop count) (cursor.forward count)
          (short.forward count) (position.advanceChars (chars.take count)) (hplaced.forward count)
          (hshort.forward count) (by rw [Cursor.after_forward, hafter])
          (by rw [Cursor.after_forward, hcut, List.drop_take])
          (by rw [List.length_drop]; omega)
          (fun offset hlt => by rw [strays_drop]; exact hnone _ (by omega))
          (hend.imp (fun h => by rw [h, List.length_drop])
            fun h => by rwa [strays_drop, Nat.add_sub_cancel' hcount])
      rw [← Position.advanceChars_append, ← hsplit] at hfirst hsecond
      have hpieceShort : nextPiece? short.after = some (kind?, count) := by
        rw [hcut]
        exact nextPiece?_take hpiece hcount
      have htake : short.after.take count = cursor.after.take count := by
        rw [hcut, hafter, List.take_take, Nat.min_eq_left hcount]
      rw [tokensFrom_piece hplaced (hafter ▸ hpiece), tokensFrom_piece hshort hpieceShort, htake,
        hafter, hfirst, hsecond]
      rw [List.drop_drop, Nat.add_sub_cancel' hcount] at hrest
      cases kind? with
      | none => exact ⟨tokens, place, hplace, hrest, rfl, rfl⟩
      | some kind =>
          exact ⟨⟨position, kind, String.ofList (chars.take count)⟩ :: tokens, place, hplace, hrest,
            rfl, rfl⟩

end

/-! ## Texts -/

section

variable {source : Source}

/-- The lexer fails at the offset of the source, and has made the tokens that the text has if it is
cut there, but for the one for its end. -/
def FailsAt (source : Source) (offset : Nat) : Prop :=
  ∃ position c tokens, source.position? offset = some position ∧ source.chars[offset]? = some c ∧
    lexer.tokenize source.text = ⟨tokens, some (.unmatched position c)⟩ ∧
    lexer.tokenize (String.ofList (source.chars.take offset)) =
      ⟨tokens ++ [⟨position, .stop, ""⟩], none⟩

/-- The lexer goes through the text up to where the first character strays, or to its end. -/
theorem tokenize_cut (hle : offset ≤ source.chars.length)
    (hnone : ∀ other < offset, ¬ Strays source.chars other)
    (hend : offset = source.chars.length ∨ Strays source.chars offset) :
    ∃ position tokens place, source.position? offset = some position ∧ place.Placed ∧
      place.after = source.chars.drop offset ∧
      lexer.tokenize (String.ofList (source.chars.take offset)) =
        ⟨tokens ++ [⟨position, .stop, ""⟩], none⟩ ∧
      lexer.tokenize source.text = (lexer.tokensFrom position place).prepend tokens := by
  have hshort : (Cursor.atStart (String.ofList (source.chars.take offset)).toList).after =
      source.chars.take offset := String.toList_ofList
  obtain ⟨tokens, place, hplace, hafter, hfirst, hsecond⟩ :=
    @tokensFrom_cut _ (.atStart source.chars) _ .start _ (placed_atStart source.chars)
      (placed_atStart _) rfl hshort hle hnone hend
  refine ⟨_, ⟨.start, .start, ""⟩ :: tokens, place, Source.position?_eq hle, hplace, hafter, ?_, ?_⟩
  · exact congrArg (Lexer.Stream.cons ⟨.start, .start, ""⟩) hfirst
  · exact congrArg (Lexer.Stream.cons ⟨.start, .start, ""⟩) hsecond

/-- The lexer fails where the first character strays. -/
theorem failsAt_of_strays (h : Strays source.chars offset)
    (hnone : ∀ other < offset, ¬ Strays source.chars other) : FailsAt source offset := by
  obtain ⟨c, hc, -⟩ := id h
  have hlt := (List.getElem?_eq_some_iff.1 hc).1
  obtain ⟨position, tokens, place, hposition, hplace, hafter, hcut, htokens⟩ :=
    tokenize_cut (Nat.le_of_lt hlt) hnone (.inr h)
  have hdrop : source.chars.drop offset = c :: source.chars.drop (offset + 1) := by
    rw [List.drop_eq_getElem_cons hlt, (List.getElem?_eq_some_iff.1 hc).2]
  have hpiece : nextPiece? place.after = none := by
    rw [hafter, hdrop, nextPiece?_eq_none_iff, ← hdrop, strays_drop]
    exact h
  rw [tokensFrom_unmatched hplace (hafter.trans hdrop) hpiece, Lexer.Stream.prepend,
    List.append_nil] at htokens
  exact ⟨position, c, tokens, hposition, hc, htokens, hcut⟩

/-- A text in which no character strays is split up to its end. -/
theorem failure_eq_none (h : ∀ offset, ¬ Strays source.chars offset) :
    (lexer.tokenize source.text).failure = none := by
  obtain ⟨position, tokens, place, -, -, hafter, -, htokens⟩ :=
    tokenize_cut (Nat.le_refl _) (fun offset _ => h offset) (.inl rfl)
  rw [htokens, tokensFrom_end (hafter.trans (List.drop_length))]
  rfl

/-- The lexer fails if and only if a character strays. -/
theorem failure_ne_none_iff :
    (lexer.tokenize source.text).failure ≠ none ↔ ∃ offset, Strays source.chars offset := by
  classical
  constructor
  · intro hfailure
    by_contra hnone
    exact hfailure (failure_eq_none (not_exists.1 hnone))
  · intro h
    obtain ⟨position, c, tokens, -, -, htokens, -⟩ :=
      failsAt_of_strays (Nat.find_spec h) fun other hlt => Nat.find_min h hlt
    simp [htokens]

/-- The rule that wins takes the next piece. -/
theorem nextPiece?_of_wins {rule : LexerRule Kind} {found : Regex.Match}
    (hle : offset ≤ source.chars.length) (h : lexer.Wins source offset rule found) :
    nextPiece? (source.chars.drop offset) = some (rule.kind, found.stop.offset - offset) := by
  have hfirst := firstMatch_eq (cursorAt_placed source offset)
  rw [h.firstMatch_eq, Lexer.cursorAt_after, eq_comm, Option.map_some] at hfirst
  obtain ⟨⟨kind?, count⟩, hpiece, heq⟩ := Option.map_eq_some_iff.1 hfirst
  obtain ⟨hkind, hmatch⟩ :
      kind? = rule.kind ∧ ⟨(source.cursorAt offset).forward count, []⟩ = found :=
    Prod.mk.inj heq
  have hbounds := (nextPiece?_bounds hpiece).2
  rw [hpiece, hkind, ← hmatch, Cursor.offset_forward, Lexer.cursorAt_offset hle,
    Lexer.cursorAt_after, Nat.min_eq_left hbounds, Nat.add_sub_cancel_left]

/-- The tokens of a cut stand in the source, and each is the piece that comes next at its place. -/
theorem nextPiece?_of_makes {pieces : List (Lexer.Piece Kind)} {tokens : Tokens} {first last : Nat}
    (hmakes : Lexer.Makes source pieces tokens) (hcuts : lexer.Cuts source first pieces last)
    (hlast : last ≤ source.chars.length) :
    ∀ token ∈ tokens, ∃ offset, source.Shows offset token.position token.text ∧
      nextPiece? (source.chars.drop offset) = some (some token.kind, token.text.length) := by
  induction hmakes generalizing first with
  | nil => exact fun _ hmem => nomatch hmem
  | skip _ _ ih =>
      cases hcuts with
      | cons _ _ _ hcuts => exact ih hcuts
  | @token piece token _ _ hkind hposition htext _ ih =>
      cases hcuts with
      | cons hwins hstop hlt hcuts =>
          have hle := Nat.le_trans hcuts.le hlast
          refine List.forall_mem_cons.2 ⟨⟨piece.start, ?_, ?_⟩, ih hcuts⟩
          · rw [htext]
            exact Source.shows_slice (Nat.le_of_lt hlt) hle hposition
          · have hlength : token.text.length = piece.stop - piece.start := by
              simp [htext, Text.slice]
              omega
            rw [nextPiece?_of_wins (by omega) hwins, hkind, hstop, hlength]

/-- The tokens of a text, but for those for its ends, are the pieces that come next at their places.
-/
theorem nextPiece?_of_token {token : Token Kind}
    (hmem : token ∈ (lexer.tokenize source.text).tokens)
    (hkind : token.kind ≠ .start ∧ token.kind ≠ .stop) :
    ∃ offset, source.Shows offset token.position token.text ∧
      nextPiece? (source.chars.drop offset) = some (some token.kind, token.text.length) := by
  obtain ⟨pieces, last, tokens, position, closing, hcuts, hmakes, hlast, -, hfinishes, hall⟩ :=
    lexer.tokenize_tiles source (lexer_covers source)
  have hopening : (lexer.startKind.map fun kind => (⟨.start, kind, ""⟩ : Token Kind)).toList =
      [⟨.start, .start, ""⟩] := rfl
  rw [hall, hopening, List.mem_append, List.mem_append, List.mem_singleton] at hmem
  rcases hmem with (rfl | hmem) | hmem
  · exact absurd rfl hkind.1
  · exact nextPiece?_of_makes hmakes hcuts hlast token hmem
  · generalize (lexer.tokenize source.text).failure.map _ = fault? at hfinishes
    cases hfinishes with
    | closed _ => exact absurd (List.mem_singleton.1 hmem ▸ rfl) hkind.2
    | unmatched _ _ | emptyMatch _ _ _ => cases hmem

end

/-! ## Numbers and names -/

/-- What follows a run is not in its set. -/
theorem Shape.not_holds_of_run {set : Charset} (h : (run set).taken chars = count)
    (hc : chars[count]? = some c) : set.holds c = false := by
  rw [taken] at h
  induction chars generalizing count with
  | nil => simp at hc
  | cons d rest ih =>
      cases hd : set.holds d with
      | false =>
          rw [List.takeWhile_cons, hd] at h
          subst h
          cases hc
          exact hd
      | true =>
          rw [List.takeWhile_cons, if_pos hd, List.length_cons] at h
          subst h
          exact ih rfl hc

/-- Where the next piece is a number, it is all digits from there. -/
theorem number_of_nextPiece? (h : nextPiece? chars = some (some .number, count)) :
    (Shape.run digits).taken chars = count := by
  obtain ⟨entry, hentry, heq⟩ := Option.map_eq_some_iff.1 h
  obtain ⟨hkind, hcount⟩ := Prod.mk.inj heq
  have hnumber : ∀ entry ∈ shapes, entry.2 = some .number → entry.1 = .run digits := by
    simp [shapes]
  rwa [← hnumber entry (List.mem_of_find?_eq_some hentry) hkind]

/-- Which texts are split, and where the lexer fails in the others: at the first character that
strays, with the tokens of the text that ends there. Numbers and names are never cut off before
another digit or letter, and no name begins with a keyword. -/
theorem tokenize_rejects (source : Source) :
    ((lexer.tokenize source.text).failure ≠ none ↔ ∃ offset, Strays source.chars offset) ∧
      (∀ offset, Strays source.chars offset → (∀ other < offset, ¬ Strays source.chars other) →
        FailsAt source offset) ∧
      ∀ token ∈ (lexer.tokenize source.text).tokens,
        (token.kind = .number → ∃ offset, source.Shows offset token.position token.text ∧
          ∀ c, source.chars[offset + token.text.length]? = some c → c.isDigit = false) ∧
        (token.kind = .identifier → ∃ offset, source.Shows offset token.position token.text ∧
          (∀ c, source.chars[offset + token.text.length]? = some c → c.isAlpha = false) ∧
          ∀ keyword ∈ keywords, ¬ keyword.toList <+: token.text.toList) := by
  refine ⟨failure_ne_none_iff, fun offset => failsAt_of_strays, fun token hmem => ⟨?_, ?_⟩⟩
  · intro hkind
    obtain ⟨offset, hshows, hpiece⟩ := nextPiece?_of_token hmem (by simp [hkind])
    rw [hkind] at hpiece
    refine ⟨offset, hshows, fun c hc => ?_⟩
    rw [← List.getElem?_drop] at hc
    rw [Bool.eq_false_iff, Ne, ← digits_holds_iff,
      Shape.not_holds_of_run (number_of_nextPiece? hpiece) hc]
    exact Bool.false_ne_true
  · intro hkind
    obtain ⟨offset, hshows, hpiece⟩ := nextPiece?_of_token hmem (by simp [hkind])
    rw [hkind] at hpiece
    obtain ⟨_, _, -, -, hkeyword, hletters⟩ := name_of_nextPiece? hpiece
    refine ⟨offset, hshows, fun c hc => ?_, fun keyword hmem hbegins => ?_⟩
    · rw [← List.getElem?_drop] at hc
      rw [Bool.eq_false_iff, Ne, ← letters_holds_iff, Shape.not_holds_of_run hletters hc]
      exact Bool.false_ne_true
    · have hlength := keywords_taken_eq hmem (hbegins.trans hshows.isPrefix)
      exact (keywords_spelled.1 keyword hmem).1
        (List.length_eq_zero_iff.1 (hlength.symm.trans hkeyword))

end Parlance.Pl0
