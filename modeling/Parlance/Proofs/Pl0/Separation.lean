import Parlance.Proofs.Position
import Parlance.Proofs.Pl0.Words

/-!
# Texts apart by blanks

A blank character ends whatever token comes before it, and belongs to none. So what the lexer makes
of a text does not depend on what comes before it and behind it, as long as there are blanks between
them: `tokenize_separated`. What changes is where the tokens lie, and that only as far as the other
text is long.
-/

namespace Parlance

/-- The token of a text where another text comes before it and ends at `base`. -/
def Token.behind {κ : Type} (base : Position) (token : Token κ) : Token κ :=
  { token with position := base.behind token.position }

namespace Lexer

variable {κ : Type}

/-- The failure in a text where another text comes before it and ends at `base`. -/
def Failure.behind (base : Position) : Failure → Failure
  | unmatched position c => unmatched (base.behind position) c
  | emptyMatch pattern offset stop =>
    emptyMatch pattern (base.offset.toNat + offset) (base.offset.toNat + stop)
  | reversedGroup => reversedGroup

/-- The stream with these tokens in front. -/
def Stream.prepend (tokens : List (Token κ)) (stream : Stream κ) : Stream κ :=
  { stream with tokens := tokens ++ stream.tokens }

/-- The tokens and the failure of a text where another text comes before it and ends at `base`. -/
def Stream.behind (base : Position) (stream : Stream κ) : Stream κ :=
  ⟨stream.tokens.map (·.behind base), stream.failure.map (·.behind base)⟩

end Lexer

namespace Pl0

open Regex (Cursor)

variable {cursor other : Cursor} {base position : Position} {chars rest : List Char}
  {kind? : Option Kind} {count : Nat} {c : Char}

/-! ## Blank characters -/

/-- The rule for blanks takes what is blank. -/
theorem blanks_holds_iff : blanks.holds c = true ↔ Unicode.isBlank c = true := by
  simp [blanks, Regex.Charset.holds, Regex.Charset.lists, Regex.Member.holds, Regex.Property.holds]

/-- The words that the rules take have no blank in them. -/
theorem words_visible : ∀ word ∈ (keywords ++ comparisons ++ symbols).map String.toList,
    ∀ c ∈ word.tail, 0x21 ≤ c.toNat ∧ c.toNat ≤ 0x84 := by
  have hall : ((keywords ++ comparisons ++ symbols).map String.toList).all (fun word =>
      word.tail.all fun c => decide (0x21 ≤ c.toNat) && decide (c.toNat ≤ 0x84)) = true := by
    decide +kernel
  intro word hmem c hc
  have hword := List.all_eq_true.1 (List.all_eq_true.1 hall word hmem) c hc
  simpa using hword

/-- No token goes on with a blank. -/
theorem stops_of_blank (hc : Unicode.isBlank c = true) : Stops c := by
  rw [← blanks_holds_iff] at hc
  have hword {word : List Char}
      (hmem : word ∈ (keywords ++ comparisons ++ symbols).map String.toList) : c ∉ word.tail := by
    intro htail
    obtain ⟨hlow, hhigh⟩ := words_visible word hmem c htail
    rw [blanks_holds_eq_false hlow hhigh] at hc
    cases hc
  intro entry hmem hkind hcontinues
  simp only [shapes, List.mem_cons, List.not_mem_nil, or_false] at hmem
  rcases hmem with rfl | rfl | rfl | rfl | rfl | rfl
  · exact hkind rfl
  · obtain ⟨word, hwords, htail⟩ := hcontinues
    exact hword (by simp [List.map_append, hwords]) htail
  · have hdigit := Char.isDigit_iff_toNat.1 (digits_holds_iff.1 hcontinues)
    rw [blanks_holds_eq_false (Nat.le_trans (by decide) hdigit.1)
      (Nat.le_trans hdigit.2 (by decide))] at hc
    cases hc
  · rw [(letters_exclude hcontinues).1] at hc
    cases hc
  · obtain ⟨word, hwords, htail⟩ := hcontinues
    exact hword (by simp [List.map_append, hwords]) htail
  · obtain ⟨word, hwords, htail⟩ := hcontinues
    exact hword (by simp [List.map_append, hwords]) htail

/-- What is skipped begins with a blank. -/
theorem blank_of_skipped (h : nextPiece? (c :: rest) = some (none, count)) :
    Unicode.isBlank c = true := by
  obtain ⟨entry, hentry, heq⟩ := Option.map_eq_some_iff.1 h
  obtain rfl := blanks_of_kind entry (List.mem_of_find?_eq_some hentry) (Prod.mk.inj heq).1
  rw [← blanks_holds_iff, ← Bool.not_eq_false, ← Shape.taken_run_cons]
  have htaken := List.find?_some hentry
  rwa [decide_eq_true_iff] at htaken

/-- Blanks are skipped together. -/
theorem nextPiece?_blank (hc : Unicode.isBlank c = true) :
    nextPiece? (c :: rest) = some (none, (Shape.run blanks).taken rest + 1) := by
  have htaken : (Shape.run blanks).taken (c :: rest) = (Shape.run blanks).taken rest + 1 := by
    rw [Shape.taken, List.takeWhile_cons, if_pos (blanks_holds_iff.2 hc), List.length_cons,
      Shape.taken]
  rw [nextPiece?, shapes, List.find?_cons_of_pos (by simp [htaken]), Option.map_some, htaken]

/-- A blank is skipped, whatever follows it. -/
theorem tokensFrom_blank (hplaced : cursor.Placed) (hafter : cursor.after = c :: rest)
    (hc : Unicode.isBlank c = true) :
    lexer.tokensFrom position cursor =
      lexer.tokensFrom (position.step c) (cursor.forward 1) := by
  have hnext : (cursor.forward 1).after = rest := by
    rw [Cursor.after_forward, hafter, List.drop_succ_cons, List.drop_zero]
  rw [tokensFrom_piece hplaced (by rw [hafter]; exact nextPiece?_blank hc), withPiece, hafter,
    List.take_succ_cons, Position.advanceChars_cons]
  by_cases hmore : (Shape.run blanks).taken rest = 0
  · rw [hmore, List.take_zero, Position.advanceChars_nil]
  · -- The blanks that follow are a piece of their own when the first one has been passed.
    have hpiece : nextPiece? (cursor.forward 1).after =
        some (none, (Shape.run blanks).taken rest) := by
      rw [hnext, nextPiece?, shapes, List.find?_cons_of_pos (by simpa using hmore),
        Option.map_some]
    rw [tokensFrom_piece (hplaced.forward 1) hpiece, withPiece, hnext, Cursor.forward_forward,
      Nat.add_comm 1]

/-- Blanks are skipped one by one. -/
theorem tokensFrom_blanks {blank : List Char} (hplaced : cursor.Placed)
    (hafter : cursor.after = blank ++ rest) (hblank : ∀ c ∈ blank, Unicode.isBlank c = true) :
    lexer.tokensFrom position cursor =
      lexer.tokensFrom (position.advanceChars blank) (cursor.forward blank.length) := by
  induction blank generalizing cursor position with
  | nil => rfl
  | cons c blank ih =>
      rw [List.forall_mem_cons] at hblank
      rw [List.cons_append] at hafter
      have hnext : (cursor.forward 1).after = blank ++ rest := by
        rw [Cursor.after_forward, hafter, List.drop_succ_cons, List.drop_zero]
      rw [tokensFrom_blank hplaced hafter hblank.1, ih (hplaced.forward 1) hnext hblank.2,
        Cursor.forward_forward, Position.advanceChars_cons, List.length_cons, Nat.add_comm 1]

/-! ## The same text at another place -/

/-- What the lexer makes of a text behind another text is what it makes of it, moved. -/
theorem tokensFrom_behind (hplaced : cursor.Placed) (hother : other.Placed)
    (hafter : other.after = cursor.after) (hline : 0 ≤ position.line) :
    lexer.tokensFrom (base.behind position) other =
      (lexer.tokensFrom position cursor).behind base := by
  induction hlength : cursor.after.length using Nat.strongRecOn
    generalizing cursor other position with
  | ind length ih =>
      cases hpiece : nextPiece? cursor.after with
      | none =>
          cases hchars : cursor.after with
          | nil =>
              rw [tokensFrom_end hchars, tokensFrom_end (hafter.trans hchars)]
              rfl
          | cons c rest =>
              rw [tokensFrom_unmatched hplaced hchars hpiece,
                tokensFrom_unmatched hother (hafter.trans hchars) (by rw [hafter, hpiece])]
              rfl
      | some piece =>
          obtain ⟨kind?, count⟩ := piece
          obtain ⟨hpos, hle⟩ := nextPiece?_bounds hpiece
          have hsame : (other.forward count).after = (cursor.forward count).after := by
            rw [Cursor.after_forward, Cursor.after_forward, hafter]
          have hless : (cursor.forward count).after.length < length := by
            rw [Cursor.after_forward, List.length_drop]
            omega
          rw [tokensFrom_piece hplaced hpiece,
            tokensFrom_piece hother (by rw [hafter, hpiece]), hafter,
            ← Position.behind_advanceChars hline,
            ih _ hless (hplaced.forward count) (hother.forward count) hsame
              (Position.advanceChars_line_nonneg hline _) rfl]
          cases kind? <;> rfl

/-! ## Two texts with blanks between them -/

/-- What the lexer makes of some characters up to their end it also makes of them before blanks and
more, and goes on behind the blanks instead of ending. -/
def SplitsAlike (blank : List Char) (position : Position) (cursor other : Cursor)
    (chars : List Char) : Prop :=
  ∃ front,
    (lexer.tokensFrom position cursor).tokens =
        front ++ [⟨position.advanceChars chars, .stop, ""⟩] ∧
      lexer.tokensFrom position other =
        (lexer.tokensFrom (position.advanceChars (chars ++ blank))
          (other.forward (chars ++ blank).length)).prepend front

variable {blank left : List Char} {kind : Kind}

/-- Where no character is left, the blanks are passed. -/
theorem splitsAlike_nil (hother : other.Placed) (hafter : cursor.after = [])
    (hseparated : other.after = blank ++ rest)
    (hblank : ∀ c ∈ blank, Unicode.isBlank c = true) :
    SplitsAlike blank position cursor other [] := by
  refine ⟨[], by rw [tokensFrom_end hafter]; rfl, ?_⟩
  rw [tokensFrom_blanks hother hseparated hblank]
  rfl

/-- A blank among the characters is passed. It may belong to a run that goes on over their end, so
that it is passed alone. -/
theorem splitsAlike_blank (hplaced : cursor.Placed) (hother : other.Placed)
    (hafter : cursor.after = c :: left) (hseparated : other.after = c :: left ++ (blank ++ rest))
    (hc : Unicode.isBlank c = true)
    (h : SplitsAlike blank (position.step c) (cursor.forward 1) (other.forward 1) left) :
    SplitsAlike blank position cursor other (c :: left) := by
  obtain ⟨front, htokens, hstream⟩ := h
  refine ⟨front, ?_, ?_⟩
  · rw [tokensFrom_blank hplaced hafter hc, htokens, Position.advanceChars_cons]
  · rw [tokensFrom_blank hother hseparated hc, hstream, Cursor.forward_forward, List.cons_append,
      Position.advanceChars_cons, List.length_cons, Nat.add_comm 1]

/-- A token among the characters is the same before blanks. -/
theorem splitsAlike_token (hplaced : cursor.Placed) (hother : other.Placed)
    (hafter : cursor.after = chars) (hseparated : other.after = chars ++ (blank ++ rest))
    (hne : blank ≠ []) (hblank : ∀ c ∈ blank, Unicode.isBlank c = true)
    (hpiece : nextPiece? chars = some (some kind, count))
    (h : SplitsAlike blank (position.advanceChars (chars.take count)) (cursor.forward count)
      (other.forward count) (chars.drop count)) :
    SplitsAlike blank position cursor other chars := by
  obtain ⟨w, others, rfl⟩ := List.exists_cons_of_ne_nil hne
  have hlonger : nextPiece? other.after = some (some kind, count) := by
    rw [hseparated, List.cons_append]
    exact nextPiece?_append (stops_of_blank (hblank w List.mem_cons_self)) hpiece
  obtain ⟨-, hle⟩ := nextPiece?_bounds hpiece
  obtain ⟨front, htokens, hstream⟩ := h
  refine ⟨⟨position, kind, String.ofList (chars.take count)⟩ :: front, ?_, ?_⟩
  · rw [tokensFrom_piece hplaced (hafter ▸ hpiece), hafter, withPiece, Lexer.Stream.cons, htokens,
      ← Position.advanceChars_append, List.take_append_drop, List.cons_append]
  · have hforward : count + (chars.drop count ++ w :: others).length =
        (chars ++ w :: others).length := by
      rw [List.length_append, List.length_append, List.length_drop]
      omega
    rw [tokensFrom_piece hother hlonger, hseparated, List.take_append_of_le_length hle, hstream,
      Cursor.forward_forward, ← Position.advanceChars_append, ← List.append_assoc,
      List.take_append_drop, hforward]
    rfl

/-- What the lexer makes of characters that it splits up to their end it also makes of them before
blanks. -/
theorem splitsAlike_of_split (hplaced : cursor.Placed) (hother : other.Placed)
    (hafter : cursor.after = chars) (hseparated : other.after = chars ++ (blank ++ rest))
    (hne : blank ≠ []) (hblank : ∀ c ∈ blank, Unicode.isBlank c = true)
    (hsplit : (lexer.tokensFrom position cursor).failure = none) :
    SplitsAlike blank position cursor other chars := by
  induction hlength : chars.length using Nat.strongRecOn
    generalizing cursor other position chars with
  | ind length ih =>
      cases chars with
      | nil => exact splitsAlike_nil hother hafter hseparated hblank
      | cons c left =>
          cases hpiece : nextPiece? (c :: left) with
          | none =>
              rw [tokensFrom_unmatched hplaced hafter (by rwa [hafter])] at hsplit
              cases hsplit
          | some piece =>
              obtain ⟨kind?, count⟩ := piece
              cases kind? with
              | none =>
                  have hc : Unicode.isBlank c = true := blank_of_skipped hpiece
                  refine splitsAlike_blank hplaced hother hafter hseparated hc
                    (ih left.length ?_ (hplaced.forward 1) (hother.forward 1) ?_ ?_ ?_ rfl)
                  · rw [← hlength, List.length_cons]
                    exact Nat.lt_succ_self _
                  · rw [Cursor.after_forward, hafter, List.drop_succ_cons, List.drop_zero]
                  · rw [Cursor.after_forward, hseparated, List.cons_append, List.drop_succ_cons,
                      List.drop_zero]
                  · rwa [tokensFrom_blank hplaced hafter hc] at hsplit
              | some kind =>
                  obtain ⟨hpos, hle⟩ := nextPiece?_bounds hpiece
                  refine splitsAlike_token hplaced hother hafter hseparated hne hblank hpiece
                    (ih _ ?_ (hplaced.forward count) (hother.forward count) ?_ ?_ ?_ rfl)
                  · rw [List.length_drop]
                    omega
                  · rw [Cursor.after_forward, hafter]
                  · rw [Cursor.after_forward, hseparated, List.drop_append_of_le_length hle]
                  · rwa [tokensFrom_piece hplaced (hafter ▸ hpiece), hafter] at hsplit

/-! ## Tokens with spaces between them -/

/-- A text to which others are joined with spaces is followed by these, each with a space before it.
-/
theorem intercalate_spaces (first : List Char) (texts : List (List Char)) :
    [' '].intercalate (first :: texts) = first ++ texts.flatMap (' ' :: ·) := by
  induction texts generalizing first with
  | nil => simp
  | cons text texts ih => rw [List.intercalate_cons_cons, ih]; simp

/-- Tokens, each with a space before it, and a space behind the last one, are these tokens. -/
theorem lexes_spaced {pieces : List (Kind × String)}
    (h : ∀ piece ∈ pieces, IsLexeme piece.1 piece.2) :
    Lexes (pieces.flatMap (fun piece => ' ' :: piece.2.toList) ++ [' ']) pieces [] := by
  induction pieces with
  | nil => exact lexes_space fun c hc => nomatch hc
  | cons piece pieces ih =>
      rw [List.forall_mem_cons] at h
      have hstops : ∀ c ∈ (pieces.flatMap (fun piece => ' ' :: piece.2.toList) ++ [' ']).head?,
          Stops c := by
        intro c hc
        have hspace : c = ' ' := by cases pieces <;> simp_all [eq_comm]
        rw [hspace]
        exact stops_of_blank rfl
      have htoken := (lexes_space_append h.1.head).trans ((h.1.lexes hstops).trans (ih h.2))
      rw [List.flatMap_cons, List.append_assoc]
      exact htoken

/-- A text that the lexer splits up to its end is passed up to there. -/
theorem exists_lexes_of_split {text : String} (h : (lexer.tokenize text).failure = none) :
    ∃ pieces, Lexes text.toList pieces [] := by
  obtain ⟨pieces, left, hlexes, hnone⟩ := exists_lexes text.toList
  obtain ⟨later, place, hplaced, hafter, -, hfailure⟩ :=
    @Lexes.tokensFrom (.atStart text.toList) .start _ _ _ hlexes rfl (placed_atStart text.toList)
  have hsplit : (lexer.tokensFrom later place).failure = none := hfailure.symm.trans h
  cases left with
  | nil => exact ⟨pieces, hlexes⟩
  | cons c others =>
      rw [tokensFrom_unmatched hplaced hafter (by rwa [hafter])] at hsplit
      cases hsplit

/-- The texts of the tokens of a text, joined with spaces, are split into the same tokens. -/
theorem split_spaced {text : String} (h : (lexer.tokenize text).failure = none) :
    let spaced := " ".intercalate ((lexer.tokenize text).tokens.map (·.text))
    (lexer.tokenize spaced).failure = none ∧ split spaced = split text := by
  obtain ⟨pieces, hlexes⟩ := exists_lexes_of_split h
  have htexts : (lexer.tokenize text).tokens.map (·.text) =
      "" :: (pieces.map Prod.snd ++ [""]) := by
    have hsplit := congrArg (List.map Prod.snd) hlexes.tokenize.1
    rw [split, List.map_map, List.map_append, List.map_cons] at hsplit
    exact hsplit
  have hchars : (" ".intercalate ((lexer.tokenize text).tokens.map (·.text))).toList =
      pieces.flatMap (fun piece => ' ' :: piece.2.toList) ++ [' '] := by
    rw [htexts, String.toList_intercalate, List.map_cons, show " ".toList = [' '] from rfl,
      intercalate_spaces]
    simp [List.flatMap_map]
  have hspaced := Lexes.tokenize (hchars ▸ lexes_spaced hlexes.isLexeme)
  exact ⟨hspaced.2, hspaced.1.trans hlexes.tokenize.1.symm⟩

/-- A text that the lexer splits up to its end has the same tokens before blanks and any other text,
but for the one for its end. The tokens of the other text follow, but for the one for its beginning,
and its failure if it has one; they are moved to where it lies now, so that its offsets and lines
are behind those of the first text, and its columns are on the line that it begins on. And the texts
of the tokens, joined with spaces, are split into tokens of the same kinds and texts. -/
theorem tokenize_separated {text : String} (h : (lexer.tokenize text).failure = none) :
    (∀ blank other : String, blank ≠ "" → (∀ c ∈ blank.toList, Unicode.isBlank c = true) →
      ∃ front back,
        (lexer.tokenize text).tokens = front ++ [⟨.advance .start text, .stop, ""⟩] ∧
          (lexer.tokenize other).tokens = ⟨.start, .start, ""⟩ :: back ∧
          (lexer.tokenize (text ++ blank ++ other)).tokens =
            front ++ back.map (·.behind (.advance .start (text ++ blank))) ∧
          (lexer.tokenize (text ++ blank ++ other)).failure =
            (lexer.tokenize other).failure.map (·.behind (.advance .start (text ++ blank)))) ∧
      (lexer.tokenize (" ".intercalate ((lexer.tokenize text).tokens.map (·.text)))).failure =
        none ∧
      split (" ".intercalate ((lexer.tokenize text).tokens.map (·.text))) = split text := by
  refine ⟨fun blank other hne hblank => ?_, split_spaced h⟩
  have hchars : (text ++ blank ++ other).toList =
      text.toList ++ (blank.toList ++ other.toList) := by
    rw [String.toList_append, String.toList_append, List.append_assoc]
  have hplaced := placed_atStart (text ++ blank ++ other).toList
  obtain ⟨front, htokens, hstream⟩ : SplitsAlike blank.toList .start (.atStart text.toList)
      (.atStart (text ++ blank ++ other).toList) text.toList :=
    splitsAlike_of_split (placed_atStart text.toList) hplaced rfl hchars (by simpa using hne) hblank
      h
  -- Behind the blanks the lexer is where the other text begins.
  have hafter : ((Cursor.atStart (text ++ blank ++ other).toList).forward
      (text.toList ++ blank.toList).length).after = (Cursor.atStart other.toList).after := by
    rw [Cursor.after_forward]
    refine (congrArg _ (hchars.trans (List.append_assoc ..).symm)).trans ?_
    exact List.drop_left
  have hmoved := @tokensFrom_behind _ _ (.advance .start (text ++ blank)) .start
    (placed_atStart other.toList) (hplaced.forward (text.toList ++ blank.toList).length) hafter
    (Int.le_refl 0)
  rw [Position.behind_start, Position.advance, String.toList_append] at hmoved
  rw [hmoved] at hstream
  refine ⟨⟨.start, .start, ""⟩ :: front, (lexer.tokensFrom .start (.atStart other.toList)).tokens,
    congrArg (List.cons _) htokens, rfl, ?_, ?_⟩
  · rw [Position.advance, String.toList_append]
    exact congrArg (List.cons _) (congrArg Lexer.Stream.tokens hstream)
  · rw [Position.advance, String.toList_append]
    exact congrArg Lexer.Stream.failure hstream

/-- Line ends in both texts and between them, and a character in the second one that begins no
token. -/
theorem tokenize_separated_lines :
    (lexer.tokenize "CALL\nx<").failure = none ∧
      (∃ front back,
        (lexer.tokenize "CALL\nx<").tokens = front ++ [⟨⟨7, 1, 2⟩, .stop, ""⟩] ∧
          (lexer.tokenize "=1\n$").tokens = ⟨.start, .start, ""⟩ :: back ∧
          (lexer.tokenize "CALL\nx< \n =1\n$").tokens =
            front ++ back.map (·.behind ⟨10, 2, 1⟩) ∧
          (lexer.tokenize "CALL\nx< \n =1\n$").failure = some (.unmatched ⟨13, 3, 0⟩ '$')) ∧
      split " CALL x < " = split "CALL\nx<" := by
  have hsplit : (lexer.tokenize "CALL\nx<").failure = none := by decide +kernel
  obtain ⟨hseparated, -, hspaced⟩ := tokenize_separated hsplit
  have hblank : " \n ".toList.all Unicode.isBlank = true := by decide +kernel
  obtain ⟨front, back, hfront, hback, htokens, hfailure⟩ :=
    hseparated " \n " "=1\n$" (by decide) (List.all_eq_true.1 hblank)
  have hbase : Position.advance .start ("CALL\nx<" ++ " \n ") = ⟨10, 2, 1⟩ := by decide +kernel
  have hfails : (lexer.tokenize "=1\n$").failure = some (.unmatched ⟨3, 1, 0⟩ '$') := by
    decide +kernel
  rw [hbase] at htokens hfailure
  rw [hfails] at hfailure
  have htexts : " ".intercalate ((lexer.tokenize "CALL\nx<").tokens.map (·.text)) =
      " CALL x < " := by
    decide +kernel
  rw [htexts] at hspaced
  exact ⟨hsplit, ⟨front, back, hfront, hback, htokens, hfailure⟩, hspaced⟩

end Pl0

end Parlance
