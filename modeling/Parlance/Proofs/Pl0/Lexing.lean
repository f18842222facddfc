import Mathlib.Data.List.Find
import Mathlib.Data.List.TakeWhile
import Parlance.Proofs.Lexer.Tiling
import Parlance.Proofs.Pl0.Lexemes

/-!
# How PL/0 texts are split

Each rule of the lexer takes a run of characters of a set, or the first of some words that stands
there. So the piece that comes next can be read off the characters that follow a place, and whether
a rule takes more of them when something is appended depends on the first character of that alone.
-/

namespace Parlance.Pl0

open Regex (Charset Cursor anyOf spelled)

/-! ## Shapes of rules -/

/-- What a rule takes: as many characters of a set as there are, or the first of some words. -/
inductive Shape where
  | run (set : Charset)
  | choice (words : List (List Char))

namespace Shape

/-- The expression of such a rule. -/
def regex : Shape → Regex
  | run set => .rep .more 1 none (.one set)
  | choice words => anyOf (words.map spelled)

/-- How many characters such a rule takes from the beginning of a text. -/
def taken : Shape → List Char → Nat
  | run set, chars => (chars.takeWhile set.holds).length
  | choice words, chars => ((words.find? fun word => word.isPrefixOf chars).getD []).length

/-- If the rule takes words, then there are some, and none of them is empty. -/
def Proper : Shape → Prop
  | run _ => True
  | choice words => words ≠ [] ∧ [] ∉ words

instance : DecidablePred Proper
  | run _ => inferInstanceAs (Decidable True)
  | choice words => inferInstanceAs (Decidable (words ≠ [] ∧ [] ∉ words))

/-- The character can stand in what the rule takes, elsewhere than at its beginning. -/
def Continues (c : Char) : Shape → Prop
  | run set => set.holds c = true
  | choice words => ∃ word ∈ words, c ∈ word.tail

instance (c : Char) : DecidablePred (Continues c)
  | run set => inferInstanceAs (Decidable (set.holds c = true))
  | choice words => inferInstanceAs (Decidable (∃ word ∈ words, c ∈ word.tail))

/-- The rule takes no more than the character where it begins with it. -/
def Closes (c : Char) : Shape → Prop
  | run set => set.holds c = false
  | choice words => ∀ word ∈ words, word.head? = some c → word = [c]

instance (c : Char) : DecidablePred (Closes c)
  | run set => inferInstanceAs (Decidable (set.holds c = false))
  | choice words => inferInstanceAs (Decidable (∀ word ∈ words, word.head? = some c → word = [c]))

variable {shape : Shape} {cursor : Cursor} {words : List (List Char)} {word chars rest : List Char}
  {set : Charset} {c : Char}

/-- The word that is found is one of the words, and stands there. -/
theorem prefix_of_find? (h : (words.find? fun word => word.isPrefixOf chars) = some word) :
    word ∈ words ∧ word <+: chars := by
  have hstands := List.find?_some h
  exact ⟨List.mem_of_find?_eq_some h, List.isPrefixOf_iff_prefix.1 hstands⟩

/-- No more is taken than there is. -/
theorem taken_le (shape : Shape) (chars : List Char) : shape.taken chars ≤ chars.length := by
  cases shape with
  | run set => exact (List.takeWhile_prefix _).length_le
  | choice words =>
      rw [taken]
      cases hword : words.find? fun word => word.isPrefixOf chars with
      | none => exact Nat.zero_le _
      | some word => exact (prefix_of_find? hword).2.length_le

/-- Where a rule takes something, it matches that, and elsewhere it does not match. -/
theorem match?_eq (hproper : shape.Proper) (hplaced : cursor.Placed) :
    shape.regex.match? cursor =
      if shape.taken cursor.after = 0 then none
      else some ⟨cursor.forward (shape.taken cursor.after), []⟩ := by
  cases shape with
  | run set => exact Regex.match?_rounds hplaced
  | choice words =>
      rw [regex, Regex.match?_anyOf hproper.1, taken]
      cases hword : words.find? fun word => word.isPrefixOf cursor.after with
      | none => rfl
      | some word =>
          have hne : word ≠ [] := fun hnil => hproper.2 (hnil ▸ (prefix_of_find? hword).1)
          rw [Option.map_some, Option.getD_some, if_neg (mt List.length_eq_zero_iff.1 hne)]

/-- A word of which the character that comes after some others is no part stands there only if it
stands in those. -/
theorem isPrefixOf_append (hchars : chars ≠ []) (hc : c ∉ word.tail) :
    word.isPrefixOf (chars ++ c :: rest) = word.isPrefixOf chars := by
  rw [Bool.eq_iff_iff, List.isPrefixOf_iff_prefix, List.isPrefixOf_iff_prefix]
  refine ⟨fun h => ?_, fun h => h.trans (List.prefix_append _ _)⟩
  by_cases hle : word.length ≤ chars.length
  · exact List.prefix_of_prefix_length_le h (List.prefix_append _ _) hle
  · -- The word goes on behind the others with the character.
    have hmore : chars ++ [c] <+: word := by
      refine List.prefix_of_prefix_length_le ?_ h (by simp; omega)
      exact ⟨rest, by simp⟩
    obtain ⟨more, rfl⟩ := hmore
    cases chars with
    | nil => exact (hchars rfl).elim
    | cons d others => simp at hc

/-- A rule takes the same before a character with which it does not go on. -/
theorem taken_append (hchars : chars ≠ []) (hc : ¬ shape.Continues c) :
    shape.taken (chars ++ c :: rest) = shape.taken chars := by
  cases shape with
  | run set =>
      rw [Continues, Bool.not_eq_true] at hc
      rw [taken, taken, List.takeWhile_append, List.takeWhile_cons, hc]
      split <;> simp_all
  | choice words =>
      rw [taken, taken]
      have hsame : ∀ word ∈ words, word.isPrefixOf (chars ++ c :: rest) = word.isPrefixOf chars :=
        fun word hmem => isPrefixOf_append hchars fun htail => hc ⟨word, hmem, htail⟩
      rw [List.find?_congr hsame]

/-- Whether there is a run does not depend on what is appended. -/
theorem taken_run_eq_zero_iff (hchars : chars ≠ []) :
    (run set).taken (chars ++ rest) = 0 ↔ (run set).taken chars = 0 := by
  cases chars with
  | nil => exact (hchars rfl).elim
  | cons c others =>
      cases hc : set.holds c <;> simp [taken, hc]

/-- A rule takes the same before everything if it takes no more than the character. -/
theorem taken_cons (hc : shape.Closes c) :
    shape.taken (c :: rest) = shape.taken [c] := by
  cases shape with
  | run set => simp [taken, show set.holds c = false from hc]
  | choice words =>
      have hsame : ∀ word ∈ words, word.isPrefixOf (c :: rest) = word.isPrefixOf [c] := by
        intro word hmem
        cases word with
        | nil => rfl
        | cons d others =>
            by_cases heq : d = c
            · subst heq
              cases hc _ hmem rfl
              simp
            · rw [List.isPrefixOf_cons_cons, List.isPrefixOf_cons_cons,
                beq_eq_false_iff_ne.2 heq, Bool.false_and, Bool.false_and]
      rw [taken, taken, List.find?_congr hsame]

/-- A run is no longer or shorter if what comes behind it is cut off. -/
theorem takeWhile_take {count : Nat} (hcount : (chars.takeWhile set.holds).length ≤ count) :
    (chars.take count).takeWhile set.holds = chars.takeWhile set.holds := by
  induction chars generalizing count with
  | nil => simp
  | cons c rest ih =>
      cases hc : set.holds c with
      | false =>
          cases count <;> simp [hc]
      | true =>
          rw [List.takeWhile_cons, if_pos hc, List.length_cons] at hcount
          obtain ⟨less, rfl⟩ : ∃ less, count = less + 1 := ⟨count - 1, by omega⟩
          rw [List.take_succ_cons, List.takeWhile_cons, if_pos hc, List.takeWhile_cons, if_pos hc,
            ih (by omega)]

/-- A rule takes the same if what it leaves is cut off, or some of that. -/
theorem taken_take {count : Nat} (hcount : shape.taken chars ≤ count) :
    shape.taken (chars.take count) = shape.taken chars := by
  cases shape with
  | run set => exact congrArg List.length (takeWhile_take hcount)
  | choice words =>
      rw [taken] at hcount ⊢
      rw [taken]
      have hless {word : List Char} (h : word.isPrefixOf (chars.take count) = true) :
          word.isPrefixOf chars = true := by
        rw [List.isPrefixOf_iff_prefix] at h ⊢
        exact h.trans (List.take_prefix count chars)
      cases hword : words.find? fun word => word.isPrefixOf chars with
      | none =>
          rw [List.find?_eq_none] at hword
          rw [List.find?_eq_none.2 fun word hmem hstands => hword word hmem (hless hstands)]
      | some word =>
          rw [hword, Option.getD_some] at hcount
          obtain ⟨hstands, before, after, rfl, hbefore⟩ := List.find?_eq_some_iff_append.1 hword
          have htake : word.isPrefixOf (chars.take count) = true := by
            rw [List.isPrefixOf_iff_prefix] at hstands ⊢
            exact List.prefix_of_prefix_length_le hstands (List.take_prefix count chars) (by
              have hle := hstands.length_le
              rw [List.length_take]
              omega)
          have hfind : ((before ++ word :: after).find? fun word =>
              word.isPrefixOf (chars.take count)) = some word := by
            rw [List.find?_eq_some_iff_append]
            refine ⟨htake, before, after, rfl, fun other hmem => ?_⟩
            have hnot := hbefore other hmem
            rw [Bool.not_eq_true'] at hnot ⊢
            exact Bool.eq_false_iff.2 fun hother => by simp [hless hother] at hnot
          rw [hfind]

end Shape

/-! ## The next piece -/

/-- The set of the blank characters. -/
def blanks : Charset := ⟨[.property .blank .unicode true], false, .exact⟩

/-- The relations that are no symbols; one that begins with another comes first. -/
def comparisons : List String := ["<=", ">=", "<", ">", "#"]

/-- The texts of symbols. -/
def symbols : List String :=
  ["(", ")", ":=", ";", ".", ",", "!", "?", "+", "-", "*", "/", "="]

/-- The rules of the lexer, in order: what each takes, and the kind of its tokens. -/
def shapes : List (Shape × Option Kind) :=
  [(.run blanks, none), (.choice (keywords.map String.toList), some .keyword),
    (.run digits, some .number), (.run letters, some .identifier),
    (.choice (comparisons.map String.toList), some .comparison),
    (.choice (symbols.map String.toList), some .symbol)]

/-- The rules have these shapes. -/
theorem rules_shapes : lexer.rules.map (fun rule => (rule.regex, rule.kind)) =
    shapes.map fun entry => (entry.1.regex, entry.2) := by
  decide +kernel

/-- No rule takes the empty word. -/
theorem shapes_proper : ∀ entry ∈ shapes, entry.1.Proper := by
  decide +kernel

/-- The kind of the piece at the beginning of a text, if it is a token, and its length: that of the
first rule that takes something. -/
def nextPiece? (chars : List Char) : Option (Option Kind × Nat) :=
  (shapes.find? fun entry => entry.1.taken chars ≠ 0).map fun entry =>
    (entry.2, entry.1.taken chars)

variable {cursor : Cursor} {position : Position} {chars rest : List Char} {kind? : Option Kind}
  {kind : Kind} {count : Nat} {c : Char}

/-- Of rules that have these shapes, the first that matches is the first that takes something. -/
theorem firstMatch_shapes {entries : List (Shape × Option Kind)} {rules : List (LexerRule Kind)}
    (hplaced : cursor.Placed) (hproper : ∀ entry ∈ entries, entry.1.Proper)
    (h : rules.map (fun rule => (rule.regex, rule.kind)) =
      entries.map fun entry => (entry.1.regex, entry.2)) :
    (Lexer.firstMatch rules cursor).map (fun found => (found.1.kind, found.2)) =
      (entries.find? fun entry => entry.1.taken cursor.after ≠ 0).map fun entry =>
        (entry.2, ⟨cursor.forward (entry.1.taken cursor.after), []⟩) := by
  induction entries generalizing rules with
  | nil =>
      rw [List.map_nil, List.map_eq_nil_iff] at h
      rw [h]
      rfl
  | cons entry entries ih =>
      obtain ⟨rule, others, rfl, hrule, hothers⟩ := List.map_eq_cons_iff.1 h
      obtain ⟨hregex, hkind⟩ := Prod.mk.inj hrule
      rw [List.forall_mem_cons] at hproper
      have hrest := ih hproper.2 hothers
      unfold Lexer.firstMatch at hrest ⊢
      rw [List.findSome?_cons, hregex, Shape.match?_eq hproper.1 hplaced, List.find?_cons]
      by_cases hzero : entry.1.taken cursor.after = 0
      · simp only [hzero, if_true, Option.map_none, ne_eq, not_true_eq_false, decide_false]
        exact hrest
      · simp [hzero, hkind]

/-- The first rule that matches is the one that takes the next piece. -/
theorem firstMatch_eq (hplaced : cursor.Placed) :
    (Lexer.firstMatch lexer.rules cursor).map (fun found => (found.1.kind, found.2)) =
      (nextPiece? cursor.after).map fun piece => (piece.1, ⟨cursor.forward piece.2, []⟩) := by
  rw [firstMatch_shapes hplaced shapes_proper rules_shapes, nextPiece?, Option.map_map]
  rfl

/-- A piece is not empty and no longer than what follows. -/
theorem nextPiece?_bounds (h : nextPiece? chars = some (kind?, count)) :
    0 < count ∧ count ≤ chars.length := by
  obtain ⟨entry, hentry, heq⟩ := Option.map_eq_some_iff.1 h
  obtain ⟨-, rfl⟩ := Prod.mk.inj heq
  have hne := List.find?_some hentry
  rw [decide_eq_true_iff] at hne
  exact ⟨Nat.pos_of_ne_zero hne, entry.1.taken_le chars⟩

/-- At the end of a text there is no piece. -/
theorem nextPiece?_nil : nextPiece? [] = none := by
  cases h : nextPiece? [] with
  | none => rfl
  | some piece =>
      have hbounds := nextPiece?_bounds h
      rw [List.length_nil] at hbounds
      omega

/-- At the end of the text the stream ends. -/
theorem tokensFrom_end (hafter : cursor.after = []) :
    lexer.tokensFrom position cursor = ⟨[⟨position, .stop, ""⟩], none⟩ := by
  rw [Lexer.tokensFrom]
  split
  · rfl
  · rename_i hcons
    rw [hafter] at hcons
    cases hcons

/-- Where no rule takes anything the stream fails. -/
theorem tokensFrom_unmatched (hplaced : cursor.Placed) (hafter : cursor.after = c :: rest)
    (hpiece : nextPiece? cursor.after = none) :
    lexer.tokensFrom position cursor = ⟨[], some (.unmatched position c)⟩ := by
  have hfirst := firstMatch_eq hplaced
  rw [hpiece, Option.map_none, Option.map_eq_none_iff] at hfirst
  rw [Lexer.tokensFrom]
  split
  · rename_i hnil
    rw [hafter] at hnil
    cases hnil
  · rename_i hcons
    cases hafter.symm.trans hcons
    simp only [hfirst]

/-- The stream with the token of a piece in front, if the piece is a token. -/
def withPiece (position : Position) (kind? : Option Kind) (piece : List Char)
    (stream : Lexer.Stream Kind) : Lexer.Stream Kind :=
  match kind? with
  | none => stream
  | some kind => stream.cons ⟨position, kind, String.ofList piece⟩

/-- Behind a piece the stream goes on. -/
theorem tokensFrom_piece (hplaced : cursor.Placed)
    (hpiece : nextPiece? cursor.after = some (kind?, count)) :
    lexer.tokensFrom position cursor =
      withPiece position kind? (cursor.after.take count)
        (lexer.tokensFrom (position.advanceChars (cursor.after.take count))
          (cursor.forward count)) := by
  obtain ⟨hpos, hle⟩ := nextPiece?_bounds hpiece
  have hfirst := firstMatch_eq hplaced
  rw [hpiece, Option.map_some] at hfirst
  obtain ⟨⟨rule, found⟩, hfound, heq⟩ := Option.map_eq_some_iff.1 hfirst
  obtain ⟨hkind, rfl⟩ := Prod.mk.inj heq
  have hlength : (cursor.forward count).offset - cursor.offset = (count - 1) + 1 := by
    rw [Cursor.offset_forward]
    omega
  have hcount : count - 1 + 1 = count := by omega
  have hreversed : Regex.Match.isReversed ⟨cursor.forward count, []⟩ = false := rfl
  rw [Lexer.tokensFrom]
  split
  · rename_i hafter
    rw [hafter, List.length_nil] at hle
    omega
  · simp only [hfound, hreversed, Bool.false_eq_true, if_false]
    rw [hlength]
    simp only [hcount]
    rw [show kind? = rule.kind from hkind.symm]
    cases rule.kind <;> rfl

/-! ## From one place of a text to another -/

/-- From a beginning of a text the lexer comes to what is left of it, and makes tokens of these kinds
and texts on the way. -/
inductive Lexes : List Char → List (Kind × String) → List Char → Prop where
  | done {left} : Lexes left [] left
  | skip {start length pieces left} : nextPiece? start = some (none, length) →
      Lexes (start.drop length) pieces left → Lexes start pieces left
  | token {start sort length pieces left} : nextPiece? start = some (some sort, length) →
      Lexes (start.drop length) pieces left →
      Lexes start ((sort, String.ofList (start.take length)) :: pieces) left

/-- The lexer goes on from what is left. -/
theorem Lexes.trans {middle : List Char} {pieces more : List (Kind × String)}
    (hfirst : Lexes chars pieces middle) (hsecond : Lexes middle more rest) :
    Lexes chars (pieces ++ more) rest := by
  induction hfirst with
  | done => exact hsecond
  | skip hpiece _ ih => exact .skip hpiece (ih hsecond)
  | token hpiece _ ih => exact .token hpiece (ih hsecond)

/-- The lexer comes to the end of every text, or to where no rule takes anything. -/
theorem exists_lexes (chars : List Char) :
    ∃ pieces rest, Lexes chars pieces rest ∧ nextPiece? rest = none := by
  induction hlength : chars.length using Nat.strongRecOn generalizing chars with
  | ind length ih =>
      cases hpiece : nextPiece? chars with
      | none => exact ⟨[], chars, .done, hpiece⟩
      | some piece =>
          obtain ⟨kind?, count⟩ := piece
          obtain ⟨hpos, hle⟩ := nextPiece?_bounds hpiece
          have hless : (chars.drop count).length < length := by
            rw [List.length_drop]
            omega
          obtain ⟨pieces, rest, hlexes, hrest⟩ := ih _ hless (chars.drop count) rfl
          cases kind? with
          | none => exact ⟨pieces, rest, .skip hpiece hlexes, hrest⟩
          | some kind => exact ⟨_, rest, .token hpiece hlexes, hrest⟩

/-- The kinds and texts of tokens. -/
def kindsAndTexts (tokens : List (Token Kind)) : List (Kind × String) :=
  tokens.map fun token => (token.kind, token.text)

/-- The stream from a place on has the tokens that the lexer makes on its way to another, and goes on
from there. -/
theorem Lexes.tokensFrom {pieces : List (Kind × String)} (h : Lexes chars pieces rest)
    (hafter : cursor.after = chars) (hplaced : cursor.Placed) :
    ∃ later place, place.Placed ∧ place.after = rest ∧
      kindsAndTexts (lexer.tokensFrom position cursor).tokens =
        pieces ++ kindsAndTexts (lexer.tokensFrom later place).tokens ∧
      (lexer.tokensFrom position cursor).failure = (lexer.tokensFrom later place).failure := by
  induction h generalizing cursor position with
  | done => exact ⟨position, cursor, hplaced, hafter, rfl, rfl⟩
  | @skip start length pieces left hpiece _ ih =>
      subst hafter
      rw [tokensFrom_piece hplaced hpiece]
      exact ih (Cursor.after_forward cursor length) (hplaced.forward length)
  | @token start sort length pieces left hpiece _ ih =>
      subst hafter
      obtain ⟨later, place, hplace, hrest, htokens, hfailure⟩ :=
        @ih (cursor.forward length) (position.advanceChars (cursor.after.take length))
          (Cursor.after_forward cursor length) (hplaced.forward length)
      refine ⟨later, place, hplace, hrest, ?_, ?_⟩
      · rw [tokensFrom_piece hplaced hpiece]
        exact congrArg (List.cons _) htokens
      · rw [tokensFrom_piece hplaced hpiece]
        exact hfailure

/-- The beginning of a text has its offset. -/
theorem placed_atStart (chars : List Char) : (Cursor.atStart chars).Placed := rfl

/-- A text is split into the token for its beginning and what the stream from there has. -/
theorem split_eq (text : String) :
    split text =
      (.start, "") :: kindsAndTexts (lexer.tokensFrom .start (.atStart text.toList)).tokens := rfl

/-- A text that the lexer splits up to its end has these tokens, and those for its ends. -/
theorem Lexes.tokenize {text : String} {pieces : List (Kind × String)}
    (h : Lexes text.toList pieces []) :
    split text = (.start, "") :: pieces ++ [(.stop, "")] ∧
      (lexer.tokenize text).failure = none := by
  obtain ⟨later, place, -, hafter, htokens, hfailure⟩ :=
    @Lexes.tokensFrom (.atStart text.toList) .start _ _ _ h rfl (placed_atStart text.toList)
  rw [tokensFrom_end hafter] at htokens hfailure
  exact ⟨congrArg (List.cons _) htokens, hfailure⟩

/-! ## Tokens on their own -/

/-- The text on its own is one token of this kind. -/
def IsLexeme (kind : Kind) (text : String) : Prop :=
  nextPiece? text.toList = some (some kind, text.toList.length)

instance (kind : Kind) (text : String) : Decidable (IsLexeme kind text) :=
  inferInstanceAs (Decidable (_ = _))

/-- What a rule takes is the next piece also where what follows it is cut off, or some of that. -/
theorem nextPiece?_take {length : Nat} (h : nextPiece? chars = some (kind?, count))
    (hle : count ≤ length) : nextPiece? (chars.take length) = some (kind?, count) := by
  obtain ⟨entry, hentry, heq⟩ := Option.map_eq_some_iff.1 h
  obtain ⟨hkind, hcount⟩ := Prod.mk.inj heq
  obtain ⟨htaken, before, after, hshapes, hbefore⟩ := List.find?_eq_some_iff_append.1 hentry
  have hsame : entry.1.taken (chars.take length) = entry.1.taken chars :=
    Shape.taken_take (hcount ▸ hle)
  rw [nextPiece?, List.find?_eq_some_iff_append.2 ⟨?_, before, after, hshapes, ?_⟩]
  · rw [Option.map_some, hsame, hkind, hcount]
  · rw [hsame]
    exact htaken
  · intro other hmem
    have hzero : other.1.taken chars = 0 := by simpa using hbefore other hmem
    rw [Shape.taken_take (by omega), hzero]
    rfl

/-- Each token that is made on the way is one on its own. -/
theorem Lexes.isLexeme {pieces : List (Kind × String)} (h : Lexes chars pieces rest) :
    ∀ piece ∈ pieces, IsLexeme piece.1 piece.2 := by
  induction h with
  | done => exact fun piece hmem => nomatch hmem
  | skip _ _ ih => exact ih
  | @token start sort length pieces left hpiece _ ih =>
      refine List.forall_mem_cons.2 ⟨?_, ih⟩
      obtain ⟨-, hle⟩ := nextPiece?_bounds hpiece
      rw [IsLexeme, String.toList_ofList, nextPiece?_take hpiece (Nat.le_refl _), List.length_take,
        Nat.min_eq_left hle]

/-- A text that is a token on its own is split into this one. -/
theorem IsLexeme.split {text : String} (h : IsLexeme kind text) :
    split text = [(.start, ""), (kind, text), (.stop, "")] := by
  have hlexes : Lexes text.toList [(kind, text)] [] := by
    have htoken := Lexes.token h Lexes.done
    rwa [List.take_length, String.ofList_toList, List.drop_length] at htoken
  exact hlexes.tokenize.1

/-- Each token that a text is split into is one on its own, but for those for its ends. -/
theorem isLexeme_of_mem_split {text whole : String} (h : (kind, text) ∈ split whole)
    (hstart : kind ≠ .start) (hstop : kind ≠ .stop) : IsLexeme kind text := by
  obtain ⟨pieces, rest, hlexes, hnone⟩ := exists_lexes whole.toList
  obtain ⟨later, place, hplace, hafter, htokens, -⟩ :=
    @Lexes.tokensFrom (.atStart whole.toList) .start _ _ _ hlexes rfl
      (placed_atStart whole.toList)
  have hlast : ∀ entry ∈ kindsAndTexts (lexer.tokensFrom later place).tokens,
      entry.1 = .stop := by
    cases rest with
    | nil => simp [tokensFrom_end hafter, kindsAndTexts]
    | cons c others =>
        simp [tokensFrom_unmatched hplace hafter (by rwa [hafter]), kindsAndTexts]
  rw [split_eq, htokens, List.mem_cons, List.mem_append] at h
  rcases h with heq | hmem | hmem
  · exact (hstart (congrArg Prod.fst heq)).elim
  · exact hlexes.isLexeme (kind, text) hmem
  · exact (hstop (hlast _ hmem)).elim

/-! ## What follows a token -/

/-- No token can go on with this character. -/
def Stops (c : Char) : Prop := ∀ entry ∈ shapes, entry.2 ≠ none → ¬ entry.1.Continues c

instance : DecidablePred Stops :=
  fun c => inferInstanceAs (Decidable (∀ entry ∈ shapes, entry.2 ≠ none → ¬ entry.1.Continues c))

/-- The character is a token whatever follows it. -/
def Closes (c : Char) : Prop := ∀ entry ∈ shapes, entry.1.Closes c

instance : DecidablePred Closes :=
  fun c => inferInstanceAs (Decidable (∀ entry ∈ shapes, entry.1.Closes c))

/-- Only blank characters are skipped. -/
theorem blanks_of_kind : ∀ entry ∈ shapes, entry.2 = none → entry = (.run blanks, none) := by
  simp [shapes]

/-- A token is the next piece also before a character with which no token goes on. -/
theorem nextPiece?_append (hc : Stops c) (h : nextPiece? chars = some (some kind, count)) :
    nextPiece? (chars ++ c :: rest) = some (some kind, count) := by
  have hchars : chars ≠ [] := by
    intro hnil
    rw [hnil, nextPiece?_nil] at h
    cases h
  have hsame : ∀ entry ∈ shapes, (decide (entry.1.taken (chars ++ c :: rest) ≠ 0)) =
      decide (entry.1.taken chars ≠ 0) := by
    intro entry hmem
    rw [decide_eq_decide]
    by_cases hkind : entry.2 = none
    · obtain rfl := blanks_of_kind entry hmem hkind
      exact not_congr (Shape.taken_run_eq_zero_iff hchars)
    · rw [Shape.taken_append hchars (hc entry hmem hkind)]
  rw [nextPiece?, List.find?_congr hsame]
  obtain ⟨entry, hentry, heq⟩ := Option.map_eq_some_iff.1 h
  obtain ⟨hkind, hcount⟩ := Prod.mk.inj heq
  rw [hentry, Option.map_some, hkind, Shape.taken_append hchars
    (hc entry (List.mem_of_find?_eq_some hentry) (by simp [hkind])), hcount]

/-- The next piece does not depend on what follows a character that is a token whatever follows it.
-/
theorem nextPiece?_cons (hc : Closes c) : nextPiece? (c :: rest) = nextPiece? [c] := by
  have hsame : ∀ entry ∈ shapes, (decide (entry.1.taken (c :: rest) ≠ 0)) =
      decide (entry.1.taken [c] ≠ 0) := fun entry hmem => by
    rw [Shape.taken_cons (hc entry hmem)]
  rw [nextPiece?, List.find?_congr hsame, nextPiece?]
  refine Option.map_congr fun entry hentry => ?_
  rw [Shape.taken_cons (hc entry (List.mem_of_find?_eq_some hentry))]

/-- A token on its own is one wherever no token can go on with what follows it. -/
theorem IsLexeme.lexes {text : String} (h : IsLexeme kind text)
    (hrest : ∀ c ∈ rest.head?, Stops c) : Lexes (text.toList ++ rest) [(kind, text)] rest := by
  have hpiece : nextPiece? (text.toList ++ rest) = some (some kind, text.toList.length) := by
    cases rest with
    | nil => rwa [List.append_nil]
    | cons c others => exact nextPiece?_append (hrest c rfl) h
  have htoken := Lexes.token hpiece Lexes.done
  rwa [List.take_left, List.drop_left, String.ofList_toList] at htoken

/-- A token of one character is one whatever follows it, if no rule goes on behind the character. -/
theorem IsLexeme.lexes_char {text : String} (h : IsLexeme kind text) (htext : text.toList = [c])
    (hc : Closes c) : Lexes (text.toList ++ rest) [(kind, text)] rest := by
  rw [IsLexeme, htext] at h
  rw [htext]
  have htoken := Lexes.token ((nextPiece?_cons hc).trans h) (@Lexes.done rest)
  rwa [List.length_singleton, List.take_succ_cons, List.take_zero, ← htext,
    String.ofList_toList] at htoken

/-- A blank is passed if none follows it. -/
theorem lexes_space (hrest : ∀ c ∈ rest.head?, blanks.holds c = false) :
    Lexes (' ' :: rest) [] rest := by
  have htaken : (Shape.run blanks).taken (' ' :: rest) = 1 := by
    have hspace : blanks.holds ' ' = true := by decide
    rw [Shape.taken, List.takeWhile_cons, if_pos hspace]
    cases rest with
    | nil => rfl
    | cons c others => rw [List.takeWhile_cons, hrest c rfl]; rfl
  have hpiece : nextPiece? (' ' :: rest) = some (none, 1) := by
    rw [nextPiece?, shapes, List.find?_cons, htaken]
    rw [show decide (1 ≠ 0) = true from rfl, Option.map_some, htaken]
  exact Lexes.skip hpiece Lexes.done

/-- A blank is passed before a text that begins with no blank. -/
theorem lexes_space_append {text : List Char}
    (h : ∃ c others, text = c :: others ∧ blanks.holds c = false) :
    Lexes (' ' :: (text ++ rest)) [] (text ++ rest) := by
  obtain ⟨c, others, rfl, hc⟩ := h
  refine lexes_space fun d hd => ?_
  rw [List.cons_append, List.head?_cons, Option.mem_some_iff] at hd
  rwa [← hd]

/-- A token begins with no blank character. -/
theorem IsLexeme.head {text : String} (h : IsLexeme kind text) :
    ∃ c others, text.toList = c :: others ∧ blanks.holds c = false := by
  rw [IsLexeme] at h
  cases htext : text.toList with
  | nil =>
      rw [htext, nextPiece?_nil] at h
      cases h
  | cons c others =>
      refine ⟨c, others, rfl, Bool.eq_false_iff.2 fun hblank => ?_⟩
      have htaken : (Shape.run blanks).taken (c :: others) ≠ 0 := by
        simp [Shape.taken, hblank]
      rw [htext, nextPiece?, shapes, List.find?_cons_of_pos (by simpa using htaken)] at h
      cases h

end Parlance.Pl0
