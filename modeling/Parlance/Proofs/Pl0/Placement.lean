import Parlance.Proofs.Lexer.Tiling
import Parlance.Proofs.Pl0.CorrectPrefix.Programs
import Parlance.Proofs.Pl0.Lexing
import Parlance.Proofs.Pl0.Misnaming

/-!
# Where errors are placed

A text that is no program is refused with an error of the text, whose place and text are those of a
token or a character of the source: the name with which a rule on names is broken, the first token
that has not been consumed, or the character that no rule of the lexer matches. So the error can be
shown in the source.
-/

namespace Parlance

/-! ## Places of a source -/

/-- The text stands at this offset of the source, and the source counts the position there. -/
structure Source.Shows (source : Source) (offset : Nat) (position : Position) (text : String) :
    Prop where
  inside : offset ≤ source.chars.length
  position : source.position? offset = some position
  text : text = String.ofList (Text.slice source.chars offset (offset + text.length))

namespace Source

variable {source : Source} {offset stop : Nat} {position : Position} {text : String}

/-- The empty text stands everywhere. -/
theorem shows_empty (hinside : offset ≤ source.chars.length)
    (hposition : source.position? offset = some position) : source.Shows offset position "" := by
  refine ⟨hinside, hposition, ?_⟩
  simp [Text.slice]

/-- What stands between two offsets stands at the first of them. -/
theorem shows_slice (hle : offset ≤ stop) (hstop : stop ≤ source.chars.length)
    (hposition : source.position? offset = some position) :
    source.Shows offset position (String.ofList (Text.slice source.chars offset stop)) := by
  refine ⟨Nat.le_trans hle hstop, hposition, ?_⟩
  have hlength : (String.ofList (Text.slice source.chars offset stop)).length = stop - offset := by
    simp [Text.slice]
    omega
  rw [hlength, Nat.add_sub_cancel' hle]

/-- The character at an offset stands there. -/
theorem shows_character {c : Char} (hc : source.chars[offset]? = some c)
    (hposition : source.position? offset = some position) :
    source.Shows offset position (String.singleton c) := by
  obtain ⟨hlt, hget⟩ := List.getElem?_eq_some_iff.1 hc
  have hslice : Text.slice source.chars offset (offset + 1) = [c] := by
    rw [Text.slice, List.drop_take, Nat.add_sub_cancel_left, List.drop_eq_getElem_cons hlt, hget]
    rfl
  have hshows := shows_slice (Nat.le_add_right offset 1) hlt hposition
  rw [hslice] at hshows
  exact hshows

/-- What a source shows is a prefix of what follows the offset. -/
theorem Shows.isPrefix (h : source.Shows offset position text) :
    text.toList <+: source.chars.drop offset := by
  have htext := congrArg String.toList h.text
  rw [String.toList_ofList, Text.slice, List.drop_take] at htext
  rw [htext]
  exact List.take_prefix _ _

/-- What a source shows has a diagnostic. -/
theorem Shows.diagnostic {error : ParseError} (h : source.Shows offset error.position error.text) :
    ∃ shown, source.diagnosticOfError error = .ok shown := by
  have hposition := h.position
  rw [position?_eq h.inside, Option.some.injEq, Text.advanceChars_start] at hposition
  have hstart : 0 ≤ error.position.offset := by
    rw [← hposition]
    exact Int.natCast_nonneg _
  have hstop : error.position.offset ≤ error.position.offset + error.text.length := by omega
  simp only [diagnosticOfError, Source.diagnostic, Option.getD_some, hstart, hstop, and_self, if_true,
    Except.ok.injEq, exists_eq']

end Source

namespace Lexer

variable {κ : Type} {lexer : Lexer κ} {source : Source} {first last : Nat}
  {pieces : List (Piece κ)} {tokens : List (Token κ)}

/-- A cut goes forward. -/
theorem Cuts.le (h : lexer.Cuts source first pieces last) : first ≤ last := by
  induction h with
  | nil => exact Nat.le_refl _
  | cons _ _ hlt _ ih => exact Nat.le_trans (Nat.le_of_lt hlt) ih

/-- The tokens of a cut stand where its pieces do. -/
theorem Makes.shows (hmakes : Makes source pieces tokens)
    (hcuts : lexer.Cuts source first pieces last) (hlast : last ≤ source.chars.length) :
    ∀ token ∈ tokens, ∃ offset, source.Shows offset token.position token.text := by
  induction hmakes generalizing first with
  | nil => exact fun _ hmem => nomatch hmem
  | skip _ _ ih =>
      cases hcuts with
      | cons _ _ _ hcuts => exact ih hcuts
  | @token piece _ _ _ _ hposition htext _ ih =>
      cases hcuts with
      | cons _ _ hlt hcuts =>
          refine List.forall_mem_cons.2 ⟨⟨piece.start, ?_⟩, ih hcuts⟩
          rw [htext]
          exact Source.shows_slice (Nat.le_of_lt hlt) (Nat.le_trans hcuts.le hlast) hposition

end Lexer

namespace Pl0

open Regex (Cursor)

/-! ## Tokens of a text -/

section

variable {source : Source} {token : Token Kind}

/-- Every place of a source has its offset. -/
theorem cursorAt_placed (source : Source) (offset : Nat) : (source.cursorAt offset).Placed :=
  (placed_atStart source.chars).forward offset

/-- What the rules of the lexer match at a place of a source ends behind the place, and inside the
source. -/
theorem lexer_match {offset : Nat} (hoffset : offset ≤ source.chars.length)
    {rule : LexerRule Kind} (hrule : rule ∈ lexer.rules) {found : Regex.Match}
    (hfound : rule.regex.match? (source.cursorAt offset) = some found) :
    offset < found.stop.offset ∧ found.stop.offset ≤ source.chars.length ∧
      found.isReversed = false := by
  have hmem := List.mem_map_of_mem (f := fun rule => (rule.regex, rule.kind)) hrule
  rw [rules_shapes] at hmem
  obtain ⟨entry, hentry, heq⟩ := List.mem_map.1 hmem
  obtain ⟨hregex, -⟩ := Prod.mk.inj heq
  rw [← hregex, Shape.match?_eq (shapes_proper entry hentry) (cursorAt_placed source offset)]
    at hfound
  have hle := entry.1.taken_le (source.cursorAt offset).after
  have hlength : (source.cursorAt offset).after.length = source.chars.length - offset := by
    rw [Lexer.cursorAt_after, List.length_drop]
  split at hfound
  · cases hfound
  · cases hfound
    rw [Cursor.offset_forward, Lexer.cursorAt_offset hoffset]
    exact ⟨by omega, by omega, rfl⟩

/-- The rules of the lexer take spans of every source. -/
theorem lexer_covers (source : Source) : lexer.Covers source := by
  intro offset hoffset rule hrule found hfound
  obtain ⟨hlt, hstop, hforward⟩ := lexer_match hoffset hrule hfound
  exact ⟨Nat.le_of_lt hlt, hstop, hforward⟩

/-- The tokens of a source stand in it, and where no token starts there is a character that no rule
matches. -/
theorem tokenize_shows (source : Source) :
    (∀ token ∈ (lexer.tokenize source.text).tokens,
        ∃ offset, source.Shows offset token.position token.text) ∧
      ∀ fault, (lexer.tokenize source.text).failure.map (·.toFault) = some fault →
        ∃ error offset c, fault = .parse error ∧ error.category = .lexical ∧
          error.text = String.singleton c ∧ source.chars[offset]? = some c ∧
          source.Shows offset error.position error.text ∧
          ∀ rule ∈ lexer.rules, rule.regex.match? (source.cursorAt offset) = none := by
  have hstart : source.position? (0 : Nat) = some .start := Source.position?_eq (Nat.zero_le _)
  obtain ⟨pieces, last, tokens, position, closing, hcuts, hmakes, hle, hlast, hfinishes, htokens⟩ :=
    Lexer.tokensFrom_tiles (lexer_covers source) .start (.atStart source.chars) 0 (Nat.zero_le _)
      rfl hstart
  have hall : (lexer.tokenize source.text).tokens = ⟨.start, .start, ""⟩ :: (tokens ++ closing) :=
    congrArg (List.cons _) htokens
  refine ⟨fun token hmem => ?_, fun fault hfault => ?_⟩
  · rw [hall, List.mem_cons, List.mem_append] at hmem
    rcases hmem with rfl | hmem | hmem
    · exact ⟨0, Source.shows_empty (Nat.zero_le _) hstart⟩
    · exact hmakes.shows hcuts hle token hmem
    · generalize (Lexer.tokensFrom _ _ _).failure.map _ = fault? at hfinishes
      cases hfinishes with
      | closed _ =>
          cases List.mem_singleton.1 hmem
          exact ⟨last, Source.shows_empty hle hlast⟩
      | unmatched _ _ => cases hmem
      | emptyMatch _ _ _ => cases hmem
  · have hsame : (lexer.tokenize source.text).failure.map (·.toFault) =
        (lexer.tokensFrom .start (.atStart source.chars)).failure.map (·.toFault) := rfl
    rw [hsame] at hfault
    rw [hfault] at hfinishes
    cases hfinishes with
    | unmatched hc hnone =>
        exact ⟨_, last, _, rfl, rfl, rfl, hc, Source.shows_character hc hlast, hnone⟩
    | emptyMatch _ hwins hstop =>
        obtain ⟨hrule, hmatch⟩ := hwins.matched
        have hlt := (lexer_match hle hrule hmatch).1
        omega

/-! ## Errors of a text -/

/-- The error is placed at the offset of the source, and at what it blames: a name of the text with
which a rule on names is broken, or the first of the tokens that are left, or a character that no
rule matches after the last token. -/
structure PlacedAt (source : Source) (left : Tokens) (error : ParseError) (offset : Nat) :
    Prop where
  shows : source.Shows offset error.position error.text
  unconsumed : left <:+ (lexer.tokenize source.text).tokens
  category : error.category ≠ .unexpectedEnd
  name : error.category = .semantic → ∃ token ∈ (lexer.tokenize source.text).tokens,
    token.kind = .identifier ∧ ∃ violation : Violation, violation.name? = some token.text ∧
      error = .ofToken .semantic token violation.message
  token : error.category = .unexpectedToken ∨ error.category = .general →
    ∃ token rest, left = token :: rest ∧ error = .ofToken error.category token error.message
  character : error.category = .lexical → left = [] ∧ ∃ c, source.chars[offset]? = some c ∧
    error.text = String.singleton c ∧
    ∀ rule ∈ lexer.rules, rule.regex.match? (source.cursorAt offset) = none
  diagnostic : ∃ shown, source.diagnosticOfError error = .ok shown

/-- An error that blames a token of the text is shown where the token stands. -/
theorem shows_ofToken (category : ErrorCategory) (message : String)
    (hmem : token ∈ (lexer.tokenize source.text).tokens) :
    ∃ offset, source.Shows offset (ParseError.ofToken category token message).position
      (ParseError.ofToken category token message).text :=
  (tokenize_shows source).1 token hmem

/-- At the beginning of a text its tokens lie ahead. -/
theorem ofText_amid (source : Source) :
    Amid (lexer.tokenize source.text).tokens (Session.ofText source.text).scanner where
  subset := List.Subset.refl _
  endKind := rfl
  ending fault hfault := by
    obtain ⟨error, _, _, rfl, hcategory, -⟩ := (tokenize_shows source).2 fault hfault
    exact blamesName_of_category (by rw [hcategory]; decide)

end

end Pl0

end Parlance
