import Parlance.Pl0.Token
import Parlance.Proofs.Position
import Parlance.Scanner.Basic

/-!
# How a lexer splits a text

`Lexer.tokenize_tiles` is the whole contract of a lexer. A part of the text, from its beginning on,
is cut into pieces without gaps, each of which the first rule that matches there has matched. The
tokens of the stream are those of the pieces, in order, apart from the pieces that are skipped, and
their positions are the ones that a source counts. The cut ends where the text does, or where no
rule matches, or where the first rule that matches takes nothing.

What is assumed of the expressions is that a match ends where it begins or after that, and inside
the text. The places that a lexer passes are followed by `Cursor.at`, which is the cursor that
stands at an offset, and by `Source.position?`.
-/

namespace Parlance

open Regex (Cursor)

/-! ## Places -/

namespace Regex

/-- Going forward goes on by so many characters, as long as there are so many. -/
theorem Cursor.offset_forward (cursor : Cursor) (count : Nat) :
    (cursor.forward count).offset = cursor.offset + min count cursor.after.length := by
  induction count generalizing cursor with
  | zero => simp [forward]
  | succ count ih =>
      rw [forward, ih, after_next]
      unfold next
      split <;> rename_i hafter
      · simp [hafter]
      · simp only [hafter, List.tail_cons, List.length_cons]
        omega

/-- Going forward twice is going forward. -/
theorem Cursor.forward_forward (cursor : Cursor) (first second : Nat) :
    (cursor.forward first).forward second = cursor.forward (first + second) := by
  induction first generalizing cursor with
  | zero => simp [forward]
  | succ first ih => rw [forward, ih, Nat.add_right_comm, forward]

/-- A match that takes a span of a text of this size from an offset on. -/
structure Match.Covers (found : Match) (offset size : Nat) : Prop where
  start_le : offset ≤ found.stop.offset
  stop_le : found.stop.offset ≤ size
  forward : found.isReversed = false

instance (found : Match) (offset size : Nat) : Decidable (found.Covers offset size) :=
  decidable_of_iff
    (offset ≤ found.stop.offset ∧ found.stop.offset ≤ size ∧ found.isReversed = false)
    ⟨fun ⟨hstart, hstop, hforward⟩ => ⟨hstart, hstop, hforward⟩,
      fun ⟨hstart, hstop, hforward⟩ => ⟨hstart, hstop, hforward⟩⟩

end Regex

/-- The place at an offset of a source. -/
def Source.cursorAt (source : Source) (offset : Nat) : Cursor :=
  (Cursor.atStart source.chars).forward offset

namespace Lexer

variable {κ : Type}

/-! ## Cuts of a text -/

/-- A piece of a text, and the rule that has matched it. -/
structure Piece (κ : Type) where
  start : Nat
  stop : Nat
  rule : LexerRule κ

/-- The expressions of the rules take spans of the source: a match ends where it begins or after
that, and inside the text, and so do its groups. -/
def Covers (lexer : Lexer κ) (source : Source) : Prop :=
  ∀ offset ≤ source.chars.length, ∀ rule ∈ lexer.rules,
    ∀ found ∈ rule.regex.match? (source.cursorAt offset), found.Covers offset source.chars.length

instance (lexer : Lexer κ) (source : Source) : Decidable (lexer.Covers source) :=
  inferInstanceAs (Decidable (∀ offset, offset ≤ source.chars.length → ∀ rule ∈ lexer.rules,
    ∀ found ∈ rule.regex.match? (source.cursorAt offset), found.Covers offset source.chars.length))

/-- At this offset of the source the rule matches, and none of those that come before it does. -/
inductive Wins (lexer : Lexer κ) (source : Source) (offset : Nat) (rule : LexerRule κ)
    (found : Regex.Match) : Prop where
  | intro {before after : List (LexerRule κ)} : lexer.rules = before ++ rule :: after →
      (∀ other ∈ before, other.regex.match? (source.cursorAt offset) = none) →
      rule.regex.match? (source.cursorAt offset) = some found → Wins lexer source offset rule found

/-- The text from one offset to another is cut into pieces that follow each other, none of them
empty, each of which is the match of the rule that wins at its start. -/
inductive Cuts (lexer : Lexer κ) (source : Source) : Nat → List (Piece κ) → Nat → Prop where
  | nil {offset} : Cuts lexer source offset [] offset
  | cons {piece pieces found last} : lexer.Wins source piece.start piece.rule found →
      found.stop.offset = piece.stop → piece.start < piece.stop →
      Cuts lexer source piece.stop pieces last →
      Cuts lexer source piece.start (piece :: pieces) last

/-- The tokens that pieces make, in order: none if the rule skips, and otherwise the token of the
rule's kind with the characters of the piece, at the position that the source counts. -/
inductive Makes (source : Source) : List (Piece κ) → List (Token κ) → Prop where
  | nil : Makes source [] []
  | skip {piece pieces tokens} : piece.rule.kind = none → Makes source pieces tokens →
      Makes source (piece :: pieces) tokens
  | token {piece token pieces tokens} : piece.rule.kind = some token.kind →
      source.position? piece.start = some token.position →
      token.text = String.ofList (Text.slice source.chars piece.start piece.stop) →
      Makes source pieces tokens → Makes source (piece :: pieces) (token :: tokens)

/-- How a stream goes on at the offset at which the cut ends: it has these tokens and this failure.
-/
inductive Finishes (lexer : Lexer κ) (source : Source) (offset : Nat) (position : Position) :
    List (Token κ) → Option Fault → Prop where
  | closed : offset = source.chars.length →
      Finishes lexer source offset position [⟨position, lexer.endKind, ""⟩] none
  | unmatched {c : Char} : source.chars[offset]? = some c →
      (∀ rule ∈ lexer.rules, rule.regex.match? (source.cursorAt offset) = none) →
      Finishes lexer source offset position []
        (some (.parse ⟨.lexical, position,
          s!"unexpected character: {Text.quote (String.singleton c)}", String.singleton c⟩))
  | emptyMatch {rule : LexerRule κ} {found : Regex.Match} : offset < source.chars.length →
      lexer.Wins source offset rule found → found.stop.offset = offset →
      Finishes lexer source offset position []
        (some (.lexer (.emptyMatch rule.pattern offset offset)))

/-- What a stream that starts at an offset comes to. -/
def Tiles (lexer : Lexer κ) (source : Source) (offset : Nat) (stream : Stream κ) : Prop :=
  ∃ pieces last tokens position closing,
    lexer.Cuts source offset pieces last ∧ Makes source pieces tokens ∧
      last ≤ source.chars.length ∧ source.position? last = some position ∧
      lexer.Finishes source last position closing (stream.failure.map (·.toFault)) ∧
      stream.tokens = tokens ++ closing

/-! ## The stream -/

variable {lexer : Lexer κ} {source : Source} {offset : Nat} {position : Position}

/-- What lies behind a place of the source. -/
theorem cursorAt_after (source : Source) (offset : Nat) :
    (source.cursorAt offset).after = source.chars.drop offset := by
  rw [Source.cursorAt, Cursor.after_forward]
  rfl

/-- A place of the source has its offset. -/
theorem cursorAt_offset (h : offset ≤ source.chars.length) :
    (source.cursorAt offset).offset = offset := by
  rw [Source.cursorAt, Cursor.offset_forward]
  simp [Cursor.atStart, Nat.min_eq_left h]

/-- No rule is found if none matches. -/
theorem firstMatch_eq_none_iff {rules : List (LexerRule κ)} {cursor : Cursor} :
    firstMatch rules cursor = none ↔ ∀ rule ∈ rules, rule.regex.match? cursor = none := by
  simp [firstMatch]

/-- The rule that is found to match first wins. -/
theorem wins_of_firstMatch {rule : LexerRule κ} {found : Regex.Match}
    (h : firstMatch lexer.rules (source.cursorAt offset) = some (rule, found)) :
    lexer.Wins source offset rule found := by
  obtain ⟨before, other, after, hrules, hother, hbefore⟩ := List.findSome?_eq_some_iff.1 h
  obtain ⟨match?, hmatch, heq⟩ := Option.map_eq_some_iff.1 hother
  cases heq
  exact .intro hrules (fun earlier hearlier => by simpa using hbefore earlier hearlier) hmatch

/-- The rule that wins is one of the rules, and matches. -/
theorem Wins.matched {rule : LexerRule κ} {found : Regex.Match}
    (h : lexer.Wins source offset rule found) :
    rule ∈ lexer.rules ∧ rule.regex.match? (source.cursorAt offset) = some found := by
  obtain ⟨hrules, -, hmatch⟩ := h
  exact ⟨by simp [hrules], hmatch⟩

/-- The rule that wins is found to match first. -/
theorem Wins.firstMatch_eq {rule : LexerRule κ} {found : Regex.Match}
    (h : lexer.Wins source offset rule found) :
    firstMatch lexer.rules (source.cursorAt offset) = some (rule, found) := by
  obtain ⟨hrules, hbefore, hmatch⟩ := h
  exact List.findSome?_eq_some_iff.2 ⟨_, rule, _, hrules, by rw [hmatch]; rfl,
    fun other hother => by rw [hbefore other hother]; rfl⟩

/-- A lexer passes the characters up to where the match ends, and stands there after that. -/
theorem passes_piece {stop length : Nat} (hoffset : offset ≤ source.chars.length)
    (hstop : stop ≤ source.chars.length) (hposition : source.position? offset = some position)
    (hlength : stop - (source.cursorAt offset).offset = length + 1) :
    offset < stop ∧
      (source.cursorAt offset).after.take (length + 1) = Text.slice source.chars offset stop ∧
      (source.cursorAt offset).forward (length + 1) = source.cursorAt stop ∧
      source.position? stop =
        some (position.advanceChars ((source.cursorAt offset).after.take (length + 1))) := by
  rw [cursorAt_offset hoffset] at hlength
  have hpiece :
      (source.cursorAt offset).after.take (length + 1) = Text.slice source.chars offset stop := by
    rw [cursorAt_after, Text.slice, List.drop_take, hlength]
  refine ⟨by omega, hpiece, ?_, ?_⟩
  · rw [Source.cursorAt, Cursor.forward_forward, ← hlength, Nat.add_sub_cancel' (by omega),
      ← Source.cursorAt]
  · rw [hpiece]
    exact Source.position?_advance hposition (by omega) hstop

/-- A piece in front of a stream is a piece in front of its cut. -/
theorem Tiles.cons {stream : Stream κ} {rule : LexerRule κ} {found : Regex.Match}
    (hwins : lexer.Wins source offset rule found) (hlt : offset < found.stop.offset)
    (hposition : source.position? offset = some position)
    (h : lexer.Tiles source found.stop.offset stream) :
    lexer.Tiles source offset
      (match rule.kind with
      | none => stream
      | some kind => stream.cons
          ⟨position, kind, String.ofList (Text.slice source.chars offset found.stop.offset)⟩) := by
  obtain ⟨pieces, last, tokens, place, closing, hcuts, hmakes, hle, hlast, hfinishes, htokens⟩ := h
  have hcuts' : lexer.Cuts source offset (⟨offset, found.stop.offset, rule⟩ :: pieces) last :=
    @Cuts.cons _ _ _ ⟨offset, found.stop.offset, rule⟩ _ _ _ hwins rfl hlt hcuts
  cases hkind : rule.kind with
  | none =>
      exact ⟨_, last, tokens, place, closing, hcuts', .skip hkind hmakes, hle, hlast, hfinishes,
        htokens⟩
  | some kind =>
      refine ⟨_, last, ⟨position, kind, _⟩ :: tokens, place, closing, hcuts',
        .token hkind hposition rfl hmakes, hle, hlast, hfinishes, ?_⟩
      exact congrArg (List.cons _) htokens

/-- From every place on, the stream is that of a cut of what follows. -/
theorem tokensFrom_tiles (hcovers : lexer.Covers source)
    (position : Position) (cursor : Cursor) :
    ∀ offset ≤ source.chars.length, cursor = source.cursorAt offset →
      source.position? offset = some position →
      lexer.Tiles source offset (lexer.tokensFrom position cursor) := by
  fun_induction tokensFrom lexer position cursor with
  | case1 position cursor hafter =>
      rintro offset hoffset rfl hposition
      rw [cursorAt_after, List.drop_eq_nil_iff] at hafter
      exact ⟨[], offset, [], position, _, .nil, .nil, hoffset, hposition,
        .closed (by omega), rfl⟩
  | case2 position cursor c rest hafter hnone =>
      rintro offset hoffset rfl hposition
      rw [cursorAt_after] at hafter
      have hc : source.chars[offset]? = some c := by
        rw [← List.head?_drop, hafter, List.head?_cons]
      exact ⟨[], offset, [], position, _, .nil, .nil, hoffset, hposition,
        .unmatched hc (firstMatch_eq_none_iff.1 hnone), rfl⟩
  | case3 position cursor c rest hafter rule found hfirst hreversed =>
      rintro offset hoffset rfl hposition
      obtain ⟨hmem, hmatch⟩ := (wins_of_firstMatch hfirst).matched
      rw [(hcovers offset hoffset rule hmem found hmatch).forward] at hreversed
      cases hreversed
  | case4 position cursor c rest hafter rule found hfirst hreversed hlength =>
      rintro offset hoffset rfl hposition
      have hwins := wins_of_firstMatch hfirst
      have hcover := hcovers offset hoffset rule hwins.matched.1 found hwins.matched.2
      rw [cursorAt_after] at hafter
      rw [cursorAt_offset hoffset] at hlength ⊢
      have hlt : offset < source.chars.length := by
        have := congrArg List.length hafter
        simp only [List.length_drop, List.length_cons] at this
        omega
      have hstop : found.stop.offset = offset := by
        have := hcover.start_le
        omega
      rw [hstop]
      exact ⟨[], offset, [], position, _, .nil, .nil, hoffset, hposition,
        .emptyMatch hlt hwins hstop, rfl⟩
  | case5 position cursor c rest hafter rule found hfirst hreversed length hlength piece stream
      hkind ih =>
      rintro offset hoffset rfl hposition
      have hwins := wins_of_firstMatch hfirst
      have hcover := hcovers offset hoffset rule hwins.matched.1 found hwins.matched.2
      obtain ⟨hlt, hpiece, hforward, hstop⟩ :=
        passes_piece hoffset hcover.stop_le hposition hlength
      have htiles := Tiles.cons hwins hlt hposition (ih _ hcover.stop_le hforward hstop)
      rw [hkind] at htiles
      exact htiles
  | case6 position cursor c rest hafter rule found hfirst hreversed length hlength piece stream
      kind hkind ih =>
      rintro offset hoffset rfl hposition
      have hwins := wins_of_firstMatch hfirst
      have hcover := hcovers offset hoffset rule hwins.matched.1 found hwins.matched.2
      obtain ⟨hlt, hpiece, hforward, hstop⟩ :=
        passes_piece hoffset hcover.stop_le hposition hlength
      have htiles := Tiles.cons hwins hlt hposition (ih _ hcover.stop_le hforward hstop)
      rw [hkind, ← hpiece] at htiles
      exact htiles

/-- A lexer whose expressions take spans of a source splits it: a part of the text from its
beginning on is cut into pieces, none of them empty, each the match of the first rule that matches
there; the stream has the token for the beginning if there is to be one, the tokens of the pieces
whose rules do not skip, and the token for the end if the cut reaches it, each at the position that
the source counts. Where the cut ends before that, the stream fails there: no rule matches, or the
first that does takes nothing. -/
theorem tokenize_tiles (lexer : Lexer κ) (source : Source) (hcovers : lexer.Covers source) :
    ∃ pieces last tokens position closing,
      lexer.Cuts source 0 pieces last ∧ Makes source pieces tokens ∧
        last ≤ source.chars.length ∧ source.position? last = some position ∧
        lexer.Finishes source last position closing
          ((lexer.tokenize source.text).failure.map (·.toFault)) ∧
        (lexer.tokenize source.text).tokens =
          (lexer.startKind.map fun kind => ⟨.start, kind, ""⟩).toList ++ tokens ++ closing := by
  have hstart : source.position? (0 : Nat) = some .start := Source.position?_eq (Nat.zero_le _)
  obtain ⟨pieces, last, tokens, position, closing, hcuts, hmakes, hle, hlast, hfinishes, htokens⟩ :=
    tokensFrom_tiles hcovers .start (.atStart source.chars) 0 (Nat.zero_le _) rfl hstart
  refine ⟨pieces, last, tokens, position, closing, hcuts, hmakes, hle, hlast, ?_, ?_⟩
  · unfold tokenize
    cases lexer.startKind <;> exact hfinishes
  · unfold tokenize
    cases lexer.startKind with
    | none => exact htokens
    | some kind => exact congrArg (List.cons _) htokens

/-- A text with a piece that is skipped, a second line, and a character that begins no token. -/
theorem tokenize_tiles_unmatched :
    Pl0.lexer.Covers ⟨"", "CALL p\n;$", true⟩ ∧
      ∃ pieces last tokens position closing,
        Pl0.lexer.Cuts ⟨"", "CALL p\n;$", true⟩ 0 pieces last ∧
          Makes ⟨"", "CALL p\n;$", true⟩ pieces tokens ∧ last ≤ 9 ∧
          Source.position? ⟨"", "CALL p\n;$", true⟩ last = some position ∧
          Pl0.lexer.Finishes ⟨"", "CALL p\n;$", true⟩ last position closing
            ((Pl0.lexer.tokenize "CALL p\n;$").failure.map (·.toFault)) ∧
          (Pl0.lexer.tokenize "CALL p\n;$").tokens =
            [⟨.start, .start, ""⟩] ++ tokens ++ closing :=
  ⟨by decide +kernel, tokenize_tiles Pl0.lexer ⟨"", "CALL p\n;$", true⟩ (by decide +kernel)⟩

end Lexer

end Parlance
