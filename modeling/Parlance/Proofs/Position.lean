import Parlance.Source

/-!
# Positions by steps and by counting

A position is found in two ways: a lexer moves one along the characters that it passes, and a source
counts the line ends before an offset and the characters since the last of them. The two agree at
every offset of a text. `Position.behind` is where a place of a text lies when another text comes
before it, and moving along characters commutes with that. So a text can also be moved over at once,
wherever it starts: `Position.counted` counts in this text alone.
-/

namespace Parlance

/-- Moving over two texts in turn is moving over them together. -/
theorem Position.advanceChars_append (place : Position) (first second : List Char) :
    place.advanceChars (first ++ second) = (place.advanceChars first).advanceChars second := by
  simp [Position.advanceChars]

namespace Position

variable {base place : Position}

/-- The place of a text where another text comes before it and ends at `base`: offsets and lines add
up, and columns do on the first line. -/
def behind (base place : Position) : Position :=
  ⟨base.offset + place.offset, base.line + place.line,
    if place.line = 0 then base.column + place.column else place.column⟩

/-- The beginning of a text is where the other text ends. -/
@[simp] theorem behind_start (base : Position) : base.behind .start = base := by
  simp [behind, start]

/-- A step behind another text is the step, behind that text. -/
theorem behind_step (hline : 0 ≤ place.line) (c : Char) :
    base.behind (place.step c) = (base.behind place).step c := by
  by_cases hend : c = '\n'
  · have hnext : place.line + 1 ≠ 0 := by omega
    simp [behind, step, hend, hnext, Int.add_assoc]
  · by_cases hfirst : place.line = 0 <;> simp [behind, step, hend, hfirst, Int.add_assoc]

/-- A step leads to no line above the first one. -/
theorem step_line_nonneg (hline : 0 ≤ place.line) (c : Char) : 0 ≤ (place.step c).line := by
  unfold step
  split
  · exact Int.add_nonneg hline (by decide)
  · exact hline

/-- Moving over characters leads to no line above the first one. -/
theorem advanceChars_line_nonneg (hline : 0 ≤ place.line) (chars : List Char) :
    0 ≤ (place.advanceChars chars).line := by
  induction chars generalizing place with
  | nil => exact hline
  | cons c rest ih => exact ih (step_line_nonneg hline c)

/-- Moving over characters behind another text is moving over them, behind that text. -/
theorem behind_advanceChars (hline : 0 ≤ place.line) (chars : List Char) :
    base.behind (place.advanceChars chars) = (base.behind place).advanceChars chars := by
  induction chars generalizing place with
  | nil => rfl
  | cons c rest ih =>
      rw [advanceChars_cons, advanceChars_cons, ih (step_line_nonneg hline c), behind_step hline]

end Position

namespace Text

/-- The last line starts in the text or at its end. -/
theorem lastLineStart_le (chars : List Char) : lastLineStart chars ≤ chars.length :=
  Nat.sub_le _ _

/-- A line end at the end of the text starts an empty line, and any other character belongs to the
line that it stands in. -/
theorem lastLineStart_concat (chars : List Char) (c : Char) :
    lastLineStart (chars ++ [c]) = if c = '\n' then chars.length + 1 else lastLineStart chars := by
  have hline : (chars.reverse.takeWhile (· ≠ '\n')).length ≤ chars.reverse.length :=
    (List.takeWhile_sublist _).length_le
  unfold lastLineStart
  by_cases hend : c = '\n'
  · simp [hend]
  · simp only [List.reverse_append, List.reverse_singleton, List.singleton_append,
      List.length_append, List.length_singleton, hend, if_false]
    rw [List.takeWhile_cons_of_pos (by simpa using hend), List.length_cons]
    simp only [List.length_reverse] at hline
    omega

/-- Moving over a text from its beginning counts what a source counts in it. -/
theorem advanceChars_start (chars : List Char) :
    Position.start.advanceChars chars =
      ⟨chars.length, chars.count '\n', chars.length - lastLineStart chars⟩ := by
  induction hlength : chars.length generalizing chars with
  | zero =>
      rw [List.eq_nil_of_length_eq_zero hlength]
      rfl
  | succ length ih =>
      obtain ⟨front, c, rfl⟩ : ∃ front c, chars = front ++ [c] :=
        ⟨chars.dropLast, chars.getLast (by rintro rfl; cases hlength),
          (List.dropLast_concat_getLast _).symm⟩
      have hfront : front.length = length := by simpa using hlength
      have hstart := lastLineStart_le front
      rw [Position.advanceChars_append, ih front hfront, lastLineStart_concat]
      by_cases hend : c = '\n'
      · simp [Position.step, hend, hfront]
      · simp only [Position.advanceChars_cons, Position.advanceChars_nil, Position.step, hend,
          if_false, List.count_append, List.count_singleton, beq_iff_eq]
        simp only [Position.mk.injEq]
        omega

end Text

namespace Source

variable {source : Source} {offset stop : Nat} {position : Position}

/-- The position of an offset inside the text is where moving over the characters before it
leads. -/
theorem position?_eq (h : offset ≤ source.chars.length) :
    source.position? offset = some (Position.start.advanceChars (source.chars.take offset)) := by
  rw [position?, if_pos (by omega), Text.advanceChars_start]
  simp [Nat.min_eq_left h]

/-- From the position of an offset, moving over the characters up to another one leads to the
position of that. -/
theorem position?_advance (hposition : source.position? offset = some position)
    (hle : offset ≤ stop) (hstop : stop ≤ source.chars.length) :
    source.position? stop =
      some (position.advanceChars (Text.slice source.chars offset stop)) := by
  rw [position?_eq (Nat.le_trans hle hstop)] at hposition
  cases hposition
  have hsplit : source.chars.take stop =
      source.chars.take offset ++ Text.slice source.chars offset stop := by
    have h := List.take_append_drop offset (source.chars.take stop)
    rw [List.take_take, Nat.min_eq_left hle] at h
    exact h.symm
  rw [position?_eq hstop, hsplit, Position.advanceChars_append]

end Source

/-! ## Moving over a text at once -/

/-- A text without line ends is one line. -/
theorem Text.lastLineStart_eq_zero {chars : List Char} (h : chars.count '\n' = 0) :
    lastLineStart chars = 0 := by
  have hline : ∀ c ∈ chars.reverse, decide (c ≠ '\n') = true := by
    intro c hc
    rw [decide_eq_true_iff]
    rintro rfl
    exact List.count_eq_zero.1 h (List.mem_reverse.1 hc)
  have hall : (chars.reverse ++ []).takeWhile (· ≠ '\n') = chars.reverse ++ [] :=
    List.takeWhile_append_of_pos hline
  rw [List.append_nil] at hall
  rw [lastLineStart, hall, List.length_reverse, Nat.sub_self]

/-- The place just after these characters, by counting: the line moves on by the number of line
ends, and the column counts from the last of them, or from the place if there is none. -/
def Position.counted (place : Position) (chars : List Char) : Position :=
  if chars.count '\n' = 0 then
    ⟨place.offset + chars.length, place.line, place.column + chars.length⟩
  else
    ⟨place.offset + chars.length, place.line + chars.count '\n',
      chars.length - Text.lastLineStart chars⟩

/-- Moving over characters one by one leads where counting them leads. -/
theorem Position.advanceChars_eq_counted (place : Position) (chars : List Char) :
    place.advanceChars chars = place.counted chars := by
  have hbehind : place.behind (start.advanceChars chars) =
      (place.behind start).advanceChars chars := behind_advanceChars (Int.le_refl 0) chars
  rw [behind_start, Text.advanceChars_start] at hbehind
  rw [← hbehind, behind, counted]
  by_cases hlines : chars.count '\n' = 0
  · simp [hlines, Text.lastLineStart_eq_zero hlines]
  · simp [hlines]

/-- Only offsets inside the text have a position. -/
theorem Source.position?_inside {source : Source} {offset : Int} {position : Position}
    (h : source.position? offset = some position) :
    0 ≤ offset ∧ offset ≤ source.chars.length := by
  simp only [position?] at h
  split at h
  · assumption
  · cases h

/-- The token lies in the text, at its own position. -/
structure Source.Holds {κ : Type} (source : Source) (token : Token κ) : Prop where
  placed : source.position? token.position.offset = some token.position
  spelled : source.covered token = token.text

namespace Source.Holds

variable {κ : Type} {source : Source} {token : Token κ}

/-- A token that lies in a text is a slice of it, between two offsets inside. -/
theorem slice (h : source.Holds token) : ∃ start stop : Nat,
    token.position.offset = start ∧ token.stop = stop ∧ start ≤ stop ∧
      stop ≤ source.chars.length ∧ token.text.toList = Text.slice source.chars start stop := by
  obtain ⟨start, hstart⟩ : ∃ start : Nat, token.position.offset = start ∧
      start ≤ source.chars.length := by
    have hinside := position?_inside h.placed
    exact ⟨token.position.offset.toNat, by omega, by omega⟩
  have hstop : token.stop = (start + token.text.length : Nat) := by
    rw [Token.stop, hstart.1]
    rfl
  have hbound (offset : Nat) : Text.bound source.chars.length offset =
      min offset source.chars.length := by
    rw [Text.bound, if_neg (by omega), Int.toNat_natCast]
  have htext := congrArg String.toList h.spelled
  simp only [covered, String.toList_ofList, hstart.1, hstop, hbound,
    Nat.min_eq_left hstart.2] at htext
  -- A slice that the end of the text had cut short would not be the token.
  have hlength := congrArg List.length htext
  simp only [Text.slice, List.length_drop, List.length_take, String.length_toList] at hlength
  have hinside : start + token.text.length ≤ source.chars.length := by omega
  rw [Nat.min_eq_left hinside] at htext
  exact ⟨start, _, hstart.1, hstop, Nat.le_add_right .., hinside, htext.symm⟩

/-- Where the token stops, the source finds the position just after it. -/
theorem position?_stop (h : source.Holds token) :
    source.position? token.stop = some token.stopPosition := by
  obtain ⟨start, stop, hstart, hstop, hle, hinside, htext⟩ := h.slice
  have hplaced := h.placed
  rw [hstart] at hplaced
  rw [hstop, position?_advance hplaced hle hinside, ← htext]
  rfl

end Source.Holds

/-- Moving over a text is counting in it, moving over two texts in turn is moving over both, and it
leads from the position of an offset to that of a later one. So it leads from a token that lies in a
text to the position at which the token stops, and there a following token starts. -/
theorem Position.advance_agrees :
    (∀ (place : Position) (text : String), place.advance text = place.counted text.toList) ∧
      (∀ (place : Position) (first second : String),
        place.advance (first ++ second) = (place.advance first).advance second) ∧
      (∀ (source : Source) (start stop : Nat), start ≤ stop → stop ≤ source.chars.length →
        ∃ place, source.position? start = some place ∧
          source.position? stop =
            some (place.advance (String.ofList (Text.slice source.chars start stop)))) ∧
      ∀ (κ : Type) (source : Source) (token : Token κ), source.Holds token →
        source.position? token.stop = some token.stopPosition ∧
          ∀ kind text, source.position? token.stop = some (token.following kind text).position := by
  refine ⟨fun place text => place.advanceChars_eq_counted _, fun place first second => ?_,
    fun source start stop hle hstop => ?_,
    fun κ source token h => ⟨h.position?_stop, fun _ _ => h.position?_stop⟩⟩
  · rw [advance, String.toList_append, advanceChars_append]
    rfl
  · have hstart := source.position?_eq (Nat.le_trans hle hstop)
    refine ⟨_, hstart, ?_⟩
    rw [source.position?_advance hstart hle hstop, advance, String.toList_ofList]

/-- A token with a line end in it stops on the next line, where a source finds it. -/
theorem Position.advance_agrees_lines :
    (∃ place, Source.position? ⟨"", "ab\ncd", true⟩ (1 : Nat) = some place ∧
      Source.position? ⟨"", "ab\ncd", true⟩ (4 : Nat) =
        some (place.advance (String.ofList (Text.slice (Source.chars ⟨"", "ab\ncd", true⟩) 1 4)))) ∧
      Source.Holds ⟨"", "ab\ncd", true⟩ (⟨⟨1, 0, 1⟩, 'x', "b\nc"⟩ : Token Char) ∧
      Source.position? ⟨"", "ab\ncd", true⟩ (Token.stop (⟨⟨1, 0, 1⟩, 'x', "b\nc"⟩ : Token Char)) =
        some (Token.stopPosition (⟨⟨1, 0, 1⟩, 'x', "b\nc"⟩ : Token Char)) := by
  have hholds : Source.Holds ⟨"", "ab\ncd", true⟩ (⟨⟨1, 0, 1⟩, 'x', "b\nc"⟩ : Token Char) :=
    ⟨by decide +kernel, by decide +kernel⟩
  obtain ⟨-, -, hbetween, htoken⟩ := advance_agrees
  exact ⟨hbetween ⟨"", "ab\ncd", true⟩ 1 4 (by decide) (by decide +kernel), hholds,
    (htoken Char _ _ hholds).1⟩

end Parlance
