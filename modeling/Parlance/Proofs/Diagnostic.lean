import Parlance.Proofs.Position

/-!
# Diagnostics point at the right place

A diagnostic of a source is three lines: a header, the line of the text that holds the start of the
span, and a row of marks below it. `Line.Holds` says which line that is, without the searches that a
source finds it by; there is one for every offset, the end of the text included.
`Source.diagnostic_pointsAt` is the main statement: the header places the start on that line, the
line is shown and no other, and the marks stand below the characters of the span that are on it.
-/

namespace Parlance

namespace Text

/-- What comes before the first line end of a text has none, and what follows is that line end and
more, or nothing. -/
theorem exists_firstLine (chars : List Char) :
    ∃ ending after, chars = chars.takeWhile (· ≠ '\n') ++ ending ++ after ∧
      '\n' ∉ chars.takeWhile (· ≠ '\n') ∧ (ending = ['\n'] ∨ ending = [] ∧ after = []) := by
  induction chars with
  | nil => exact ⟨[], [], rfl, by simp, .inr ⟨rfl, rfl⟩⟩
  | cons c rest ih =>
      by_cases hend : c = '\n'
      · exact ⟨['\n'], rest, by simp [hend], by simp [hend], .inl rfl⟩
      · obtain ⟨ending, after, hsplit, hnone, hclosed⟩ := ih
        rw [List.takeWhile_cons_of_pos (by simpa using hend)]
        refine ⟨ending, after, ?_, ?_, hclosed⟩
        · rw [List.cons_append, List.cons_append, ← hsplit]
        · rw [List.mem_cons, not_or]
          exact ⟨Ne.symm hend, hnone⟩

/-- The first line of a text, with its line end if it has one. -/
theorem exists_firstLine_length (chars : List Char) :
    ∃ body ending after, chars = body ++ ending ++ after ∧ '\n' ∉ body ∧
      (ending = ['\n'] ∨ ending = [] ∧ after = []) ∧
      firstLineLength chars = (body ++ ending).length := by
  obtain ⟨ending, after, hsplit, hnone, hclosed⟩ := exists_firstLine chars
  refine ⟨_, ending, after, hsplit, hnone, hclosed, ?_⟩
  have hlength := congrArg List.length hsplit
  simp only [List.length_append] at hlength
  unfold firstLineLength
  rcases hclosed with rfl | ⟨rfl, rfl⟩
  · simp only [List.length_singleton] at hlength
    rw [if_pos (by omega), List.length_append, List.length_singleton]
  · simp only [List.length_nil] at hlength
    rw [if_neg (by omega), List.append_nil]

/-- The last line of a text starts at its beginning or after a line end, and has none itself. -/
theorem exists_lastLine (chars : List Char) :
    ∃ before line, chars = before ++ line ∧ '\n' ∉ line ∧
      (before = [] ∨ before.getLast? = some '\n') ∧ lastLineStart chars = before.length := by
  obtain ⟨ending, after, hsplit, hnone, hclosed⟩ := exists_firstLine chars.reverse
  refine ⟨after.reverse ++ ending.reverse, (chars.reverse.takeWhile (· ≠ '\n')).reverse,
    ?_, by simpa using hnone, ?_, ?_⟩
  · have h := congrArg List.reverse hsplit
    simpa using h
  · rcases hclosed with rfl | ⟨rfl, rfl⟩ <;> simp
  · have hlength := congrArg List.length hsplit
    simp only [List.length_append, List.length_reverse] at hlength
    rw [lastLineStart, List.length_append, List.length_reverse, List.length_reverse]
    omega

/-- A text has one first line. -/
theorem firstLine_eq {first second firstEnd secondEnd firstAfter secondAfter : List Char}
    (h : first ++ firstEnd ++ firstAfter = second ++ secondEnd ++ secondAfter)
    (hfirst : '\n' ∉ first) (hsecond : '\n' ∉ second)
    (hfirstEnd : firstEnd = ['\n'] ∨ firstEnd = [] ∧ firstAfter = [])
    (hsecondEnd : secondEnd = ['\n'] ∨ secondEnd = [] ∧ secondAfter = []) :
    first = second ∧ firstEnd = secondEnd ∧ firstAfter = secondAfter := by
  induction first generalizing second with
  | nil =>
      cases second with
      | nil =>
          rcases hfirstEnd with rfl | ⟨rfl, rfl⟩ <;> rcases hsecondEnd with rfl | ⟨rfl, rfl⟩ <;>
            simp_all
      | cons c rest => rcases hfirstEnd with rfl | ⟨rfl, rfl⟩ <;> simp_all
  | cons c rest ih =>
      cases second with
      | nil => rcases hsecondEnd with rfl | ⟨rfl, rfl⟩ <;> simp_all
      | cons d others =>
          rw [List.mem_cons, not_or] at hfirst hsecond
          injection h with hchar hrest
          obtain ⟨hline, hends⟩ := ih hrest hfirst.2 hsecond.2
          exact ⟨by rw [hchar, hline], hends⟩

end Text

/-! ## Lines -/

/-- A line of a text, with what comes before it and after it: its characters, and its line end if it
has one. -/
structure Line where
  before : List Char
  body : List Char
  ending : List Char
  after : List Char

namespace Line

/-- The characters of the line, with its line end. -/
def chars (line : Line) : List Char := line.body ++ line.ending

/-- The offset of its first character. -/
def start (line : Line) : Nat := line.before.length

/-- The offset behind its last character. -/
def stop (line : Line) : Nat := line.start + line.chars.length

/-- The place of an offset on the line. -/
def place (line : Line) (offset : Nat) : Position :=
  ⟨offset, line.before.count '\n', offset - line.start⟩

/-- This is the line of the text that holds the offset. A line end belongs to the line that it
closes, and the end of the text to the last line, which is empty only if the text is. -/
structure Holds (line : Line) (text : List Char) (offset : Nat) : Prop where
  split : text = line.before ++ line.chars ++ line.after
  opened : line.before = [] ∨ line.before.getLast? = some '\n'
  single : '\n' ∉ line.body
  closed : line.ending = ['\n'] ∨ line.ending = [] ∧ line.after = []
  nonempty : line.chars = [] → text = []
  start_le : line.start ≤ offset
  lt_stop : offset < line.stop ∨ offset = text.length ∧ line.after = []

namespace Holds

variable {line other : Line} {text : List Char} {offset : Nat}

/-- The line is inside the text. -/
theorem stop_le (h : line.Holds text offset) : line.stop ≤ text.length := by
  rw [h.split]
  simp [Line.stop, Line.start]

/-- The offset is not behind the line. -/
theorem le_stop (h : line.Holds text offset) : offset ≤ line.stop := by
  rcases h.lt_stop with hlt | ⟨rfl, hafter⟩
  · exact Nat.le_of_lt hlt
  · rw [h.split, hafter]
    simp [Line.stop, Line.start]

/-- A line that does not begin the text comes after a line end. -/
theorem before_end (h : line.Holds text offset) (hstart : 0 < line.start) :
    text[line.start - 1]? = some '\n' := by
  rcases h.opened with hnil | hlast
  · simp [Line.start, hnil] at hstart
  · have hinside : line.before.length - 1 < line.before.length := Nat.sub_lt hstart Nat.one_pos
    rw [h.split, List.append_assoc, Line.start, List.getElem?_append_left hinside,
      ← List.getLast?_eq_getElem?, hlast]

/-- No line end stands inside the line. -/
theorem no_end (h : line.Holds text offset) {index : Nat} (hstart : line.start ≤ index)
    (hstop : index + 1 < line.stop) : text[index]? ≠ some '\n' := by
  intro hget
  have hending : line.ending.length ≤ 1 := by
    rcases h.closed with hending | ⟨hending, -⟩ <;> simp [hending]
  simp only [Line.stop, Line.start, Line.chars, List.length_append] at hstart hstop
  have hinside : text[index]? = line.body[index - line.before.length]? := by
    rw [h.split, Line.chars, List.append_assoc, List.append_assoc,
      List.getElem?_append_right hstart, List.getElem?_append_left (by omega)]
  exact h.single (List.mem_of_getElem? (hinside ▸ hget))

/-- No line that holds the offset starts before another one. -/
theorem start_le_start (h : line.Holds text offset) (hother : other.Holds text offset) :
    line.start ≤ other.start := by
  refine Nat.le_of_not_lt fun hlt => ?_
  have hstart := h.start_le
  have hend := h.before_end (by omega)
  refine hother.no_end (by omega : other.start ≤ line.start - 1) ?_ hend
  -- The other line goes on behind the start of this one, or this one would be empty.
  have hle := hother.le_stop
  rcases hother.lt_stop with hstop | ⟨hoffset, -⟩
  · omega
  · rcases Nat.lt_or_eq_of_le h.start_le with hlater | hsame
    · omega
    · have hempty : line.chars = [] := by
        have hstop := h.stop_le
        rw [Line.stop] at hstop
        exact List.eq_nil_of_length_eq_zero (by omega)
      have htext := congrArg List.length (h.nonempty hempty)
      simp only [List.length_nil] at htext
      omega

/-- The line is determined by the offset. -/
theorem eq (h : line.Holds text offset) (hother : other.Holds text offset) : other = line := by
  have hstart : other.before.length = line.before.length :=
    Nat.le_antisymm (hother.start_le_start h) (h.start_le_start hother)
  have hsplit := hother.split.symm.trans h.split
  rw [List.append_assoc, List.append_assoc] at hsplit
  obtain ⟨hbefore, hrest⟩ := List.append_inj hsplit hstart
  obtain ⟨hbody, hending, hafter⟩ :=
    Text.firstLine_eq hrest hother.single h.single hother.closed h.closed
  cases line
  cases other
  cases hbefore
  cases hbody
  cases hending
  cases hafter
  rfl

/-- The characters of the line are those of the text between its ends. -/
theorem slice_eq (h : line.Holds text offset) :
    Text.slice text line.start line.stop = line.chars := by
  rw [h.split, Text.slice, List.take_append_of_le_length (by simp [Line.stop, Line.start]),
    List.take_of_length_le (by simp [Line.stop, Line.start]), Line.start, List.drop_left]

/-- The characters of the line before an offset are those of the text. -/
theorem take_eq (h : line.Holds text offset) :
    line.chars.take (offset - line.start) = Text.slice text line.start offset := by
  have hstart := h.start_le
  have hstop := h.le_stop
  rw [← h.slice_eq, Text.slice, Text.slice, List.take_drop, List.take_take]
  congr 2
  omega

/-- A line ends with a line end only if it is closed. -/
theorem getLast?_eq_iff (h : line.Holds text offset) :
    line.chars.getLast? = some '\n' ↔ line.ending = ['\n'] := by
  rcases h.closed with hending | ⟨hending, -⟩
  · simp [Line.chars, hending]
  · simp only [Line.chars, hending, List.append_nil, reduceCtorEq, iff_false]
    exact fun hlast => h.single (List.mem_of_getLast? hlast)

end Holds

end Line

namespace Source

variable {source : Source} {offset start stop : Nat} {line : Line}

/-- The end of a text whose last line is closed: the offset lies behind all lines. -/
def ClosedAt (source : Source) (offset : Nat) : Prop :=
  offset = source.chars.length ∧ source.chars.getLast? = some '\n'

/-- The source finds the line that holds an offset: where it starts and stops, and the position of
the offset, which behind all lines is taken to be on the last one. -/
structure Finds (source : Source) (offset : Nat) (line : Line) : Prop where
  holds : line.Holds source.chars offset
  lineStart_eq : source.lineStart offset = line.start
  lineStop_eq : source.lineStop offset = line.stop
  position_eq : ¬ source.ClosedAt offset → source.position? offset = some (line.place offset)
  closed_eq : source.ClosedAt offset →
    source.chars.count '\n' = line.before.count '\n' + 1 ∧ offset = line.stop

/-- An offset inside the text bounds what it says. -/
theorem bound_natCast {length : Nat} (h : offset ≤ length) : Text.bound length offset = offset := by
  rw [Text.bound, if_neg (by omega), Int.toNat_natCast, Nat.min_eq_left h]

/-- The line that holds an offset starts behind the last line end before it. -/
theorem lineStart_natCast (h : offset ≤ source.chars.length) (hclosed : ¬ source.ClosedAt offset) :
    source.lineStart offset = Text.lastLineStart (source.chars.take offset) := by
  have hclosing : ¬ ((offset : Int) = source.chars.length ∧
      source.chars.getLast? = some '\n') := fun hboth =>
    hclosed ⟨Int.ofNat_inj.1 hboth.1, hboth.2⟩
  simp only [lineStart, if_neg hclosing, bound_natCast h]

/-- Behind a last line end, it is the line that this closes. -/
theorem lineStart_closed {front : List Char} (h : source.chars = front ++ ['\n']) :
    source.lineStart source.chars.length = Text.lastLineStart front := by
  have hlast : source.chars.getLast? = some '\n' := by rw [h, List.getLast?_concat]
  have hlength : (source.chars.length : Int) - 1 = front.length := by
    rw [h, List.length_append, List.length_singleton]
    omega
  have hfront : front.length ≤ source.chars.length := by simp [h]
  simp only [lineStart, hlast, and_self, if_true, hlength, bound_natCast hfront]
  rw [h, List.take_left]

/-- The line that holds an offset stops behind the next line end. -/
theorem lineStop_natCast (h : offset ≤ source.chars.length) :
    source.lineStop offset = offset + Text.firstLineLength (source.chars.drop offset) := by
  simp only [lineStop, bound_natCast h]

/-- The end of a text whose last line is closed is held by that line. -/
theorem exists_line_closed (h : source.ClosedAt offset) :
    ∃ line, source.Finds offset line := by
  obtain ⟨rfl, hlast⟩ := h
  obtain ⟨front, hfront⟩ := List.getLast?_eq_some_iff.1 hlast
  obtain ⟨before, body, rfl, hbody, hopened, hstart⟩ := Text.exists_lastLine front
  have hlength : source.chars.length = before.length + (body ++ ['\n']).length := by
    simp [hfront]
  refine ⟨⟨before, body, ['\n'], []⟩, ⟨?_, hopened, hbody, .inl rfl, by simp [Line.chars], ?_,
    .inr ⟨rfl, rfl⟩⟩, ?_, ?_, fun hopen => (hopen ⟨rfl, hlast⟩).elim, fun _ => ⟨?_, hlength⟩⟩
  · simp [hfront, Line.chars]
  · simp only [Line.start, hlength]
    omega
  · rw [lineStart_closed hfront, hstart, Line.start]
  · rw [lineStop_natCast (Nat.le_refl _), List.drop_length]
    exact hlength
  · simp [hfront, List.count_eq_zero_of_not_mem hbody]

/-- Every other offset of a text is held by the line that goes on there. -/
theorem exists_line_inside (h : offset ≤ source.chars.length) (hclosed : ¬ source.ClosedAt offset) :
    ∃ line, source.Finds offset line := by
  obtain ⟨before, early, hbefore, hearly, hopened, hstart⟩ :=
    Text.exists_lastLine (source.chars.take offset)
  obtain ⟨late, ending, after, hafter, hlate, hending, hstop⟩ :=
    Text.exists_firstLine_length (source.chars.drop offset)
  have hoffset : offset = before.length + early.length := by
    rw [← List.length_append, ← hbefore, List.length_take, Nat.min_eq_left h]
  have hsplit : source.chars = before ++ (early ++ late ++ ending) ++ after := by
    rw [← List.take_append_drop offset source.chars, hbefore, hafter]
    simp
  have hrest : source.chars.length - offset = (late ++ ending ++ after).length := by
    rw [← hafter, List.length_drop]
  refine ⟨⟨before, early ++ late, ending, after⟩, ⟨hsplit, hopened, by simp [hearly, hlate],
    hending, ?_, ?_, ?_⟩, ?_, ?_, fun _ => ?_, fun h => (hclosed h).elim⟩
  · intro hempty
    simp only [Line.chars, List.append_eq_nil_iff] at hempty
    obtain ⟨⟨rfl, rfl⟩, rfl⟩ := hempty
    obtain hending | ⟨-, rfl⟩ := hending
    · cases hending
    · have hchars : source.chars = before := by simpa using hsplit
      rcases hopened with rfl | hlast
      · exact hchars
      · exact (hclosed ⟨by simpa [hchars] using hoffset, by rw [hchars, hlast]⟩).elim
  · simp only [Line.start]
    omega
  · simp only [List.length_append] at hrest
    rcases hending with rfl | ⟨rfl, rfl⟩
    · refine .inl ?_
      simp only [Line.stop, Line.start, Line.chars, List.length_append, List.length_singleton]
      omega
    · rcases Nat.lt_or_eq_of_le h with hlt | hend
      · refine .inl ?_
        simp only [List.length_nil] at hrest
        simp only [Line.stop, Line.start, Line.chars, List.length_append, List.length_nil]
        omega
      · exact .inr ⟨hend, rfl⟩
  · rw [lineStart_natCast h hclosed, hstart, Line.start]
  · rw [lineStop_natCast h, hstop]
    simp only [Line.stop, Line.start, Line.chars, List.length_append]
    omega
  · have hcount : (source.chars.take offset).count '\n' = before.count '\n' := by
      rw [hbefore, List.count_append, List.count_eq_zero_of_not_mem hearly, Nat.add_zero]
    have hinside : (0 : Int) ≤ offset ∧ (offset : Int) ≤ source.chars.length := by omega
    simp only [position?, if_pos hinside, Int.toNat_natCast, hcount, hstart]
    rfl

/-- Every offset of a text is held by a line, and the source finds where that starts and stops. -/
theorem exists_line (h : offset ≤ source.chars.length) :
    ∃ line, source.Finds offset line := by
  by_cases hclosed : source.ClosedAt offset
  · exact exists_line_closed hclosed
  · exact exists_line_inside h hclosed

end Source

/-! ## The three lines -/

/-- The text is on one line. -/
def OneLine (text : String) : Prop := '\n' ∉ text.toList

instance (text : String) : Decidable (OneLine text) :=
  inferInstanceAs (Decidable (¬ _))

namespace OneLine

variable {first second : String}

/-- Two texts on one line stay on it together. -/
theorem append (hfirst : OneLine first) (hsecond : OneLine second) : OneLine (first ++ second) := by
  rw [OneLine, String.toList_append, List.mem_append, not_or]
  exact ⟨hfirst, hsecond⟩

/-- Of two texts on one line, whichever is taken is on one. -/
theorem ite {condition : Prop} [Decidable condition] (hfirst : OneLine first)
    (hsecond : OneLine second) : OneLine (if condition then first else second) := by
  split
  · exact hfirst
  · exact hsecond

/-- A number is written on one line. -/
theorem toString_int (value : Int) : OneLine (toString value) := by
  have hrepr (count : Nat) : OneLine count.repr := by
    rw [OneLine, Nat.toList_repr]
    intro hmem
    have hdigit := Nat.isDigit_of_mem_toDigits (by decide) (by decide) hmem
    exact absurd hdigit (by decide)
  rw [Int.toString_eq_repr, Int.repr_eq_if]
  exact .ite (hrepr _) (.append (by decide) (hrepr _))

end OneLine

namespace Source

/-- A text in front of another one, with a mark between the two, or nothing if there is none. -/
def lead (text mark : String) : String := if text = "" then "" else text ++ mark

/-- The characters of a span that stand on a line. -/
def spanned (source : Source) (line : Line) (start stop : Nat) : List Char :=
  Text.slice source.chars start (min stop line.stop)

/-- A header that places so many characters: label and name, the line and the columns from one, and
the message. -/
def heading (source : Source) (place : Position) (width : Nat) (message label : String) : String :=
  lead label ": " ++ lead source.name ":" ++ place.describe ++
    (if width = 0 then "" else s!"-{place.column + width + 1}") ++ ":" ++
    if message = "" then "" else " " ++ message

/-- A line of a text as it is shown: behind a bar, and with a mark for its line end. -/
def shownRow (line : Line) (mark : List Char) : String :=
  (if line.body ++ mark = [] then "|" else "| ") ++ String.ofList (line.body ++ mark)

/-- The row below: blank under the characters before a span, but for their tabs, and then a mark
under each character of the span, or a single one if it has none. -/
def markRow (before span : List Char) : String :=
  "  " ++ String.ofList (before.map (fun c => if c = '\t' then '\t' else ' ') ++
    if span = [] then ['^'] else span.map fun _ => '~')

/-- Three lines of a diagnostic that point at the span from `start` to `stop`: the line of the text
that holds the start is shown, below a header that says where the start is, and above a row that
marks the characters of the span that stand on this line. -/
structure PointsAt (source : Source) (start stop : Nat) (message label header shown row : String)
    (line : Line) (place : Position) : Prop where
  holds : line.Holds source.chars start
  only : ∀ other : Line, other.Holds source.chars start → other = line
  inside : ¬ source.ClosedAt start → source.position? start = some place
  behind : source.ClosedAt start →
    place.line + 1 = source.chars.count '\n' ∧ place.column + 1 = line.chars.length + 1
  header_eq : header = source.heading place (source.spanned line start stop).length message label
  shown_eq : ∃ mark, mark <+: [newlineMark, missingMark] ∧ shown = shownRow line mark
  row_eq : row =
    markRow (Text.slice source.chars line.start start) (source.spanned line start stop)
  oneLine : ∀ text ∈ [header, shown, row], OneLine text

variable {source : Source} {start stop : Nat} {line : Line} {message label : String}

/-- What is shown of a line is its characters, and at most a mark for its line end. -/
theorem shownLine_eq (h : line.Holds source.chars start) (touched markMissing : Bool) :
    ∃ mark, mark <+: [newlineMark, missingMark] ∧
      shownLine line.chars touched markMissing = line.body ++ mark := by
  unfold shownLine
  by_cases hclosed : line.ending = ['\n']
  · rw [if_pos (h.getLast?_eq_iff.2 hclosed), Line.chars, hclosed, List.dropLast_concat]
    cases touched with
    | true => exact ⟨_, ⟨[missingMark], rfl⟩, rfl⟩
    | false => exact ⟨_, List.nil_prefix, rfl⟩
  · have hending : line.ending = [] := (h.closed.resolve_left hclosed).1
    rw [if_neg (mt h.getLast?_eq_iff.1 hclosed), Line.chars, hending, List.append_nil]
    cases markMissing with
    | true => exact ⟨_, List.prefix_rfl, rfl⟩
    | false => exact ⟨_, List.nil_prefix, rfl⟩

/-- As many characters of a span stand on a line as there are up to where both end. -/
theorem length_spanned (h : line.Holds source.chars start) :
    (source.spanned line start stop).length = min stop line.stop - start := by
  have hstop := h.stop_le
  rw [spanned, Text.slice, List.length_drop, List.length_take]
  omega

/-- The columns of a span are the one of its start, and the one behind it if it is not empty. -/
theorem columns_eq (column width : Nat) :
    columns column width =
      toString ((column : Int) + 1) ++
        if width = 0 then "" else s!"-{(column : Int) + width + 1}" := by
  unfold columns
  by_cases hwidth : width = 0
  · rw [if_pos hwidth, if_pos hwidth, String.append_empty]
    rfl
  · rw [if_neg hwidth, if_neg hwidth, String.append_assoc]
    rfl

/-- The row below a line marks the characters of the span. -/
theorem underline_eq (before span : List Char) :
    "  " ++ String.ofList (underline before span.length) = markRow before span := by
  simp only [underline, markRow, List.map_const', List.length_eq_zero_iff]

/-- A diagnostic is put together from a header, the line that is shown and the row below it. -/
theorem renderSpan_eq (h : source.Finds start line) (hmessage : OneLine message) (stop : Nat)
    (label : String) :
    ∃ mark, mark <+: [newlineMark, missingMark] ∧
      source.renderSpan start stop message label =
        source.heading (line.place start) (source.spanned line start stop).length message label ++
          "\n" ++ shownRow line mark ++ "\n" ++
          markRow (Text.slice source.chars line.start start) (source.spanned line start stop) ++
          "\n" := by
  have hstart : message.startsWith "\n" = false := by
    rw [String.startsWith_string_eq_false_iff]
    exact fun hbegins => hmessage (hbegins.subset (List.mem_singleton.2 rfl))
  have hcolumn : (line.place start).column = ((start - line.start : Nat) : Int) := by
    have hle := h.holds.start_le
    simp only [Line.place]
    omega
  have hbefore : source.chars.take line.start = line.before := by
    rw [h.holds.split, List.append_assoc, Line.start, List.take_left]
  have hline : toString ((line.place start).line + 1) =
      toString (line.before.count '\n' + 1) := rfl
  have hgap : (if message = "" then "" else " " ++ message) =
      (if message = "" then "" else " ") ++ message := by
    split <;> simp_all
  have hself (text : String) : toString text = text := rfl
  have hblank : "\n  " = "\n" ++ "  " := rfl
  obtain ⟨mark, hmark, hshown⟩ := shownLine_eq h.holds
    (start + 1 == line.start + line.chars.length || min stop line.stop == line.stop)
    source.markMissingNewline
  refine ⟨mark, hmark, ?_⟩
  rw [← underline_eq]
  simp only [renderSpan, h.lineStart_eq, h.lineStop_eq, h.holds.slice_eq, h.holds.take_eq, hbefore,
    columns_eq, length_spanned h.holds, hstart, Bool.or_false, heading, Position.describe, hcolumn,
    lead, String.isEmpty_iff, hself, hline, hgap, hblank, String.append_assoc, hshown, shownRow,
    List.isEmpty_iff]

/-- A text that is led by others is on one line if they are. -/
theorem lead_oneLine {text mark : String} (htext : OneLine text) (hmark : OneLine mark) :
    OneLine (lead text mark) :=
  .ite (by decide) (htext.append hmark)

/-- A header is on one line if the texts in it are. -/
theorem heading_oneLine (hname : OneLine source.name) (hmessage : OneLine message)
    (hlabel : OneLine label) (place : Position) (width : Nat) :
    OneLine (source.heading place width message label) := by
  have hplace : OneLine place.describe :=
    .append (.append (.toString_int _) (by decide)) (.toString_int _)
  have hcolumn : OneLine s!"-{place.column + width + 1}" :=
    .append (by decide) (.toString_int _)
  have hlead : OneLine (lead label ": " ++ lead source.name ":") :=
    .append (lead_oneLine hlabel (by decide)) (lead_oneLine hname (by decide))
  exact .append (.append (.append (.append hlead hplace) (.ite (by decide) hcolumn)) (by decide))
    (.ite (by decide) (.append (by decide) hmessage))

/-- What is shown of a line is on one line. -/
theorem shownRow_oneLine (hbody : '\n' ∉ line.body) {mark : List Char}
    (hmark : mark <+: [newlineMark, missingMark]) : OneLine (shownRow line mark) := by
  refine .append (.ite (by decide) (by decide)) ?_
  rw [OneLine, String.toList_ofList, List.mem_append, not_or]
  exact ⟨hbody, fun hmem => absurd (hmark.subset hmem) (by decide)⟩

/-- The row below it is on one line. -/
theorem markRow_oneLine (before span : List Char) : OneLine (markRow before span) := by
  refine .append (by decide) ?_
  rw [OneLine, String.toList_ofList, List.mem_append, not_or]
  constructor
  · rw [List.mem_map]
    rintro ⟨c, -, hc⟩
    split at hc <;> exact absurd hc (by decide)
  · split
    · decide
    · rw [List.mem_map]
      rintro ⟨c, -, hc⟩
      exact absurd hc (by decide)

/-- The diagnostic of a span that starts inside the text, or at its end, points at it. -/
theorem diagnostic_pointsAt (source : Source) (start : Nat) (stop : Option Int)
    (message label : String) (hstart : start ≤ source.chars.length)
    (hstop : ∀ offset ∈ stop, (start : Int) ≤ offset) (hname : OneLine source.name)
    (hmessage : OneLine message) (hlabel : OneLine label) :
    ∃ header shown row line place,
      source.diagnostic start stop message label =
        .ok (header ++ "\n" ++ shown ++ "\n" ++ row ++ "\n") ∧
      source.PointsAt start (stop.getD start).toNat message label header shown row line place := by
  obtain ⟨line, hline⟩ := source.exists_line hstart
  obtain ⟨mark, hmark, hrender⟩ := renderSpan_eq hline hmessage (stop.getD start).toNat label
  refine ⟨_, _, _, line, line.place start, ?_, hline.holds,
    fun _ => hline.holds.eq, hline.position_eq, ?_, rfl, ⟨mark, hmark, rfl⟩, rfl, ?_⟩
  · have hbounds : (0 : Int) ≤ start ∧ (start : Int) ≤ stop.getD start := by
      cases stop with
      | none => exact ⟨Int.natCast_nonneg _, Int.le_refl _⟩
      | some offset => exact ⟨Int.natCast_nonneg _, hstop offset rfl⟩
    rw [diagnostic, if_pos hbounds, Int.toNat_natCast, hrender]
  · intro hclosed
    obtain ⟨hcount, hend⟩ := hline.closed_eq hclosed
    rw [hcount, hend]
    simp only [Line.place, Line.stop]
    omega
  · simp only [List.mem_cons, List.not_mem_nil, or_false, forall_eq_or_imp, forall_eq]
    exact ⟨heading_oneLine hname hmessage hlabel _ _,
      shownRow_oneLine hline.holds.single hmark, markRow_oneLine _ _⟩

/-- A span that begins behind a tab and goes on over the end of its line. -/
theorem diagnostic_pointsAt_tab :
    let source : Source := { name := "sums", text := "1\n\tab\n2" }
    ∃ header shown row line place,
      source.PointsAt 3 7 "too long" "note" header shown row line place ∧
      header ++ "\n" ++ shown ++ "\n" ++ row ++ "\n" =
        "note: sums:2:2-5: too long\n| \tab⏎\n  \t~~~\n" := by
  intro source
  obtain ⟨header, shown, row, line, place, htext, hpoints⟩ :=
    source.diagnostic_pointsAt 3 (some 7) "too long" "note" (by decide) (by decide) (by decide)
      (by decide) (by decide)
  refine ⟨header, shown, row, line, place, hpoints, ?_⟩
  have hshown : (source.diagnostic 3 (some 7) "too long" "note").toOption =
      some "note: sums:2:2-5: too long\n| \tab⏎\n  \t~~~\n" := by decide +kernel
  have hsame := (congrArg Except.toOption htext).symm.trans hshown
  exact Option.some.inj hsame

end Source

end Parlance
