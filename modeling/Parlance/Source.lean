import Parlance.ParseError

/-!
# Source texts and diagnostics

A source is a named text. It finds lines and positions by counting in the whole text, and shows a
span of the text as a diagnostic: a header with name, line and columns, the line itself, and a row
of marks below the span.

Offsets given from outside may be any integers. As a bound of a slice or of a search, a negative
offset counts from the end of the text, and one that lies outside the text is moved to its nearest
end.
-/

namespace Parlance

/-- A named text. `markMissingNewline` says whether a diagnostic marks a last line that no line end
closes. -/
structure Source where
  name : String
  text : String
  markMissingNewline : Bool := true
  deriving DecidableEq, Repr

/-- A span that starts before the text or stops before it starts. -/
structure SpanError where
  start : Int
  stop : Int
  deriving DecidableEq, Repr

/-- The bounds of the refused span. -/
def SpanError.message (error : SpanError) : String := s!"({error.start}, {error.stop})"

namespace Text

/-- The bound that an offset stands for in a text of this many characters. -/
def bound (length : Nat) (offset : Int) : Nat :=
  if offset < 0 then (offset + length).toNat else min offset.toNat length

/-- The characters from one offset up to another. -/
def slice (chars : List Char) (start stop : Nat) : List Char := (chars.take stop).drop start

/-- The offset just after the last line end, or zero if there is none. -/
def lastLineStart (chars : List Char) : Nat :=
  chars.length - (chars.reverse.takeWhile (· ≠ '\n')).length

/-- The number of characters up to and with the first line end, or all of them if there is none. -/
def firstLineLength (chars : List Char) : Nat :=
  let body := chars.takeWhile (· ≠ '\n')
  if body.length < chars.length then body.length + 1 else body.length

end Text

namespace Source

/-- The characters of the text. -/
def chars (source : Source) : List Char := source.text.toList

/-- A short form of the source: its name and the length of its text. -/
def literal (source : Source) : String :=
  s!"Source({Text.quote source.name}, text=<str[{source.text.length}]>)"

/-- The text that a token covers. -/
def covered {κ : Type} (source : Source) (token : Token κ) : String :=
  let chars := source.chars
  String.ofList <| Text.slice chars (Text.bound chars.length token.position.offset)
    (Text.bound chars.length token.stop)

/-- Where the line that holds this offset starts. The end of a text that closes its last line still
belongs to that line. -/
def lineStart (source : Source) (offset : Int) : Nat :=
  let chars := source.chars
  let closing := offset = chars.length ∧ chars.getLast? = some '\n'
  let offset := if closing then offset - 1 else offset
  Text.lastLineStart (chars.take (Text.bound chars.length offset))

/-- Where the line that holds this offset stops; its line end belongs to it. -/
def lineStop (source : Source) (offset : Int) : Nat :=
  let chars := source.chars
  let first := Text.bound chars.length offset
  first + Text.firstLineLength (chars.drop first)

/-- The position of an offset, or nothing if it lies outside the text. -/
def position? (source : Source) (offset : Int) : Option Position :=
  let chars := source.chars
  if 0 ≤ offset ∧ offset ≤ chars.length then
    let before := chars.take offset.toNat
    some ⟨offset, before.count '\n', offset - Text.lastLineStart before⟩
  else none

/-! ## Diagnostics -/

/-- The mark for a line end that a span touches. -/
def newlineMark : Char := '\u23CE'

/-- The mark below a line end that is missing. -/
def missingMark : Char := '\u0353'

/-- The line as it is shown: its line end only if `touched`, and a mark for a missing one if that is
wanted. -/
def shownLine (line : List Char) (touched markMissing : Bool) : List Char :=
  if line.getLast? = some '\n' then
    line.dropLast ++ if touched then [newlineMark] else []
  else line ++ if markMissing then [newlineMark, missingMark] else []

/-- The row below the line: blank up to the span, tabs kept, then a caret for an empty span or a
tilde for each character of it. -/
def underline (before : List Char) (width : Nat) : List Char :=
  before.map (fun c => if c = '\t' then '\t' else ' ') ++
    if width = 0 then ['^'] else List.replicate width '~'

/-- The columns of a span, from one: a single one if the span is empty. -/
def columns (column width : Nat) : String :=
  if width = 0 then toString (column + 1) else s!"{column + 1}-{column + width + 1}"

/-- The diagnostic of a span that starts inside or after the text and stops at or after its start.
Only the first line of the span is shown. -/
def renderSpan (source : Source) (start stop : Nat) (message label : String) : String :=
  let chars := source.chars
  let lineStart := source.lineStart start
  let lineStop := source.lineStop start
  let stop := min stop lineStop
  let line := Text.slice chars lineStart lineStop
  let number := (chars.take lineStart).count '\n' + 1
  let touched := start + 1 == lineStart + line.length || stop == lineStop
  let shown := shownLine line touched source.markMissingNewline
  let bar := if shown.isEmpty then "|" else "| "
  let row := underline (line.take (start - lineStart)) (stop - start)
  let label := if label.isEmpty then "" else label ++ ": "
  let name := if source.name.isEmpty then "" else source.name ++ ":"
  let gap := if message.isEmpty || message.startsWith "\n" then "" else " "
  s!"{label}{name}{number}:{columns (start - lineStart) (stop - start)}:{gap}{message}\n" ++
    s!"{bar}{String.ofList shown}\n  {String.ofList row}\n"

/-- The diagnostic of a span; without `stop` the span is empty. -/
def diagnostic (source : Source) (start : Int) (stop : Option Int := none)
    (message : String := "") (label : String := "") : Except SpanError String :=
  let stop := stop.getD start
  if 0 ≤ start ∧ start ≤ stop then
    .ok (source.renderSpan start.toNat stop.toNat message label)
  else .error ⟨start, stop⟩

/-- The diagnostic of the span that a token covers. -/
def diagnosticOfToken {κ : Type} (source : Source) (token : Token κ) (message : String := "")
    (label : String := "") : Except SpanError String :=
  source.diagnostic token.position.offset (some token.stop) message label

/-- The diagnostic of a parse error. -/
def diagnosticOfError (source : Source) (error : ParseError) : Except SpanError String :=
  let start := error.position.offset
  source.diagnostic start (some (start + error.text.length)) error.headline

end Source

end Parlance
