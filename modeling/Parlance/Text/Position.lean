/-!
# Positions in a text

A position counts the characters, the line ends and the characters since the last line end that
come before it. `Position.advance` moves a position over a text that starts there, one character at
a time, so that advancing over two texts in turn is advancing over their concatenation.
-/

namespace Parlance

/-- A place in a text: its offset, its line and its column, all counted from zero. A position may be
made by hand to point anywhere, so the counts are integers. -/
structure Position where
  offset : Int
  line : Int
  column : Int
  deriving DecidableEq, Repr, Inhabited

namespace Position

/-- The beginning of every text. -/
def start : Position := ⟨0, 0, 0⟩

/-- The place just after one character. -/
def step (place : Position) (c : Char) : Position :=
  if c = '\n' then ⟨place.offset + 1, place.line + 1, 0⟩
  else ⟨place.offset + 1, place.line, place.column + 1⟩

/-- The place just after the characters that start here. -/
def advanceChars (place : Position) (chars : List Char) : Position := chars.foldl step place

/-- The place just after a text that starts here. -/
def advance (place : Position) (text : String) : Position := place.advanceChars text.toList

/-- The position as readers count: line and column from one. -/
def describe (place : Position) : String := s!"{place.line + 1}:{place.column + 1}"

/-- The position with all its fields spelled out. -/
def literal (place : Position) : String :=
  s!"Position(pos={place.offset}, line={place.line}, col={place.column})"

@[simp] theorem advanceChars_nil (place : Position) : place.advanceChars [] = place := rfl

@[simp] theorem advanceChars_cons (place : Position) (c : Char) (rest : List Char) :
    place.advanceChars (c :: rest) = (place.step c).advanceChars rest := rfl

end Position

end Parlance
