import Parlance.Regex.Basic

/-!
# Places in a text

A cursor is a place in a text together with the characters on both sides of it, so that a step in
either direction is a step along a list. The size of the text is kept beside them: the distance to
its end and the number of its places are known without counting.
-/

namespace Parlance.Regex

/-- A place in a text, with the characters on both sides of it, nearest first. -/
structure Cursor where
  offset : Nat
  before : List Char
  after : List Char
  /-- The number of characters of the whole text. -/
  size : Nat := before.length + after.length
  size_eq : size = before.length + after.length := by rfl
  deriving DecidableEq, Repr

namespace Cursor

/-- The beginning of a text. -/
def atStart (chars : List Char) : Cursor where
  offset := 0
  before := []
  after := chars

/-- The place behind the next character, if there is one. -/
def next (cursor : Cursor) : Cursor :=
  match h : cursor.after with
  | [] => cursor
  | c :: rest =>
    { offset := cursor.offset + 1
      before := c :: cursor.before
      after := rest
      size := cursor.size
      size_eq := by simp only [cursor.size_eq, h, List.length_cons]; omega }

/-- The place this many characters on, or the end of the text if that comes first. -/
def forward (cursor : Cursor) : Nat → Cursor
  | 0 => cursor
  | count + 1 => cursor.next.forward count

@[simp] theorem after_next (cursor : Cursor) : cursor.next.after = cursor.after.tail := by
  unfold next
  split <;> simp_all

/-- Going forward drops what has been passed. -/
@[simp] theorem after_forward (cursor : Cursor) (count : Nat) :
    (cursor.forward count).after = cursor.after.drop count := by
  induction count generalizing cursor with
  | zero => rfl
  | succ count ih => simp [forward, ih]

/-- Going forward leaves so many characters fewer. -/
theorem length_after_forward (cursor : Cursor) (count : Nat) :
    (cursor.forward count).after.length = cursor.after.length - count := by
  simp

/-- The place this many characters back, if there are so many. -/
def back? (cursor : Cursor) : Nat → Option Cursor
  | 0 => some cursor
  | count + 1 =>
    match h : cursor.before with
    | [] => none
    | c :: rest =>
      back?
        { offset := cursor.offset - 1
          before := rest
          after := c :: cursor.after
          size := cursor.size
          size_eq := by simp only [cursor.size_eq, h, List.length_cons]; omega } count

/-- Do at least so many characters follow? -/
def hasAfter (cursor : Cursor) (count : Nat) : Bool := cursor.offset + count ≤ cursor.size

/-- Is this such a place? -/
def fits (cursor : Cursor) : Anchor → Bool
  | .textStart => cursor.before.isEmpty
  | .textStop => cursor.after.isEmpty
  | .lastLineStop => cursor.after.isEmpty || cursor.after == ['\n']
  | .lineStart => cursor.before.isEmpty || cursor.before.head? == some '\n'
  | .lineStop => cursor.after.isEmpty || cursor.after.head? == some '\n'
  | .wordEdge repertoire positive =>
    let isWord := fun c => Property.word.holds repertoire c
    !(cursor.before.isEmpty && cursor.after.isEmpty) &&
      (cursor.before.head?.any isWord != cursor.after.head?.any isWord) == positive
  | .room count => cursor.hasAfter count

end Cursor

end Parlance.Regex
