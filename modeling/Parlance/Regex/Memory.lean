import Parlance.Regex.Cursor

/-!
# What an attempt leaves behind

An attempt to match leaves its traces whether it succeeds or fails: where groups began and ended,
and where it last took up reading. What was tried in vain is forgotten only where another way is
tried instead. There the groups that had not been met before are forgotten; the others get back
their places as well if the place is inside a repetition, where they may have been met again.
-/

namespace Parlance.Regex

/-- What is known besides the place that has been reached. -/
structure Memory where
  /-- Where the groups begin and end, two places for each, up to the last one that is known. -/
  marks : List (Option Cursor) := []
  /-- Where reading was last taken up, or, after a success, where it ended. -/
  resumed : Cursor
  deriving DecidableEq, Repr

/-- What comes of an attempt: did it succeed, and what does it leave behind? -/
structure Outcome where
  matched : Bool
  memory : Memory
  deriving DecidableEq, Repr

/-- What is to be done from a place on. -/
abbrev Step := Cursor → Memory → Outcome

namespace Memory

/-- The attempt ends here in vain. -/
def failure (memory : Memory) : Outcome := ⟨false, memory⟩

/-- Reading is taken up at this place. -/
def resume (memory : Memory) (cursor : Cursor) : Memory := { memory with resumed := cursor }

/-- Notes a place under this number. The numbers between the last one known and this one then stand
for nothing. -/
def mark (memory : Memory) (number : Nat) (cursor : Cursor) : Memory :=
  let known := memory.marks
  let marks :=
    if number < known.length then known.set number (some cursor)
    else known ++ List.replicate (number - known.length) none ++ [some cursor]
  { memory with marks }

/-- The group begins here. -/
def openGroup (memory : Memory) (index : Nat) (cursor : Cursor) : Memory :=
  memory.mark (2 * (index - 1)) cursor

/-- The group ends here. -/
def closeGroup (memory : Memory) (index : Nat) (cursor : Cursor) : Memory :=
  memory.mark (2 * (index - 1) + 1) cursor

/-- Where the group begins and ends, unless it has begun anew since it ended. -/
def bounds? (memory : Memory) (index : Nat) : Option (Cursor × Cursor) :=
  match memory.marks.drop (2 * (index - 1)) with
  | some start :: some stop :: _ => if start.offset ≤ stop.offset then some (start, stop) else none
  | _ => none

/-- What the group has taken. -/
def taken? (memory : Memory) (index : Nat) : Option (List Char) :=
  (memory.bounds? index).map fun (start, stop) => start.after.take (stop.offset - start.offset)

/-- What is known when another way is tried from where `earlier` was known: the groups that have
been met since are forgotten, and inside a repetition all groups get back their places. -/
def backTo (memory earlier : Memory) (repeated : Bool) : Memory :=
  { memory with
    marks := if repeated then earlier.marks else memory.marks.take earlier.marks.length }

end Memory

namespace Outcome

/-- After a failure reading is taken up at this place. -/
def failingAt (outcome : Outcome) (cursor : Cursor) : Outcome :=
  if outcome.matched then outcome else (outcome.memory.resume cursor).failure

end Outcome

namespace Step

/-- The end of an expression: it has matched. -/
def finish : Step := fun cursor memory => ⟨true, memory.resume cursor⟩

/-- One of several ways, from a place to which the attempt comes back if it fails. -/
def tryFrom (step : Step) (repeated : Bool) : Step := fun cursor memory =>
  let outcome := step cursor (memory.resume cursor)
  if outcome.matched then outcome else (outcome.memory.backTo memory repeated).failure

end Step

end Parlance.Regex
