import Parlance.Regex.Rounds

/-!
# Matching by backtracking

`attempt` tries the ways to match an expression in the order of preference and hands each one on;
the first that leads on to the end of the whole expression is taken. So what follows an expression
is a step from the place that it reaches, and going back is a step that ends in vain.

Where the next character shows that a way leads nowhere, the way is not entered: an alternative that
begins with a set, and the rest of a sequence that begins with a letter after a repetition of single
characters.
-/

namespace Parlance.Regex

/-- What surrounds an expression. -/
structure Surroundings where
  /-- Does it stand in a repetition whose rounds may be given back? -/
  repeated : Bool := false
  /-- The letter that follows it, if that is known. -/
  following : Option Nat := none
  deriving DecidableEq, Repr

/-- The surroundings of a part that nothing known follows. -/
def Surroundings.closed (around : Surroundings) : Surroundings := { around with following := none }

/-- The surroundings of a part that these expressions follow. -/
def Surroundings.before (around : Surroundings) (rest : Regex) : Surroundings :=
  if rest.isVoid then around
  else { around with following := rest.firstSet?.bind Charset.letter? }

/-- Is the next character this letter? -/
def Cursor.isAt (cursor : Cursor) (letter : Nat) : Bool :=
  cursor.after.head?.any fun c => c.toNat == letter

/-- Can the expression start here, as far as the next character shows? -/
def canStart (regex : Regex) (cursor : Cursor) : Bool :=
  regex.firstSet?.all fun set => cursor.after.head?.any set.holds

/-- An alternative, which is entered only if it can start. -/
def enterAlternative (regex : Regex) (repeated : Bool) (step : Step) : Step := fun cursor memory =>
  if regex.canStart cursor then step.tryFrom repeated cursor memory else memory.failure

/-- Are the two texts the same, up to the folding's lower case? -/
def sameText (folding : Folding) (first second : List Char) : Bool :=
  first.map (fun c => folding.lower c.toNat) == second.map (fun c => folding.lower c.toNat)

/-- A match of the expression from a place on that `next` leads on from: the preferred one. -/
def attempt : Regex → Surroundings → Step → Step
  | empty, _, next => next
  | one set, _, next => fun cursor memory =>
    match cursor.after with
    | [] => memory.failure
    | c :: _ => if set.holds c then next cursor.next memory else memory.failure
  | cat first second, around, next =>
    first.attempt (around.before second) (second.attempt around next)
  | alt first second, around, next => fun cursor memory =>
    let inner := around.closed
    let outcome :=
      enterAlternative first around.repeated (first.attempt inner next) cursor memory
    if outcome.matched then outcome
    else if second.isAlt then second.attempt inner next cursor outcome.memory
    else enterAlternative second around.repeated (second.attempt inner next) cursor outcome.memory
  | rep preference least most body, around, next =>
    match body.character? with
    | some set =>
      let enter := fun cursor memory =>
        if around.following.all cursor.isAt then Step.tryFrom next around.repeated cursor memory
        else memory.failure
      characterRounds preference set.holds least most enter next
    | none =>
      match preference with
      | .kept => keptRounds (body.attempt around.closed .finish) least most next
      | _ =>
        openRounds (body.attempt ⟨true, none⟩) preference around.repeated least most next
  | group index body, around, next => fun cursor memory =>
    body.attempt around.closed (fun reached memory => next reached (memory.closeGroup index reached))
      cursor (memory.openGroup index cursor)
  | backref index folding, _, next => fun cursor memory =>
    match memory.taken? index with
    | none => memory.failure
    | some chars =>
      if sameText folding chars (cursor.after.take chars.length) then
        next (cursor.forward chars.length) memory
      else memory.failure
  | anchor place, _, next => fun cursor memory =>
    if cursor.fits place then next cursor memory else memory.failure
  | ahead positive body, around, next => fun cursor memory =>
    let outcome := body.attempt around.closed .finish cursor (memory.resume cursor)
    match positive, outcome.matched with
    | true, true => next cursor outcome.memory
    | false, false => next cursor (outcome.memory.backTo memory around.repeated)
    | _, _ => outcome.memory.failure
  | behind positive width body, around, next => fun cursor memory =>
    match cursor.back? width with
    | none => if positive then memory.failure else next cursor memory
    | some start =>
      let outcome := body.attempt around.closed .finish start (memory.resume start)
      match positive, outcome.matched with
      | true, true => next cursor outcome.memory
      | false, false => next cursor (outcome.memory.backTo memory around.repeated)
      | _, _ => outcome.memory.failure
  | atomic body, around, next => fun cursor memory =>
    let outcome := body.attempt around.closed .finish cursor (memory.resume cursor)
    if outcome.matched then next outcome.memory.resumed outcome.memory
    else outcome.failingAt cursor
  | cond index yes no, around, next => fun cursor memory =>
    if (memory.bounds? index).isSome then
      yes.attempt (if no = empty then around else around.closed) next cursor memory
    else no.attempt around next cursor memory

/-! ## Matches -/

/-- A match: where it ends, and where the groups begin and end. -/
structure Match where
  stop : Cursor
  marks : List (Option Cursor)
  deriving DecidableEq, Repr

/-- Does a group end before it begins? -/
def Match.hasReversed : List (Option Cursor) → Bool
  | some start :: some stop :: rest => stop.offset < start.offset || hasReversed rest
  | _ :: _ :: rest => hasReversed rest
  | _ => false

/-- Does a group of the match end before it begins? Such a match cannot be used. -/
def Match.isReversed (found : Match) : Bool := Match.hasReversed found.marks

/-- The match of the expression at a place, if there is one. -/
def match? (regex : Regex) (cursor : Cursor) : Option Match :=
  let outcome := regex.attempt {} .finish cursor ⟨[], cursor⟩
  if outcome.matched then some ⟨outcome.memory.resumed, outcome.memory.marks⟩ else none

/-- Does the expression match the empty text? -/
def acceptsEmpty (regex : Regex) : Bool := (regex.match? (.atStart [])).isSome

end Parlance.Regex
