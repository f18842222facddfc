import Parlance.Regex.Memory

/-!
# Rounds of a repetition

A repetition of single characters counts them: as many as there are, and then fewer and fewer; or
few, and then more and more; or as many as there are and no fewer.

In a repetition of something longer, every round is an attempt of its own that leads on to the next
round. It ends because a round that takes nothing is the last one: before each round beyond the
least number, the place must differ from where the round before it started, if that was beyond the
least number too. So there are no more rounds than places in the text, and the number of places
bounds the recursion.

If no round is to be given back, each one is matched for itself. Reading then goes on from where the
round that failed took it up last.
-/

namespace Parlance.Regex

/-! ## Single characters -/

/-- The number of characters at the beginning that are accepted, at most so many. -/
def acceptedCount (accepts : Char → Bool) : List Char → Option Nat → Nat
  | [], _ => 0
  | c :: rest, most =>
    if most ≠ some 0 && accepts c then acceptedCount accepts rest (most.map (· - 1)) + 1 else 0

/-- As many characters as are accepted, and then fewer and fewer, until `enter` leads on from behind
them. The list is what follows the place. -/
def longestFirst (accepts : Char → Bool) (enter : Step) :
    List Char → Nat → Option Nat → Step
  | [], least, _, cursor, memory => if least = 0 then enter cursor memory else memory.failure
  | c :: rest, least, most, cursor, memory =>
    if most ≠ some 0 && accepts c then
      let outcome :=
        longestFirst accepts enter rest (least - 1) (most.map (· - 1)) cursor.next memory
      if outcome.matched || least ≠ 0 then outcome else enter cursor outcome.memory
    else if least = 0 then enter cursor memory
    else memory.failure

/-- No character, and then more and more that are accepted, until `enter` leads on from behind them.
The list is what follows the place. -/
def shortestFirst (accepts : Char → Bool) (enter : Step) : List Char → Option Nat → Step
  | chars, most, cursor, memory =>
    let outcome := enter cursor memory
    if outcome.matched then outcome
    else
      let memory := outcome.memory.resume cursor
      match chars with
      | [] => memory.failure
      | c :: rest =>
        if most ≠ some 0 && accepts c then
          shortestFirst accepts enter rest (most.map (· - 1)) cursor.next memory
        else memory.failure

/-- A repetition of single characters; `enter` is the attempt of what follows it, which is come back
from, and `next` the same without coming back. -/
def characterRounds (preference : Preference) (accepts : Char → Bool) (least : Nat)
    (most : Option Nat) (enter next : Step) : Step := fun cursor memory =>
  if !cursor.hasAfter least then memory.failure
  else
    let memory := memory.resume cursor
    match preference with
    | .more => longestFirst accepts enter cursor.after least most cursor memory
    | .fewer =>
      if acceptedCount accepts cursor.after (some least) < least then memory.failure
      else
        let start := cursor.forward least
        shortestFirst accepts enter start.after (most.map (· - least)) start memory
    | .kept =>
      let count := acceptedCount accepts cursor.after most
      if count < least then memory.failure else next (cursor.forward count) memory

/-! ## Rounds that may be given back -/

/-- So many rounds of `body`, and then what follows them. -/
def requiredRounds (body : Step → Step) (next : Step) : Nat → Step
  | 0 => next
  | count + 1 => fun cursor memory =>
    (body (requiredRounds body next count) cursor (memory.resume cursor)).failingAt cursor

/-- At most so many rounds, if there is a bound, of which the last one started at the offset `last`.
`body` is one round and `next` what follows the repetition; the first number bounds the rounds. -/
def optionalRounds (body : Step → Step) (preference : Preference) (repeated : Bool) (next : Step) :
    Nat → Option Nat → Option Nat → Step
  | 0, _, _, _, memory => memory.failure
  | rounds + 1, most, last, cursor, memory =>
    let memory := memory.resume cursor
    let canRepeat := most ≠ some 0 && last ≠ some cursor.offset
    let again := fun memory =>
      body (optionalRounds body preference repeated next rounds (most.map (· - 1))
        (some cursor.offset)) cursor memory
    match preference with
    | .fewer =>
      let outcome := next cursor memory
      if outcome.matched then outcome
      else
        let memory := (outcome.memory.backTo memory repeated).resume cursor
        if canRepeat then (again memory).failingAt cursor else memory.failure
    | _ =>
      if canRepeat then
        let outcome := again memory
        if outcome.matched then outcome
        else
          let memory := (outcome.memory.backTo memory true).resume cursor
          (next cursor memory).failingAt cursor
      else (next cursor memory).failingAt cursor

/-- A repetition whose rounds may be given back. -/
def openRounds (body : Step → Step) (preference : Preference) (repeated : Bool) (least : Nat)
    (most : Option Nat) (next : Step) : Step := fun cursor memory =>
  let optional := optionalRounds body preference repeated next (cursor.size + 2)
    (most.map (· - least)) none
  requiredRounds body optional least cursor memory

/-! ## Rounds that are kept -/

/-- So many rounds, from where the memory says that reading is taken up. -/
def requiredKept (round : Step) : Nat → Memory → Outcome
  | 0, memory => ⟨true, memory⟩
  | count + 1, memory =>
    let outcome := round memory.resumed memory
    if outcome.matched then requiredKept round count outcome.memory else outcome

/-- As many rounds as there can be, at most so many if there is a bound; the last one started at the
offset `last`. The first number bounds the rounds. -/
def optionalKept (round : Step) : Nat → Option Nat → Option Nat → Memory → Memory
  | 0, _, _, memory => memory
  | rounds + 1, most, last, memory =>
    let start := memory.resumed
    if most = some 0 || last = some start.offset then memory
    else
      let outcome := round start memory
      if outcome.matched then
        optionalKept round rounds (most.map (· - 1)) (some start.offset) outcome.memory
      else outcome.memory.backTo memory true

/-- A repetition whose rounds are never given back. -/
def keptRounds (round : Step) (least : Nat) (most : Option Nat) (next : Step) : Step :=
  fun cursor memory =>
    let outcome := requiredKept round least (memory.resume cursor)
    if outcome.matched then
      let memory :=
        optionalKept round (cursor.size + 2) (most.map (· - least)) none outcome.memory
      next memory.resumed memory
    else outcome.failingAt cursor

end Parlance.Regex
