import Parlance.Regex.Basic

/-!
# Alternatives

What all alternatives start with is taken out in front of them, as far as it has one way to match
only; and alternatives that are one character each become one set. The set of such alternatives is
a set like any other, with the same rule for the case of letters.
-/

namespace Parlance.Regex

/-- An expression that stays apart from what stands beside it. -/
def sealed (body : Regex) : Regex := cat body empty

/-- Is this an expression with at most one way to match? -/
def isDefinite : Regex → Bool
  | one _ | anchor _ | backref _ _ => true
  | _ => false

/-- Splits alternatives, each a sequence, into what all start with, what is left of the first, and
what is left of the others. -/
def splitStart : List Regex → List (List Regex) → List Regex × List Regex × List (List Regex)
  | [], others => ([], [], others)
  | head :: first, others =>
    if head.isDefinite && others.all (·.head? == some head) then
      let (start, first, others) := splitStart first (others.map List.tail)
      (head :: start, first, others)
    else ([], head :: first, others)

/-- The set that a sequence is, if it is one that lists its characters. -/
def listedSet? : List Regex → Option Charset
  | [one set] => if set.negated then none else some set
  | _ => none

/-- The first of the alternatives that leads on, each a sequence. Alternatives that are the last one
of others stay apart from these. -/
def firstOf (first : List Regex) : List (List Regex) → Regex
  | [] => if (ofList first).isAlt then (ofList first).sealed else ofList first
  | second :: others => alt (ofList first) (firstOf second others)

/-- The alternatives as one sequence; the folding is that of the place where they stand. -/
def ofAlternatives (folding : Folding) (first : List Regex) (others : List (List Regex)) :
    List Regex :=
  if others.isEmpty then first
  else
    let (start, first, others) := splitStart first others
    match listedSet? first, others.mapM listedSet? with
    | some set, some sets =>
      let members := (set.members ++ sets.flatMap Charset.members).eraseDups
      start ++ [one (.ofMembers folding members)]
    | _, _ => start ++ [firstOf first others]

end Parlance.Regex
