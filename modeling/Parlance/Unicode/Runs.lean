/-!
# Runs of code points

A set of characters is given by the runs of consecutive code points that it consists of, in
ascending order. Membership looks no further than the first run that ends at or after the code.
-/

namespace Parlance.Unicode

/-- The run that holds this code point, if there is one. -/
def runOf : List (Nat × Nat) → Nat → Option (Nat × Nat)
  | [], _ => none
  | run :: rest, code =>
    if code ≤ run.2 then if run.1 ≤ code then some run else none else runOf rest code

/-- Does some run hold this code point? -/
def inRuns (runs : List (Nat × Nat)) (code : Nat) : Bool := (runOf runs code).isSome

end Parlance.Unicode
