import Parlance.Check.Failure

/-!
# Sessions of checks

A session counts its checks and those that fail, and reports each failure when it happens. At the
end there is a summary if there was a failure, and only then. A check can break off with a fault,
when the place of a failure is not known or the items that are expected cannot be listed; what has
been counted by then stays.
-/

namespace Parlance.Check

/-- The number of checks, the number of those that failed, and what has been reported, latest
first. -/
structure Session where
  checks : Nat := 0
  failures : Nat := 0
  reports : List String := []
  deriving DecidableEq, Repr

/-- Why a check breaks off. -/
inductive Fault (ν : Type) where
  /-- There are not so many calls around the check. -/
  | noFrame
  /-- The place of the failure has no path. -/
  | noPath
  /-- The items that are expected cannot be listed. -/
  | unlisted (raised : Raised ν)

/-- A check that is made: what is asserted, and the places of the calls that lead to it, innermost
first. -/
structure Trial (ν : Type) where
  stack : List Site
  assertion : Assertion ν

section

variable {ν : Type}

/-- The class of the error that the fault is. -/
def Fault.errorClass : Fault ν → ErrorClass
  | noFrame => .index
  | noPath => .value
  | unlisted raised => raised.errorClass

/-- What the fault says. -/
def Fault.message [Checkable ν] : Fault ν → String
  | noFrame => "list index out of range"
  | noPath => "no path specified"
  | unlisted raised => raised.describe

/-- Where a failure of the check is placed. -/
def Trial.site (trial : Trial ν) : Except (Fault ν) Site :=
  match trial.stack[trial.assertion.depth]? with
  | none => .error .noFrame
  | some site => if site.path.isEmpty then .error .noPath else .ok site

end

namespace Session

/-- The session after one more report. -/
def report (session : Session) (text : String) : Session :=
  { session with reports := text :: session.reports }

section

variable {ν : Type} [Checkable ν]

/-- Makes a check: counts it, and counts and reports its failure. -/
def check (trial : Trial ν) : EStateM (Fault ν) Session Unit := do
  modify fun session => { session with checks := session.checks + 1 }
  match trial.assertion.failure? with
  | .error raised => throw (.unlisted raised)
  | .ok none => return
  | .ok (some failure) =>
    modify fun session => { session with failures := session.failures + 1 }
    match trial.site with
    | .error fault => throw fault
    | .ok site => modify (·.report (failure.report site))

/-- The session after a check, however it ends. -/
def after (session : Session) (trial : Trial ν) : Session :=
  match check trial session with
  | .ok _ session => session
  | .error _ session => session

/-- The session after checks that are made one after the other, each of them even if one before it
breaks off. -/
def afterAll (session : Session) (trials : List (Trial ν)) : Session :=
  trials.foldl after session

end

/-- The summary of a session with failures. -/
def summary? (session : Session) : Option String :=
  if session.failures = 0 then none
  else some s!"\nutest ran: {session.checks}; failed: {session.failures}\n"

/-- The session after its end: the summary is the last report. -/
def finish (session : Session) : Session :=
  match session.summary? with
  | none => session
  | some text => session.report text

/-- The status that a session ends with. -/
def status (session : Session) : Int := if session.failures = 0 then 0 else 1

end Session

end Parlance.Check
