import Parlance.Check.Checkable
import Parlance.Files.Path

/-!
# Failures of checks

A check calls something and compares what comes of it with what it expects. `Assertion.failure?`
says whether the check fails and how; `Failure.report` is the text about it.
-/

namespace Parlance.Check

variable {ν : Type}

/-! ## Assertions -/

/-- A call: what is called, with which arguments, and what comes of it, a value or an error. A
failure is placed at the check, or so many calls around it. -/
structure Call (ν : Type) where
  subject : String
  arguments : List ν := []
  named : List (String × ν) := []
  depth : Nat := 0
  result : Except (Raised ν) ν

/-- What is asserted of a call or a value. -/
inductive Assertion (ν : Type) where
  /-- The call returns this value. -/
  | returns (expected : ν) (call : Call ν)
  /-- The call raises this error. -/
  | raises (expected : ν) (call : Call ν)
  /-- The call returns something with the same items. -/
  | yields (expected : ν) (call : Call ν)
  /-- The call, or listing what it returns, raises this error. -/
  | yieldsError (expected : ν) (call : Call ν)
  /-- The value is this one. -/
  | equals (expected actual description : ν)

/-- What a check found in place of what it expects. -/
inductive Found (ν : Type) where
  | returned (label text : String)
  | raised (raised : Raised ν)

/-- A check that failed. -/
structure Failure (ν : Type) where
  subject : String
  arguments : List ν := []
  named : List (String × ν) := []
  label : String
  expected : String
  found : Found ν

/-- The failure of a check on a call. -/
def Call.failure (call : Call ν) (label expected : String) (found : Found ν) : Failure ν :=
  { subject := call.subject
    arguments := call.arguments
    named := call.named
    label, expected, found }

/-- How many calls around the check its failure is placed. -/
def Assertion.depth : Assertion ν → Nat
  | returns _ call | raises _ call | yields _ call | yieldsError _ call => call.depth
  | equals _ _ _ => 0

variable [Checkable ν]

/-- The items of what the call returns. -/
def Call.items (call : Call ν) : Except (Raised ν) (List ν) := call.result >>= Check.items

/-- The failure of the check, if it fails. Where items are expected that cannot be listed, the check
breaks off with the error of the listing. -/
def Assertion.failure? : Assertion ν → Except (Raised ν) (Option (Failure ν))
  | returns expected call =>
    let failure := call.failure "value" (describe expected)
    match call.result with
    | .ok value =>
      if same expected value then .ok none
      else .ok (some (failure (.returned "value" (describe value))))
    | .error raised => .ok (some (failure (.raised raised)))
  | raises expected call =>
    let failure := call.failure "exception" (describe expected)
    match call.result with
    | .ok value => .ok (some (failure (.returned "value" (describe value))))
    | .error raised =>
      if admits expected raised then .ok none else .ok (some (failure (.raised raised)))
  | yields expected call => do
    let wanted ← items expected
    let failure := call.failure "sequence" (describeItems wanted)
    match call.items with
    | .ok given =>
      if sameItems wanted given then return none
      else return some (failure (.returned "sequence" (describeItems given)))
    | .error raised => return some (failure (.raised raised))
  | yieldsError expected call =>
    let failure := call.failure "exception" (describe expected)
    match call.items with
    | .ok given => .ok (some (failure (.returned "sequence" (describeItems given))))
    | .error raised =>
      if admits expected raised then .ok none else .ok (some (failure (.raised raised)))
  | equals expected actual description =>
    if same expected actual then .ok none
    else
      .ok (some {
        subject := describe description
        label := "value"
        expected := describe expected
        found := .returned "value" (describe actual) })

/-! ## Reports -/

/-- The place of a call. -/
structure Site where
  path : String
  line : Int
  deriving DecidableEq, Repr

/-- The place as reports show it; a path without a slash gets one. -/
def Site.describe (site : Site) : String :=
  let path := (Files.Path.ofText site.path).reduced.text
  let path := if '/' ∈ path.toList then path else "./" ++ path
  s!"{path}:{site.line}"

/-- The text with blanks after it, up to this width. -/
def padTo (width : Nat) (text : String) : String :=
  text ++ String.ofList (List.replicate (width - text.length) ' ')

/-- What the check found, as a heading and a text. -/
def Found.describe : Found ν → String × String
  | returned label text => (s!"returned {label}:", text)
  | raised error => ("raised exception:", error.describe)

/-- The lines about the arguments of an error, and where it was raised. -/
def Found.details : Found ν → List String
  | returned _ _ => []
  | raised error =>
    (error.arguments.zipIdx.map fun (argument, i) =>
      s!"    exc arg {i}: {Check.describe argument}") ++ ["", "<traceback>"]

/-- What is reported about a failure. -/
def Failure.report (failure : Failure ν) (site : Site) : String :=
  let arguments := failure.arguments.zipIdx.map fun (argument, i) =>
    s!"  arg {i} = {describe argument}"
  let named := failure.named.map fun (name, argument) => s!"  arg {name} = {describe argument}"
  let heading := s!"expected {failure.label}:"
  let (foundHeading, found) := failure.found.describe
  let width := max heading.length foundHeading.length
  let lines :=
    ["", s!"{site.describe}: utest failure: {failure.subject}"] ++ arguments ++ named ++
      [s!"  {padTo width heading} {failure.expected}", s!"  {padTo width foundHeading} {found}"] ++
      failure.found.details ++ [""]
  String.join (lines.map (· ++ "\n"))

end Parlance.Check
