import Parlance.CommandLine.Arguments
import Parlance.Console
import Parlance.Files.Tree

/-!
# Running files of checks

The runner looks for files of checks, which end in `.ut.py`, runs each of them and says which
failed. A path is that of such a file, which need not be there, or of a directory that is searched
with all directories below it.
-/

namespace Parlance.Check.Runner

open Files CommandLine

/-- The ending of the names of files of checks. -/
def ending : String := ".ut.py"

/-- Is this the name of a file of checks? -/
def isCheckName (name : String) : Bool := ending.toList.isSuffixOf name.toList

/-- Why there is nothing to run at a path. -/
inductive PathFault where
  /-- The path leads to no file of checks and no directory. -/
  | unfit (path : Path)
  | unsearchable (fault : FileFault)
  deriving DecidableEq, Repr

/-- What is said of such a path. -/
def PathFault.message : PathFault → String
  | unfit path => s!"not a utest file or directory: {path.text}"
  | unsearchable fault => fault.message

/-- What a path leads to. -/
def find (tree : Tree) (path : Path) : Except PathFault (List Path) :=
  match tree.search path with
  | .error fault => .error (.unsearchable fault)
  | .ok (some found) => .ok (found.filter fun inner => isCheckName inner.name)
  | .ok none => if isCheckName path.name then .ok [path] else .error (.unfit path)

/-- What the paths lead to. -/
def findAll (tree : Tree) : List Path → Except PathFault (List Path)
  | [] => .ok []
  | path :: rest => do return (← find tree path) ++ (← findAll tree rest)

/-- The command. -/
def command : Command where
  name := "utest"
  description := "Find and run utest unit tests with the extension \".ut.py\", defaulting to\n\"test/\"."
  operand := "paths"
  needsOperand := false

/-- The lines about files that have been run, each with its status. -/
def lines (runs : List (String × Int)) : List String :=
  let failed := runs.filter fun (_, status) => status ≠ 0
  let blocks := runs.flatMap fun (path, status) => if status ≠ 0 then [path, ""] else [path]
  blocks ++ [s!"utest files: {runs.length}; failed: {failed.length}"] ++
    failed.map fun (path, _) => s!"  {path}"

/-- Runs the files that these paths lead to, in order; `statusOf` is the status that the file at a
path ends with. A fault is given if the runner breaks off without a report. -/
def run (tree : Tree) (statusOf : String → Int) (paths : List String) :
    Outcome × Option FileFault :=
  match findAll tree (paths.map Path.ofText) with
  | .error (.unsearchable fault) => (⟨1, "", ""⟩, some fault)
  | .error fault => (⟨1, "", fault.message ++ "\n"⟩, none)
  | .ok found =>
    let runs := (found.mergeSort Path.before).map fun path => (path.text, statusOf path.text)
    let status := if runs.any fun (_, status) => status ≠ 0 then 1 else 0
    (⟨status, String.join ((lines runs).map (· ++ "\n")), ""⟩, none)

/-- Runs the command on the words after its name. -/
def perform (tree : Tree) (statusOf : String → Int) (words : List String) :
    Outcome × Option FileFault :=
  match command.request words with
  | .error fault => (⟨2, "", command.complaint fault⟩, none)
  | .ok .help => (⟨0, command.helpText, ""⟩, none)
  | .ok (.run _ paths) => run tree statusOf (if paths.isEmpty then ["test"] else paths)

end Parlance.Check.Runner
