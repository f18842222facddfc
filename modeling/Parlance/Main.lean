import Parlance.Pl0.CommandLine

/-!
# The program

The command for PL/0 on real files and real streams. Everything that is decided is decided in
`Parlance.Pl0.CommandLine`; here files and the input are read, and the outcome is written.
-/

namespace Parlance.Main

open Pl0.CommandLine

/-- The text of the file at a path. -/
def readFile (path : String) : IO (Except Files.FileFault String) := do
  try return .ok (← IO.FS.readFile path)
  catch
    | .noFileOrDirectory .. => return .error ⟨path, .missing⟩
    | .inappropriateType .. => return .error ⟨path, .isDirectory⟩
    | error => throw error

/-- The rest of a stream. -/
partial def readRest (stream : IO.FS.Stream) (text : String := "") : IO String := do
  let line ← stream.getLine
  if line.isEmpty then return text
  readRest stream (text ++ line)

/-- The files that the words name, and the input if a program may read it. -/
def readAll (words : List String) : IO (List (String × Except Files.FileFault String) × String) := do
  match command.request words with
  | .ok (.run switches paths) =>
    let files ← paths.mapM fun path => return (path, ← readFile path)
    let running := (Options.ofSwitches switches).mode == .run
    return (files, ← if running then readRest (← IO.getStdin) else pure "")
  | _ => return ([], "")

end Parlance.Main

open Parlance Parlance.Main in
/-- Runs the command, writes what it leaves behind, and ends with its status. -/
def main (words : List String) : IO UInt32 := do
  let (files, input) ← readAll words
  let read := fun path => (files.lookup path).getD (.error ⟨path, .missing⟩)
  let (outcome, stop) := Pl0.CommandLine.perform read words input
  IO.print outcome.output
  IO.eprint outcome.errors
  if let some stop := stop then IO.eprintln stop.message
  return outcome.status.toNat.toUInt32
