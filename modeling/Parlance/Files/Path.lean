/-!
# Paths

A path is a list of names, which may start at a root. Writing it down leaves out what does not
matter: names that are empty or a single dot. Two dots are kept, because the name before them may
not be that of a directory.
-/

namespace Parlance.Files

/-- A path; `root` is empty if the path starts where the reader stands. -/
structure Path where
  root : String := ""
  names : List String
  deriving DecidableEq, Repr

/-- The names between the slashes. -/
def cutAtSlashes : List Char → List (List Char)
  | [] => [[]]
  | c :: rest =>
    if c = '/' then [] :: cutAtSlashes rest
    else
      match cutAtSlashes rest with
      | [] => [[c]]
      | name :: others => (c :: name) :: others

namespace Path

/-- The path that a text writes. Two slashes in front are a root of their own; any other number is
the common root. -/
def ofText (text : String) : Path :=
  let chars := text.toList
  let slashes := (chars.takeWhile (· = '/')).length
  let root := if slashes = 0 then "" else if slashes = 2 then "//" else "/"
  let names := (cutAtSlashes chars).map String.ofList
  ⟨root, names.filter fun name => name ≠ "" ∧ name ≠ "."⟩

/-- The text that writes the path. -/
def text (path : Path) : String :=
  if path.root = "" ∧ path.names = [] then "."
  else path.root ++ "/".intercalate path.names

/-- The last name. -/
def name (path : Path) : String := path.names.getLast?.getD ""

/-- The path with more names at its end. -/
def append (path : Path) (names : List String) : Path :=
  { path with names := path.names ++ names }

/-- The root, if there is one, and the names. -/
def components (path : Path) : List String :=
  if path.root = "" then path.names else path.root :: path.names

/-- The path in which two dots take back the name before them. -/
def reduced (path : Path) : Path :=
  let step := fun (kept : List String) (name : String) =>
    match name, kept with
    | "..", ".." :: _ => name :: kept
    | "..", _ :: rest => rest
    | _, _ => name :: kept
  { path with names := (path.names.foldl step []).reverse }

/-- Names are ordered by their characters, one after the other. -/
def nameBefore (first second : String) : Bool :=
  first.toList.lex second.toList fun left right => left.toNat.blt right.toNat

/-- Paths are ordered by their components, one after the other. -/
def before (first second : Path) : Bool :=
  !second.components.lex first.components nameBefore

end Path

end Parlance.Files
