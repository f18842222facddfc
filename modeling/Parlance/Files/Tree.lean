import Parlance.Files.Path
import Parlance.Text.Quoted

/-!
# A tree of files

The files below the directory where a command works. Directories are known by the files in them.
Of what lies outside nothing is known but that there are directories on the way up; so a path that
leads out of the tree leads to one of them or nowhere.
-/

namespace Parlance.Files

/-- What stands in the way of following a path or of reading a file. -/
inductive Obstacle where
  | missing
  | notDirectory
  | isDirectory
  | nameTooLong
  /-- The path contains the character with code zero, which no path can. -/
  | zeroInPath
  deriving DecidableEq, Repr

/-- The number that the system has for the obstacle, and what it says of it; a path that cannot be
one is refused before the system sees it. -/
def Obstacle.report? : Obstacle → Option (Nat × String)
  | missing => some (2, "No such file or directory")
  | notDirectory => some (20, "Not a directory")
  | isDirectory => some (21, "Is a directory")
  | nameTooLong => some (36, "File name too long")
  | zeroInPath => none

/-- A file that cannot be read, or a path that cannot be followed. -/
structure FileFault where
  path : String
  obstacle : Obstacle
  deriving DecidableEq, Repr

/-- What the fault says. -/
def FileFault.message (fault : FileFault) : String :=
  match fault.obstacle.report? with
  | some (number, text) => s!"[Errno {number}] {text}: {Text.quote fault.path}"
  | none => "embedded null byte"

/-- Files by their names from the top, each with its text. -/
abbrev Tree := List (List String × String)

/-- What stands at a place: a file with its text, a directory with its names from the top, or a
directory that is not part of the tree. -/
inductive Entry where
  | file (text : String)
  | directory (names : List String)
  | outside
  deriving DecidableEq, Repr

/-- The directory above a directory. -/
def Entry.parent : Entry → Entry
  | directory (name :: names) => directory (name :: names).dropLast
  | _ => outside

/-- The greatest number of bytes in a name. -/
def nameLimit : Nat := 255

/-- The greatest number of bytes in a path. -/
def pathLimit : Nat := 4095

namespace Tree

/-- The tree of these files. -/
def ofFiles (files : List (String × String)) : Tree :=
  files.map fun (path, text) => ((Path.ofText path).names, text)

/-- What has this name in a directory. -/
def child? (tree : Tree) (directory : Entry) (name : String) : Option Entry :=
  match directory with
  | .directory above =>
    let names := above ++ [name]
    match tree.lookup names with
    | some text => some (.file text)
    | none => if tree.any (names.isPrefixOf ·.1) then some (.directory names) else none
  | _ => none

/-- Follows names. An empty name and a single dot stay where they are, two dots go up. -/
def follow (tree : Tree) : Entry → List String → Except Obstacle Entry
  | entry, [] => .ok entry
  | .file _, _ :: _ => .error .notDirectory
  | entry, name :: rest =>
    if name = "" ∨ name = "." then follow tree entry rest
    else if name = ".." then follow tree entry.parent rest
    else if name.utf8ByteSize > nameLimit then .error .nameTooLong
    else
      match tree.child? entry name with
      | none => .error .missing
      | some inner => follow tree inner rest

/-- What stands at a path. -/
def locate (tree : Tree) (path : String) : Except Obstacle Entry :=
  let chars := path.toList
  if '\x00' ∈ chars then .error .zeroInPath
  else if path.utf8ByteSize > pathLimit then .error .nameTooLong
  else
    let names := (cutAtSlashes chars).map String.ofList
    match chars with
    | [] => .error .missing
    | '/' :: _ => tree.follow .outside names
    | _ => tree.follow (.directory []) names

/-- The text of the file at a path. -/
def read (tree : Tree) (path : String) : Except FileFault String :=
  match tree.locate path with
  | .ok (.file text) => .ok text
  | .ok _ => .error ⟨path, .isDirectory⟩
  | .error obstacle => .error ⟨path, obstacle⟩

/-- Everything in a directory and in the directories below it, by the names from there. -/
def below (tree : Tree) (directory : List String) : List (List String) :=
  let inside := tree.filterMap fun (names, _) =>
    if directory.isPrefixOf names then some (names.drop directory.length) else none
  (inside.flatMap fun names => (List.range names.length).map fun n => names.take (n + 1)).eraseDups

/-- Everything below a path if a directory stands there; it is a fault that the path is too long to
tell. -/
def search (tree : Tree) (path : Path) : Except FileFault (Option (List Path)) :=
  match tree.locate path.text with
  | .ok (.directory names) => .ok (some ((tree.below names).map path.append))
  | .ok .outside => .ok (some [])
  | .error .nameTooLong => .error ⟨path.text, .nameTooLong⟩
  | _ => .ok none

end Tree

end Parlance.Files
