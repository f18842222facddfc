import Parlance.Text.Lines

/-!
# The console of a command

A command reads lines, prints results and reports what goes wrong. The three streams are kept
apart, so that nothing is said about how results and reports interleave.
-/

namespace Parlance

/-- The lines that are still to be read, and the lines that have been printed and the texts that
have been reported, latest first. -/
structure Console where
  input : List String := []
  printed : List String := []
  reported : List String := []
  deriving DecidableEq, Repr, Inhabited

namespace Console

/-- A console whose input is this text. -/
def ofInput (text : String) : Console where
  input := (Text.lines (Text.unifyNewlines text.toList)).map String.ofList

/-- The console after one more line of results. -/
def print (console : Console) (line : String) : Console :=
  { console with printed := line :: console.printed }

/-- The console after one more report. -/
def report (console : Console) (text : String) : Console :=
  { console with reported := text :: console.reported }

/-- Everything that has been printed. -/
def output (console : Console) : String := String.join (console.printed.reverse.map (· ++ "\n"))

/-- Everything that has been reported. -/
def errors (console : Console) : String := String.join console.reported.reverse

end Console

/-- What a command leaves behind. -/
structure Outcome where
  status : Int
  output : String
  errors : String
  deriving DecidableEq, Repr

end Parlance
