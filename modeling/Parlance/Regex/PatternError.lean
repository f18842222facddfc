import Parlance.Text.Position
import Parlance.Text.Quoted

/-!
# Errors of patterns

A pattern with a defect breaks a rule of the pattern language at some place. Other patterns follow
the rules and still cannot be used, because a number in them is out of bounds or because they
contradict themselves.
-/

namespace Parlance.Regex

/-- The rule of the pattern language that a pattern breaks. -/
inductive Defect where
  /-- The pattern ends in a backslash. -/
  | danglingEscape
  | badEscape (escape : String)
  | incompleteEscape (escape : String)
  /-- An octal escape does not fit into a byte. -/
  | octalTooLarge (escape : String)
  | unknownCharacter (name : String)
  /-- Something has to be written here. -/
  | missing (what : String)
  /-- A name is not closed. -/
  | openName (closing : Char)
  | badName (name : String)
  | unknownName (name : String)
  /-- Two groups have the same name. -/
  | sharedName (name : String) (index earlier : Nat)
  /-- A group is referred to inside itself. -/
  | openGroup
  /-- An expression that looks behind refers to a group of its own. -/
  | groupBehind
  | noSuchGroup (index : Nat)
  | groupZero
  /-- A set is not closed. -/
  | openSet
  | badRange (first last : String)
  | boundsReversed
  | nothingToRepeat
  | repeatedTwice
  /-- A repetition where none is allowed. -/
  | noRepetition (operator : String)
  /-- The pattern ends after an opening parenthesis. -/
  | endInGroup
  | unknownExtension (text : String)
  /-- A comment is not closed. -/
  | openComment
  /-- A parenthesis is not closed. -/
  | openParenthesis
  /-- A parenthesis closes nothing. -/
  | unbalanced
  /-- A condition has more than two branches. -/
  | thirdBranch
  /-- Options for the whole pattern stand after its beginning. -/
  | lateOptions
  | unknownOption
  /-- An option that depends on the place where the program runs. -/
  | localOption
  | bothRepertoires
  | clearedRepertoire
  /-- A group sets or clears an option that is for whole patterns. -/
  | wholeOption (set : Bool)
  | setAndCleared
  /-- An expression that looks behind has no fixed width. -/
  | widthVaries
  deriving DecidableEq, Repr

/-- What the defect is. -/
def Defect.message : Defect → String
  | danglingEscape => "bad escape (end of pattern)"
  | badEscape escape => s!"bad escape {escape}"
  | incompleteEscape escape => s!"incomplete escape {escape}"
  | octalTooLarge escape => s!"octal escape value {escape} outside of range 0-0o377"
  | unknownCharacter name => s!"undefined character name {Text.quote name}"
  | missing what => s!"missing {what}"
  | openName closing => s!"missing {closing}, unterminated name"
  | badName name => s!"bad character in group name {Text.quote name}"
  | unknownName name => s!"unknown group name {Text.quote name}"
  | sharedName name index earlier =>
    s!"redefinition of group name {Text.quote name} as group {index}; was group {earlier}"
  | openGroup => "cannot refer to an open group"
  | groupBehind => "cannot refer to group defined in the same lookbehind subpattern"
  | noSuchGroup index => s!"invalid group reference {index}"
  | groupZero => "bad group number"
  | openSet => "unterminated character set"
  | badRange first last => s!"bad character range {first}-{last}"
  | boundsReversed => "min repeat greater than max repeat"
  | nothingToRepeat => "nothing to repeat"
  | repeatedTwice => "multiple repeat"
  | noRepetition operator => s!"internal: unsupported template operator {operator}"
  | endInGroup => "unexpected end of pattern"
  | unknownExtension text => s!"unknown extension {text}"
  | openComment => "missing ), unterminated comment"
  | openParenthesis => "missing ), unterminated subpattern"
  | unbalanced => "unbalanced parenthesis"
  | thirdBranch => "conditional backref with more than two branches"
  | lateOptions => "global flags not at the start of the expression"
  | unknownOption => "unknown flag"
  | localOption => "bad inline flags: cannot use 'L' flag with a str pattern"
  | bothRepertoires => "bad inline flags: flags 'a', 'u' and 'L' are incompatible"
  | clearedRepertoire => "bad inline flags: cannot turn off flags 'a', 'u' and 'L'"
  | wholeOption true => "bad inline flags: cannot turn on global flag"
  | wholeOption false => "bad inline flags: cannot turn off global flag"
  | setAndCleared => "bad inline flags: flag turned on and off"
  | widthVaries => "look-behind requires fixed-width pattern"

/-- Why a pattern denotes no expression. -/
inductive PatternError where
  /-- It breaks a rule of the pattern language, at this offset if the rule is about one place. -/
  | invalid (defect : Defect) (offset : Option Nat)
  /-- A number of rounds is too large to be counted. -/
  | countTooLarge
  /-- A code is so large that it cannot be compared with those of characters. -/
  | codeTooLarge
  /-- It asks both for all characters and for the basic ones only. -/
  | contradictoryRepertoire
  /-- It looks behind farther than can be counted. -/
  | tooFarBehind
  deriving DecidableEq, Repr

/-- What the error in this pattern is, and where; the line is given if there are several. -/
def PatternError.message (pattern : List Char) : PatternError → String
  | invalid defect none => defect.message
  | invalid defect (some offset) =>
    let place := Position.start.advanceChars (pattern.take offset)
    let line :=
      if '\n' ∈ pattern then s!" (line {place.line + 1}, column {place.column + 1})" else ""
    s!"{defect.message} at position {offset}{line}"
  | countTooLarge => "the repetition number is too large"
  | codeTooLarge => "Python int too large to convert to C int"
  | contradictoryRepertoire => "ASCII and UNICODE flags are incompatible"
  | tooFarBehind => "invalid SRE code"

end Parlance.Regex
