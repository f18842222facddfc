import Parlance.Regex.Match
import Parlance.Regex.Reader

/-!
# Common patterns

Patterns for the tokens that most languages have. The order of rules matters: a narrow pattern, such
as that of a keyword, has to stand before a wide one, such as that of a name.
-/

namespace Parlance.Lexer.Patterns

/-- One blank character or more. -/
def whitespace : String := r"\s+"

/-- A comment from a number sign or two slashes to the end of the line, without the line end. -/
def lineComment : String := r"(?:\#|//)[^\n]*"

/-- A letter, a low line or a dollar sign, then any number of these and of digits. -/
def identifier : String := r"(?:[^\W\d]|\$)(?:\w|\$)*"

/-- An integer or a decimal number, with an exponent or without. -/
def number : String := r"(?:\d+(?:\.\d*)?|\.\d+)(?:[eE][+-]?\d+)?"

/-- A text between double quotation marks, in which a backslash takes the meaning from the character
after it. -/
def doubleQuotedString : String := r#""[^"\\]*(?:\\.[^"\\]*)*""#

/-- A text between single quotation marks, in which a backslash takes the meaning from the character
after it. -/
def singleQuotedString : String := r"'[^'\\]*(?:\\.[^'\\]*)*'"

/-- Operators of arithmetic and comparison; the longer ones stand before their beginnings. -/
def symbol : String := r"\+|-|\*|%|<=|>=|==|=|<|>|\^|!"

/-- The patterns by name. -/
def all : List (String × String) :=
  [("whitespace", whitespace), ("line_comment", lineComment), ("identifier", identifier),
    ("number", number), ("double_quoted_string", doubleQuotedString),
    ("single_quoted_string", singleQuotedString), ("symbol", symbol)]

/-- Where the match of an expression in a text starts and stops, if it matches at the offset. -/
def spanAt? (regex : Regex) (text : String) (offset : Nat) : Option (Nat × Nat) :=
  let cursor := (Regex.Cursor.atStart text.toList).forward offset
  (regex.match? cursor).map fun found => (cursor.offset, found.stop.offset)

end Parlance.Lexer.Patterns
