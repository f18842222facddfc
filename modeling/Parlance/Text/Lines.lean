/-!
# Lines

A text that comes from outside may end its lines with a line feed, a carriage return, or the two
together. `unifyNewlines` makes line feeds of them all; `lines` cuts a text at its line feeds.
-/

namespace Parlance.Text

/-- The characters with every line end written as a line feed. -/
def unifyNewlines : List Char → List Char
  | [] => []
  | '\r' :: '\n' :: rest => '\n' :: unifyNewlines rest
  | '\r' :: rest => '\n' :: unifyNewlines rest
  | c :: rest => c :: unifyNewlines rest

/-- The lines of a text without their ends. What follows the last line feed is a line if it is not
empty. -/
def lines : List Char → List (List Char)
  | [] => []
  | c :: rest =>
    if c = '\n' then [] :: lines rest
    else
      match lines rest with
      | [] => [[c]]
      | line :: others => (c :: line) :: others

end Parlance.Text
