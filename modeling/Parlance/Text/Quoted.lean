import Parlance.Unicode.Printable

/-!
# Quoted text

`quote` writes a text between quotation marks on one line, in printable characters only. Single
marks are preferred; a text that holds a single mark and no double one goes between double marks,
so that nothing has to be escaped for it. What cannot be shown is written as a backslash escape.
-/

namespace Parlance.Text

/-- The code in lower-case hexadecimal, padded with zeros to at least this many digits. -/
def hex (width code : Nat) : List Char :=
  let digits := Nat.toDigits 16 code
  List.replicate (width - digits.length) '0' ++ digits

/-- The escape of a character that cannot be shown: two, four or eight hexadecimal digits, whichever
is the first to have room for its code. -/
def hexEscape (c : Char) : List Char :=
  let code := c.toNat
  if code < 0x100 then '\\' :: 'x' :: hex 2 code
  else if code < 0x10000 then '\\' :: 'u' :: hex 4 code
  else '\\' :: 'U' :: hex 8 code

/-- One character as it stands between two of the given marks. -/
def quoteChar (mark c : Char) : List Char :=
  if c = mark ∨ c = '\\' then ['\\', c]
  else if c = '\n' then ['\\', 'n']
  else if c = '\r' then ['\\', 'r']
  else if c = '\t' then ['\\', 't']
  else if Unicode.isPrintable c then [c]
  else hexEscape c

/-- The mark that a text is quoted with. -/
def quoteMark (text : List Char) : Char :=
  if '\'' ∈ text ∧ '"' ∉ text then '"' else '\''

/-- The quoted form of a text. -/
def quote (text : String) : String :=
  let chars := text.toList
  let mark := quoteMark chars
  String.ofList (mark :: chars.flatMap (quoteChar mark) ++ [mark])

end Parlance.Text
