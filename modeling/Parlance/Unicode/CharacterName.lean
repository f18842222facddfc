import Parlance.Number.Digits
import Parlance.Unicode.Names.Aliases
import Parlance.Unicode.Names.Alphabets
import Parlance.Unicode.Names.Ancient
import Parlance.Unicode.Names.EastAsian
import Parlance.Unicode.Names.Notations
import Parlance.Unicode.Names.Pictorial
import Parlance.Unicode.Names.Pictures
import Parlance.Unicode.Names.Symbols
import Parlance.Unicode.Runs

/-!
# Characters by name

Most characters have a name of their own; the capitals of a name may be written small. The names of
Korean syllables and of ideographs follow from what they are, and are written in capitals only.

A table of names is a text of entries, which semicolons and line ends separate. An entry that starts
with a plus sign gives the code point that the next name belongs to. Any other entry is the name of
the code point after the one before. Its first character says how many words it has in common with
the name before, from the first word on; the rest of it are the other words. A small letter in them
stands for a piece that occurs often.
-/

namespace Parlance.Unicode

/-! ## Tables of names -/

/-- The piece that a character of a table stands for. -/
def namePiece : Char → String
  | 'a' => "L LETTER "
  | 'b' => " WITH "
  | 'c' => "COMPONENT-"
  | 'd' => "CAPITA"
  | 'e' => "IGHT"
  | 'f' => " ARROW"
  | 'g' => " FORM"
  | 'h' => "SMAL"
  | 'i' => " AND "
  | 'j' => " ABOVE"
  | 'k' => "WARDS"
  | 'l' => "SELECTOR-"
  | 'm' => "LETTER "
  | 'n' => " SIGN"
  | 'o' => " ISOLATED"
  | 'p' => "LEFT"
  | 'q' => "ING "
  | 'r' => "DOUBLE"
  | 's' => "VERTICAL"
  | 't' => "HORIZONTAL"
  | 'u' => "SYMBOL"
  | 'v' => " BELOW"
  | 'w' => "TION"
  | 'x' => "TRIANGLE"
  | 'y' => "FINAL"
  | 'z' => "INAL"
  | c => c.toString

/-- The words that the characters of an entry spell out. -/
def entryWords (chars : List Char) : List String :=
  if chars.isEmpty then [] else (String.join (chars.map namePiece)).splitOn " "

/-- The entries of a table. -/
def nameEntries (table : String) : List String :=
  (table.splitOn "\n").flatMap (·.splitOn ";")

/-- The number that a digit or a capital stands for at the beginning of an entry. -/
def commonWords (c : Char) : Nat := if c.isDigit then c.toNat - 48 else c.toNat - 55

/-- The code point that has the name, given as its words, in a table whose entries are left over.
The code point is that of the next entry, and the words are those of the one before it. -/
def findName (name : List String) : List String → Nat → List String → Option Nat
  | [], _, _ => none
  | entry :: rest, code, words =>
    match entry.toList with
    | [] => findName name rest code words
    | '+' :: digits => findName name rest (Text.inBase 16 digits) words
    | common :: chars =>
      let words := words.take (commonWords common) ++ entryWords chars
      if words = name then some code else findName name rest (code + 1) words

/-- The tables of names. -/
def nameTables : List String :=
  [alphabetNames, symbolNames, eastAsianNames, ancientNames, pictorialNames, notationNames,
    pictureNames, aliasNames]

/-- The code point that a table gives for the name. -/
def tabled? (name : String) : Option Nat :=
  nameTables.findSome? fun table => findName (name.splitOn " ") (nameEntries table) 0 []

/-! ## Names that follow from the code point -/

/-- What is left of the characters after this text, if they start with it. -/
def after? (start : String) (chars : List Char) : Option (List Char) :=
  if start.toList.isPrefixOf chars then some (chars.drop start.length) else none

/-- A digit of a code point in a name. -/
def isNameHex (c : Char) : Bool := c.isDigit || ('A' ≤ c && c ≤ 'F')

/-- The runs of ideographs. -/
def ideographRuns : List (Nat × Nat) :=
  [(0x3400, 0x4dbf), (0x4e00, 0x9fff), (0x20000, 0x2a6df), (0x2a700, 0x2b738),
   (0x2b740, 0x2b81d), (0x2b820, 0x2cea1), (0x2ceb0, 0x2ebe0), (0x30000, 0x3134a)]

/-- The ideograph that the name gives by its code point, in four or five digits. -/
def ideograph? (name : List Char) : Option Nat := do
  let digits ← after? "CJK UNIFIED IDEOGRAPH-" name
  let code := Text.inBase 16 digits
  if digits.all isNameHex && (digits.length = 4 || digits.length = 5) && inRuns ideographRuns code
    then some code
  else none

/-- The runs of characters whose names end in their code points, with the beginnings of the
names. -/
def codedRuns : List (String × Nat × Nat) :=
  [("CJK COMPATIBILITY IDEOGRAPH-", 0xf900, 0xfa6d),
   ("CJK COMPATIBILITY IDEOGRAPH-", 0xfa70, 0xfad9),
   ("KHITAN SMALL SCRIPT CHARACTER-", 0x18b00, 0x18cd5), ("NUSHU CHARACTER-", 0x1b170, 0x1b2fb),
   ("CJK COMPATIBILITY IDEOGRAPH-", 0x2f800, 0x2fa1d)]

/-- The character whose name ends in its code point. -/
def coded? (name : List Char) : Option Nat :=
  codedRuns.findSome? fun (start, first, last) => do
    let digits ← after? start name
    let code := Text.inBase 16 digits
    if digits.all isNameHex && digits.head? != some '0' && first ≤ code && code ≤ last
      then some code
    else none

/-- The shortened names of the characters that choose a variant, which are counted through two
runs. -/
def variant? (name : List Char) : Option Nat := do
  let digits ← after? "VS" name
  let number := Text.inBase 10 digits
  if !digits.all Char.isDigit || digits.head? == some '0' || number = 0 then none
  else if number ≤ 16 then some (0xfe00 + number - 1)
  else if number ≤ 256 then some (0xe0100 + number - 17)
  else none

/-! ## Korean syllables -/

/-- The consonants that a syllable starts with; the one that is not heard has no letters. -/
def leadNames : List String :=
  ["G", "GG", "N", "D", "DD", "R", "M", "B", "BB", "S", "SS", "", "J", "JJ", "C", "K", "T", "P", "H"]

/-- The vowels of syllables. -/
def vowelNames : List String :=
  ["A", "AE", "YA", "YAE", "EO", "E", "YEO", "YE", "O", "WA", "WAE", "OE", "YO", "U", "WEO", "WE",
    "WI", "YU", "EU", "YI", "I"]

/-- The consonants that a syllable ends with, if it does. -/
def tailNames : List String :=
  ["", "G", "GG", "GS", "N", "NJ", "NH", "D", "L", "LG", "LM", "LB", "LS", "LT", "LP", "LH", "M",
    "B", "BS", "S", "SS", "NG", "J", "C", "K", "T", "P", "H"]

/-- The longest of the names that the characters start with: its index, and what is left. -/
def longestStart (names : List String) (chars : List Char) : Option (Nat × List Char) :=
  let starts := names.zipIdx.filterMap fun (name, index) =>
    (after? name chars).map fun rest => (index, rest)
  starts.foldl (fun best start =>
    if best.all fun earlier => start.2.length < earlier.2.length then some start else best) none

/-- The syllable that the name spells out. -/
def syllable? (name : List Char) : Option Nat := do
  let chars ← after? "HANGUL SYLLABLE " name
  let (lead, chars) ← longestStart leadNames chars
  let (vowel, chars) ← longestStart vowelNames chars
  let (tail, chars) ← longestStart tailNames chars
  if chars.isEmpty then some (0xac00 + (lead * vowelNames.length + vowel) * tailNames.length + tail)
  else none

/-! ## All names -/

/-- The code point of the character with this name. -/
def named? (name : String) : Option Nat :=
  let capitals := String.ofList (name.toList.map Char.toUpper)
  syllable? name.toList <|> ideograph? name.toList <|> coded? capitals.toList <|>
    variant? capitals.toList <|> tabled? capitals

end Parlance.Unicode
