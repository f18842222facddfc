import Parlance.Number.Digits
import Parlance.Number.Integer
import Parlance.Regex.Alternatives
import Parlance.Regex.PatternError
import Parlance.Unicode.CharacterName
import Parlance.Unicode.Identifier
import Parlance.Unicode.Letter

/-!
# Reading patterns

A pattern is read in one pass over its lexemes: plain characters and characters after a backslash.
The reader knows the options in force, numbers the groups, and resolves every reference, so that an
expression can be matched without looking back at its pattern. The first rule of the pattern
language that is broken ends the reading; a backslash at the end of the pattern is noticed when what
stands before it has been used up.
-/

namespace Parlance.Regex

/-- A character of a pattern, plain or after a backslash. -/
inductive Lexeme where
  | plain (c : Char)
  | escaped (c : Char)
  deriving DecidableEq, Repr

namespace Lexeme

/-- The characters that the lexeme is written with. -/
def chars : Lexeme → List Char
  | plain c => [c]
  | escaped c => ['\\', c]

/-- The lexeme as it is written. -/
def text (lexeme : Lexeme) : String := String.ofList lexeme.chars

/-- The number of characters that the lexeme is written with. -/
def width (lexeme : Lexeme) : Nat := lexeme.chars.length

/-- The lexemes of a pattern, and whether a backslash is left over at its end. -/
def split : List Char → List Lexeme × Bool
  | [] => ([], false)
  | ['\\'] => ([], true)
  | '\\' :: c :: rest =>
    let (lexemes, dangling) := split rest
    (escaped c :: lexemes, dangling)
  | c :: rest =>
    let (lexemes, dangling) := split rest
    (plain c :: lexemes, dangling)

end Lexeme

/-- The options that a pattern can set. -/
structure Options where
  ignoreCase : Bool := false
  multiline : Bool := false
  dotAll : Bool := false
  verbose : Bool := false
  /-- Properties and case know only the basic characters. -/
  basic : Bool := false
  /-- Properties and case know all characters: the rule, but it can be asked for. -/
  full : Bool := false
  /-- No repetition is allowed. -/
  rigid : Bool := false
  deriving DecidableEq, Repr, Inhabited

/-- The letters that name options in a pattern. -/
def optionLetters : List Char := ['a', 'i', 'L', 'm', 's', 't', 'u', 'x']

namespace Options

/-- The options with one more set, or nothing if the letter names none that can be had. -/
def set? (options : Options) : Char → Option Options
  | 'i' => some { options with ignoreCase := true }
  | 'm' => some { options with multiline := true }
  | 's' => some { options with dotAll := true }
  | 'x' => some { options with verbose := true }
  | 'a' => some { options with basic := true }
  | 'u' => some { options with full := true }
  | 't' => some { options with rigid := true }
  | _ => none

/-- Every option that either sets. -/
def union (first second : Options) : Options where
  ignoreCase := first.ignoreCase || second.ignoreCase
  multiline := first.multiline || second.multiline
  dotAll := first.dotAll || second.dotAll
  verbose := first.verbose || second.verbose
  basic := first.basic || second.basic
  full := first.full || second.full
  rigid := first.rigid || second.rigid

/-- The options inside a group that sets some and clears others. A choice of the repertoire takes
the place of the one outside. -/
def within (outer on off : Options) : Options where
  ignoreCase := (outer.ignoreCase || on.ignoreCase) && !off.ignoreCase
  multiline := (outer.multiline || on.multiline) && !off.multiline
  dotAll := (outer.dotAll || on.dotAll) && !off.dotAll
  verbose := (outer.verbose || on.verbose) && !off.verbose
  basic := on.basic || (outer.basic && !on.full)
  full := on.full || (outer.full && !on.basic)
  rigid := outer.rigid

/-- Do the two set an option in common? -/
def meets (first second : Options) : Bool :=
  (first.ignoreCase && second.ignoreCase) || (first.multiline && second.multiline) ||
    (first.dotAll && second.dotAll) || (first.verbose && second.verbose)

/-- The characters that properties draw from. -/
def repertoire (options : Options) : Repertoire := if options.basic then .ascii else .unicode

/-- Which characters count as the same. -/
def folding (options : Options) : Folding :=
  if !options.ignoreCase then .exact else if options.basic then .ascii else .unicode

end Options

/-- What the reader has before it and what it has seen. -/
structure Reading where
  /-- What is still to be read. -/
  rest : List Lexeme
  /-- Is there a backslash after all that? -/
  dangling : Bool
  /-- The options that hold for the whole pattern. -/
  options : Options
  /-- The number of characters that have been used up. -/
  offset : Nat := 0
  /-- The number of the next group. -/
  nextGroup : Nat := 1
  /-- The groups that have a name. -/
  names : List (String × Nat) := []
  /-- The groups that are closed. -/
  widths : List (Nat × Width) := []
  /-- In an expression that looks behind: the first group that opens inside it. -/
  behindFrom : Option Nat := none
  /-- The groups that conditions ask for by number, with the place of the number. -/
  asked : List (Nat × Nat) := []
  /-- What is wrong with the pattern if nothing else is, and the offset of the item at fault. -/
  flaw : Option (Nat × PatternError) := none

/-- A step of reading. -/
abbrev Read := EStateM PatternError Reading

namespace Read

/-- The pattern has a defect at this offset. -/
def failAt {α : Type} (defect : Defect) (offset : Nat) : Read α :=
  throw (.invalid defect (some offset))

/-- The pattern has a defect so many characters back. -/
def fail {α : Type} (defect : Defect) (back : Nat := 0) : Read α := do
  failAt defect ((← get).offset - back)

/-- Keeps in mind what is wrong with the item at this offset, and reads on. The item that starts
first counts, and of those the outermost, which is noted last. -/
def note (start : Nat) (flaw : PatternError) : Read Unit :=
  modify fun reading =>
    if reading.flaw.any (·.1 < start) then reading
    else { reading with flaw := some (start, flaw) }

/-- Fails if nothing but a backslash is left. -/
def checkDangling : Read Unit := do
  let reading ← get
  if reading.rest.isEmpty && reading.dangling then fail .danglingEscape

/-- The next lexeme, which stays. -/
def peek : Read (Option Lexeme) := do return (← get).rest.head?

/-- The next lexeme, which is used up. -/
def next : Read (Option Lexeme) := do
  let reading ← get
  match reading.rest with
  | [] => return none
  | lexeme :: rest =>
    set { reading with rest, offset := reading.offset + lexeme.width }
    checkDangling
    return some lexeme

/-- Uses up this plain character if it is next. -/
def accept (c : Char) : Read Bool := do
  if (← peek) = some (.plain c) then
    let _ ← next
    return true
  return false

/-- The parenthesis that opened at this offset has to be closed next. -/
def close (start : Nat) : Read Unit := do
  unless ← accept ')' do failAt .openParenthesis start

/-- Uses up plain characters of a sort, at most so many. -/
def run (accepts : Char → Bool) : Nat → Read (List Char)
  | 0 => pure []
  | most + 1 => do
    match ← peek with
    | some (.plain c) =>
      if accepts c then
        let _ ← next
        return c :: (← run accepts most)
      else return []
    | _ => return []

/-- Uses up all plain characters of a sort. -/
def runAll (accepts : Char → Bool) : Read (List Char) := do
  run accepts (← get).rest.length

/-- Uses up lexemes, at most so many, up to this plain character: was it there? -/
def skipPast (c : Char) : Nat → Read Bool
  | 0 => return false
  | most + 1 => do
    match ← next with
    | none => return false
    | some lexeme => if lexeme = .plain c then return true else skipPast c most

/-- What is written up to the closing character, which is used up, after what is written before;
the first argument bounds the number of lexemes. -/
def collect (closing : Char) (what : String) : Nat → List Char → Read (List Char)
  | 0, _ => fail (.missing what)
  | most + 1, before => do
    match ← next with
    | none =>
      if before.isEmpty then fail (.missing what) else fail (.openName closing) before.length
    | some lexeme =>
      if lexeme = .plain closing then
        if before.isEmpty then fail (.missing what) 1 else return before
      else collect closing what most (before ++ lexeme.chars)

/-- What is written up to the closing character, which is used up. There has to be something. -/
def upTo (closing : Char) (what : String) : Read (List Char) := do
  collect closing what ((← get).rest.length + 1) []

end Read

open Read

/-! ## Escapes and sets -/

/-- Is this a digit from zero to seven? -/
def isOctal (c : Char) : Bool := '0' ≤ c && c ≤ '7'

/-- Is this a hexadecimal digit? -/
def isHex (c : Char) : Bool :=
  ('0' ≤ c && c ≤ '9') || ('A' ≤ c && c ≤ 'F') || ('a' ≤ c && c ≤ 'f')

/-- An escape as it is written. -/
def escapeText (chars : List Char) : String := String.ofList ('\\' :: chars)

/-- The code point of exactly so many hexadecimal digits after the letter of their escape. -/
def readHex (letter : Char) (count : Nat) : Read Nat := do
  let digits ← run isHex count
  let escape := escapeText (letter :: digits)
  if digits.length ≠ count then fail (.incompleteEscape escape) escape.length
  let code := Text.inBase 16 digits
  if code > 0x7fffffff then throw .codeTooLarge
  if code > 0x10ffff then fail (.badEscape escape) escape.length
  return code

/-- The code point of an octal escape, which fits into a byte. -/
def octalCode (digits : List Char) : Read Nat := do
  let code := Text.inBase 8 digits
  if code > 0xff then fail (.octalTooLarge (escapeText digits)) (digits.length + 1)
  return code

/-- The control character that a letter stands for after a backslash. -/
def controlCode? : Char → Option Nat
  | 'a' => some 7
  | 'f' => some 12
  | 'n' => some 10
  | 'r' => some 13
  | 't' => some 9
  | 'v' => some 11
  | '\\' => some 92
  | _ => none

/-- The property that a letter stands for after a backslash. -/
def propertyOf? (repertoire : Repertoire) : Char → Option Member
  | 'd' => some (.property .digit repertoire true)
  | 'D' => some (.property .digit repertoire false)
  | 's' => some (.property .blank repertoire true)
  | 'S' => some (.property .blank repertoire false)
  | 'w' => some (.property .word repertoire true)
  | 'W' => some (.property .word repertoire false)
  | _ => none

/-- A character by its name between braces. -/
def readNamed : Read Nat := do
  unless ← accept '\x7b' do fail (.missing "\x7b")
  let chars ← upTo '\x7d' "character name"
  let name := String.ofList chars
  match Unicode.named? name with
  | some code => return code
  | none => fail (.unknownCharacter name) (chars.length + 4)

/-- The code point of a character after a backslash that stands for itself or gives its code in
hexadecimal. -/
def readCode (c : Char) : Read Nat :=
  match c with
  | 'x' => readHex c 2
  | 'u' => readHex c 4
  | 'U' => readHex c 8
  | 'N' => readNamed
  | _ => if c.isAlphanum then fail (.badEscape (escapeText [c])) 2 else pure c.toNat

/-- An entry of a set after a backslash. -/
def readMember (repertoire : Repertoire) (c : Char) : Read Member := do
  if c = 'b' then return .letter 8
  if let some code := controlCode? c then return .letter code
  if let some member := propertyOf? repertoire c then return member
  if isOctal c then return .letter (← octalCode (c :: (← run isOctal 2)))
  return .letter (← readCode c)

/-- The entry that a lexeme starts. -/
def memberOf (repertoire : Repertoire) : Lexeme → Read Member
  | .plain c => pure (.letter c.toNat)
  | .escaped c => readMember repertoire c

/-- The span between two entries, if they are single characters in order. -/
def spanOf? : Member → Member → Option Member
  | .letter first, .letter last => if first ≤ last then some (.span first last) else none
  | _, _ => none

/-- The entries up to the closing bracket of a set that starts at the given offset; a bracket that
comes first is an entry. -/
def readMembers (repertoire : Repertoire) (start : Nat) :
    Nat → List Member → Read (List Member)
  | 0, _ => failAt .openSet start
  | fuel + 1, members => do
    let some lexeme ← next | failAt .openSet start
    if lexeme = .plain ']' ∧ members ≠ [] then return members.reverse
    let first ← memberOf repertoire lexeme
    if ← accept '-' then
      let some lexeme' ← next | failAt .openSet start
      if lexeme' = .plain ']' then return (.letter 45 :: first :: members).reverse
      match spanOf? first (← memberOf repertoire lexeme') with
      | some span => readMembers repertoire start fuel (span :: members)
      | none => fail (.badRange lexeme.text lexeme'.text) (lexeme.width + 1 + lexeme'.width)
    else readMembers repertoire start fuel (first :: members)

/-- The set whose opening bracket is at the given offset. -/
def readSet (options : Options) (start : Nat) : Read Charset := do
  let negated ← accept '^'
  let members ← readMembers options.repertoire start ((← get).rest.length + 1) []
  return .ofMembers options.folding members.eraseDups negated

/-! ## References -/

/-- In an expression that looks behind, the group has to be closed, and to be so from before it. -/
def checkBehind (index : Nat) : Read Unit := do
  let reading ← get
  if let some first := reading.behindFrom then
    if (reading.widths.lookup index).isNone then fail .openGroup
    if first ≤ index then fail .groupBehind

/-- A reference to a group, which has to be closed; it is written in so many characters. -/
def readReference (options : Options) (index width : Nat) : Read Regex := do
  if ((← get).widths.lookup index).isNone then fail .openGroup width
  checkBehind index
  return .backref index options.folding

/-- A reference to a group by the digits of its number. -/
def readNumber (options : Options) (digits : List Char) : Read Regex := do
  let index := Text.inBase 10 digits
  if (← get).nextGroup ≤ index then fail (.noSuchGroup index) digits.length
  readReference options index (digits.length + 1)

/-- A number after a backslash: an octal code if it starts with zero or has three octal digits, else
a reference. -/
def readNumbered (options : Options) (c : Char) : Read Regex := do
  if c = '0' then
    let code := Text.inBase 8 (c :: (← run isOctal 2))
    return .one (.single options.folding code)
  match ← run Char.isDigit 1 with
  | [] => readNumber options [c]
  | digits =>
    if isOctal c && digits.all isOctal then
      let third ← run isOctal 1
      if third ≠ [] then
        return .one (.single options.folding (← octalCode (c :: digits ++ third)))
    readNumber options (c :: digits)

/-- Opens a group: its number. -/
def openGroup (name : Option String) : Read Nat := do
  let reading ← get
  let index := reading.nextGroup
  let names ← match name with
    | none => pure reading.names
    | some name =>
      if let some earlier := reading.names.lookup name then
        fail (.sharedName name index earlier) (name.length + 1)
      pure ((name, index) :: reading.names)
  set { reading with nextGroup := index + 1, names }
  return index

/-- Closes a group. -/
def closeGroup (index : Nat) (body : Regex) : Read Regex := do
  modify fun reading =>
    { reading with widths := (index, body.width reading.widths) :: reading.widths }
  return .group index body

/-- A name of a group, up to the closing character. -/
def readName (closing : Char) : Read String := do
  let chars ← upTo closing "group name"
  let name := String.ofList chars
  unless Unicode.isName chars do fail (.badName name) (chars.length + 1)
  return name

/-- The number of the group with this name, which has just been read with its closing character. -/
def groupNamed (name : String) : Read Nat := do
  match (← get).names.lookup name with
  | some index => return index
  | none => fail (.unknownName name) (name.length + 1)

/-- Conditions know no greater group numbers than the one before this. -/
def groupLimit : Nat := 1073741823

/-- The group that a condition asks for: one with this name, or one with this number, which may
open later. -/
def readCondition : Read Nat := do
  let chars ← upTo ')' "group name"
  let name := String.ofList chars
  let back := chars.length + 1
  let index ←
    if Unicode.isName chars then groupNamed name
    else
      match Text.readPadded? chars with
      | some (.ofNat 0) => fail .groupZero back
      | some (.ofNat index) =>
        if groupLimit ≤ index then fail (.noSuchGroup index) back
        modify fun reading =>
          { reading with asked := reading.asked ++ [(index, reading.offset - back)] }
        pure index
      | _ => fail (.badName name) back
  checkBehind index
  return index

/-! ## Options in a pattern -/

/-- What to say of a lexeme where an option letter or something else has to stand. -/
def notAnOption (expected : String) (lexeme : Lexeme) : Defect :=
  match lexeme with
  | .plain c => if Unicode.isLetter c then .unknownOption else .missing expected
  | .escaped _ => .missing expected

/-- Reads the letters of options to be set, of which the first is given, and the character that
follows them. -/
def readSetting : Nat → Char → Options → Read (Options × Char)
  | 0, _, _ => fail (.missing "-, : or )")
  | fuel + 1, letter, options => do
    let some options := options.set? letter | fail .localOption
    if options.basic && options.full then fail .bothRepertoires
    let some lexeme ← next | fail (.missing "-, : or )")
    match lexeme with
    | .plain c =>
      if c ∈ [')', '-', ':'] then return (options, c)
      if c ∈ optionLetters then return ← readSetting fuel c options
    | .escaped _ => pure ()
    fail (notAnOption "-, : or )" lexeme) lexeme.width

/-- Reads the letters of options to be cleared, of which the first is given, and the colon that
follows them. -/
def readClearing : Nat → Char → Options → Read Options
  | 0, _, _ => fail (.missing ":")
  | fuel + 1, letter, options => do
    let some options := options.set? letter | fail .clearedRepertoire
    if options.basic || options.full then fail .clearedRepertoire
    let some lexeme ← next | fail (.missing ":")
    match lexeme with
    | .plain c =>
      if c = ':' then return options
      if c ∈ optionLetters then return ← readClearing fuel c options
    | .escaped _ => pure ()
    fail (notAnOption ":" lexeme) lexeme.width

/-- The options of a group: for the whole pattern, or set and cleared for what follows. -/
inductive OptionGroup where
  | whole (on : Options)
  | scoped (on off : Options)

/-- Reads the options of a group; their first character is given. -/
def readOptions (c : Char) : Read OptionGroup := do
  let fuel := (← get).rest.length + 1
  let (on, closing) ←
    if c = '-' then pure (({} : Options), c) else readSetting fuel c {}
  if closing = ')' then return .whole on
  if on.rigid then fail (.wholeOption true) 1
  if closing = ':' then return .scoped on {}
  let some lexeme ← next | fail (.missing "flag")
  match lexeme with
  | .plain c =>
    if c ∈ optionLetters then
      let off ← readClearing fuel c {}
      if off.rigid then fail (.wholeOption false) 1
      if on.meets off then fail .setAndCleared 1
      return .scoped on off
  | .escaped _ => pure ()
  fail (notAnOption "flag" lexeme) lexeme.width

/-! ## Expressions -/

/-- What a quantifier that follows has to know about an item. -/
inductive Shape where
  | plain
  | anchor
  | repetition
  deriving DecidableEq

/-- An item of a sequence: a quantifier applies to the whole of it, and without one its parts stand
in the sequence themselves. -/
structure Item where
  /-- The offset where the item starts. -/
  start : Nat
  shape : Shape
  parts : List Regex

/-- An item of one part. -/
def Item.ofPart (start : Nat) (part : Regex) (shape : Shape := .plain) : Item :=
  ⟨start, shape, [part]⟩

/-- The greatest number of rounds is one less. -/
def roundLimit : Nat := 4294967295

/-- A count of rounds. -/
def readCount (digits : List Char) : Read Nat := do
  let count := Text.inBase 10 digits
  if count ≥ roundLimit then throw .countTooLarge
  return count

/-- The bounds between braces, of which the first is used up; without a bound there is none. Where
the braces hold no bounds nothing is used up. -/
def readBounds? : Read (Option (Nat × Option Nat)) := do
  let reading ← get
  if reading.rest.head? = some (.plain '\x7d') then return none
  let low ← runAll Char.isDigit
  let comma ← accept ','
  let high ← if comma then runAll Char.isDigit else pure low
  unless ← accept '\x7d' do
    set reading
    return none
  let least ← if low.isEmpty then pure 0 else readCount low
  if high.isEmpty then return some (least, none)
  let most ← readCount high
  if most < least then failAt .boundsReversed reading.offset
  return some (least, some most)

/-- The bounds of a quantifier that starts with this character, if it is one. -/
def quantifier? : Char → Read (Option (Nat × Option Nat))
  | '?' => pure (some (0, some 1))
  | '*' => pure (some (0, none))
  | '+' => pure (some (1, none))
  | '\x7b' => readBounds?
  | _ => pure none

/-- The last item under a quantifier that starts at the given offset; a further mark makes it prefer
fewer rounds, or keep the rounds that it has once taken. -/
def repeatItem (options : Options) (bounds : Nat × Option Nat) (start : Nat) (item : Option Item) :
    Read Item := do
  let some item := item | failAt .nothingToRepeat start
  if item.shape = .anchor then failAt .nothingToRepeat start
  if item.shape = .repetition then failAt .repeatedTwice start
  let (least, most) := bounds
  let body := ofList item.parts
  let (operator, regex) ← match ← peek with
    | some (.plain '?') => do
      let _ ← next
      pure ("MIN_REPEAT", .rep .fewer least most body)
    | some (.plain '+') => do
      let _ ← next
      pure ("POSSESSIVE_REPEAT", .rep .kept least most body)
    | _ => pure ("MAX_REPEAT", .rep .more least most body)
  if options.rigid then note item.start (.invalid (.noRepetition operator) none)
  return .ofPart item.start regex .repetition

/-- The item that an escape at this offset outside a set stands for. -/
def readEscape (options : Options) (start : Nat) (c : Char) : Read Item := do
  let edge := fun positive =>
    .ofPart start (.anchor (.wordEdge options.repertoire positive)) .anchor
  let letter := fun code => .ofPart start (.one (.single options.folding code))
  match c with
  | 'A' => return .ofPart start (.anchor .textStart) .anchor
  | 'Z' => return .ofPart start (.anchor .textStop) .anchor
  | 'b' => return edge true
  | 'B' => return edge false
  | _ =>
    if let some member := propertyOf? options.repertoire c then
      return .ofPart start (.one (.ofMembers options.folding [member]))
    if let some code := controlCode? c then return letter code
    if c.isDigit then return .ofPart start (← readNumbered options c)
    return letter (← readCode c)

/-- Is this a character that a verbose pattern skips? -/
def isSpacing (c : Char) : Bool := c == ' ' || ('\t' ≤ c && c ≤ '\r')

/-- The widths that cannot be counted back start here. -/
def behindLimit : Nat := 1 <<< 31

/-- An expression that looks behind, which has to have a fixed width; it starts at this offset. -/
def lookBehind (start : Nat) (positive : Bool) (body : Regex) : Read Regex := do
  let width := body.width (← get).widths
  if width.least ≠ width.most || width.least ≥ roundLimit then
    note start (.invalid .widthVaries none)
  return .behind positive width.least body

mutual

/-- Alternatives up to a closing parenthesis or the end. At the top, the options for the whole
pattern may have changed after the first. -/
def readAlternatives : Nat → Options → Bool → Read (List Regex)
  | 0, _, _ => fail .endInGroup
  | fuel + 1, options, top => do
    let first ← readItems fuel options top []
    let whole := (← get).options
    let options := if top then whole else options
    return ofAlternatives options.folding first (← readOthers fuel options)

/-- The alternatives after bars. -/
def readOthers : Nat → Options → Read (List (List Regex))
  | 0, _ => fail .endInGroup
  | fuel + 1, options => do
    unless ← accept '|' do return []
    let first ← readItems fuel options false []
    return first :: (← readOthers fuel options)

/-- Items up to a bar, a closing parenthesis or the end; `items` are those before, latest first.
`opening` says that options for the whole pattern may still be set. -/
def readItems : Nat → Options → Bool → List Item → Read (List Regex)
  | 0, _, _, _ => fail .endInGroup
  | fuel + 1, options, opening, items => do
    let start := (← get).offset
    match ← peek with
    | none | some (.plain '|') | some (.plain ')') => return items.reverse.flatMap Item.parts
    | some (.escaped c) =>
      let _ ← next
      readItems fuel options opening ((← readEscape options start c) :: items)
    | some (.plain c) =>
      let _ ← next
      if options.verbose && isSpacing c then
        return ← readItems fuel options opening items
      if options.verbose && c = '#' then
        let _ ← skipPast '\n' (← get).rest.length
        return ← readItems fuel options opening items
      if let some bounds ← quantifier? c then
        let item ← repeatItem options bounds start items.head?
        return ← readItems fuel options opening (item :: items.tail)
      match c with
      | '(' => readGroup fuel options opening start items
      | '[' =>
        let set ← readSet options start
        readItems fuel options opening (.ofPart start (.one set) :: items)
      | '.' =>
        let set := if options.dotAll then .all else .inLine
        readItems fuel options opening (.ofPart start (.one set) :: items)
      | '^' =>
        let place := if options.multiline then .lineStart else .textStart
        readItems fuel options opening (.ofPart start (.anchor place) .anchor :: items)
      | '$' =>
        let place := if options.multiline then .lineStop else .lastLineStop
        readItems fuel options opening (.ofPart start (.anchor place) .anchor :: items)
      | _ =>
        let literal := .one (.single options.folding c.toNat)
        readItems fuel options opening (.ofPart start literal :: items)

/-- What follows an opening parenthesis at the offset `start`, and the items after the group. -/
def readGroup : Nat → Options → Bool → Nat → List Item → Read (List Regex)
  | 0, _, _, _, _ => fail .endInGroup
  | fuel + 1, options, opening, start, items => do
    let resume := fun item => readItems fuel options opening (item :: items)
    let numbered := fun name => do
      let index ← openGroup name
      let body ← readAlternatives fuel options false
      close start
      resume (.ofPart start (← closeGroup index (ofList body)))
    let inside := fun (build : Regex → Regex) => do
      let body ← readAlternatives fuel options false
      close start
      resume (.ofPart start (build (ofList body)))
    unless ← accept '?' do return ← numbered none
    let some lexeme ← next | fail .endInGroup
    match lexeme with
    | .plain 'P' =>
      let some lexeme ← next | fail .endInGroup
      match lexeme with
      | .plain '<' => numbered (some (← readName '>'))
      | .plain '=' =>
        let name ← readName ')'
        resume (.ofPart start (← readReference options (← groupNamed name) (name.length + 1)))
      | _ => fail (.unknownExtension ("?P" ++ lexeme.text)) (lexeme.width + 2)
    | .plain ':' =>
      let body ← readAlternatives fuel options false
      close start
      resume ⟨start, .plain, body⟩
    | .plain '>' => inside .atomic
    | .plain '#' =>
      unless ← skipPast ')' (← get).rest.length do failAt .openComment start
      readItems fuel options opening items
    | .plain '=' => inside (.ahead true)
    | .plain '!' => inside (.ahead false)
    | .plain '<' =>
      let some lexeme ← next | fail .endInGroup
      unless lexeme = .plain '=' ∨ lexeme = .plain '!' do
        fail (.unknownExtension ("?<" ++ lexeme.text)) (lexeme.width + 2)
      let outer := (← get).behindFrom
      modify fun reading =>
        { reading with behindFrom := some (outer.getD reading.nextGroup) }
      let body ← readAlternatives fuel options false
      modify fun reading => { reading with behindFrom := outer }
      close start
      resume (.ofPart start (← lookBehind start (lexeme = .plain '=') (ofList body)))
    | .plain '(' =>
      let index ← readCondition
      let yes ← readItems fuel options false []
      let no ← if ← accept '|' then readItems fuel options false [] else pure []
      if (← peek) = some (.plain '|') then fail .thirdBranch
      close start
      resume (.ofPart start (.cond index (ofList yes) (ofList no)))
    | .plain c =>
      unless c = '-' ∨ c ∈ optionLetters do
        fail (.unknownExtension ("?" ++ lexeme.text)) (lexeme.width + 1)
      match ← readOptions c with
      | .whole on =>
        unless opening && items.isEmpty do failAt .lateOptions start
        modify fun reading => { reading with options := reading.options.union on }
        readItems fuel (← get).options opening items
      | .scoped on off =>
        let body ← readAlternatives fuel (options.within on off) false
        close start
        resume (.ofPart start (sealed (ofList body)))
    | .escaped _ => fail (.unknownExtension ("?" ++ lexeme.text)) (lexeme.width + 1)

end

/-- Does some part of the expression look behind farther than can be counted? -/
def tooFarBehind : Regex → Bool
  | empty | one _ | anchor _ | backref _ _ => false
  | cat first second | alt first second => first.tooFarBehind || second.tooFarBehind
  | rep _ _ _ body | group _ body | ahead _ body | atomic body => body.tooFarBehind
  | behind _ width body => behindLimit ≤ width || body.tooFarBehind
  | cond _ yes no => yes.tooFarBehind || no.tooFarBehind

/-- The expression of a whole pattern. -/
def readWhole : Read Regex := do
  checkDangling
  let reading ← get
  let parts ← readAlternatives (4 * reading.rest.length + 4) reading.options true
  let regex := ofList parts
  let reading ← get
  if reading.options.basic && reading.options.full then throw .contradictoryRepertoire
  unless reading.rest.isEmpty do fail .unbalanced
  if let some (index, offset) := reading.asked.find? (reading.nextGroup ≤ ·.1) then
    failAt (.noSuchGroup index) offset
  if let some (_, flaw) := reading.flaw then throw flaw
  if regex.tooFarBehind then throw .tooFarBehind
  return regex.guarded reading.widths

/-- The expression that a pattern denotes under the given options. -/
def read (pattern : List Char) (options : Options := {}) : Except PatternError Regex :=
  let (rest, dangling) := Lexeme.split pattern
  match EStateM.run readWhole { rest, dangling, options } with
  | .ok regex _ => .ok regex
  | .error error _ => .error error

end Parlance.Regex
