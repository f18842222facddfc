import Parlance.Literal
import Parlance.ParseError
import Parlance.Regex.Match
import Parlance.Regex.Reader

/-!
# Lexers

A lexer is an ordered list of rules, each a pattern with the kind of the tokens that it makes or
none for text to be skipped. At each offset the rules are tried in order and the first that matches
wins; there is no search for the longest match, so a rule for a keyword has to stand before a rule
for names.

A lexer is defined from rules as a grammar author writes them, and the definition is checked rule by
rule. `Lexer.tokenize` splits a text into tokens up to its end, or up to the place where that fails.
-/

namespace Parlance

/-- A pattern as it is written in the definition of a lexer. -/
inductive Pattern where
  /-- The text of a regular expression, still to be read. -/
  | written (text : String)
  /-- An expression that has been read from its text before. -/
  | ready (text : String) (regex : Regex)
  /-- Some other value, which is no pattern. -/
  | other (value : Literal)

/-- What is wrong with the definition of a lexer. -/
inductive LexerFault where
  /-- A letter that names no option. -/
  | unknownOption (letter : Char)
  /-- There is no rule. -/
  | noRules
  /-- Options were given, and the expression of this rule has been read without them. -/
  | optionsTooLate (rule : Nat) (pattern : String)
  | invalidPattern (rule : Nat) (pattern : String)
  | notAPattern (rule : Nat) (value : Literal)
  | acceptsEmpty (rule : Nat) (pattern : String)
  /-- A pattern that breaks no rule and still cannot be used. -/
  | unreadable (pattern : String) (error : Regex.PatternError)
  /-- The pattern matched nothing at this offset of a text; its match ends at `stop`. -/
  | emptyMatch (pattern : String) (offset stop : Nat)
  /-- A group of a match ends before it begins. -/
  | reversedGroup
  deriving Repr

/-- What the fault says. -/
def LexerFault.message : LexerFault → String
  | unknownOption letter => s!"invalid global regex flag: {letter}"
  | noRules => "Tokenizer instance must define at least one rule"
  | optionsTooLate rule pattern =>
    s!"rule {rule} pattern is precompiled; global flags cannot be applied: {Text.quote pattern}"
  | invalidPattern rule pattern => s!"rule {rule} pattern is invalid: {Text.quote pattern}"
  | notAPattern rule value =>
    s!"rule {rule} pattern must be a string or compiled regex; found {value.describe}"
  | acceptsEmpty rule pattern =>
    s!"rule {rule} pattern matches the empty string: {Text.quote pattern}"
  | unreadable pattern error => error.message pattern.toList
  | emptyMatch pattern offset stop =>
    s!"Zero-length patterns are disallowed.\n  pattern: {Text.quote pattern}; " ++
      s!"match: <re.Match object; span=({offset}, {stop}), match=''>"
  | reversedGroup =>
    "The span of capturing group is wrong, please report a bug for the re module."

/-- A rule: the text and the expression of its pattern, and the kind of its tokens, or none if they
are skipped. -/
structure LexerRule (κ : Type) where
  pattern : String
  regex : Regex
  kind : Option κ
  deriving Repr

/-- An ordered list of rules, the kind of the token at the end of every text, and the kind of the
token at its beginning, if there is to be one. -/
structure Lexer (κ : Type) where
  rules : List (LexerRule κ)
  endKind : κ
  startKind : Option κ := none
  deriving Repr

namespace Lexer

variable {κ : Type}

/-! ## Definition -/

/-- The letters that name options of patterns. -/
def optionLetters : List Char := ['a', 'i', 'L', 'm', 's', 'u', 'x']

/-- Writes the options in front of a pattern. -/
def withOptions (options pattern : String) : String :=
  if options.isEmpty then pattern else s!"(?{options}){pattern}"

/-- Reads the pattern of the rule with this number: its text and its expression. -/
def readPattern (options : String) (rule : Nat) (pattern : Pattern) :
    Except LexerFault (String × Regex) := do
  match pattern with
  | .ready text regex =>
    unless options.isEmpty do throw (.optionsTooLate rule text)
    return (text, regex)
  | .written text =>
    let full := withOptions options text
    match Regex.read full.toList with
    | .ok regex => return (full, regex)
    | .error (.invalid _ _) => throw (.invalidPattern rule text)
    | .error error => throw (.unreadable full error)
  | .other value => throw (.notAPattern rule value)

/-- Checks the rules in order, from the one with this number on. -/
def readRules (options : String) :
    Nat → List (Pattern × Option κ) → Except LexerFault (List (LexerRule κ))
  | _, [] => return []
  | rule, (pattern, kind) :: rest => do
    let (text, regex) ← readPattern options rule pattern
    if regex.acceptsEmpty then throw (.acceptsEmpty rule text)
    return ⟨text, regex, kind⟩ :: (← readRules options (rule + 1) rest)

/-- The lexer that is defined by rules and by options for all patterns. -/
def define (rules : List (Pattern × Option κ)) (endKind : κ) (startKind : Option κ := none)
    (options : String := "") : Except LexerFault (Lexer κ) := do
  if let some letter := options.toList.find? (· ∉ optionLetters) then
    throw (.unknownOption letter)
  if rules.isEmpty then throw .noRules
  return ⟨← readRules options 0 rules, endKind, startKind⟩

/-- The lexer in short: how many rules it has, and its kinds for the ends of a text. -/
def literal [KindText κ] (lexer : Lexer κ) : String :=
  let start := (lexer.startKind.map KindText.literal).getD "None"
  s!"Tokenizer(<{lexer.rules.length} rules>, eof_kind={KindText.literal lexer.endKind}, " ++
    s!"bof_kind={start})"

/-- The same lexer with other kinds. -/
def mapKind {ι : Type} (f : κ → ι) (lexer : Lexer κ) : Lexer ι where
  rules := lexer.rules.map fun rule => ⟨rule.pattern, rule.regex, rule.kind.map f⟩
  endKind := f lexer.endKind
  startKind := lexer.startKind.map f

/-! ## Splitting a text -/

/-- Why a text could not be split up to its end. -/
inductive Failure where
  /-- No rule matches. -/
  | unmatched (position : Position) (c : Char)
  /-- The match of the first rule that matches takes nothing, because it ends at its beginning or
  before it. -/
  | emptyMatch (pattern : String) (offset stop : Nat)
  /-- A group of the match of the first rule that matches ends before it begins. -/
  | reversedGroup
  deriving DecidableEq, Repr

/-- The tokens of a text in order, and why there are no more if it was not split up to its end. -/
structure Stream (κ : Type) where
  tokens : List (Token κ)
  failure : Option Failure := none
  deriving Repr

/-- The stream with one more token in front. -/
def Stream.cons (token : Token κ) (stream : Stream κ) : Stream κ :=
  { stream with tokens := token :: stream.tokens }

/-- The first rule that matches here, with its match. -/
def firstMatch (rules : List (LexerRule κ)) (cursor : Regex.Cursor) :
    Option (LexerRule κ × Regex.Match) :=
  rules.findSome? fun rule => (rule.regex.match? cursor).map (rule, ·)

/-- The tokens from a place on; the position and the cursor are of the same place. -/
def tokensFrom (lexer : Lexer κ) (position : Position) (cursor : Regex.Cursor) : Stream κ :=
  match _h : cursor.after with
  | [] => ⟨[⟨position, lexer.endKind, ""⟩], none⟩
  | c :: _ =>
    match firstMatch lexer.rules cursor with
    | none => ⟨[], some (.unmatched position c)⟩
    | some (rule, found) =>
      if found.isReversed then ⟨[], some .reversedGroup⟩
      else
        match found.stop.offset - cursor.offset with
        | 0 => ⟨[], some (.emptyMatch rule.pattern cursor.offset found.stop.offset)⟩
        | length + 1 =>
          let piece := cursor.after.take (length + 1)
          let rest :=
            tokensFrom lexer (position.advanceChars piece) (cursor.forward (length + 1))
          match rule.kind with
          | none => rest
          | some kind => rest.cons ⟨position, kind, String.ofList piece⟩
termination_by cursor.after.length
decreasing_by
  simp only [Regex.Cursor.length_after_forward, _h, List.length_cons]
  omega

/-- The tokens of a text: the one for its beginning if there is to be one, those of its pieces, and
the one for its end. -/
def tokenize (lexer : Lexer κ) (text : String) : Stream κ :=
  let stream := lexer.tokensFrom .start (.atStart text.toList)
  match lexer.startKind with
  | none => stream
  | some kind => stream.cons ⟨.start, kind, ""⟩

end Lexer

end Parlance
