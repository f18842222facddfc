import Parlance.Lexer

/-!
# Scanners

A scanner is a stream of tokens with a buffer in front of it. Tokens are pulled from the stream only
when they are looked at, and wait in the buffer until they are consumed. When the stream has ended,
the scanner makes up tokens for the end of the text, placed just after the last token of the stream;
when the stream has failed, looking past its tokens fails in the same way each time.
-/

namespace Parlance

/-- Why an operation on a scanner, or a grammar built on one, fails. -/
inductive Fault where
  | parse (error : ParseError)
  | lexer (fault : LexerFault)
  /-- A look at a token before the current one. -/
  | negativeLookahead (offset : Int)
  /-- A failure that the grammar's own code names. -/
  | raised (name message : String)
  /-- A rule called itself, or went around, without a token used up in between. -/
  | stalled
  deriving Repr

/-- What the failure says. -/
def Fault.message : Fault → String
  | parse error => error.describe
  | lexer fault => fault.message
  | negativeLookahead offset => toString offset
  | raised _ message => message
  | stalled => ""

/-- The failure of the stream of tokens that a lexer makes. -/
def Lexer.Failure.toFault : Lexer.Failure → Fault
  | .unmatched position c =>
    let text := String.singleton c
    .parse ⟨.lexical, position, s!"unexpected character: {Text.quote text}", text⟩
  | .emptyMatch pattern offset stop => .lexer (.emptyMatch pattern offset stop)
  | .reversedGroup => .lexer .reversedGroup

/-- A stream of tokens with a buffer. -/
structure Scanner (κ : Type) where
  /-- The tokens that have been pulled and not consumed. -/
  buffer : List (Token κ) := []
  /-- The tokens that the stream still holds. -/
  pending : List (Token κ)
  /-- How the stream fails after its tokens, if it does not just end. -/
  ending : Option Fault := none
  /-- Has the end of the stream been met? -/
  finished : Bool := false
  /-- The last token pulled; before the first it stands for the beginning of the text. -/
  last : Token κ
  /-- What a token at the end of the text looks like. -/
  endKind : κ
  endText : String := ""
  /-- Are consumed tokens recorded? -/
  tracing : Bool := false
  /-- The tokens recorded, latest first. -/
  consumed : List (Token κ) := []
  /-- The number of tokens of the stream that have not been consumed; it is kept, so that it need not
  be counted for each token. -/
  remaining : Nat := buffer.length + pending.length
  remaining_eq : remaining = buffer.length + pending.length := by rfl
  deriving Repr

/-- An operation on a scanner: a result or a failure, and in either case the scanner after it. -/
abbrev Scan (κ : Type) := EStateM Fault (Scanner κ)

namespace Scanner

variable {κ : Type}

/-- A scanner over given tokens. -/
def ofTokens (tokens : List (Token κ)) (ending : Option Fault) (endKind : κ)
    (endText : String := "") (tracing : Bool := false) : Scanner κ where
  pending := tokens
  ending
  last := ⟨.start, endKind, ""⟩
  endKind
  endText
  tracing

/-- A scanner over the tokens of a text. -/
def ofText (lexer : Lexer κ) (text : String) (tracing : Bool := false) : Scanner κ :=
  let stream := lexer.tokenize text
  ofTokens stream.tokens (stream.failure.map (·.toFault)) lexer.endKind "" tracing

/-- The token for the end of the text, as far as the stream has been pulled. -/
def endToken (scanner : Scanner κ) : Token κ :=
  scanner.last.following scanner.endKind scanner.endText

/-- Pulls tokens until the buffer holds so many or the stream is at its end. -/
def fill (scanner : Scanner κ) (count : Nat) : Scanner κ :=
  let wanted := count - scanner.buffer.length
  let pulled := scanner.pending.take wanted
  { scanner with
    buffer := scanner.buffer ++ pulled
    pending := scanner.pending.drop wanted
    last := pulled.getLast?.getD scanner.last
    finished := scanner.finished || pulled.length < wanted
    remaining_eq := by
      simp only [scanner.remaining_eq, pulled, List.length_append, List.length_take,
        List.length_drop]
      omega }

/-- The token at this offset from the current one. -/
def lookAhead (offset : Int) : Scan κ (Token κ) := do
  if offset < 0 then throw (.negativeLookahead offset)
  modify (·.fill (offset.toNat + 1))
  let scanner ← get
  match scanner.buffer[offset.toNat]?, scanner.ending with
  | some token, _ => return token
  | none, none => return scanner.endToken
  | none, some fault => throw fault

/-- The current token. -/
def current : Scan κ (Token κ) := lookAhead 0

/-- The token that an error is blamed on: the current one, or the last one pulled if the stream has
failed before another. -/
def blamed : Scan κ (Token κ) := do
  modify (·.fill 1)
  let scanner ← get
  match scanner.buffer, scanner.ending with
  | token :: _, _ => return token
  | [], none => return scanner.endToken
  | [], some _ => return scanner.last

/-- An error at the current token; it is made and not thrown. -/
def errorHere (message : String) (category : ErrorCategory := .general) : Scan κ ParseError := do
  return .ofToken category (← blamed) message

/-- Fails at the current token. -/
def fail {α : Type} (message : String) (category : ErrorCategory := .general) : Scan κ α := do
  throw (.parse (← errorHere message category))

variable [DecidableEq κ]

/-- Is the current token the one for the end of the text? -/
def atEnd : Scan κ Bool := do
  let token ← current
  let scanner ← get
  return token.kind = scanner.endKind ∧ token.text = scanner.endText

/-- Takes the current token out of the buffer. -/
def drop (scanner : Scanner κ) : Scanner κ :=
  { scanner with
    buffer := scanner.buffer.tail
    remaining := scanner.remaining - min 1 scanner.buffer.length
    remaining_eq := by
      simp only [scanner.remaining_eq, List.length_tail]
      omega
    consumed := if scanner.tracing then scanner.buffer.head?.toList ++ scanner.consumed
      else scanner.consumed }

/-- Consumes the current token; the one for the end of the text cannot be consumed. -/
def consumeToken : Scan κ (Token κ) := do
  if ← atEnd then fail "read past EOF" .unexpectedEnd
  let token ← current
  modify drop
  return token

/-- Consumes the current token: its text. -/
def consume : Scan κ String := do return (← consumeToken).text

/-- Consumes the current token if its text is the given one. -/
def tryConsume (text : String) : Scan κ Bool := do
  if (← current).text = text then
    let _ ← consume
    return true
  return false

variable [KindText κ]

/-- What messages say of a token that is not the expected one. -/
def received (token : Token κ) : String :=
  s!"received {KindText.describe token.kind} {Text.quote token.text}."

/-- Consumes the current token, which has to be of the given kind: its text. The message is made up
if it is empty. -/
def consumeKind (kind : κ) (message : String := "") : Scan κ String := do
  let token ← current
  if token.kind ≠ kind then
    let message :=
      if message.isEmpty then s!"expected {KindText.describe kind}; {received token}" else message
    fail message .unexpectedToken
  consume

/-- Consumes the current token, which has to have the given text. The message is made up if it is
empty. -/
def consumeText (text : String) (message : String := "") : Scan κ String := do
  unless ← tryConsume text do
    let token ← current
    let message :=
      if message.isEmpty then s!"expected {Text.quote text}; {received token}" else message
    fail message .unexpectedToken
  return text

/-! ## Showing a scanner -/

/-- The scanner in short: the last token pulled and those in the buffer. -/
def literal (scanner : Scanner κ) : String :=
  let buffer := scanner.buffer.map fun token => Text.quote token.describe
  s!"Scanner(last={scanner.last.describe}, buffer=[" ++ ", ".intercalate buffer ++ "])"

/-- The line that records a consumed token. -/
def traceLine (token : Token κ) : String := s!"Scanner consumed: {token.describe}\n"

/-- The record of the consumed tokens, in order. -/
def trace (scanner : Scanner κ) : String :=
  String.join (scanner.consumed.reverse.map traceLine)

end Scanner

end Parlance
