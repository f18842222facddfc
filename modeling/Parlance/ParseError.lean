import Parlance.Token

/-!
# Parse errors

Lexical, syntactic and semantic failures have one shape: a place, a message and the offending text.
What sets them apart is their category.
-/

namespace Parlance

/-- What sort of rule a text breaks. -/
inductive ErrorCategory where
  /-- Any rule of the grammar. -/
  | general
  /-- No token starts here. -/
  | lexical
  /-- The token is not one that may stand here. -/
  | unexpectedToken
  /-- The text ends too early. -/
  | unexpectedEnd
  /-- The syntax is right and the meaning is not. -/
  | semantic
  deriving DecidableEq, Repr, Inhabited

namespace ErrorCategory

/-- The category's name. -/
def name : ErrorCategory → String
  | general => "ParseError"
  | lexical => "LexError"
  | unexpectedToken => "UnexpectedToken"
  | unexpectedEnd => "UnexpectedEOF"
  | semantic => "SemanticError"

/-- Every category. -/
def all : List ErrorCategory := [general, lexical, unexpectedToken, unexpectedEnd, semantic]

/-- The category of this name. -/
def named? (name : String) : Option ErrorCategory := all.find? (·.name == name)

/-- The word that stands before "error" in a diagnostic. -/
def label : ErrorCategory → String
  | lexical => "lex"
  | semantic => "semantic"
  | _ => "parse"

end ErrorCategory

/-- A failure at a place in a text. -/
structure ParseError where
  category : ErrorCategory
  position : Position
  message : String
  text : String := ""
  deriving DecidableEq, Repr, Inhabited

namespace ParseError

/-- The failure that blames a token. -/
def ofToken {κ : Type} (category : ErrorCategory) (token : Token κ) (message : String) :
    ParseError :=
  ⟨category, token.position, message, token.text⟩

/-- The place and the message on one line. -/
def describe (error : ParseError) : String := s!"{error.position.describe}: {error.message}"

/-- The message as a diagnostic states it. -/
def headline (error : ParseError) : String := s!"{error.category.label} error: {error.message}"

end ParseError

end Parlance
