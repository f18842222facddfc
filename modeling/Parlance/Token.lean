import Parlance.Text.Position
import Parlance.Text.Quoted

/-!
# Tokens

A token is a piece of text with the place where it starts and a kind that the grammar chooses. The
engine only ever compares kinds for equality; `KindText` says how they appear in messages.
-/

namespace Parlance

/-- A type of token kinds that can be shown: `describe` names a kind for readers of a message,
`literal` spells the value out. -/
class KindText (κ : Type) where
  describe : κ → String
  literal : κ → String

/-- A piece of text, where it starts, and what it is. -/
structure Token (κ : Type) where
  position : Position
  kind : κ
  text : String
  deriving DecidableEq, Repr, Inhabited

namespace Token

variable {κ : Type}

/-- The offset just after the token. -/
def stop (token : Token κ) : Int := token.position.offset + token.text.length

/-- The place just after the token. -/
def stopPosition (token : Token κ) : Position := token.position.advance token.text

/-- A token that starts where this one stops. -/
def following (token : Token κ) (kind : κ) (text : String) : Token κ :=
  ⟨token.stopPosition, kind, text⟩

variable [KindText κ]

/-- The token on one line: place, kind and quoted text. -/
def describe (token : Token κ) : String :=
  s!"{token.position.describe}:{KindText.describe token.kind}:{Text.quote token.text}"

/-- The token with all its fields spelled out. -/
def literal (token : Token κ) : String :=
  let place := token.position
  s!"Token(pos={place.offset}, line={place.line}, col={place.column}, " ++
    s!"kind={KindText.literal token.kind}, text={Text.quote token.text})"

end Token

end Parlance
