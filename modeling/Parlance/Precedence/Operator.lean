import Parlance.Literal
import Parlance.Scanner.Basic

/-!
# Operators

An operator has a precedence, the texts that it is recognised by, and an action that combines its
operands. A smaller precedence binds tighter. The head of an operator is what can be said of it
without its action; it is checked when the operator is defined.
-/

namespace Parlance.Precedence

/-- Where an operator stands; `unplaced` is one that does not say. -/
inductive Fixity where
  | unplaced
  | before
  | between
  | betweenRight
  | after
  deriving DecidableEq, Repr

namespace Fixity

/-- The word that an operator is written with. -/
def word : Fixity → String
  | unplaced => "Operator"
  | before => "Prefix"
  | between => "Infix"
  | betweenRight => "InfixRight"
  | after => "Suffix"

/-- What messages call an operator. -/
def describe : Fixity → String
  | unplaced => "operator"
  | before => "prefix operator"
  | between | betweenRight => "infix operator"
  | after => "suffix operator"

end Fixity

/-- Where an operator stands, how tightly it binds, and the texts that it is recognised by. -/
structure Head where
  fixity : Fixity
  precedence : Int
  symbols : List String
  deriving DecidableEq, Repr

/-- The head as it is written. -/
def Head.literal (head : Head) : String :=
  s!"{head.fixity.word}({head.precedence}, " ++
    ", ".intercalate (head.symbols.map Text.quote) ++ ")"

/-- What is wrong with the definition of operators. -/
inductive DefinitionFault where
  | precedenceNotInteger (fixity : Fixity) (value : Literal)
  | noSymbols (fixity : Fixity) (precedence : Int)
  | badSymbol (fixity : Fixity) (value : Literal)
  /-- Something that is no operator, or one that does not say where it stands. -/
  | notPlaced (shown : String)
  /-- Two operators that would be looked up by the same text. -/
  | ambiguous (symbol : String) (existing added : Head)
  deriving Repr

/-- What the fault says. -/
def DefinitionFault.message : DefinitionFault → String
  | precedenceNotInteger fixity value =>
    s!"{fixity.describe} precedence must be an integer; received {value.describe}"
  | noSymbols fixity precedence =>
    s!"{fixity.describe} at precedence {precedence} must have at least one symbol"
  | badSymbol fixity value =>
    s!"{fixity.describe} symbol must be a nonempty string; received {value.describe}"
  | notPlaced shown => s!"expected Prefix, Infix or Suffix; received {shown}"
  | ambiguous symbol existing added =>
    s!"ambiguous operators for symbol {Text.quote symbol}:\n  {existing.literal}\n  {added.literal}"

/-- The symbol that a value is: a text that is not empty. -/
def readSymbol (fixity : Fixity) : Literal → Except DefinitionFault String
  | .scalar (.text symbol) =>
    if symbol.isEmpty then .error (.badSymbol fixity (.text symbol)) else .ok symbol
  | value => .error (.badSymbol fixity value)

/-- The head that is defined by a precedence and symbols. -/
def Head.define (fixity : Fixity) (precedence : Literal) (symbols : List Literal) :
    Except DefinitionFault Head := do
  match precedence with
  | .scalar (.int precedence) =>
    if symbols.isEmpty then throw (.noSymbols fixity precedence)
    return ⟨fixity, precedence, ← symbols.mapM (readSymbol fixity)⟩
  | value => throw (.precedenceNotInteger fixity value)

/-! ## Actions -/

/-- Which operators an expression admits after its first operand. -/
inductive Limit where
  | all
  | nothing
  /-- Those of at most this precedence. -/
  | upTo (precedence : Int)
  /-- Those of less than this precedence. -/
  | below (precedence : Int)
  deriving DecidableEq, Repr

/-- Does the limit admit operators of this precedence? -/
def Limit.admits (limit : Limit) (precedence : Int) : Bool :=
  match limit with
  | .all => true
  | .nothing => false
  | .upTo most => precedence ≤ most
  | .below bound => precedence < bound

/-- The limit that a number sets. Precedences are integers, so those of at most the number are those
of at most its floor. No precedence is below an infinite negative number, and none is above what is
infinite or no number. -/
def Limit.ofNumber : Scalar → Limit
  | .real (.infinite true) => .nothing
  | .real number => (number.floor?.map .upTo).getD .all
  | value => (value.toInt?.map .upTo).getD .all

variable (γ κ ρ : Type)

/-- The parser as the actions of its operators see it: they may parse further expressions, in any
context and under any limit, once a token has been used up. -/
abbrev Reparse := γ → Limit → Scan κ ρ

/-- The action on one operand, given the context and the symbol. -/
abbrev Unary := Reparse γ κ ρ → γ → String → ρ → Scan κ ρ

/-- The action on two operands, given the context and the symbol. -/
abbrev Binary := Reparse γ κ ρ → γ → String → ρ → ρ → Scan κ ρ

/-- How an expression without operators is parsed, given the context. -/
abbrev Primary := Reparse γ κ ρ → γ → Scan κ ρ

/-- The place of an operator, with its action. -/
inductive Action where
  | before (combine : Unary γ κ ρ)
  | between (rightAssociative : Bool) (combine : Binary γ κ ρ)
  | after (combine : Unary γ κ ρ)

/-- An operator. -/
structure Operator where
  precedence : Int
  symbols : List String
  action : Action γ κ ρ

variable {γ κ ρ}

namespace Operator

/-- Where the operator stands. -/
def fixity (operator : Operator γ κ ρ) : Fixity :=
  match operator.action with
  | .before _ => .before
  | .between false _ => .between
  | .between true _ => .betweenRight
  | .after _ => .after

/-- What can be said of the operator without its action. -/
def head (operator : Operator γ κ ρ) : Head :=
  ⟨operator.fixity, operator.precedence, operator.symbols⟩

end Operator

end Parlance.Precedence
