import Parlance.Pl0.Parser

/-!
# The grammar of PL/0

What it means that a tree is derived from the beginning of a list of tokens. Every relation here
takes the tokens from some place on, the tree, and the tokens that are left after it, so that a rule
of the grammar is a chain of such steps. A quoted terminal is a token with that text, a name or a
number is a token of that kind. Whether names are declared plays no part.

The rules of expressions are left-recursive: operators of one precedence group to the left, products
bind tighter than sums, and signs, of which there may be any number, bind tightest.
-/

namespace Parlance.Pl0

/-- The tokens from some place on. -/
abbrev Tokens := List (Token Kind)

/-- The three kinds of expressions, by what they are put together with. -/
inductive Level where
  | factor
  | term
  | expression
  deriving DecidableEq, Repr

/-- An expression of a level is derived. -/
inductive Expr.Derives : Level → Tokens → Expr → Tokens → Prop where
  | number {token rest} : token.kind = .number →
      Derives .factor (token :: rest) (.number (numberValue token.text)) rest
  | name {token rest} : token.kind = .identifier →
      Derives .factor (token :: rest) (.symbol token.text) rest
  | group {opening inside value closing rest} : opening.text = "(" →
      Derives .expression inside value (closing :: rest) → closing.text = ")" →
      Derives .factor (opening :: inside) value rest
  | plus {symbol inside value rest} : symbol.text = "+" →
      Derives .factor inside value rest → Derives .factor (symbol :: inside) value rest
  | minus {symbol inside value rest} : symbol.text = "-" →
      Derives .factor inside value rest → Derives .factor (symbol :: inside) (.negate value) rest
  | factor {start value rest} :
      Derives .factor start value rest → Derives .term start value rest
  | product {start left operator second right rest} :
      Derives .term start left (operator :: second) → operator.text ∈ ["*", "/"] →
      Derives .factor second right rest →
      Derives .term start (.binary operator.text left right) rest
  | term {start value rest} :
      Derives .term start value rest → Derives .expression start value rest
  | sum {start left operator second right rest} :
      Derives .expression start left (operator :: second) → operator.text ∈ ["+", "-"] →
      Derives .term second right rest →
      Derives .expression start (.binary operator.text left right) rest

/-- A condition is derived. -/
inductive Condition.Derives : Tokens → Condition → Tokens → Prop where
  | odd {keyword start value rest} : keyword.text = "ODD" →
      Expr.Derives .expression start value rest → Derives (keyword :: start) (.odd value) rest
  | relation {start left operator second right rest} :
      Expr.Derives .expression start left (operator :: second) → operator.text ∈ relations →
      Expr.Derives .expression second right rest →
      Derives start (.relation operator.text left right) rest

/-- Items are derived one after the other, with a separator between them. -/
inductive Separated {α : Type} (separator : String) (item : Tokens → α → Tokens → Prop) :
    Tokens → List α → Tokens → Prop where
  | one {start value rest} : item start value rest → Separated separator item start [value] rest
  | more {start value between second others rest} :
      item start value (between :: second) → between.text = separator →
      Separated separator item second others rest →
      Separated separator item start (value :: others) rest

/-- A statement is derived. -/
inductive Statement.Derives : Tokens → Statement → Tokens → Prop where
  | assign {name becomes start value rest} : name.kind = .identifier → becomes.text = ":=" →
      Expr.Derives .expression start value rest →
      Derives (name :: becomes :: start) (.assign name.text value) rest
  | call {keyword name rest} : keyword.text = "CALL" → name.kind = .identifier →
      Derives (keyword :: name :: rest) (.call name.text) rest
  | read {keyword name rest} : keyword.text = "?" → name.kind = .identifier →
      Derives (keyword :: name :: rest) (.read name.text) rest
  | write {keyword start value rest} : keyword.text = "!" →
      Expr.Derives .expression start value rest → Derives (keyword :: start) (.write value) rest
  | sequence {opening start statements closing rest} : opening.text = "BEGIN" →
      Separated ";" Derives start statements (closing :: rest) → closing.text = "END" →
      Derives (opening :: start) (.sequence statements) rest
  | ifThen {keyword start test between second body rest} : keyword.text = "IF" →
      Condition.Derives start test (between :: second) → between.text = "THEN" →
      Derives second body rest → Derives (keyword :: start) (.ifThen test body) rest
  | whileDo {keyword start test between second body rest} : keyword.text = "WHILE" →
      Condition.Derives start test (between :: second) → between.text = "DO" →
      Derives second body rest → Derives (keyword :: start) (.whileDo test body) rest
  | empty {rest} : Derives rest .empty rest

/-- The declaration of a constant is derived. -/
inductive ConstantDerives : Tokens → String × Int → Tokens → Prop where
  | intro {name binds value rest} : name.kind = .identifier → binds.text = "=" →
      value.kind = .number →
      ConstantDerives (name :: binds :: value :: rest) (name.text, numberValue value.text) rest

/-- The declaration of a variable is derived. -/
inductive VariableDerives : Tokens → String → Tokens → Prop where
  | intro {name rest} : name.kind = .identifier → VariableDerives (name :: rest) name.text rest

/-- A section of declarations is derived; it may be left out. -/
inductive Section {α : Type} (keyword : String) (item : Tokens → α → Tokens → Prop) :
    Tokens → List α → Tokens → Prop where
  | absent {rest} : Section keyword item rest [] rest
  | present {opening start items closing rest} : opening.text = keyword →
      Separated "," item start items (closing :: rest) → closing.text = ";" →
      Section keyword item (opening :: start) items rest

mutual

/-- A block is derived. -/
inductive Block.Derives : Tokens → Block → Tokens → Prop where
  | intro {start constants second names third procedures fourth statement rest} :
      Section "CONST" ConstantDerives start constants second →
      Section "VAR" VariableDerives second names third →
      ProceduresDerive third procedures fourth → Statement.Derives fourth statement rest →
      Block.Derives start ⟨constants, names, procedures, statement⟩ rest

/-- The declaration of a procedure is derived, from its name on. -/
inductive ProcedureDerives : Tokens → String × Block → Tokens → Prop where
  | intro {name opening start body closing rest} : name.kind = .identifier → opening.text = ";" →
      Block.Derives start body (closing :: rest) → closing.text = ";" →
      ProcedureDerives (name :: opening :: start) (name.text, body) rest

/-- The declarations of procedures are derived. -/
inductive ProceduresDerive : Tokens → List (String × Block) → Tokens → Prop where
  | none {rest} : ProceduresDerive rest [] rest
  | more {keyword start procedure second others rest} : keyword.text = "PROCEDURE" →
      ProcedureDerives start procedure second → ProceduresDerive second others rest →
      ProceduresDerive (keyword :: start) (procedure :: others) rest

end

/-- The tokens are a sentence of the language, and the tree of its derivation has this block. -/
def SentenceDerives (sentence : Tokens) (body : Block) : Prop :=
  ∃ closing, Block.Derives sentence body [closing] ∧ closing.text = "."

end Parlance.Pl0
