import Parlance.Lexer
import Parlance.Lexer.Patterns

/-!
# Tokens of PL/0

The kinds of tokens and the lexer. Keywords are written in capitals and are found before names, also
at the beginning of a longer word. The equals sign is a symbol and no comparison, for it also binds
constants.
-/

namespace Parlance.Pl0

/-- A kind of token. -/
inductive Kind where
  | start
  | identifier
  | keyword
  | number
  | comparison
  | symbol
  | stop
  deriving DecidableEq, Repr, Inhabited

namespace Kind

/-- The kind's name. -/
def name : Kind → String
  | start => "BOF"
  | identifier => "IDENT"
  | keyword => "KEYWORD"
  | number => "NUMBER"
  | comparison => "COMPARISON"
  | symbol => "SYMBOL"
  | stop => "EOF"

/-- The value that the kind's name stands for. -/
def value : Kind → String
  | start => "bof"
  | identifier => "ident"
  | keyword => "keyword"
  | number => "number"
  | comparison => "comparison"
  | symbol => "symbol"
  | stop => "eof"

instance : KindText Kind where
  describe := name
  literal kind := s!"<Pl0Kind.{kind.name}: {Text.quote kind.value}>"

end Kind

/-- The words that cannot be names. -/
def keywords : List String :=
  ["BEGIN", "CALL", "CONST", "DO", "END", "IF", "ODD", "PROCEDURE", "THEN", "VAR", "WHILE"]

/-- A rule of the lexer. -/
def lexerRule (pattern : String) (kind : Option Kind) : LexerRule Kind :=
  ⟨pattern, (Regex.read pattern.toList).toOption.getD .empty, kind⟩

/-- The lexer of PL/0. -/
def lexer : Lexer Kind where
  rules :=
    [lexerRule Lexer.Patterns.whitespace none,
      lexerRule ("|".intercalate keywords) (some .keyword),
      lexerRule "[0-9]+" (some .number),
      lexerRule "[a-zA-Z]+" (some .identifier),
      lexerRule r"<=|>=|<|>|\#" (some .comparison),
      lexerRule r"\(|\)|:=|;|\.|,|!|\?|\+|-|\*|/|=" (some .symbol)]
  endKind := .stop
  startKind := some .start

end Parlance.Pl0
