import SyntaxCheck.Token.Keyword
import SyntaxCheck.Token.Symbol

/-!
# Classes of tokens

* `Mark` - a keyword or a symbol: a token that is spelled in one way only;
* `Terminal` - what the grammar sees of a token: its keyword or symbol, or that it is an identifier, a
  literal of some sort, or the end of the input;
* `Terminal.isKeyword`, `Terminal.isPrimitiveType`, `Terminal.isLiteral`, `Terminal.startsExpression` -
  the sets of terminals that the grammar speaks of;
* `Terminal.category` - the short name that token lists show.
-/

namespace SyntaxCheck

/-- A token that is spelled in one way only. -/
inductive Mark
  | keyword (k : Keyword)
  | symbol (s : Symbol)
  deriving DecidableEq

/-- The characters of a keyword or symbol. -/
def Mark.spelling : Mark → String
  | .keyword k => k.spelling
  | .symbol s => String.ofList s.spelling

/-- The class of a token. -/
inductive Terminal
  | keyword (k : Keyword)
  | symbol (s : Symbol)
  | identifier
  | integer
  | double
  | char
  | string
  | endOfInput
  deriving DecidableEq

namespace Terminal

/-- The terminal is a reserved word. -/
def isKeyword : Terminal → Bool
  | .keyword _ => true
  | _ => false

/-- The terminal names a built-in type that a value can have. -/
def isPrimitiveType : Terminal → Bool
  | .keyword k => k.isPrimitiveType
  | _ => false

/-- The terminal is an operand of one token: a literal, a truth value or `nil`. -/
def isLiteral : Terminal → Bool
  | .integer | .double | .char | .string => true
  | .keyword .true_ | .keyword .false_ | .keyword .nil => true
  | _ => false

/-- An expression may begin with the terminal. -/
def startsExpression : Terminal → Bool
  | .identifier | .symbol .leftParen | .symbol .minus | .keyword .not | .keyword .new => true
  | t => t.isLiteral

/-- The short name of the sort of terminal. -/
def category : Terminal → String
  | .keyword _ => "KEYWORD"
  | .symbol _ => "SYMBOL"
  | .identifier => "IDENT"
  | .integer => "INT"
  | .double => "DOUBLE"
  | .char => "CHAR"
  | .string => "STRING"
  | .endOfInput => "EOF"

end Terminal

/-- The class of the tokens spelled so. -/
def Mark.terminal : Mark → Terminal
  | .keyword k => .keyword k
  | .symbol s => .symbol s

end SyntaxCheck
