import SyntaxCheck.Fault.Basic
import SyntaxCheck.Token.Basic

/-!
# What is wanted where a token does not fit

* `Expectation`, `Expectation.text` - the tokens that would fit at a place, and their description;
* `Refusal`, `Refusal.fault` - why a token does not fit, and the fault it makes at the token.
-/

namespace SyntaxCheck

/-- The tokens that would fit at a place. -/
inductive Expectation
  /-- Just this keyword or symbol. -/
  | exactly (mark : Mark)
  | openParameters
  | closeParameters
  /-- A field, or the end of the fields. -/
  | field
  | initializer
  | assigned
  /-- The parenthesis that opens the condition after a keyword. -/
  | openCondition (k : Keyword)
  | closeCondition
  | direction
  | closeArguments
  deriving DecidableEq

/-- The tokens that would fit, in words. -/
def Expectation.text : Expectation → String
  | .exactly mark => "'" ++ mark.spelling ++ "'"
  | .openParameters => "'(' after function name"
  | .closeParameters => "')' after parameters"
  | .field => "field declaration or '\x7d'"
  | .initializer => "'=' in variable declaration"
  | .assigned => "'=' in assignment"
  | .openCondition k => "'(' after '" ++ k.spelling ++ "'"
  | .closeCondition => "')' to close condition"
  | .direction => "'upto' or 'downto'"
  | .closeArguments => "')' to close argument list"

/-- Why a token does not fit. -/
inductive Refusal
  | unexpected (expectation : Expectation)
  | noIdentifier
  | noType
  | noExpression
  | noStatement
  | noDefinition
  /-- The input ends inside braces. -/
  | openBraces
  deriving DecidableEq

namespace Refusal

/-- The cause that a refusal of a token makes, from the description of the token. -/
def cause (found : String) : Refusal → GrammarCause
  | .unexpected expectation => .unexpectedToken expectation.text found
  | .noIdentifier => .expectedIdentifier found
  | .noType => .expectedType found
  | .noExpression => .expectedExpression found
  | .noStatement => .expectedStatement found
  | .noDefinition => .unexpectedTopLevel found
  | .openBraces => .unterminatedBlock

/-- The fault that a refusal of a token makes: it lies at the token. -/
def fault (refusal : Refusal) (token : Token) : Fault :=
  ⟨.grammatical (refusal.cause token.describe), token.span⟩

end Refusal

end SyntaxCheck
