import SyntaxCheck.Text.Position

/-!
# Faults

* `LexicalCause`, `GrammarCause` - what is wrong with a lexeme, and with a token where it stands;
* `Cause`, `Located`, `Fault` - either of them, and where it was found;
* `Cause.message`, `Cause.code`, `Cause.phase` - a cause in words, by its stable code, and by the phase
  that found it.
-/

namespace SyntaxCheck

/-- Why no token can be read. -/
inductive LexicalCause
  /-- No token starts with the character. -/
  | unexpectedChar (c : Char)
  /-- The line ends inside a string literal. -/
  | unterminatedString
  /-- The line ends inside a character literal. -/
  | unterminatedChar
  /-- A character literal holds no character or more than one. -/
  | invalidCharLiteral
  /-- The character means nothing after a backslash. -/
  | invalidEscape (c : Char)
  /-- A number runs into something else; the text is all of both. -/
  | malformedNumber (text : String)
  deriving DecidableEq

/-- Why a token cannot stand where it does. `found` describes the token. -/
inductive GrammarCause
  | unexpectedToken (expected found : String)
  | expectedIdentifier (found : String)
  | expectedType (found : String)
  | expectedExpression (found : String)
  | expectedStatement (found : String)
  | unexpectedTopLevel (found : String)
  /-- The input ends inside braces. -/
  | unterminatedBlock
  deriving DecidableEq

/-- Why a text is no program. -/
inductive Cause
  | lexical (cause : LexicalCause)
  | grammatical (cause : GrammarCause)
  deriving DecidableEq

/-- The phase that finds a fault. -/
inductive Phase
  | lexical
  | grammatical
  deriving DecidableEq

/-- A cause and the part of the text to blame. -/
structure Located (α : Type) where
  cause : α
  span : Span
  deriving DecidableEq

/-- A fault of a lexeme. -/
abbrev LexicalFault := Located LexicalCause

/-- A fault of either phase. -/
abbrev Fault := Located Cause

/-- A lexical fault among the others. -/
def LexicalFault.toFault (fault : LexicalFault) : Fault := ⟨.lexical fault.cause, fault.span⟩

namespace LexicalCause

/-- The cause in words. -/
def message : LexicalCause → String
  | .unexpectedChar c => "unexpected character '" ++ String.singleton c ++ "'"
  | .unterminatedString => "unterminated string literal"
  | .unterminatedChar => "unterminated character literal"
  | .invalidCharLiteral => "character literal must contain exactly one character"
  | .invalidEscape c => "invalid escape sequence '\\" ++ String.singleton c ++ "'"
  | .malformedNumber text => "malformed number '" ++ text ++ "'"

/-- The stable code of the cause. -/
def code : LexicalCause → String
  | .unexpectedChar _ => "L0001"
  | .unterminatedString => "L0002"
  | .unterminatedChar => "L0003"
  | .invalidCharLiteral => "L0004"
  | .invalidEscape _ => "L0005"
  | .malformedNumber _ => "L0006"

end LexicalCause

namespace GrammarCause

/-- The cause in words. -/
def message : GrammarCause → String
  | .unexpectedToken expected found => "expected " ++ expected ++ ", found " ++ found
  | .expectedIdentifier found => "expected identifier, found " ++ found
  | .expectedType found => "expected type, found " ++ found
  | .expectedExpression found => "expected expression, found " ++ found
  | .expectedStatement found => "expected statement, found " ++ found
  | .unexpectedTopLevel found => "expected function or type definition, found " ++ found
  | .unterminatedBlock => "unterminated block: expected '\x7d' before end of input"

/-- The stable code of the cause. -/
def code : GrammarCause → String
  | .unexpectedToken .. => "S0001"
  | .expectedIdentifier _ => "S0002"
  | .expectedType _ => "S0003"
  | .expectedExpression _ => "S0004"
  | .expectedStatement _ => "S0005"
  | .unexpectedTopLevel _ => "S0006"
  | .unterminatedBlock => "S0007"

end GrammarCause

namespace Cause

/-- The cause in words. -/
def message : Cause → String
  | .lexical cause => cause.message
  | .grammatical cause => cause.message

/-- The stable code of the cause. -/
def code : Cause → String
  | .lexical cause => cause.code
  | .grammatical cause => cause.code

/-- The phase that finds the cause. -/
def phase : Cause → Phase
  | .lexical _ => .lexical
  | .grammatical _ => .grammatical

end Cause

/-- The name of a phase. -/
def Phase.name : Phase → String
  | .lexical => "lexical"
  | .grammatical => "syntax"

end SyntaxCheck
