import SyntaxCheck.Fault.Basic
import SyntaxCheck.Text.Search

/-!
# Reports on faults

* `Place`, `Suggestion`, `Report` - where a fault lies, how it may be mended, and all that is known of it;
* `Cause.suggestions` - the mends for the mistakes made most often;
* `Report.ofFault` - the report on a fault in a file;
* `Report.render` - the report on one line.
-/

namespace SyntaxCheck

/-- A line and column of a file. -/
structure Place where
  file : String
  line : Nat
  column : Nat
  deriving DecidableEq

/-- A way to mend a fault, and what to write for it if that is known. -/
structure Suggestion where
  message : String
  replacement : Option String
  deriving DecidableEq

/-- All that is known of a fault. -/
structure Report where
  code : String
  phase : Phase
  message : String
  place : Place
  suggestions : List Suggestion
  deriving DecidableEq

/-! ### Suggestions -/

namespace LexicalCause

/-- The mends for a lexical fault. -/
def suggestions : LexicalCause → List Suggestion
  | .unterminatedString => [⟨"Close the string with '\"' on the same line", some "\""⟩]
  | .unexpectedChar c =>
    if c = '!' then [⟨"Use 'not' for logical negation", some "not"⟩]
    else if c = '&' then [⟨"Use 'and' for logical conjunction", some "and"⟩]
    else if c = '|' then [⟨"Use 'or' for logical disjunction", some "or"⟩]
    else []
  | _ => []

end LexicalCause

namespace GrammarCause

/-- The mends where a token was wanted, found by the description of the token. -/
def suggestionsFor (expected : List Char) : List Suggestion :=
  if holdsPart ['u', 'p', 't', 'o'] expected then
    [⟨"Count upwards with 'upto'", some "upto"⟩, ⟨"Count downwards with 'downto'", some "downto"⟩]
  else if startsWith ['\'', '(', '\''] expected then
    [⟨"Conditions of 'if' and 'elif' must be parenthesized", some "("⟩]
  else []

/-- The mends for a token that does not fit. -/
def suggestions : GrammarCause → List Suggestion
  | .unterminatedBlock => [⟨"Close the block with '\x7d'", some "\x7d"⟩]
  | .unexpectedTopLevel _ => [⟨"Statements must appear inside a function body", none⟩]
  | .unexpectedToken expected _ => suggestionsFor expected.toList
  | _ => []

end GrammarCause

/-- The mends for a fault. -/
def Cause.suggestions : Cause → List Suggestion
  | .lexical cause => cause.suggestions
  | .grammatical cause => cause.suggestions

/-! ### Reports -/

namespace Report

/-- The report on a fault in a file. -/
def ofFault (file : String) (fault : Fault) : Report where
  code := fault.cause.code
  phase := fault.cause.phase
  message := fault.cause.message
  place := ⟨file, fault.span.line, fault.span.column⟩
  suggestions := fault.cause.suggestions

/-- The place, the phase and the message. -/
def render (report : Report) : String :=
  report.place.file ++ ":" ++ toString report.place.line ++ ":" ++ toString report.place.column ++
    ": " ++ report.phase.name ++ " error: " ++ report.message

end Report

end SyntaxCheck
