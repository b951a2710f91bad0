import SyntaxCheck.Recognizer.Session

/-!
# The journal of a check

* `Detail` - how much the journal tells;
* `Event.entry?` - what it says of an event, and from which detail on;
* `journal` - its entries about a run;
* `tokenizeEvents` - the events of listing the tokens of a text.
-/

namespace SyntaxCheck

/-- How much a journal tells, from the least to the most. -/
inductive Detail
  | info | debug | trace
  deriving DecidableEq

namespace Detail

/-- The rank of a detail. -/
def rank : Detail → Nat
  | .info => 0
  | .debug => 1
  | .trace => 2

/-- A journal of the second detail shows the entries of the first. -/
def shownAt (entry limit : Detail) : Bool := entry.rank ≤ limit.rank

/-- The name of a detail. -/
def name : Detail → String
  | .info => "INFO"
  | .debug => "DEBUG"
  | .trace => "TRACE"

end Detail

/-- An entry of a journal. -/
structure Entry where
  detail : Detail
  message : String
  deriving DecidableEq

/-- What a program defines, in words. -/
def DefinitionSort.name : DefinitionSort → String
  | .function => "function"
  | .type => "type"

/-- What a journal says of an event. The end of the input and the parts of expressions pass in
silence. -/
def Event.entry? : Event → Option Entry
  | .scanned token =>
    if token.isEndOfInput then none
    else some ⟨.trace, "lexed " ++ token.kind.render ++ " at " ++ token.span.place⟩
  | .entered rule span => some ⟨.trace, "enter " ++ rule.name ++ " at " ++ span.place⟩
  | .defined sort name =>
    some ⟨.debug, sort.name ++ " '" ++ name.lexeme ++ "' at " ++ name.span.place⟩
  | .grouped _ => none
  | .completed span => some ⟨.debug, "parse complete at " ++ span.place⟩

/-- The entries about a run, at a detail. -/
def journal (detail : Detail) (events : List Event) : List Entry :=
  (events.filterMap Event.entry?).filter fun entry => entry.detail.shownAt detail

/-- The events of listing the tokens of a text. -/
def tokenizeEvents (text : String) : List Event :=
  (Lexer.ofString text).drain.tokens.map .scanned

end SyntaxCheck
