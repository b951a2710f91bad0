import SyntaxCheck.Recognizer.Machine

/-!
# Checking a text, once or again

* `Session` - a lexer, the current token once one was fetched, and a record if one is kept;
* `Session.parse` - check a program from the current token on;
* `Session.traced` - keep a record from now on;
* `check`, `trace` - check a whole text, without and with a record.

A session may be asked to check again. It does not go back: it starts from the token where the last
check ended.
-/

namespace SyntaxCheck

/-- What may be checked again: the lexer, the current token once one was fetched, and the record. -/
structure Session where
  lexer : Lexer
  current : Option Token
  record : Option Derivation

/-- The outcome of one check and all that happened, in order. -/
structure Parse where
  outcome : Except Fault Unit
  events : List Event

namespace Session

/-- A session that has not fetched a token. -/
def ofLexer (lexer : Lexer) : Session := ⟨lexer, none, none⟩

/-- The session of a text. -/
def ofString (text : String) : Session := ofLexer (.ofString text)

/-- Keep a record from now on, empty at first. -/
def traced (session : Session) : Session := { session with record := some [] }

/-- The events of a finished run, in order. -/
def finish : Except Fault Unit × Machine → List Event
  | (.ok _, machine) => (.completed machine.current.span :: machine.events).reverse
  | (.error _, machine) => machine.events.reverse

/-- Check a program from a token on, after some events. -/
def parseFrom (session : Session) (lexer : Lexer) (current : Token) (events : List Event) :
    Parse × Session :=
  let finished := (Machine.start lexer current events).run
  let events := finish finished
  (⟨finished.1, events⟩,
    ⟨finished.2.lexer, some finished.2.current, session.record.map (· ++ Event.steps events)⟩)

/-- Check a program from the current token on, or from the first one. -/
def parse (session : Session) : Parse × Session :=
  match session.current with
  | some token => session.parseFrom session.lexer token []
  | none =>
    match session.lexer.advance with
    | (.ok token, lexer) => session.parseFrom lexer token (session.lexer.scanEvents token)
    | (.error fault, lexer) => (⟨.error fault.toFault, []⟩, { session with lexer })

end Session

/-- Whether a text is a program, or the first fault in it. -/
def check (text : String) : Except Fault Unit :=
  (Session.ofString text).parse.1.outcome

/-- The outcome of checking a text, and the record of the check. -/
def trace (text : String) : Except Fault Unit × Derivation :=
  let parsed := (Session.ofString text).traced.parse
  (parsed.1.outcome, parsed.2.record.getD [])

end SyntaxCheck
