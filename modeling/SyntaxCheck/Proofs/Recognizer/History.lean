import SyntaxCheck.Proofs.Lexer.Calls
import SyntaxCheck.Proofs.Recognizer.Tracking
import SyntaxCheck.Recognizer.Session

/-!
# Calls of a session

A session is asked to check and to keep a record, in any order and as often as one likes. It is made from
a lexer of which tokens may have been asked already.

* `steps_finish` - what a run leaves in a record;
* `Session.Call`, `Session.after` - what is asked for, and the session after several calls;
* `Session.reached` - the sessions that come about;
* `Session.after_preserves` - what every call keeps holds after any calls;
* `Session.Starts`, `Session.parse_cases` - a check fails to fetch its first token, or it is a run;
* `Session.record_parse` - what a check adds to the record.
-/

namespace SyntaxCheck

/-- A record keeps the entries of a run, however it ended. -/
theorem steps_finish (outcome : Except Fault Unit) (machine : Machine) :
    Event.steps (Session.finish (outcome, machine)) = Event.steps machine.events.reverse := by
  cases outcome with
  | error fault => rfl
  | ok =>
    rw [Session.finish, Event.steps_cons]
    exact List.append_nil _

namespace Session

/-! ### Calls -/

/-- What a session is asked for. -/
inductive Call
  /-- To check a program from the current token on. -/
  | parse
  /-- To keep a record from now on. -/
  | traced
  deriving DecidableEq

/-- The session after a call. -/
def call (session : Session) : Call → Session
  | .parse => session.parse.2
  | .traced => session.traced

/-- The session after several calls. -/
def after (session : Session) (calls : List Call) : Session :=
  calls.foldl call session

/-- The session that comes about from a text by some calls of its lexer and then some of its own. -/
def reached (text : String) (asked : List Lexer.Call) (calls : List Call) : Session :=
  (ofLexer ((Lexer.ofString text).calls asked).2).after calls

theorem after_append (session : Session) (calls later : List Call) :
    session.after (calls ++ later) = (session.after calls).after later :=
  List.foldl_append

/-- What every call keeps holds after any calls. -/
theorem after_preserves {P : Session → Prop} (keeps : ∀ session c, P session → P (session.call c))
    {session : Session} (holds : P session) (calls : List Call) : P (session.after calls) := by
  induction calls generalizing session with
  | nil => exact holds
  | cons c calls ih => exact ih (keeps session c holds)

/-! ### One check -/

/-- The state in which a check begins its run: the current token is there, or it could be fetched. -/
inductive Starts (session : Session) : Machine → Prop
  | again {token : Token} (held : session.current = some token) :
      Starts session (.start session.lexer token [])
  | fetched {token : Token} {lexer : Lexer} (fresh : session.current = none)
      (found : session.lexer.advance = (.ok token, lexer)) :
      Starts session (.start lexer token (session.lexer.scanEvents token))

variable {session : Session} {machine : Machine}

theorem Starts.tasks_eq (h : session.Starts machine) : machine.tasks = [.program] := by
  cases h <;> rfl

/-- Nothing was recorded before the run. -/
theorem Starts.steps_eq (h : session.Starts machine) :
    Event.steps machine.events.reverse = [] := by
  cases h with
  | again => rfl
  | @fetched token => exact Event.steps_scanEvents session.lexer token

/-- A check is a run, unless its first token could not be fetched. -/
theorem parse_cases (session : Session) :
    (∃ machine, session.Starts machine ∧ session.parse =
      (⟨machine.run.1, finish machine.run⟩, ⟨machine.run.2.lexer, some machine.run.2.current,
        session.record.map (· ++ Event.steps (finish machine.run))⟩)) ∨
    ∃ fault lexer, session.current = none ∧ session.lexer.advance = (.error fault, lexer) ∧
      session.parse = (⟨.error fault.toFault, []⟩, { session with lexer }) := by
  unfold parse
  cases held : session.current with
  | some token => exact .inl ⟨_, .again held, rfl⟩
  | none =>
    cases found : session.lexer.advance with
    | mk answer lexer =>
      cases answer with
      | ok token => exact .inl ⟨_, .fetched held found, rfl⟩
      | error fault => exact .inr ⟨fault, lexer, rfl, rfl, rfl⟩

/-- A check adds its entries to the record, if one is kept. -/
theorem record_parse (session : Session) :
    session.parse.2.record = session.record.map (· ++ Event.steps session.parse.1.events) := by
  rcases session.parse_cases with ⟨machine, -, same⟩ | ⟨fault, lexer, -, -, same⟩
  · rw [same]
  · rw [same]
    cases session.record with
    | none => rfl
    | some record => exact congrArg some (List.append_nil record).symm

end Session

end SyntaxCheck
