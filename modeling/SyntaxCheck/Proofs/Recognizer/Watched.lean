import SyntaxCheck.Journal
import SyntaxCheck.Proofs.Recognizer.Lockstep

/-!
# Checks that are watched

A check hands each event to an observer as soon as it happens, and keeps none of them. Whoever watches, the
check is the same one, and what is seen is what a check that is not watched has kept in the end.

* `Machine.onto`, `Machine.step_onto`, `Machine.run_onto` - earlier events do not matter;
* `Machine.watch`, `Machine.watch_eq` - a run with an observer;
* `Session.watch`, `Session.watch_eq` - a check with one;
* `Notes`, `Notes.see` - an observer that writes a record and a journal.
-/

namespace SyntaxCheck

namespace Machine

/-! ### Earlier events -/

/-- The state with earlier events behind its own. -/
def onto (machine : Machine) (earlier : List Event) : Machine :=
  { machine with events := machine.events ++ earlier }

/-- The state without the events that led to it. -/
def quiet (machine : Machine) : Machine := { machine with events := [] }

end Machine

/-- What comes of a decision, with earlier events behind its own. -/
def Progress.onto (earlier : List Event) : Progress → Progress
  | .next machine => .next (machine.onto earlier)
  | .done => .done
  | .failed fault machine => .failed fault (machine.onto earlier)

namespace Machine

variable (machine : Machine) (earlier : List Event)

/-- A step goes on in the same way whatever has happened before. -/
theorem step_onto : (machine.onto earlier).step = machine.step.onto earlier := by
  obtain ⟨lexer, current, tasks, events⟩ := machine
  cases tasks with
  | nil => rfl
  | cons task behind =>
    simp only [step, onto]
    cases task.decide current.terminal with
    | become | enter | note | refuse => rfl
    | take tasks =>
      simp only [carryOut, take]
      cases lexer.advance with
      | mk answer lexer' =>
        cases answer <;> simp [Progress.onto, onto]
    | look tasks =>
      simp only [carryOut, look]
      cases lexer.peek with
      | mk answer lexer' =>
        cases answer <;> simp [Progress.onto, onto]

/-- So does a run. -/
theorem run_onto : (machine.onto earlier).run = (machine.run.1, machine.run.2.onto earlier) := by
  fun_induction run machine with
  | case1 machine machine' progress ih =>
    rw [run_eq, step_onto, progress]
    exact ih
  | case2 machine progress =>
    rw [run_eq, step_onto, progress]
    rfl
  | case3 machine fault left progress =>
    rw [run_eq, step_onto, progress]
    rfl

/-! ### Runs with an observer -/

/-- What stops a run does not add to what has happened. -/
theorem Fails.events_eq {machine left : Machine} {fault : Fault} (h : machine.Fails fault left) :
    left.events = machine.events := by
  cases h <;> rfl

section Watch

variable {σ : Type} (see : σ → Event → σ)

/-- The events that led to a state are handed to an observer, the earliest first. -/
def reveal (machine : Machine) (seen : σ) : σ := machine.events.reverse.foldl see seen

theorem reveal_onto (seen : σ) :
    (machine.onto earlier).reveal see seen = machine.reveal see (earlier.reverse.foldl see seen) := by
  simp [reveal, onto]

/-- Decisions are carried out as in a run. Whatever happened is handed to an observer before the next
decision is made, and then it is forgotten. -/
def watch (machine : Machine) (seen : σ) : Except Fault Unit × Machine × σ :=
  match _progress : machine.quiet.step with
  | .next machine' => watch machine' (machine.reveal see seen)
  | .done => (.ok (), machine.quiet, machine.reveal see seen)
  | .failed fault machine' => (.error fault, machine', machine.reveal see seen)
termination_by (machine.pending, workOf machine.tasks)
decreasing_by
  have nearer := step_nearer _progress
  exact nearer

/-- A run that is watched is the same run, and all its events are seen in order. -/
theorem watch_eq (seen : σ) : machine.watch see seen =
    (machine.run.1, machine.run.2.quiet, machine.run.2.reveal see seen) := by
  -- a step without events is the step with them
  have whole : ∀ machine : Machine, machine.step = machine.quiet.step.onto machine.events := fun machine =>
    step_onto machine.quiet machine.events
  fun_induction watch see machine seen with
  | case1 machine seen machine' progress ih =>
    rw [ih, run_eq machine, whole, progress]
    simp only [Progress.onto, run_onto, reveal_onto]
    rfl
  | case2 machine seen progress =>
    rw [run_eq machine, whole, progress]
    rfl
  | case3 machine seen fault left progress =>
    rw [run_eq machine, whole, progress]
    have none : left.events = [] := (fails_of_step progress).events_eq
    obtain ⟨lexer, current, tasks, events⟩ := left
    subst none
    rfl

end Watch

end Machine

/-! ### Checks with an observer -/

/-- What comes of a check that is watched. -/
structure Watched (σ : Type) where
  outcome : Except Fault Unit
  lexer : Lexer
  current : Option Token
  seen : σ

namespace Session

variable {σ : Type} (see : σ → Event → σ)

/-- Check a program from a token on, after some events, with an observer. -/
def watchFrom (lexer : Lexer) (current : Token) (events : List Event) (seen : σ) : Watched σ :=
  match (Machine.start lexer current events).watch see seen with
  | (.ok _, machine, seen) =>
    ⟨.ok (), machine.lexer, some machine.current, see seen (.completed machine.current.span)⟩
  | (.error fault, machine, seen) => ⟨.error fault, machine.lexer, some machine.current, seen⟩

/-- Check a program with an observer. -/
def watch (session : Session) (seen : σ) : Watched σ :=
  match session.current with
  | some token => watchFrom see session.lexer token [] seen
  | none =>
    match session.lexer.advance with
    | (.ok token, lexer) => watchFrom see lexer token (session.lexer.scanEvents token) seen
    | (.error fault, lexer) => ⟨.error fault.toFault, lexer, none, seen⟩

theorem watchFrom_eq (session : Session) (lexer : Lexer) (current : Token) (events : List Event)
    (seen : σ) : watchFrom see lexer current events seen =
      let parsed := session.parseFrom lexer current events
      ⟨parsed.1.outcome, parsed.2.lexer, parsed.2.current, parsed.1.events.foldl see seen⟩ := by
  rw [watchFrom, Machine.watch_eq]
  unfold parseFrom
  cases (Machine.start lexer current events).run with
  | mk outcome machine => cases outcome <;> simp [finish, Machine.reveal, Machine.quiet]

/-- A check that is watched is the same check, and what happens in it is seen in order. -/
theorem watch_eq (session : Session) (seen : σ) : session.watch see seen =
    ⟨session.parse.1.outcome, session.parse.2.lexer, session.parse.2.current,
      session.parse.1.events.foldl see seen⟩ := by
  unfold watch parse
  cases held : session.current with
  | some token => exact watchFrom_eq see session _ _ _ _
  | none =>
    cases session.lexer.advance with
    | mk answer lexer =>
      cases answer with
      | ok token => exact watchFrom_eq see session _ _ _ _
      | error fault => rfl

end Session

/-! ### Records and journals -/

/-- What is written down while a check goes on: a record, if one is kept, and a journal. -/
structure Notes where
  record : Option Derivation
  entries : List Entry

/-- An event is written down, in the journal only if the detail allows for it. -/
def Notes.see (limit : Detail) (notes : Notes) (event : Event) : Notes where
  record := notes.record.map (· ++ event.step?.toList)
  entries := notes.entries ++ (Option.filter (fun entry => entry.detail.shownAt limit) event.entry?).toList

theorem journal_append (limit : Detail) (a b : List Event) :
    journal limit (a ++ b) = journal limit a ++ journal limit b := by
  simp [journal]

/-- In the end, the record and the journal are those of all events. -/
theorem Notes.foldl_see (limit : Detail) (notes : Notes) (events : List Event) :
    events.foldl (see limit) notes =
      ⟨notes.record.map (· ++ Event.steps events), notes.entries ++ journal limit events⟩ := by
  induction events generalizing notes with
  | nil =>
    obtain ⟨record, entries⟩ := notes
    cases record <;> simp [journal]
  | cons event events ih =>
    have steps : Event.steps (event :: events) = event.step?.toList ++ Event.steps events :=
      Event.steps_append [event] events
    have entries : journal limit (event :: events) =
        (Option.filter (fun entry => entry.detail.shownAt limit) event.entry?).toList ++ journal limit events := by
      rw [← List.singleton_append, journal_append]
      cases found : event.entry? with
      | none => simp [journal, found]
      | some entry =>
        cases shown : entry.detail.shownAt limit <;> simp [journal, found, shown, Option.filter]
    rw [List.foldl_cons, ih, steps, entries]
    obtain ⟨record, entries⟩ := notes
    cases record <;> simp [see]

end SyntaxCheck
