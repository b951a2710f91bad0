import SyntaxCheck.Proofs.Lexer.Progress
import SyntaxCheck.Proofs.Recognizer.History
import SyntaxCheck.Proofs.Recognizer.Language

/-!
# Checks of a stream

A stream of tokens and faults can be checked without a lexer: the token that is looked at is just the next
one of the stream, and nothing is shown, held or handed out. A session checks the stream of what is
pending: its current token, the token that its lexer shows, and then what will be scanned.

* `Outcomes`, `Outcomes.step` - a stream, and one decision about it;
* `Outcomes.Checks` - the entries and the outcome of a check, and the place that settled it;
* `Machine.Stands` - the machine stands at a place of the stream; every step keeps it there;
* `Session.pending`, `Outcomes.held` - what a session has still to check, and the current token that a
  check leaves;
* `Session.checks_pending` - a check of a session is one of what is pending;
* `Session.parse_ok_iff` - it accepts just the programs.
-/

namespace SyntaxCheck

/-- A stream of tokens and faults. -/
abbrev Outcomes := Nat → Except LexicalFault Token

/-- What comes of one decision about a stream. -/
inductive Advance
  /-- Some entries are recorded, and the check goes on from a place with other tasks. -/
  | goesOn (entries : Derivation) (place : Nat) (tasks : List Task)
  /-- The token or fault at a place has settled the outcome. -/
  | settled (outcome : Except Fault Unit) (place : Nat)

namespace Outcomes

/-- One decision about the stream, with the token at a place as the current one. A fault at the place, or
behind it where that is looked at, is the outcome. -/
def step (stream : Outcomes) (place : Nat) (tasks : List Task) : Advance :=
  match stream place with
  | .error fault => .settled (.error fault.toFault) place
  | .ok current =>
    match tasks with
    | [] => .settled (.ok ()) place
    | task :: behind =>
      match task.decide current.terminal with
      | .become tasks => .goesOn [] place (tasks ++ behind)
      | .enter rule tasks => .goesOn [.enter rule] place (tasks ++ behind)
      | .take tasks => .goesOn [] (place + 1) (tasks current ++ behind)
      | .look tasks =>
        match stream (place + 1) with
        | .ok next => .goesOn [] place (tasks next.terminal ++ behind)
        | .error fault => .settled (.error fault.toFault) (place + 1)
      | .note event => .goesOn event.step?.toList place behind
      | .refuse refusal => .settled (.error (refusal.fault current)) place

/-- A check of the stream from a place on, with tasks to be done: the entries that it records, its outcome,
and the place of the token or fault that has settled it. -/
inductive Checks (stream : Outcomes) :
    Nat → List Task → Derivation → Except Fault Unit → Nat → Prop
  | settled {place last : Nat} {tasks : List Task} {outcome : Except Fault Unit}
      (found : stream.step place tasks = .settled outcome last) :
      Checks stream place tasks [] outcome last
  | goesOn {place place' last : Nat} {tasks tasks' : List Task} {entries later : Derivation}
      {outcome : Except Fault Unit} (found : stream.step place tasks = .goesOn entries place' tasks')
      (others : Checks stream place' tasks' later outcome last) :
      Checks stream place tasks (entries ++ later) outcome last

variable {stream : Outcomes} {place last : Nat} {tasks : List Task} {entries : Derivation}
  {outcome : Except Fault Unit}

/-- A stream is checked in one way. -/
theorem Checks.unique {entries' : Derivation} {outcome' : Except Fault Unit} {last' : Nat}
    (h : stream.Checks place tasks entries outcome last)
    (h' : stream.Checks place tasks entries' outcome' last') :
    entries = entries' ∧ outcome = outcome' ∧ last = last' := by
  induction h generalizing entries' with
  | settled found =>
    cases h' with
    | settled found' =>
      rw [found] at found'
      cases found'
      exact ⟨rfl, rfl, rfl⟩
    | goesOn found' => cases found.symm.trans found'
  | goesOn found _ ih =>
    cases h' with
    | settled found' => cases found.symm.trans found'
    | goesOn found' others' =>
      rw [found] at found'
      cases found'
      obtain ⟨rfl, same⟩ := ih others'
      exact ⟨rfl, same⟩

end Outcomes

/-! ### A machine in a stream -/

namespace Machine

variable {stream : Outcomes} {place last : Nat} {machine machine' : Machine} {fault : Fault}

/-- The current token is at a place of the stream, and the lexer hands out what is behind it. -/
structure Stands (stream : Outcomes) (place : Nat) (machine : Machine) : Prop where
  here : stream place = .ok machine.current
  behind : ∀ n, machine.lexer.outcome n = stream (place + 1 + n)

/-- The outcome was settled at the place: by the current token, or by a fault right behind it. The lexer
hands out what is behind the place. -/
inductive StopsAt (stream : Outcomes) : Nat → Machine → Prop
  | token {place : Nat} {machine : Machine} (stands : machine.Stands stream place) :
      StopsAt stream place machine
  | fault {place : Nat} {machine : Machine} {fault : LexicalFault}
      (here : stream place = .ok machine.current) (found : stream (place + 1) = .error fault)
      (behind : ∀ n, machine.lexer.outcome n = stream (place + 1 + 1 + n)) :
      StopsAt stream (place + 1) machine

namespace Stands

variable {lexer : Lexer} {token : Token} {fault : LexicalFault}

theorem next (h : machine.Stands stream place) (answer : Except LexicalFault Token)
    (next : machine.lexer.advance = (answer, lexer)) : stream (place + 1) = answer := by
  rw [← Nat.add_zero (place + 1), ← h.behind]
  exact congrArg Prod.fst next

/-- What is handed out behind the next token or fault. -/
theorem behind_advance (h : machine.Stands stream place) {answer : Except LexicalFault Token}
    (next : machine.lexer.advance = (answer, lexer)) (n : Nat) :
    lexer.outcome n = stream (place + 1 + 1 + n) := by
  have later := h.behind (n + 1)
  rw [Lexer.outcome_succ, next] at later
  rw [later]
  congr 1
  omega

theorem stopsAt_of_missing (h : machine.Stands stream place)
    (missing : machine.lexer.advance = (.error fault, lexer)) :
    StopsAt stream (place + 1) { machine with lexer } :=
  .fault h.here (h.next _ missing) (h.behind_advance missing)

/-- A step of the machine is one decision about the stream. -/
theorem moves (h : machine.Stands stream place) (moved : machine.Moves machine') :
    ∃ entries place', stream.step place machine.tasks = .goesOn entries place' machine'.tasks ∧
      machine'.Stands stream place' ∧
      Event.steps machine'.events.reverse = Event.steps machine.events.reverse ++ entries := by
  cases moved with
  | become top decided =>
    refine ⟨[], place, ?_, ⟨h.here, h.behind⟩, (List.append_nil _).symm⟩
    simp only [Outcomes.step, h.here, top, decided]
  | @enter task behind tasks rule top decided =>
    refine ⟨[.enter rule], place, ?_, ⟨h.here, h.behind⟩, Event.steps_cons _ _⟩
    simp only [Outcomes.step, h.here, top, decided]
  | @take task behind tasks token lexer top decided fetched =>
    refine ⟨[], place + 1, ?_, ⟨h.next _ fetched, h.behind_advance fetched⟩, ?_⟩
    · simp only [Outcomes.step, h.here, top, decided]
    · rw [Event.steps_scanned, List.append_nil]
  | @look task behind tasks token lexer top decided shown =>
    obtain ⟨-, next, same⟩ := Lexer.peek_ok shown
    refine ⟨[], place, ?_, ⟨h.here, ?_⟩, ?_⟩
    · have found := h.next _ (Prod.ext next rfl)
      simp only [Outcomes.step, h.here, top, decided, found]
    · rw [Lexer.outcome_congr same]
      exact h.behind
    · rw [Event.steps_scanned, List.append_nil]
  | @note task behind event top decided =>
    refine ⟨event.step?.toList, place, ?_, ⟨h.here, h.behind⟩, Event.steps_cons _ _⟩
    simp only [Outcomes.step, h.here, top, decided]

/-- A step that fails ends the check of the stream. -/
theorem fails {fault : Fault} {left : Machine} (h : machine.Stands stream place)
    (failed : machine.Fails fault left) :
    ∃ last, stream.Checks place machine.tasks [] (.error fault) last ∧ left.StopsAt stream last ∧
      left.events = machine.events := by
  cases failed with
  | refuse top decided =>
    refine ⟨place, .settled ?_, .token h, rfl⟩
    simp only [Outcomes.step, h.here, top, decided]
  | @take task behind tasks fault lexer top decided missing =>
    -- the stream is gone on with, and there is the fault
    have there : stream.step (place + 1) (tasks machine.current ++ behind) =
        .settled (.error fault.toFault) (place + 1) := by
      simp only [Outcomes.step, h.next _ missing]
    have here : stream.step place machine.tasks =
        .goesOn [] (place + 1) (tasks machine.current ++ behind) := by
      simp only [Outcomes.step, h.here, top, decided]
    exact ⟨place + 1, .goesOn here (.settled there), h.stopsAt_of_missing missing, rfl⟩
  | look top decided missing =>
    have missing := Lexer.peek_error missing
    refine ⟨place + 1, .settled ?_, h.stopsAt_of_missing missing, rfl⟩
    simp only [Outcomes.step, h.here, top, decided, h.next _ missing]

/-- A run of the machine is a check of the stream. -/
theorem run (h : machine.Stands stream place) :
    ∃ entries last, stream.Checks place machine.tasks entries machine.run.1 last ∧
      machine.run.2.StopsAt stream last ∧
      Event.steps machine.run.2.events.reverse = Event.steps machine.events.reverse ++ entries := by
  fun_induction Machine.run machine generalizing place with
  | case1 machine machine' progress ih =>
    obtain ⟨entries, place', step_eq, stands, recorded⟩ := h.moves (moves_of_step progress)
    obtain ⟨later, last, checks, stops, recorded'⟩ := ih stands
    refine ⟨entries ++ later, last, .goesOn step_eq checks, stops, ?_⟩
    rw [recorded', recorded, List.append_assoc]
  | case2 machine progress =>
    refine ⟨[], place, .settled ?_, .token h, (List.append_nil _).symm⟩
    simp only [Outcomes.step, h.here, tasks_of_step progress]
  | case3 machine fault left progress =>
    obtain ⟨last, checks, stops, same⟩ := h.fails (fails_of_step progress)
    refine ⟨[], last, checks, stops, ?_⟩
    rw [same, List.append_nil]

/-- The tokens from the current one to the end of the input, or the fault in front of it, are those of
the stream. -/
theorem collects (h : machine.Stands stream place) :
    ∃ n, Collects stream place
      (match machine.ending with
        | some fault => .error fault
        | none => .ok machine.input) n := by
  unfold ending input ahead
  cases ended : machine.current.isEndOfInput with
  | true => exact ⟨place + 1, .ended h.here ended⟩
  | false =>
    obtain ⟨n, collected, -⟩ := Lexer.collects_tokenize machine.lexer 0
    have same : ∀ n, machine.lexer.outcome (0 + n) = stream (place + 1 + n) := by
      intro n
      rw [Nat.zero_add, h.behind]
    obtain ⟨n', collected⟩ := collected.shift same
    have whole := Collects.more h.here ended collected
    refine ⟨n', ?_⟩
    rw [Lexer.tokenize] at whole
    revert whole
    dsimp only [Lexer.advanced]
    cases machine.lexer.drain.fault <;> exact id

end Stands

end Machine

/-! ### What is pending -/

namespace Outcomes

/-- A stream behind a token, if there is one. -/
def led (current : Option Token) (later : Outcomes) : Outcomes :=
  match current with
  | none => later
  | some token => fun
    | 0 => .ok token
    | n + 1 => later n

/-- The current token when the outcome is settled at a place: the token there, or the one before if a fault
is there. -/
def held (stream : Outcomes) (last : Nat) : Option Token :=
  match stream last, last with
  | .ok token, _ => some token
  | .error _, 0 => none
  | .error _, place + 1 => (stream place).toOption

variable {stream : Outcomes} {last : Nat}

theorem held_of_ok {token : Token} (found : stream last = .ok token) :
    stream.held last = some token := by
  unfold held
  rw [found]

theorem held_zero {fault : LexicalFault} (found : stream 0 = .error fault) :
    stream.held 0 = none := by
  unfold held
  rw [found]

theorem held_succ {fault : LexicalFault} (found : stream (last + 1) = .error fault) :
    stream.held (last + 1) = (stream last).toOption := by
  unfold held
  rw [found]

end Outcomes

theorem Machine.StopsAt.held {stream : Outcomes} {last : Nat} {machine : Machine}
    (h : machine.StopsAt stream last) : stream.held last = some machine.current ∧
      ∀ n, machine.lexer.outcome n = stream (last + 1 + n) := by
  cases h with
  | token stands => exact ⟨Outcomes.held_of_ok stands.here, stands.behind⟩
  | fault here found behind =>
    refine ⟨?_, behind⟩
    rw [Outcomes.held_succ found, here]
    rfl

namespace Session

/-- What a session has still to check: its current token if one was ever fetched, then the token that the
lexer shows, and then what will be scanned. -/
def pending (session : Session) : Outcomes := Outcomes.led session.current session.lexer.outcome

theorem Starts.stands {session : Session} {machine : Machine} (h : session.Starts machine) :
    machine.Stands session.pending 0 := by
  cases h with
  | @again token held =>
    have pending_eq : session.pending = Outcomes.led (some token) session.lexer.outcome := by
      rw [pending, held]
    rw [pending_eq]
    exact ⟨rfl, fun n => congrArg (Outcomes.led (some token) session.lexer.outcome)
      ((Nat.add_comm n 1).trans (by rfl))⟩
  | @fetched token lexer fresh found =>
    have pending_eq : session.pending = session.lexer.outcome := by
      rw [pending, fresh]
      rfl
    rw [pending_eq]
    refine ⟨congrArg Prod.fst found, fun n => ?_⟩
    rw [Nat.zero_add, Nat.add_comm, Lexer.outcome_succ, found]
    rfl

theorem Starts.run_ok_iff {session : Session} {machine : Machine} (h : session.Starts machine) :
    machine.run.1 = .ok () ↔
      machine.ending = none ∧ Generates (machine.input.map Token.terminal) := by
  cases h <;> exact Machine.run_ok_iff

/-- A check of a session is one of what is pending. It leaves the token that settled it as the current
one, or the one before the fault that did, and has still to check what is behind. -/
theorem checks_pending (session : Session) :
    ∃ last, session.pending.Checks 0 [.program] (Event.steps session.parse.1.events)
        session.parse.1.outcome last ∧
      session.parse.2.current = session.pending.held last ∧
      ∀ n, session.parse.2.lexer.outcome n = session.pending (last + 1 + n) := by
  rcases session.parse_cases with ⟨machine, starts, same⟩ | ⟨fault, lexer, fresh, missing, same⟩
  · obtain ⟨entries, last, checks, stops, recorded⟩ := starts.stands.run
    obtain ⟨held, behind⟩ := stops.held
    rw [starts.tasks_eq] at checks
    rw [starts.steps_eq, List.nil_append] at recorded
    rw [same]
    refine ⟨last, ?_, held.symm, behind⟩
    rw [steps_finish, recorded]
    exact checks
  · have pending_eq : session.pending = session.lexer.outcome := by
      rw [pending, fresh]
      rfl
    have found : session.pending 0 = .error fault := by
      rw [pending_eq]
      exact congrArg Prod.fst missing
    rw [same]
    refine ⟨0, .settled ?_, ?_, fun n => ?_⟩
    · simp only [Outcomes.step, found]
    · rw [Outcomes.held_zero found, ← fresh]
    · rw [pending_eq, Nat.zero_add, Nat.add_comm, Lexer.outcome_succ, missing]

/-- A check accepts just when what is pending is a program up to the end of the input, without a fault in
front of that. -/
theorem parse_ok_iff (session : Session) :
    session.parse.1.outcome = .ok () ↔ ∃ tokens n, Collects session.pending 0 (.ok tokens) n ∧
      Generates (tokens.map Token.terminal) := by
  rcases session.parse_cases with ⟨machine, starts, same⟩ | ⟨fault, lexer, fresh, missing, same⟩
  · obtain ⟨n, collected⟩ := starts.stands.collects
    rw [same, starts.run_ok_iff]
    constructor
    · rintro ⟨clean, generates⟩
      rw [clean] at collected
      exact ⟨machine.input, n, collected, generates⟩
    · rintro ⟨tokens, n', collected', generates⟩
      obtain ⟨answers, -⟩ := collected.unique collected'
      cases clean : machine.ending with
      | none =>
        rw [clean] at answers
        injection answers with answers
        exact ⟨rfl, answers ▸ generates⟩
      | some fault =>
        rw [clean] at answers
        cases answers
  · -- nothing can be collected where a fault is first
    have found : Collects session.pending 0 (.error fault) 1 := by
      refine .fault ?_
      rw [pending, fresh]
      exact congrArg Prod.fst missing
    rw [same]
    constructor
    · exact nofun
    · rintro ⟨tokens, n, collected, -⟩
      cases (found.unique collected).1

end Session

end SyntaxCheck
