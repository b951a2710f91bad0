import SyntaxCheck.Lexer.Basic
import SyntaxCheck.Recognizer.Work

/-!
# The machine that checks a text

The machine holds the current token, a lexer for the tokens after it, the tasks still to be done, and
what has happened. A token is replaced only when the one after it could be fetched.

* `Machine`, `Machine.start` - a state, and the state before a run;
* `Progress`, `Machine.step` - one decision is carried out;
* `Machine.run` - decisions are carried out until no task is left or one fails.

A run ends because each decision either leaves fewer tokens (`Machine.pending`) or, with the tokens
as they are, leaves fewer decisions before the next one is taken (`workOf`).
-/

namespace SyntaxCheck

/-- A state of the check. The latest event comes first. -/
structure Machine where
  lexer : Lexer
  current : Token
  tasks : List Task
  events : List Event

/-- What comes of one decision. -/
inductive Progress
  | next (machine : Machine)
  /-- No task was left. -/
  | done
  /-- A fault ends the run. The task that met it is still there. -/
  | failed (fault : Fault) (machine : Machine)

/-- The event that a lexer which hands out or shows a token has scanned it only now. -/
def Lexer.scanEvents (lexer : Lexer) (token : Token) : List Event :=
  if lexer.shown.isSome then [] else [.scanned token]

namespace Machine

/-- The state before a program is checked from a current token on. -/
def start (lexer : Lexer) (current : Token) (events : List Event) : Machine :=
  ⟨lexer, current, [.program], events⟩

/-- A bound on the tokens from the current one to the end of the input. -/
def pending (machine : Machine) : Nat :=
  if machine.current.isEndOfInput then 0 else 1 + machine.lexer.remaining

/-- Take the current token and fetch the one after it. -/
def take (machine : Machine) (tasks : List Task) : Progress :=
  match machine.lexer.advance with
  | (.ok token, lexer) =>
    .next ⟨lexer, token, tasks, machine.lexer.scanEvents token ++ machine.events⟩
  | (.error fault, lexer) => .failed fault.toFault { machine with lexer }

/-- Look at the token after the current one. -/
def look (machine : Machine) (tasks : Terminal → List Task) : Progress :=
  match machine.lexer.peek with
  | (.ok token, lexer) =>
    .next ⟨lexer, machine.current, tasks token.terminal,
      machine.lexer.scanEvents token ++ machine.events⟩
  | (.error fault, lexer) => .failed fault.toFault { machine with lexer }

/-- Carry out a decision about the first task, with others behind it. -/
def carryOut (machine : Machine) (behind : List Task) : Decision → Progress
  | .become tasks => .next { machine with tasks := tasks ++ behind }
  | .enter rule tasks =>
    .next { machine with
      tasks := tasks ++ behind, events := .entered rule machine.current.span :: machine.events }
  | .take tasks => machine.take (tasks machine.current ++ behind)
  | .look tasks => machine.look fun next => tasks next ++ behind
  | .note event => .next { machine with tasks := behind, events := event :: machine.events }
  | .refuse refusal => .failed (refusal.fault machine.current) machine

/-- One decision. -/
def step (machine : Machine) : Progress :=
  match machine.tasks with
  | [] => .done
  | task :: behind => machine.carryOut behind (task.decide machine.current.terminal)

/-! ### Every decision brings the end nearer -/

/-- The tokens left and, where they stay, the decisions left before one of them is taken. -/
def Nearer (a b : Machine) : Prop :=
  Prod.Lex (· < ·) (· < ·) (a.pending, workOf a.tasks) (b.pending, workOf b.tasks)

theorem nearer_of_pending_lt {a b : Machine} (h : a.pending < b.pending) : a.Nearer b :=
  Prod.Lex.left _ _ h

theorem nearer_of_work_lt {a b : Machine} (tokens : a.pending ≤ b.pending)
    (h : workOf a.tasks < workOf b.tasks) : a.Nearer b := by
  rcases Nat.lt_or_eq_of_le tokens with fewer | same
  · exact nearer_of_pending_lt fewer
  · unfold Nearer
    rw [same]
    exact Prod.Lex.right _ h

theorem pending_take_lt {machine machine' : Machine} {tasks : List Task}
    (more : machine.current.isEndOfInput = false) (h : machine.take tasks = .next machine') :
    machine'.pending < machine.pending := by
  unfold take at h
  split at h
  · rename_i token lexer advanced
    injection h with h
    subst h
    unfold pending
    rw [more]
    dsimp only
    split
    · exact Nat.lt_of_lt_of_le Nat.zero_lt_one (Nat.le_add_right _ _)
    · rename_i goesOn
      have fewer := Lexer.remaining_advance_lt advanced (Bool.eq_false_iff.2 goesOn)
      exact Nat.add_lt_add_left fewer 1
  · cases h

theorem look_eq_next {machine machine' : Machine} {tasks : Terminal → List Task}
    (h : machine.look tasks = .next machine') :
    ∃ token lexer, machine.lexer.peek = (.ok token, lexer) ∧
      machine' = ⟨lexer, machine.current, tasks token.terminal,
        machine.lexer.scanEvents token ++ machine.events⟩ := by
  unfold look at h
  split at h
  · rename_i token lexer shown
    injection h with h
    exact ⟨token, lexer, shown, h.symm⟩
  · cases h

theorem pending_look_le {machine machine' : Machine} {tasks : Terminal → List Task}
    (h : machine.look tasks = .next machine') : machine'.pending ≤ machine.pending := by
  obtain ⟨token, lexer, shown, rfl⟩ := look_eq_next h
  unfold pending
  dsimp only
  split
  · exact Nat.le_refl _
  · exact Nat.add_le_add_left (Lexer.remaining_peek_le shown) 1

/-- Every decision brings the end of the run nearer. -/
theorem step_nearer {machine machine' : Machine} (h : machine.step = .next machine') :
    machine'.Nearer machine := by
  unfold step at h
  split at h
  · cases h
  rename_i task behind tasks
  have lighter := task.decide_lighter machine.current.terminal behind
  have stays := task.decide_endOfInput
  generalize decided : task.decide machine.current.terminal = decision at h lighter
  cases decision with
  | become replaced =>
    injection h with h
    subst h
    exact nearer_of_work_lt (Nat.le_refl _) (tasks ▸ lighter)
  | enter rule replaced =>
    injection h with h
    subst h
    exact nearer_of_work_lt (Nat.le_refl _) (tasks ▸ lighter)
  | take replaced =>
    refine nearer_of_pending_lt (pending_take_lt ?_ h)
    refine Bool.eq_false_iff.2 fun ended => ?_
    rw [Token.terminal_of_isEndOfInput ended] at decided
    rw [decided] at stays
    exact stays
  | look replaced =>
    have h : machine.look (fun next => replaced next ++ behind) = .next machine' := h
    refine nearer_of_work_lt (pending_look_le h) ?_
    obtain ⟨token, lexer, _, rfl⟩ := look_eq_next h
    rw [tasks]
    exact lighter token.terminal
  | note event =>
    injection h with h
    subst h
    exact nearer_of_work_lt (Nat.le_refl _) (tasks ▸ lighter)
  | refuse refusal => cases h

/-! ### Runs -/

/-- Decisions are carried out until no task is left or one fails. -/
def run (machine : Machine) : Except Fault Unit × Machine :=
  match _progress : machine.step with
  | .next machine' => run machine'
  | .done => (.ok (), machine)
  | .failed fault machine' => (.error fault, machine')
termination_by (machine.pending, workOf machine.tasks)
decreasing_by exact step_nearer _progress

end Machine

end SyntaxCheck
