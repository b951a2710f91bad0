import SyntaxCheck.Proofs.Lexer.Drain
import SyntaxCheck.Recognizer.Machine

/-!
# Runs of the machine

* `Machine.Moves`, `Machine.Fails` - all that a step can do, and all that can stop it;
* `Machine.Reaches`, `Machine.Reaches.preserves` - states of a run, and what holds in all of them;
* `Machine.run_cases`, `Machine.fails_of_run` - a run ends in a state without tasks or in one whose step
  fails;
* `Machine.input`, `Machine.ending` - the tokens from the current one to the end of the input or to the
  first lexical fault, and that fault.
-/

namespace SyntaxCheck

namespace Machine

/-! ### Steps -/

/-- All that a step can do. -/
inductive Moves (machine : Machine) : Machine → Prop
  | become {task : Task} {behind tasks : List Task} (top : machine.tasks = task :: behind)
      (decided : task.decide machine.current.terminal = .become tasks) :
      Moves machine { machine with tasks := tasks ++ behind }
  | enter {task : Task} {behind tasks : List Task} {rule : Rule}
      (top : machine.tasks = task :: behind)
      (decided : task.decide machine.current.terminal = .enter rule tasks) :
      Moves machine { machine with
        tasks := tasks ++ behind, events := .entered rule machine.current.span :: machine.events }
  | take {task : Task} {behind : List Task} {tasks : Token → List Task} {token : Token}
      {lexer : Lexer} (top : machine.tasks = task :: behind)
      (decided : task.decide machine.current.terminal = .take tasks)
      (fetched : machine.lexer.advance = (.ok token, lexer)) :
      Moves machine ⟨lexer, token, tasks machine.current ++ behind,
        machine.lexer.scanEvents token ++ machine.events⟩
  | look {task : Task} {behind : List Task} {tasks : Terminal → List Task} {token : Token}
      {lexer : Lexer} (top : machine.tasks = task :: behind)
      (decided : task.decide machine.current.terminal = .look tasks)
      (shown : machine.lexer.peek = (.ok token, lexer)) :
      Moves machine ⟨lexer, machine.current, tasks token.terminal ++ behind,
        machine.lexer.scanEvents token ++ machine.events⟩
  | note {task : Task} {behind : List Task} {event : Event} (top : machine.tasks = task :: behind)
      (decided : task.decide machine.current.terminal = .note event) :
      Moves machine { machine with tasks := behind, events := event :: machine.events }

/-- All that can stop a run before its end. -/
inductive Fails (machine : Machine) : Fault → Machine → Prop
  | refuse {task : Task} {behind : List Task} {refusal : Refusal}
      (top : machine.tasks = task :: behind)
      (decided : task.decide machine.current.terminal = .refuse refusal) :
      Fails machine (refusal.fault machine.current) machine
  | take {task : Task} {behind : List Task} {tasks : Token → List Task} {fault : LexicalFault}
      {lexer : Lexer} (top : machine.tasks = task :: behind)
      (decided : task.decide machine.current.terminal = .take tasks)
      (missing : machine.lexer.advance = (.error fault, lexer)) :
      Fails machine fault.toFault { machine with lexer }
  | look {task : Task} {behind : List Task} {tasks : Terminal → List Task} {fault : LexicalFault}
      {lexer : Lexer} (top : machine.tasks = task :: behind)
      (decided : task.decide machine.current.terminal = .look tasks)
      (missing : machine.lexer.peek = (.error fault, lexer)) :
      Fails machine fault.toFault { machine with lexer }

variable {machine machine' machine'' : Machine} {fault : Fault}

theorem moves_of_step (h : machine.step = .next machine') : machine.Moves machine' := by
  unfold step at h
  split at h
  · cases h
  · rename_i task behind top
    generalize decided : task.decide machine.current.terminal = decision at h
    cases decision with
    | become tasks =>
      injection h with h
      exact h ▸ .become top decided
    | enter rule tasks =>
      injection h with h
      exact h ▸ .enter top decided
    | take tasks =>
      simp only [carryOut, Machine.take] at h
      split at h
      · rename_i token lexer fetched
        injection h with h
        exact h ▸ .take top decided fetched
      · cases h
    | look tasks =>
      have h : machine.look (fun next => tasks next ++ behind) = .next machine' := h
      obtain ⟨token, lexer, shown, rfl⟩ := look_eq_next h
      exact .look top decided shown
    | note event =>
      injection h with h
      exact h ▸ .note top decided
    | refuse refusal => cases h

theorem fails_of_step (h : machine.step = .failed fault machine') : machine.Fails fault machine' := by
  unfold step at h
  split at h
  · cases h
  · rename_i task behind top
    generalize decided : task.decide machine.current.terminal = decision at h
    cases decision with
    | become tasks => cases h
    | enter rule tasks => cases h
    | take tasks =>
      simp only [carryOut, Machine.take] at h
      split at h
      · cases h
      · rename_i missing
        injection h with same left
        subst same left
        exact .take top decided missing
    | look tasks =>
      simp only [carryOut, Machine.look] at h
      split at h
      · cases h
      · rename_i missing
        injection h with same left
        subst same left
        exact .look top decided missing
    | note event => cases h
    | refuse refusal =>
      injection h with same left
      subst same left
      exact .refuse top decided

theorem tasks_of_step (h : machine.step = .done) : machine.tasks = [] := by
  unfold step at h
  split at h
  · assumption
  · rename_i task behind top
    revert h
    cases task.decide machine.current.terminal with
    | take tasks =>
      simp only [carryOut, Machine.take]
      split <;> exact Progress.noConfusion
    | look tasks =>
      simp only [carryOut, Machine.look]
      split <;> exact Progress.noConfusion
    | _ => exact Progress.noConfusion

/-! ### Runs -/

/-- The second state is met in a run from the first one. -/
inductive Reaches : Machine → Machine → Prop
  | refl (machine : Machine) : Reaches machine machine
  | step {machine machine' machine'' : Machine} (first : machine.step = .next machine')
      (later : Reaches machine' machine'') : Reaches machine machine''

/-- What every step keeps holds in every state of a run. -/
theorem Reaches.preserves {P : Machine → Prop} (h : machine.Reaches machine')
    (keeps : ∀ a b : Machine, P a → a.Moves b → P b) (holds : P machine) : P machine' := by
  induction h with
  | refl => exact holds
  | step first _ ih => exact ih (keeps _ _ holds (moves_of_step first))

/-- A run ends without tasks or with a fault. -/
theorem run_cases (machine : Machine) :
    ∃ final, machine.Reaches final ∧
      ((final.tasks = [] ∧ machine.run = (.ok (), final)) ∨
        ∃ fault left, final.Fails fault left ∧ machine.run = (.error fault, left)) := by
  -- a run is one step and then the run of what the step leaves
  fun_induction run machine with
  | case1 machine machine' progress ih =>
    obtain ⟨final, later, ends⟩ := ih
    exact ⟨final, .step progress later, ends⟩
  | case2 machine progress => exact ⟨machine, .refl _, .inl ⟨tasks_of_step progress, rfl⟩⟩
  | case3 machine fault left progress =>
    exact ⟨machine, .refl _, .inr ⟨fault, left, fails_of_step progress, rfl⟩⟩

/-- What stops a run that fails. -/
theorem fails_of_run (failed : machine.run = (.error fault, machine')) :
    ∃ final, machine.Reaches final ∧ final.Fails fault machine' := by
  obtain ⟨final, reached, ⟨-, run_eq⟩ | ⟨fault', left, fails, run_eq⟩⟩ := run_cases machine
  · cases run_eq.symm.trans failed
  · obtain ⟨same, rfl⟩ := Prod.mk.inj (run_eq.symm.trans failed)
    injection same with same
    exact ⟨final, reached, same ▸ fails⟩

/-! ### Tokens -/

/-- The tokens behind the current one, up to the end of the input or the first lexical fault. -/
def ahead (machine : Machine) : List Token :=
  if machine.current.isEndOfInput then [] else machine.lexer.drain.tokens

/-- The tokens from the current one on. -/
def input (machine : Machine) : List Token := machine.current :: machine.ahead

/-- The lexical fault behind those tokens. -/
def ending (machine : Machine) : Option LexicalFault :=
  if machine.current.isEndOfInput then none else machine.lexer.drain.fault

/-- What is taken or looked beyond is not the end of the input. -/
theorem more_of_decide {task : Task} {decision : Decision}
    (decided : task.decide machine.current.terminal = decision) (goesOn : ¬decision.Stays) :
    machine.current.isEndOfInput = false := by
  refine Bool.eq_false_iff.2 fun ended => goesOn ?_
  rw [← decided, Token.terminal_of_isEndOfInput ended]
  exact task.decide_endOfInput

/-- Once a token was fetched, the input begins with it. -/
theorem drain_of_advance {lexer lexer' : Lexer} {token : Token} (tasks : List Task)
    (events : List Event) (fetched : lexer.advance = (.ok token, lexer')) :
    lexer.drain.tokens = input ⟨lexer', token, tasks, events⟩ ∧
      lexer.drain.fault = ending ⟨lexer', token, tasks, events⟩ := by
  unfold input ahead ending
  cases ended : token.isEndOfInput with
  | true =>
    rw [Lexer.drain_of_end fetched ended]
    exact ⟨rfl, rfl⟩
  | false =>
    rw [Lexer.drain_of_more fetched ended]
    exact ⟨rfl, rfl⟩

theorem ahead_of_advance {token : Token} {lexer : Lexer} (tasks : List Task) (events : List Event)
    (more : machine.current.isEndOfInput = false)
    (fetched : machine.lexer.advance = (.ok token, lexer)) :
    machine.ahead = input ⟨lexer, token, tasks, events⟩ ∧
      machine.ending = ending ⟨lexer, token, tasks, events⟩ := by
  rw [ahead, ending, more]
  exact drain_of_advance tasks events fetched

theorem input_of_advance {token : Token} {lexer : Lexer} (tasks : List Task) (events : List Event)
    (more : machine.current.isEndOfInput = false)
    (fetched : machine.lexer.advance = (.ok token, lexer)) :
    machine.input = machine.current :: input ⟨lexer, token, tasks, events⟩ := by
  rw [input, (ahead_of_advance tasks events more fetched).1]

/-- Showing a token takes none away. -/
theorem input_of_peek {token : Token} {lexer : Lexer} (tasks : List Task) (events : List Event)
    (shown : machine.lexer.peek = (.ok token, lexer)) :
    machine.input = input ⟨lexer, machine.current, tasks, events⟩ ∧
      machine.ending = ending ⟨lexer, machine.current, tasks, events⟩ := by
  simp only [input, ahead, ending]
  rw [Lexer.drain_peek shown]
  exact ⟨rfl, rfl⟩

/-- No token could be fetched: there is none behind the current one. -/
theorem ahead_of_missing {fault : LexicalFault} {lexer : Lexer}
    (more : machine.current.isEndOfInput = false)
    (missing : machine.lexer.advance = (.error fault, lexer)) :
    machine.ahead = [] ∧ machine.ending = some fault := by
  unfold ahead ending
  rw [more, Lexer.drain_of_fault missing]
  exact ⟨rfl, rfl⟩

/-- A token that is shown is the first of those behind the current one. -/
theorem head?_ahead {token : Token} (more : machine.current.isEndOfInput = false)
    (shown : machine.lexer.shown = some token) : machine.ahead.head? = some token := by
  unfold ahead
  rw [more]
  exact Lexer.head?_drain_of_shown shown

end Machine

end SyntaxCheck
