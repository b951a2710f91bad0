import SyntaxCheck.Proofs.Recognizer.Headings
import SyntaxCheck.Proofs.Recognizer.History
import SyntaxCheck.Proofs.Recognizer.Nesting

/-!
# Tokens that are found before they are taken

Some tasks only take a token that an earlier decision has found. The token is still there when their turn comes,
so they refuse nothing, and fail only where the token behind it cannot be fetched.

* `Machine.TakesOn` - the current token is taken, and nothing but a lexical fault behind it is in the way;
* `Machine.found_of_head` - the keyword or symbol that a rule was chosen by is there, and so is the brace that
  ends a block or a type;
* `Machine.shown_of_call` - a call is entered at a name, and the parenthesis behind it is the next token;
* `Machine.found_of_declaredType` - a type that a declaration gives is there;
* `Machine.Relies` - the states of a run in which a token was found before;
* `Session.relied_on_found` - in each of them it is taken, whatever the session was asked for before.
-/

namespace SyntaxCheck

namespace Machine

variable {machine machine' first : Machine} {behind : List Task}

/-! ### Taking a token -/

/-- The step takes the current token and goes on with the tasks. It can only fail to fetch the token behind. -/
structure TakesOn (machine : Machine) (tasks : List Task) : Prop where
  step_eq : machine.step = machine.take tasks
  fails : ∀ fault left, machine.step = .failed fault left →
    ∃ lexical : LexicalFault, fault = lexical.toFault ∧ machine.lexer.advance = (.error lexical, left.lexer)

theorem step_eq_carryOut {task : Task} {decision : Decision} (top : machine.tasks = task :: behind)
    (decided : task.decide machine.current.terminal = decision) :
    machine.step = machine.carryOut behind decision := by
  rw [step, top]
  exact congrArg (machine.carryOut behind) decided

theorem TakesOn.of_decide {task : Task} {tasks : Token → List Task} (top : machine.tasks = task :: behind)
    (decided : task.decide machine.current.terminal = .take tasks) :
    machine.TakesOn (tasks machine.current ++ behind) := by
  have step_eq : machine.step = machine.take (tasks machine.current ++ behind) :=
    step_eq_carryOut top decided
  refine ⟨step_eq, fun fault left failed => ?_⟩
  rw [step_eq, take] at failed
  split at failed
  · cases failed
  · rename_i lexical lexer missing
    cases failed
    exact ⟨lexical, rfl, missing⟩

/-! ### Braces -/

/-- Every step keeps the tasks nested. -/
theorem Moves.nested (moved : machine.Moves machine') (nested : Nested machine.current.terminal machine.tasks) :
    Nested machine'.current.terminal machine'.tasks := by
  have nests : ∀ {task : Task} {decision : Decision}, task.decide machine.current.terminal = decision →
      decision.Nests task.layer machine.current.terminal :=
    fun decided => decided ▸ Task.decide_nests _ _
  cases moved with
  | become top decided | enter top decided | note top decided =>
    rw [top] at nested
    exact nested.above (nests decided)
  | @take _ _ _ token _ top decided =>
    rw [top] at nested
    exact nested.above (nests decided machine.current token.terminal)
  | @look _ _ _ token _ top decided =>
    rw [top] at nested
    exact nested.above (nests decided token.terminal)

theorem nested_start (lexer : Lexer) (current : Token) (events : List Event) :
    Nested (start lexer current events).current.terminal (start lexer current events).tasks :=
  ⟨rfl, nofun⟩

/-! ### What is found -/

/-- The keyword or symbol that a rule was chosen by is there, and so is a closing brace. -/
theorem found_of_head {m : Mark} (foresight : machine.Foresight)
    (nested : Nested machine.current.terminal machine.tasks) (top : machine.tasks = .head m :: behind) :
    machine.current.terminal = m.terminal := by
  by_cases brace : m = .symbol .rightBrace
  · subst brace
    refine nested.due ?_
    rw [top]
    rfl
  · unfold Foresight at foresight
    rw [top] at foresight
    cases foresight with
    | cons chosen => exact chosen brace

theorem found_of_path {role : PathRole} (foresight : machine.Foresight)
    (top : machine.tasks = .path role :: behind) : machine.current.terminal = .identifier := by
  unfold Foresight at foresight
  rw [top] at foresight
  cases foresight with
  | cons chosen => exact chosen

/-- A call is entered at a name, and the parenthesis behind it is shown. -/
theorem shown_of_call (foresight : machine.Foresight) (top : machine.tasks = .call :: behind) :
    machine.current.terminal = .identifier ∧
      ∃ parenthesis, machine.lexer.shown = some parenthesis ∧ parenthesis.terminal = .symbol .leftParen := by
  unfold Foresight at foresight
  rw [top] at foresight
  cases foresight with
  | cons chosen => exact chosen

/-- A type is put in place for a declaration only where there is one, and it is entered there. -/
theorem found_of_declaredType {given entered : Machine}
    (due : machine.tasks = .declaredType :: behind) (found : machine.step = .next given)
    (type : given.tasks = .type :: behind) (enters : given.step = .next entered) :
    entered.tasks = .typeName :: behind ∧
      (entered.current.terminal = .identifier ∨ entered.current.terminal.isPrimitiveType = true) := by
  have there : given.current.terminal = .identifier ∨ given.current.terminal.isPrimitiveType = true := by
    by_cases name : machine.current.terminal = .identifier
    · have looks : machine.step = machine.look fun next =>
          (if next = .identifier then [.type] else []) ++ behind := step_eq_carryOut due (if_pos name)
      obtain ⟨token, lexer, -, rfl⟩ := look_eq_next (looks.symm.trans found)
      exact .inl name
    · have goesOn : machine.step = .next { machine with
          tasks := (if machine.current.terminal.isPrimitiveType then [.type] else []) ++ behind } :=
        step_eq_carryOut due (if_neg name)
      cases goesOn.symm.trans found
      refine .inr (Decidable.byContradiction fun other => ?_)
      -- nothing would be put in front of the tasks behind
      simp [other] at type
  have enters : Progress.next _ = .next entered := (step_eq_carryOut type rfl).symm.trans enters
  cases enters
  exact ⟨rfl, there⟩

/-! ### States of a run -/

/-- The state that is met after so many steps, or where the run ends before. -/
def later : Nat → Machine → Machine
  | 0, machine => machine
  | steps + 1, machine =>
    match machine.step with
    | .next machine' => later steps machine'
    | _ => machine

theorem reaches_later (steps : Nat) (machine : Machine) : machine.Reaches (machine.later steps) := by
  induction steps generalizing machine with
  | zero => exact .refl machine
  | succ steps ih =>
    unfold later
    split
    · rename_i machine' moved
      exact .step moved (ih machine')
    · exact .refl machine

/-- The machine comes, in a run from the first one, to a task that only takes a token which was found before. -/
inductive Relies (first : Machine) : Machine → Prop
  /-- The keyword or symbol that a rule was chosen by, the parenthesis behind the name of a call, or the brace
  that ends a block or a type. -/
  | head {machine : Machine} {m : Mark} {behind : List Task} (reached : first.Reaches machine)
      (top : machine.tasks = .head m :: behind) : Relies first machine
  /-- The name of a call. -/
  | call {machine : Machine} {behind : List Task} (reached : first.Reaches machine)
      (top : machine.tasks = .call :: behind) : Relies first machine
  /-- The first name of a path. -/
  | path {machine : Machine} {role : PathRole} {behind : List Task} (reached : first.Reaches machine)
      (top : machine.tasks = .path role :: behind) : Relies first machine
  /-- The type that a declaration gives, once it was entered. -/
  | givenType {declared given machine : Machine} {behind : List Task} (reached : first.Reaches declared)
      (due : declared.tasks = .declaredType :: behind) (found : declared.step = .next given)
      (type : given.tasks = .type :: behind) (enters : given.step = .next machine) : Relies first machine

/-- The token is taken. -/
theorem Relies.takesOn (relies : first.Relies machine)
    (found : ∀ reached, first.Reaches reached →
      reached.Foresight ∧ Nested reached.current.terminal reached.tasks) :
    ∃ tasks, machine.TakesOn tasks := by
  cases relies with
  | @head _ m behind reached top =>
    obtain ⟨foresight, nested⟩ := found _ reached
    exact ⟨_, .of_decide top (Task.decide_head m (found_of_head foresight nested top))⟩
  | call reached top =>
    have name := (shown_of_call (found _ reached).1 top).1
    exact ⟨_, .of_decide top (if_pos name)⟩
  | path reached top =>
    have name := found_of_path (found _ reached).1 top
    exact ⟨_, .of_decide top (if_pos name)⟩
  | givenType reached due found type enters =>
    obtain ⟨top, there⟩ := found_of_declaredType due found type enters
    exact ⟨_, .of_decide top (if_pos there)⟩

/-- A call takes its name and the parenthesis that was shown behind it. -/
theorem takes_call (foresight : machine.Foresight) (top : machine.tasks = .call :: behind) :
    machine.current.terminal = .identifier ∧ ∃ parenthesis next,
      machine.lexer.shown = some parenthesis ∧ parenthesis.terminal = .symbol .leftParen ∧
      machine.step = .next next ∧ next.current = parenthesis ∧
      next.tasks = .head (.symbol .leftParen) :: .arguments machine.current.lexeme :: behind ∧
      next.TakesOn (.arguments machine.current.lexeme :: behind) := by
  obtain ⟨name, parenthesis, shown, opens⟩ := shown_of_call foresight top
  have takes : machine.TakesOn (.head (.symbol .leftParen) :: .arguments machine.current.lexeme :: behind) :=
    .of_decide top (if_pos name)
  -- the token that was shown is handed out without a scan
  have fetched : machine.lexer.advance = (.ok parenthesis, ⟨machine.lexer.cursor, none⟩) := by
    rw [Lexer.advance, shown]
  have step_eq := takes.step_eq
  rw [take, fetched] at step_eq
  exact ⟨name, parenthesis, _, shown, opens, step_eq, rfl, rfl, .of_decide rfl (Task.decide_head _ opens)⟩

end Machine

/-! ### Sessions -/

namespace Session

open Machine

variable {session : Session} {first machine : Machine}

/-- The first task was chosen for the tokens ahead, and no brace is due before it is there. -/
theorem Starts.found (starts : session.Starts first) (reached : first.Reaches machine) :
    machine.Foresight ∧ Nested machine.current.terminal machine.tasks := by
  have start : first.Foresight ∧ Nested first.current.terminal first.tasks := by
    cases starts <;> exact ⟨foresight_start _ _ _, nested_start _ _ _⟩
  exact reached.preserves (P := fun m => m.Foresight ∧ Nested m.current.terminal m.tasks)
    (fun _ _ holds moved => ⟨holds.1.moves moved, moved.nested holds.2⟩) start

/-- Whatever a session was asked for before, its next check refuses no token that was found by an earlier
decision: it takes them all, and only a lexical fault in the token behind one can stop it there. A call is
entered at a name before a parenthesis that is shown, and takes these two tokens. So where a token is refused,
another task wanted it. -/
theorem relied_on_found (session : Session) :
    (∀ first machine, session.Starts first → first.Relies machine → ∃ tasks, machine.TakesOn tasks) ∧
    (∀ first machine behind, session.Starts first → first.Reaches machine →
      machine.tasks = .call :: behind →
      machine.current.terminal = .identifier ∧ ∃ parenthesis next,
        machine.lexer.shown = some parenthesis ∧ parenthesis.terminal = .symbol .leftParen ∧
        machine.step = .next next ∧ next.current = parenthesis ∧
        next.tasks = .head (.symbol .leftParen) :: .arguments machine.current.lexeme :: behind ∧
        next.TakesOn (.arguments machine.current.lexeme :: behind)) ∧
    ∀ fault, session.parse.1.outcome = .error fault →
      (∃ lexical : LexicalFault, fault = lexical.toFault) ∨
      ∃ first machine task behind refusal, session.Starts first ∧ first.Reaches machine ∧
        machine.tasks = task :: behind ∧ task.decide machine.current.terminal = .refuse refusal ∧
        fault = refusal.fault machine.current ∧ ¬first.Relies machine := by
  have takesOn : ∀ first machine, session.Starts first → first.Relies machine →
      ∃ tasks, machine.TakesOn tasks :=
    fun _ _ starts relies => relies.takesOn fun _ reached => starts.found reached
  refine ⟨takesOn, fun _ _ _ starts reached top => takes_call (starts.found reached).1 top, ?_⟩
  intro fault failed
  rcases session.parse_cases with ⟨first, starts, parsed⟩ | ⟨lexical, lexer, -, -, parsed⟩
  · rw [parsed] at failed
    have run_eq : first.run = (.error fault, first.run.2) := Prod.ext failed rfl
    generalize first.run.2 = left at run_eq
    obtain ⟨machine, reached, fails⟩ := fails_of_run run_eq
    cases fails with
    | @refuse task behind refusal top decided =>
      refine .inr ⟨first, left, task, behind, refusal, starts, reached, top, decided, rfl, fun relies => ?_⟩
      -- a state that relies on its token would take it
      obtain ⟨tasks, takes⟩ := takesOn first left starts relies
      obtain ⟨lexical, same, -⟩ := takes.fails _ _ (step_eq_carryOut top decided)
      cases congrArg Located.cause same
    | take => exact .inl ⟨_, rfl⟩
    | look => exact .inl ⟨_, rfl⟩
  · rw [parsed] at failed
    cases failed
    exact .inl ⟨lexical, rfl⟩

/-- A check stops at the second `fun`. The next one starts there, and comes to a call. -/
theorem relied_on_found_resumed :
    ∃ first machine, (ofString "fun fun void f() \x7b g() \x7d").parse.2.Starts first ∧
      first.Reaches machine ∧ machine.tasks.head? = some .call ∧ (∃ tasks, machine.TakesOn tasks) ∧
      ∃ parenthesis, machine.lexer.shown = some parenthesis ∧ parenthesis.terminal = .symbol .leftParen := by
  have held : (ofString "fun fun void f() \x7b g() \x7d").parse.2.current =
      some ⟨.keyword .fun_, "fun", ⟨4, 7, 1, 5⟩⟩ := by cbv
  have top : ((Machine.start (ofString "fun fun void f() \x7b g() \x7d").parse.2.lexer
      ⟨.keyword .fun_, "fun", ⟨4, 7, 1, 5⟩⟩ []).later 15).tasks =
        [.call, .statements, .head (.symbol .rightBrace), .definitions] := by cbv
  generalize (ofString "fun fun void f() \x7b g() \x7d").parse.2 = session at held top
  have starts : session.Starts _ := .again held
  have reached := reaches_later 15 (.start session.lexer ⟨.keyword .fun_, "fun", ⟨4, 7, 1, 5⟩⟩ [])
  obtain ⟨takesOn, called, -⟩ := session.relied_on_found
  obtain ⟨-, parenthesis, -, shown, opens, -⟩ := called _ _ _ starts reached top
  refine ⟨_, _, starts, reached, ?_, takesOn _ _ starts (.call reached top), parenthesis, shown, opens⟩
  rw [top]
  rfl

end Session

end SyntaxCheck
