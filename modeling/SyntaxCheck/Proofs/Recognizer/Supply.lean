import Mathlib
import SyntaxCheck.Proofs.Derivation.Operands
import SyntaxCheck.Proofs.Recognizer.History

/-!
# No entry lacks an operand

Wherever a run is stopped, each entry that it has recorded finds the expressions that it joins, finished
since the latest rule was entered.

* `Task.effect` - what comes of a task, told by the stack of finished expressions;
* `Enough` - with so many of them, no task will lack any;
* `Task.decide_supplies` - what every decision keeps of that;
* `Machine.WellSupplied`, `Machine.WellSupplied.reaches` - so it holds in every state of a run;
* `Session.record_supplied` - the record of a session, whatever was asked of it.
-/

namespace SyntaxCheck

open StackEffect

/-! ### What comes of a task -/

/-- What an event does to the finished expressions of the record. -/
def Event.effect (event : Event) : StackEffect :=
  match event.step? with
  | some step => step.effect
  | none => .keeps

/-- What comes of a task. Nothing is relied on behind one that may enter a rule. -/
def Task.effect : Task → StackEffect
  | .head _ | .mark _ _ => .keeps
  | .name .instantiated | .call | .arguments _ | .level _ | .unary | .primary => .joins 0
  | .path .operand | .pathName .operand _ | .morePath .operand _ => .joins 0
  | .moreOperands _ => .joins 1
  | .moreArguments _ count => .joins count
  | .remark event => event.effect
  | _ => .clears

/-- With so many finished expressions, no task will lack any. -/
def Enough : Nat → List Task → Prop
  | _, [] => True
  | height, task :: tasks => task.effect.needs ≤ height ∧ Enough (task.effect.after height) tasks

variable {height : Nat} {task : Task} {behind : List Task}

@[simp] theorem enough_nil : Enough height [] := trivial

@[simp] theorem enough_cons : Enough height (task :: behind) ↔
    task.effect.needs ≤ height ∧ Enough (task.effect.after height) behind := Iff.rfl

/-- More finished expressions do no harm. -/
theorem Enough.mono {tasks : List Task} {m n : Nat} (h : Enough m tasks) (le : m ≤ n) :
    Enough n tasks := by
  induction tasks generalizing m n with
  | nil => trivial
  | cons task tasks ih =>
    exact ⟨Nat.le_trans h.1 le, ih h.2 (task.effect.after_le_after le)⟩

/-- Where none is relied on, any number will do. -/
theorem Enough.of_zero {tasks : List Task} (h : Enough 0 tasks) (n : Nat) : Enough n tasks :=
  h.mono (Nat.zero_le n)

/-! ### Decisions -/

/-- Whatever comes of a decision, no task will lack a finished expression, nor does what is recorded. -/
def Decision.Supplies (height : Nat) (behind : List Task) : Decision → Prop
  | .become tasks => Enough height (tasks ++ behind)
  | .enter _ tasks => Enough 0 (tasks ++ behind)
  | .take tasks => ∀ token, Enough height (tasks token ++ behind)
  | .look tasks => ∀ next, Enough height (tasks next ++ behind)
  | .note event => event.effect.needs ≤ height ∧ Enough (event.effect.after height) behind
  | .refuse _ => True

namespace Task

variable {now : Terminal}

theorem takeMark_supplies (m : Mark) (expectation : Expectation) (h : Enough height behind) :
    (takeMark m expectation now).Supplies height behind := by
  unfold takeMark
  split
  · exact fun _ => h
  · trivial

theorem takeName_supplies {tasks : Token → List Task}
    (h : ∀ token, Enough height (tasks token ++ behind)) :
    (takeName now tasks).Supplies height behind := by
  unfold takeName
  split
  · exact h
  · trivial

@[simp] theorem effect_operand (ℓ : Level) : (operand ℓ).effect = .joins 0 := by
  cases ℓ <;> rfl

/-- The tasks at the end of a call join its arguments. -/
theorem closeCall_supplies {callee : String} {count : Nat} (enough : count ≤ height)
    (h : Enough (height - count + 1) behind) : Enough height (closeCall callee count ++ behind) :=
  ⟨Nat.zero_le _, enough, h⟩

theorem decidePrimary_supplies (h : Enough (height + 1) behind) :
    (decidePrimary now).Supplies height behind := by
  unfold decidePrimary
  split
  · exact fun _ => ⟨Nat.zero_le _, h⟩
  split
  · exact fun _ => ⟨Nat.zero_le _, h⟩
  split
  · exact fun _ => ⟨Nat.zero_le _, Nat.zero_le _, h⟩
  split
  · intro next
    dsimp only
    split <;> exact ⟨Nat.zero_le _, h⟩
  · trivial

section Clears

attribute [local simp] effect condition StackEffect.needs StackEffect.after Decision.Supplies

/-- What may enter a rule relies on no finished expression, and neither does what is behind it. -/
theorem decide_supplies_of_clears (clears : task.effect = .clears) (h : Enough 0 behind) :
    (task.decide now).Supplies height behind := by
  have any := h.of_zero
  cases task with
  | program => simpa [decide] using h
  | definitions =>
    simp only [decide]
    unfold decideDefinitions
    split <;> simp [any]
  | name role =>
    cases role with
    | plain => exact takeName_supplies fun _ => any height
    | defining sort => exact takeName_supplies fun _ => ⟨Nat.zero_le _, any height⟩
    | instantiated => cases clears
  | returnType =>
    simp only [decide]
    split <;> simp [any]
  | type => simpa [decide] using h
  | typeName =>
    simp only [decide]
    split <;> simp [any]
  | parameters => simpa [decide] using h
  | parameterList =>
    simp only [decide]
    split <;> simp [any]
  | moreParameters =>
    simp only [decide]
    split <;> simp [any]
  | fields =>
    simp only [decide]
    unfold decideFields
    split <;> simp [any]
  | block => simpa [decide] using h
  | statements =>
    simp only [decide]
    unfold decideStatements
    split <;> simp [any]
  | statement =>
    simp only [decide]
    unfold decideStatement
    split
    case h_7 =>
      intro next
      dsimp only
      split <;> exact ⟨Nat.zero_le _, h⟩
    all_goals simp [any]
  | declaration => simpa [decide] using any 1
  | declaredType =>
    simp only [decide]
    split
    · intro next
      dsimp only
      split
      · exact ⟨Nat.zero_le _, h⟩
      · exact any height
    · split <;> simp [any]
  | assignment => simpa [decide] using any 1
  | clauses =>
    simp only [decide]
    unfold decideClauses
    split <;> simp [any]
  | direction =>
    simp only [decide]
    split <;> simp [any]
  | returned =>
    simp only [decide]
    split <;> simp [any]
  | callStatement => simpa [decide] using any 1
  | path role =>
    cases role with
    | target => exact takeName_supplies fun _ => ⟨Nat.zero_le _, h⟩
    | operand => cases clears
  | pathName role before =>
    cases role with
    | target => exact takeName_supplies fun _ => ⟨Nat.zero_le _, h⟩
    | operand => cases clears
  | morePath role before =>
    cases role with
    | target =>
      simp only [decide]
      split
      · exact fun _ => ⟨Nat.zero_le _, h⟩
      · exact any height
    | operand => cases clears
  | remark event =>
    have clears : event.effect = .clears := clears
    simpa [decide, clears] using h
  | _ => cases clears

end Clears

/-- No decision makes a task lack a finished expression. -/
theorem decide_supplies (h : Enough height (task :: behind)) :
    (task.decide now).Supplies height behind := by
  cases task with
  | head m => exact takeMark_supplies m _ h.2
  | mark m expectation => exact takeMark_supplies m expectation h.2
  | name role =>
    cases role with
    | instantiated => exact takeName_supplies fun _ => ⟨Nat.zero_le _, h.2⟩
    | plain => exact decide_supplies_of_clears rfl h.2
    | defining sort => exact decide_supplies_of_clears rfl h.2
  | call => exact takeName_supplies fun _ => ⟨Nat.zero_le _, h⟩
  | arguments callee =>
    simp only [decide]
    split
    · exact closeCall_supplies (Nat.zero_le _) h.2
    · -- the first argument is there when the others come
      exact ⟨Nat.zero_le _, Nat.le_add_left 1 height, h.2⟩
  | moreArguments callee count =>
    simp only [decide]
    split
    · intro token
      refine ⟨Nat.zero_le _, Nat.succ_le_succ h.1, ?_⟩
      simpa [effect, StackEffect.after] using h.2
    · exact closeCall_supplies h.1 h.2
  | path role =>
    cases role with
    | target => exact decide_supplies_of_clears rfl h.2
    | operand => exact takeName_supplies fun _ => ⟨Nat.zero_le _, h.2⟩
  | pathName role before =>
    cases role with
    | target => exact decide_supplies_of_clears rfl h.2
    | operand => exact takeName_supplies fun _ => ⟨Nat.zero_le _, h.2⟩
  | morePath role before =>
    cases role with
    | target => exact decide_supplies_of_clears rfl h.2
    | operand =>
      simp only [decide]
      split
      · exact fun _ => ⟨Nat.zero_le _, h.2⟩
      · exact ⟨Nat.zero_le _, h.2⟩
  | level ℓ =>
    -- an operand is there when its operators come
    refine ⟨by simp [StackEffect.needs], ?_⟩
    rw [effect_operand]
    exact ⟨Nat.le_add_left 1 height, h.2⟩
  | moreOperands ℓ =>
    -- the operator joins the next operand to the one that is there
    obtain ⟨n, rfl⟩ := Nat.exists_eq_add_of_le' (show 1 ≤ height from h.1)
    have later : Enough (n + 1) behind := h.2
    simp only [decide]
    split
    · intro token
      refine ⟨by simp [StackEffect.needs], ?_⟩
      rw [effect_operand]
      exact ⟨Nat.le_add_left 2 n, Nat.le_add_left 1 n, later⟩
    · exact later
  | unary =>
    simp only [decide]
    split
    · exact fun _ => ⟨Nat.zero_le _, Nat.le_add_left 1 height, h.2⟩
    · exact ⟨Nat.zero_le _, h.2⟩
  | primary => exact decidePrimary_supplies h.2
  | remark event => exact h
  | _ => exact decide_supplies_of_clears rfl h.2

end Task

/-! ### Runs -/

namespace Machine

/-- The record finds what its entries join, and so will the entries that the tasks lead to. -/
structure WellSupplied (machine : Machine) : Prop where
  record : (Event.steps machine.events.reverse).Supplied
  tasks : Enough (Event.steps machine.events.reverse).stack.length machine.tasks

namespace WellSupplied

variable {machine machine' : Machine}

/-- What the decision about the first task does. -/
theorem decides {decision : Decision} (h : machine.WellSupplied)
    (top : machine.tasks = task :: behind)
    (decided : task.decide machine.current.terminal = decision) :
    decision.Supplies (Event.steps machine.events.reverse).stack.length behind := by
  have tasks := h.tasks
  rw [top] at tasks
  exact decided ▸ Task.decide_supplies tasks

/-- An entry that finds what it joins may be recorded. -/
theorem recorded {event : Event} {tasks : List Task} (h : machine.WellSupplied) (step : Step)
    (entry : event.step? = some step)
    (enough : step.effect.needs ≤ (Event.steps machine.events.reverse).stack.length)
    (later : Enough (step.effect.after (Event.steps machine.events.reverse).stack.length) tasks) :
    WellSupplied { machine with tasks := tasks, events := event :: machine.events } := by
  constructor
  · rw [Event.steps_cons, entry]
    exact .concat h.record enough
  · rw [Event.steps_cons, entry]
    exact (length_stack_concat _ step).symm ▸ later

/-- Every step keeps it. -/
theorem moves (h : machine.WellSupplied) (moved : machine.Moves machine') :
    machine'.WellSupplied := by
  cases moved with
  | become top decided => exact ⟨h.record, h.decides top decided⟩
  | @enter task behind tasks rule top decided =>
    exact h.recorded (.enter rule) rfl (Nat.zero_le _) (h.decides top decided)
  | @take task behind tasks token lexer top decided =>
    have enough := h.decides top decided
    constructor <;> rw [Event.steps_scanned]
    · exact h.record
    · exact enough machine.current
  | @look task behind tasks token lexer top decided =>
    have enough := h.decides top decided
    constructor <;> rw [Event.steps_scanned]
    · exact h.record
    · exact enough token.terminal
  | @note task behind event top decided =>
    obtain ⟨enough, later⟩ := h.decides top decided
    unfold Event.effect at enough later
    cases entry : event.step? with
    | some step =>
      rw [entry] at enough later
      exact h.recorded step entry enough later
    | none =>
      rw [entry] at later
      constructor <;> rw [Event.steps_cons, entry, Option.toList_none, List.append_nil]
      · exact h.record
      · exact later

theorem reaches (h : machine.WellSupplied) (reached : machine.Reaches machine') :
    machine'.WellSupplied :=
  reached.preserves (P := WellSupplied) (fun _ _ holds moved => holds.moves moved) h

/-- However a run ends, its record is supplied. -/
theorem run (h : machine.WellSupplied) :
    (Event.steps machine.run.2.events.reverse).Supplied := by
  obtain ⟨final, reached, ends⟩ := run_cases machine
  have supplied := (h.reaches reached).record
  rcases ends with ⟨-, same⟩ | ⟨fault, left, fails, same⟩
  · rw [same]
    exact supplied
  · -- what stops a run records nothing
    rw [same]
    cases fails <;> exact supplied

end WellSupplied

end Machine

/-! ### Sessions -/

namespace Session

/-- The entries that a check adds to a record find what they join. -/
theorem supplied_parse (session : Session) :
    (Event.steps session.parse.1.events).Supplied := by
  rcases session.parse_cases with ⟨machine, starts, same⟩ | ⟨fault, lexer, -, -, same⟩
  · have supplied : machine.WellSupplied := by
      constructor <;> rw [starts.steps_eq]
      · exact .nil
      · rw [starts.tasks_eq]
        exact ⟨Nat.zero_le _, enough_nil⟩
    rw [same]
    exact (steps_finish machine.run.1 machine.run.2).symm ▸ supplied.run
  · rw [same]
    exact .nil

/-- So does the whole record, whatever the session is asked for. -/
theorem supplied_after {session : Session}
    (h : ∀ record ∈ session.record, record.Supplied) (calls : List Call) :
    ∀ record ∈ (session.after calls).record, record.Supplied := by
  refine after_preserves (P := fun session => ∀ record ∈ session.record, record.Supplied) ?_ h calls
  intro session c holds record kept
  cases c with
  | traced =>
    obtain rfl := Option.some.inj kept
    exact .nil
  | parse =>
    have kept : record ∈ session.parse.2.record := kept
    rw [record_parse] at kept
    obtain ⟨earlier, before, rfl⟩ := Option.map_eq_some_iff.1 (Option.mem_def.1 kept)
    exact (holds earlier before).append session.supplied_parse

open SyntaxCheck.Derivation

/-- Whatever a session is asked for, the evaluation of its record comes to every entry with a stack that
holds what the entry joins, all of it finished since the latest rule was entered. So the record is one of
rules and whole expressions. -/
theorem record_supplied (text : String) (asked : List Lexer.Call) (calls : List Call)
    (record : Derivation) (kept : (reached text asked calls).record = some record) :
    (∀ (before : Derivation) (step : Step) (later : Derivation), record = before ++ step :: later →
      (∃ shown, record.expressions = shown ++ expressionsFrom before.stack (step :: later)) ∧
      step.effect.needs ≤ before.stack.length ∧
      ∀ (earlier : Derivation) (rule : Rule) (since : Derivation),
        before = earlier ++ .enter rule :: since → step.effect.needs ≤ since.stack.length) ∧
    ∃ outline : Outline, record = outline.steps ∧
      record.expressions = (outline.filterMap Sum.getRight?).map Expression.render := by
  have supplied : record.Supplied := by
    refine supplied_after ?_ calls record kept
    exact nofun
  constructor
  · rintro before step later rfl
    obtain ⟨shown, same⟩ := expressions_append before
    refine ⟨⟨shown, same _⟩, supplied.needs_le, ?_⟩
    rintro earlier rule since rfl
    rw [← stack_entered earlier since rule]
    exact supplied.needs_le
  · obtain ⟨outline, rfl⟩ := supplied.exists_outline
    exact ⟨outline, rfl, Outline.expressions_steps outline⟩

/-- One token is dropped, one check stops inside a sum, and the next one goes on from there. -/
theorem record_supplied_resumed :
    ∃ record : Derivation,
      (reached "x fun void f() \x7b y = g(1, 2 * a) + fun void k() \x7b z = -b \x7d" [.advance]
        [.traced, .parse, .parse]).record = some record ∧
      record.expressions = ["g(1, (2 * a))", "(-b)"] ∧
      (∀ (before : Derivation) (step : Step) (later : Derivation),
        record = before ++ step :: later → step.effect.needs ≤ before.stack.length) ∧
      ∃ outline : Outline, record = outline.steps := by
  have kept : (reached "x fun void f() \x7b y = g(1, 2 * a) + fun void k() \x7b z = -b \x7d"
      [.advance] [.traced, .parse, .parse]).record = some
        [.enter .program, .enter .functionDefinition, .enter .parameters, .enter .block,
          .enter .assignment, .operand "1", .operand "2", .operand "a", .binary "*", .call "g" 2,
          .enter .program, .enter .functionDefinition, .enter .parameters, .enter .block,
          .enter .assignment, .operand "b", .unary "-"] := by cbv
  obtain ⟨finds, outline, same, -⟩ := record_supplied _ _ _ _ kept
  exact ⟨_, kept, by cbv, fun before step later split => (finds before step later split).2.1,
    outline, same⟩

end Session

end SyntaxCheck
