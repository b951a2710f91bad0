import SyntaxCheck.Proofs.Grammar.Composition
import SyntaxCheck.Proofs.Recognizer.History
import SyntaxCheck.Proofs.Recognizer.Trace

/-!
# Checks of texts with the same classes of tokens

Two texts whose tokens have the same classes, one by one, are checked in the same way: every decision
asks for the class of a token only. What is taken over from a token is the text of a name or of a
literal, and that shows in the record only.

* `PathAlike`, `Step.Alike` - entries of two records that agree but for names and literals;
* `Task.Alike`, `Decision.Alike`, `Task.decide_alike` - tasks with such texts are decided alike;
* `Machine.Alike`, `Machine.step_alike`, `Machine.run_alike` - two runs side by side;
* `check_alike` - the outcomes and the records of two texts.
-/

namespace SyntaxCheck

/-! ### Records -/

/-- Two paths of as many names, each pair of names related. -/
inductive PathAlike (R : Token → Token → Prop) : String → String → Prop
  | name {a b : Token} (pair : R a b) (named : a.terminal = .identifier) :
      PathAlike R a.lexeme b.lexeme
  | dotted {path path' : String} {a b : Token} (before : PathAlike R path path') (pair : R a b)
      (named : a.terminal = .identifier) :
      PathAlike R (path ++ "." ++ a.lexeme) (path' ++ "." ++ b.lexeme)

/-- The entries agree, but for the texts of names and literals, which come from related tokens. -/
inductive Step.Alike (R : Token → Token → Prop) : Step → Step → Prop
  | enter (rule : Rule) : Alike R (.enter rule) (.enter rule)
  | literal {a b : Token} (pair : R a b) (isLiteral : a.terminal.isLiteral = true) :
      Alike R (.operand a.lexeme) (.operand b.lexeme)
  | new {a b : Token} (pair : R a b) (named : a.terminal = .identifier) :
      Alike R (.operand ("new " ++ a.lexeme)) (.operand ("new " ++ b.lexeme))
  | path {path path' : String} (alike : PathAlike R path path') :
      Alike R (.operand path) (.operand path')
  | binary (op : String) : Alike R (.binary op) (.binary op)
  | unary (op : String) : Alike R (.unary op) (.unary op)
  | call {a b : Token} (pair : R a b) (named : a.terminal = .identifier) (count : Nat) :
      Alike R (.call a.lexeme count) (.call b.lexeme count)

/-- Records that agree enter the same rules. -/
theorem rules_eq_of_alike {R : Token → Token → Prop} {record record' : Derivation}
    (alike : List.Forall₂ (Step.Alike R) record record') : record.rules = record'.rules := by
  induction alike with
  | nil => rfl
  | @cons a b record record' first _ ih =>
    have split : ∀ (step : Step) (record : Derivation),
        Derivation.rules (step :: record) = step.rule?.toList ++ record.rules := by
      intro step record
      unfold Derivation.rules
      cases found : step.rule? <;> simp [found]
    rw [split, split, ih]
    cases first <;> rfl

/-! ### Decisions -/

/-- The events leave entries that agree. -/
inductive Event.Alike (R : Token → Token → Prop) : Event → Event → Prop
  | grouped {step step' : Step} (alike : Step.Alike R step step') :
      Alike R (.grouped step) (.grouped step')
  | defined (sort : DefinitionSort) (a b : Token) : Alike R (.defined sort a) (.defined sort b)

theorem Event.Alike.step? {R : Token → Token → Prop} {event event' : Event}
    (h : Event.Alike R event event') :
    List.Forall₂ (Step.Alike R) event.step?.toList event'.step?.toList := by
  cases h with
  | grouped alike => exact .cons alike .nil
  | defined => exact .nil

/-- The task holds no text. -/
def Task.holdsNoText : Task → Bool
  | .arguments _ | .moreArguments _ _ | .pathName _ _ | .morePath _ _ | .remark _ => false
  | _ => true

/-- The tasks agree, but for texts of related tokens. -/
inductive Task.Alike (R : Token → Token → Prop) : Task → Task → Prop
  | same {task : Task} (plain : task.holdsNoText = true) : Alike R task task
  | arguments {a b : Token} (pair : R a b) (named : a.terminal = .identifier) :
      Alike R (.arguments a.lexeme) (.arguments b.lexeme)
  | moreArguments {a b : Token} (pair : R a b) (named : a.terminal = .identifier) (count : Nat) :
      Alike R (.moreArguments a.lexeme count) (.moreArguments b.lexeme count)
  | pathName (role : PathRole) {path path' : String} (alike : PathAlike R path path') :
      Alike R (.pathName role path) (.pathName role path')
  | morePath (role : PathRole) {path path' : String} (alike : PathAlike R path path') :
      Alike R (.morePath role path) (.morePath role path')
  | remark {event event' : Event} (alike : Event.Alike R event event') :
      Alike R (.remark event) (.remark event')

abbrev TasksAlike (R : Token → Token → Prop) : List Task → List Task → Prop :=
  List.Forall₂ (Task.Alike R)

/-- Decisions about a token of the class that lead to tasks that agree. -/
inductive Decision.Alike (R : Token → Token → Prop) (now : Terminal) : Decision → Decision → Prop
  | become {tasks tasks' : List Task} (all : TasksAlike R tasks tasks') :
      Alike R now (.become tasks) (.become tasks')
  | enter (rule : Rule) {tasks tasks' : List Task} (all : TasksAlike R tasks tasks') :
      Alike R now (.enter rule tasks) (.enter rule tasks')
  | take {tasks tasks' : Token → List Task}
      (all : ∀ a b, R a b → a.terminal = now → TasksAlike R (tasks a) (tasks' b)) :
      Alike R now (.take tasks) (.take tasks')
  | look {tasks tasks' : Terminal → List Task} (all : ∀ next, TasksAlike R (tasks next) (tasks' next)) :
      Alike R now (.look tasks) (.look tasks')
  | note {event event' : Event} (alike : Event.Alike R event event') :
      Alike R now (.note event) (.note event')
  | refuse (refusal : Refusal) : Alike R now (.refuse refusal) (.refuse refusal)

/-- Related tokens have the same class, and are spelled the same if their class allows one spelling. -/
def Agrees (R : Token → Token → Prop) : Prop :=
  ∀ a b, R a b → a.terminal = b.terminal ∧
    ∀ m : Mark, a.terminal = m.terminal → a.lexeme = b.lexeme

section Decide

variable {R : Token → Token → Prop} {now : Terminal}

/-- Tasks without texts agree with themselves. -/
theorem TasksAlike.plain {tasks : List Task} (plain : tasks.all Task.holdsNoText = true) :
    TasksAlike R tasks tasks :=
  List.forall₂_same.2 fun task found => .same (List.all_eq_true.1 plain task found)

theorem takeMark_alike (m : Mark) (expectation : Expectation) :
    Decision.Alike R now (Task.takeMark m expectation now) (Task.takeMark m expectation now) := by
  unfold Task.takeMark
  split
  · exact .take fun _ _ _ _ => .nil
  · exact .refuse _

/-- The taken name is an identifier in both texts. -/
theorem takeName_alike {tasks tasks' : Token → List Task}
    (all : ∀ a b, R a b → a.terminal = .identifier → TasksAlike R (tasks a) (tasks' b)) :
    Decision.Alike R now (Task.takeName now tasks) (Task.takeName now tasks') := by
  unfold Task.takeName
  split
  · rename_i named
    exact .take fun a b pair same => all a b pair (same.trans named)
  · exact .refuse _

theorem closeCall_alike {a b : Token} (pair : R a b) (named : a.terminal = .identifier)
    (count : Nat) :
    TasksAlike R (Task.closeCall a.lexeme count) (Task.closeCall b.lexeme count) :=
  .cons (.same rfl) (.cons (.remark (.grouped (.call pair named count))) .nil)

theorem decidePrimary_alike : Decision.Alike R now (Task.decidePrimary now) (Task.decidePrimary now) := by
  unfold Task.decidePrimary
  split
  · rename_i isLiteral
    exact .take fun a b pair same =>
      .cons (.remark (.grouped (.literal pair (same ▸ isLiteral)))) .nil
  split
  · exact .take fun _ _ _ _ => .plain rfl
  split
  · exact .take fun _ _ _ _ => .plain rfl
  split
  · refine .look fun next => ?_
    split <;> exact .plain rfl
  · exact .refuse _

/-- Tasks without texts are decided alike. What is taken over from a token is related. -/
theorem Task.decide_alike_of_plain (agrees : Agrees R) (task : Task) (plain : task.holdsNoText = true) :
    Decision.Alike R now (task.decide now) (task.decide now) := by
  cases task with
  | program => exact .enter _ (.plain rfl)
  | definitions =>
    simp only [decide]
    unfold decideDefinitions
    split <;> first | exact .become .nil | exact .enter _ (.plain rfl) | exact .refuse _
  | head m => exact takeMark_alike m _
  | mark m expectation => exact takeMark_alike m expectation
  | name role =>
    refine takeName_alike fun a b pair named => ?_
    cases role with
    | plain => exact .nil
    | defining sort => exact .cons (.remark (.defined sort a b)) .nil
    | instantiated => exact .cons (.remark (.grouped (.new pair named))) .nil
  | returnType =>
    simp only [decide]
    split
    · exact .take fun _ _ _ _ => .nil
    · exact .become (.plain rfl)
  | type => exact .enter _ (.plain rfl)
  | typeName =>
    simp only [decide]
    split
    · exact .take fun _ _ _ _ => .nil
    · exact .refuse _
  | parameters => exact .enter _ (.plain rfl)
  | parameterList =>
    simp only [decide]
    split <;> exact .become (.plain rfl)
  | moreParameters =>
    simp only [decide]
    split
    · exact .take fun _ _ _ _ => .plain rfl
    · exact .become .nil
  | fields =>
    simp only [decide]
    unfold decideFields
    split <;> first | exact .become (.plain rfl) | exact .refuse _
  | block => exact .enter _ (.plain rfl)
  | statements =>
    simp only [decide]
    unfold decideStatements
    split <;> first | exact .become (.plain rfl) | exact .refuse _
  | statement =>
    simp only [decide]
    unfold decideStatement
    split
    case h_7 =>
      refine .look fun next => ?_
      split <;> exact .plain rfl
    all_goals first | exact .become (.plain rfl) | exact .enter _ (.plain rfl) | exact .refuse _
  | declaration => exact .enter _ (.plain rfl)
  | declaredType =>
    simp only [decide]
    split
    · refine .look fun next => ?_
      split <;> exact .plain rfl
    · split <;> exact .become (.plain rfl)
  | assignment => exact .enter _ (.plain rfl)
  | clauses =>
    simp only [decide]
    unfold decideClauses
    split <;> first | exact .become .nil | exact .enter _ (.plain rfl)
  | direction =>
    simp only [decide]
    split
    · exact .take fun _ _ _ _ => .nil
    · exact .refuse _
  | returned =>
    simp only [decide]
    split <;> exact .become (.plain rfl)
  | callStatement => exact .enter _ (.plain rfl)
  | call =>
    exact takeName_alike fun a b pair named => .cons (.same rfl) (.cons (.arguments pair named) .nil)
  | path role =>
    exact takeName_alike fun a b pair named => .cons (.morePath role (.name pair named)) .nil
  | level ℓ =>
    refine .become (.plain ?_)
    cases ℓ <;> rfl
  | moreOperands ℓ =>
    simp only [decide]
    split
    · rename_i holds
      refine .take fun a b pair same => ?_
      obtain ⟨m, mark⟩ := exists_mark_of_operator now holds
      have op : a.lexeme = b.lexeme := (agrees a b pair).2 m (same.trans mark)
      rw [op]
      refine .cons (.same ?_) (.cons (.remark (.grouped (.binary b.lexeme))) (.cons (.same rfl) .nil))
      cases ℓ <;> rfl
    · exact .become .nil
  | unary =>
    simp only [decide]
    split
    · rename_i sign
      refine .take fun a b pair same => ?_
      have op : a.lexeme = b.lexeme := by
        rcases sign with minus | not
        · exact (agrees a b pair).2 (.symbol .minus) (same.trans minus)
        · exact (agrees a b pair).2 (.keyword .not) (same.trans not)
      rw [op]
      exact .cons (.same rfl) (.cons (.remark (.grouped (.unary b.lexeme))) .nil)
    · exact .become (.plain rfl)
  | primary => exact decidePrimary_alike
  | arguments callee => cases plain
  | moreArguments callee count => cases plain
  | pathName role before => cases plain
  | morePath role before => cases plain
  | remark event => cases plain

/-- Tasks that agree are decided alike. -/
theorem Task.decide_alike (agrees : Agrees R) {task task' : Task} (h : Task.Alike R task task') :
    Decision.Alike R now (task.decide now) (task'.decide now) := by
  cases h with
  | same plain => exact task.decide_alike_of_plain agrees plain
  | arguments pair named =>
    refine .become ?_
    split
    · exact closeCall_alike pair named 0
    · exact .cons (.same rfl) (.cons (.moreArguments pair named 1) .nil)
  | moreArguments pair named count =>
    simp only [decide]
    split
    · exact .take fun _ _ _ _ =>
        .cons (.same rfl) (.cons (.moreArguments pair named (count + 1)) .nil)
    · exact .become (closeCall_alike pair named count)
  | pathName role alike =>
    exact takeName_alike fun a b pair named =>
      .cons (.morePath role (.dotted alike pair named)) .nil
  | morePath role alike =>
    simp only [decide]
    split
    · exact .take fun _ _ _ _ => .cons (.pathName role alike) .nil
    · refine .become ?_
      cases role with
      | target => exact .nil
      | operand => exact .cons (.remark (.grouped (.path alike))) .nil
  | remark alike => exact .note alike

end Decide

/-! ### Two runs -/

/-- The tokens stand at the same place of two words. -/
def Paired (tokens tokens' : List Token) (a b : Token) : Prop :=
  ∃ i : Nat, tokens[i]? = some a ∧ tokens'[i]? = some b

namespace Machine

variable {tokens tokens' : List Token} {a b : Machine}

/-- The machines have come as far in the two words, with tasks and records that agree. No lexical fault
is behind the words. -/
structure Alike (tokens tokens' : List Token) (a b : Machine) : Prop where
  inputs : ∃ i, a.input = tokens.drop i ∧ b.input = tokens'.drop i
  clean : a.ending = none
  clean' : b.ending = none
  tasks : TasksAlike (Paired tokens tokens') a.tasks b.tasks
  steps : List.Forall₂ (Step.Alike (Paired tokens tokens'))
    (Event.steps a.events.reverse) (Event.steps b.events.reverse)

/-- The steps go on alike, end alike, or refuse the tokens at the same place for the same reason. -/
inductive ProgressAlike (tokens tokens' : List Token) : Progress → Progress → Prop
  | next {a b : Machine} (alike : Alike tokens tokens' a b) :
      ProgressAlike tokens tokens' (.next a) (.next b)
  | done : ProgressAlike tokens tokens' .done .done
  | refused (refusal : Refusal) {a b : Machine} (alike : Alike tokens tokens' a b) :
      ProgressAlike tokens tokens' (.failed (refusal.fault a.current) a)
        (.failed (refusal.fault b.current) b)

/-- Where no lexical fault is met, the token behind the current one can be fetched. -/
theorem exists_advance (clean : a.ending = none) (more : a.current.isEndOfInput = false) :
    ∃ token lexer, a.lexer.advance = (.ok token, lexer) := by
  cases fetched : a.lexer.advance with
  | mk answer lexer =>
    cases answer with
    | ok token => exact ⟨token, lexer, rfl⟩
    | error fault =>
      rw [(ahead_of_missing more fetched).2] at clean
      cases clean

/-- And it can be shown: it is the next one of the word. -/
theorem exists_peek (clean : a.ending = none) (more : a.current.isEndOfInput = false) :
    ∃ token lexer, a.lexer.peek = (.ok token, lexer) ∧ a.ahead.head? = some token := by
  cases shown : a.lexer.peek with
  | mk answer lexer =>
    cases answer with
    | ok token =>
      refine ⟨token, lexer, rfl, ?_⟩
      rw [ahead, more]
      exact Lexer.head?_drain (Lexer.peek_ok shown).2.1
    | error fault =>
      rw [(ahead_of_missing more (Lexer.peek_error shown)).2] at clean
      cases clean

namespace Alike

theorem pair (h : Alike tokens tokens' a b) : Paired tokens tokens' a.current b.current := by
  obtain ⟨i, here, here'⟩ := h.inputs
  refine ⟨i, ?_, ?_⟩
  · rw [← List.head?_drop, ← here, input, List.head?_cons]
  · rw [← List.head?_drop, ← here', input, List.head?_cons]

/-- The words go on alike behind the current tokens. -/
theorem behind (h : Alike tokens tokens' a b) :
    ∃ i, a.ahead = tokens.drop i ∧ b.ahead = tokens'.drop i := by
  obtain ⟨i, here, here'⟩ := h.inputs
  refine ⟨i + 1, ?_, ?_⟩
  · rw [← List.tail_drop, ← here, input, List.tail_cons]
  · rw [← List.tail_drop, ← here', input, List.tail_cons]

/-- The tokens are taken on both sides. -/
theorem take (h : Alike tokens tokens' a b) (more : a.current.isEndOfInput = false)
    (more' : b.current.isEndOfInput = false) {tasks tasks' : List Task}
    (all : TasksAlike (Paired tokens tokens') tasks tasks') :
    ProgressAlike tokens tokens' (a.take tasks) (b.take tasks') := by
  obtain ⟨token, lexer, fetched⟩ := exists_advance h.clean more
  obtain ⟨token', lexer', fetched'⟩ := exists_advance h.clean' more'
  obtain ⟨i, behind, behind'⟩ := h.behind
  rw [Machine.take, fetched, Machine.take, fetched']
  obtain ⟨input_eq, ending_eq⟩ :=
    ahead_of_advance tasks (a.lexer.scanEvents token ++ a.events) more fetched
  obtain ⟨input_eq', ending_eq'⟩ :=
    ahead_of_advance tasks' (b.lexer.scanEvents token' ++ b.events) more' fetched'
  refine .next ⟨⟨i, ?_, ?_⟩, ?_, ?_, all, ?_⟩
  · rw [← input_eq, behind]
  · rw [← input_eq', behind']
  · rw [← ending_eq, h.clean]
  · rw [← ending_eq', h.clean']
  · rw [Event.steps_scanned, Event.steps_scanned]
    exact h.steps

/-- The tokens behind the current ones are shown on both sides. -/
theorem look (h : Alike tokens tokens' a b) (agrees : Agrees (Paired tokens tokens'))
    (more : a.current.isEndOfInput = false) (more' : b.current.isEndOfInput = false)
    {tasks tasks' : Terminal → List Task}
    (all : ∀ next, TasksAlike (Paired tokens tokens') (tasks next) (tasks' next)) :
    ProgressAlike tokens tokens' (a.look tasks) (b.look tasks') := by
  obtain ⟨token, lexer, shown, first⟩ := exists_peek h.clean more
  obtain ⟨token', lexer', shown', first'⟩ := exists_peek h.clean' more'
  obtain ⟨i, behind, behind'⟩ := h.behind
  obtain ⟨j, here, here'⟩ := h.inputs
  have pair : Paired tokens tokens' token token' := by
    refine ⟨i, ?_, ?_⟩
    · rw [← List.head?_drop, ← behind, first]
    · rw [← List.head?_drop, ← behind', first']
  rw [Machine.look, shown, Machine.look, shown']
  obtain ⟨input_eq, ending_eq⟩ :=
    input_of_peek (tasks token.terminal) (a.lexer.scanEvents token ++ a.events) shown
  obtain ⟨input_eq', ending_eq'⟩ :=
    input_of_peek (tasks' token'.terminal) (b.lexer.scanEvents token' ++ b.events) shown'
  refine .next ⟨⟨j, ?_, ?_⟩, ?_, ?_, ?_, ?_⟩
  · rw [← input_eq, here]
  · rw [← input_eq', here']
  · rw [← ending_eq, h.clean]
  · rw [← ending_eq', h.clean']
  · dsimp only
    rw [(agrees token token' pair).1]
    exact all _
  · rw [Event.steps_scanned, Event.steps_scanned]
    exact h.steps

/-- Decisions that agree are carried out alike. -/
theorem carryOut (h : Alike tokens tokens' a b) (agrees : Agrees (Paired tokens tokens'))
    {behind behind' : List Task} (others : TasksAlike (Paired tokens tokens') behind behind')
    {decision decision' : Decision}
    (decided : Decision.Alike (Paired tokens tokens') a.current.terminal decision decision')
    (more : ¬decision.Stays → a.current.isEndOfInput = false)
    (more' : ¬decision'.Stays → b.current.isEndOfInput = false) :
    ProgressAlike tokens tokens' (a.carryOut behind decision) (b.carryOut behind' decision') := by
  have append : ∀ {tasks tasks' : List Task}, TasksAlike (Paired tokens tokens') tasks tasks' →
      TasksAlike (Paired tokens tokens') (tasks ++ behind) (tasks' ++ behind') :=
    fun tasks => List.rel_append tasks others
  cases decided with
  | become tasks => exact .next ⟨h.inputs, h.clean, h.clean', append tasks, h.steps⟩
  | enter rule tasks =>
    refine .next ⟨h.inputs, h.clean, h.clean', append tasks, ?_⟩
    rw [Event.steps_cons, Event.steps_cons]
    exact List.rel_append h.steps (.cons (.enter rule) .nil)
  | take tasks => exact h.take (more id) (more' id) (append (tasks _ _ h.pair rfl))
  | look tasks => exact h.look agrees (more id) (more' id) fun next => append (tasks next)
  | note event =>
    refine .next ⟨h.inputs, h.clean, h.clean', others, ?_⟩
    rw [Event.steps_cons, Event.steps_cons]
    exact List.rel_append h.steps event.step?
  | refuse refusal => exact .refused refusal h

end Alike

theorem step_of_tasks {task : Task} {behind : List Task} (top : a.tasks = task :: behind) :
    a.step = a.carryOut behind (task.decide a.current.terminal) := by
  rw [step, top]

/-- Steps of machines that agree do. -/
theorem step_alike (agrees : Agrees (Paired tokens tokens')) (h : Alike tokens tokens' a b) :
    ProgressAlike tokens tokens' a.step b.step := by
  have same := (agrees _ _ h.pair).1
  have all := h.tasks
  generalize top : a.tasks = tasks at all
  generalize top' : b.tasks = tasks' at all
  cases all with
  | nil =>
    rw [step, top, step, top']
    exact .done
  | cons first others =>
    rw [step_of_tasks top, step_of_tasks top', ← same]
    exact h.carryOut agrees others (Task.decide_alike agrees first) (more_of_decide rfl)
      (more_of_decide (by rw [same]))

/-- The runs end alike: both accept, or both refuse the tokens at the same place for the same reason. -/
inductive OutcomeAlike (tokens tokens' : List Token) :
    Except Fault Unit × Machine → Except Fault Unit × Machine → Prop
  | accepted {a b : Machine} (alike : Alike tokens tokens' a b) :
      OutcomeAlike tokens tokens' (.ok (), a) (.ok (), b)
  | refused (refusal : Refusal) {a b : Machine} (alike : Alike tokens tokens' a b) :
      OutcomeAlike tokens tokens' (.error (refusal.fault a.current), a)
        (.error (refusal.fault b.current), b)

theorem run_eq (machine : Machine) : machine.run =
    match machine.step with
    | .next machine' => run machine'
    | .done => (.ok (), machine)
    | .failed fault machine' => (.error fault, machine') := by
  rw [run]
  split <;> rename_i progress <;> rw [progress]

/-- Runs of machines that agree do. -/
theorem run_alike (agrees : Agrees (Paired tokens tokens')) (h : Alike tokens tokens' a b) :
    OutcomeAlike tokens tokens' a.run b.run := by
  fun_induction run a generalizing b with
  | case1 a a' progress ih =>
    have steps := step_alike agrees h
    rw [progress] at steps
    rw [run_eq b]
    generalize b.step = progress' at steps
    cases steps with
    | next alike => exact ih alike
  | case2 a progress =>
    have steps := step_alike agrees h
    rw [progress] at steps
    rw [run_eq b]
    generalize b.step = progress' at steps
    cases steps with
    | done => exact .accepted h
  | case3 a fault left progress =>
    have steps := step_alike agrees h
    rw [progress] at steps
    rw [run_eq b]
    generalize b.step = progress' at steps
    cases steps with
    | refused refusal alike => exact .refused refusal alike

end Machine

/-! ### Two texts -/

/-- Tokens at the same place have the same class, and marks of one class are spelled the same. -/
theorem agrees_paired {tokens tokens' : List Token}
    (lexemes : ∀ token ∈ tokens, token.terminal ≠ .endOfInput →
      Lexeme token.kind token.lexeme.toList)
    (lexemes' : ∀ token ∈ tokens', token.terminal ≠ .endOfInput →
      Lexeme token.kind token.lexeme.toList)
    (same : tokens.map Token.terminal = tokens'.map Token.terminal) :
    Agrees (Paired tokens tokens') := by
  rintro a b ⟨i, here, here'⟩
  have terminal_eq : a.terminal = b.terminal := by
    have at_i := congrArg (·[i]?) same
    simpa [here, here'] using at_i
  refine ⟨terminal_eq, fun m mark => ?_⟩
  have more : ∀ {token : Token}, token.terminal = m.terminal → token.terminal ≠ .endOfInput := by
    intro token mark
    rw [mark]
    cases m <;> exact nofun
  have spelled : ∀ {token : Token}, token.terminal = m.terminal →
      Lexeme token.kind token.lexeme.toList → token.lexeme = m.spelling := by
    intro token mark isLexeme
    exact Token.lexeme_of_mark (Mark.item_of_terminal isLexeme mark)
  have mark' := terminal_eq.symm.trans mark
  rw [spelled mark (lexemes a (List.mem_of_getElem? here) (more mark)),
    spelled mark' (lexemes' b (List.mem_of_getElem? here') (more mark'))]

/-- A text whose tokens are handed out without a fault has a first one, and its run starts with all. -/
theorem exists_start {text : String} {tokens : List Token}
    (found : (Lexer.ofString text).tokenize.1 = .ok tokens) :
    ∃ token lexer, (Lexer.ofString text).advance = (.ok token, lexer) ∧
      (Machine.start lexer token ((Lexer.ofString text).scanEvents token)).input = tokens ∧
      (Machine.start lexer token ((Lexer.ofString text).scanEvents token)).ending = none := by
  obtain ⟨rfl, clean⟩ := tokenize_ok_iff.1 found
  cases next : (Lexer.ofString text).advance with
  | mk answer lexer =>
    cases answer with
    | error fault =>
      rw [Lexer.drain_of_fault next] at clean
      cases clean
    | ok token =>
      obtain ⟨tokens_eq, fault_eq⟩ := Machine.drain_of_advance [.program]
        ((Lexer.ofString text).scanEvents token) next
      exact ⟨token, lexer, rfl, tokens_eq.symm, fault_eq.symm.trans clean⟩

/-- Two texts whose tokens have the same classes, one by one: both are accepted, or the tokens at one
place are refused for the same reason. The records enter the same rules, and their entries agree but for
the texts of names and literals, which stand at the same places. -/
theorem check_alike (text text' : String) (tokens tokens' : List Token)
    (found : (Lexer.ofString text).tokenize.1 = .ok tokens)
    (found' : (Lexer.ofString text').tokenize.1 = .ok tokens')
    (same : tokens.map Token.terminal = tokens'.map Token.terminal) :
    ((check text = .ok () ∧ check text' = .ok ()) ∨
      ∃ (refusal : Refusal) (a b : Token), Paired tokens tokens' a b ∧
        check text = .error (refusal.fault a) ∧ check text' = .error (refusal.fault b)) ∧
    (trace text).1 = check text ∧ (trace text').1 = check text' ∧
    (trace text).2.rules = (trace text').2.rules ∧
    List.Forall₂ (Step.Alike (Paired tokens tokens')) (trace text).2 (trace text').2 := by
  obtain ⟨token, lexer, fetched, input_eq, clean⟩ := exists_start found
  obtain ⟨token', lexer', fetched', input_eq', clean'⟩ := exists_start found'
  have agrees := agrees_paired (Lexer.tokenize_ok_iff_tiles.1 found).lexemes
    (Lexer.tokenize_ok_iff_tiles.1 found').lexemes same
  have alike : Machine.Alike tokens tokens'
      (.start lexer token ((Lexer.ofString text).scanEvents token))
      (.start lexer' token' ((Lexer.ofString text').scanEvents token')) := by
    refine ⟨⟨0, input_eq, input_eq'⟩, clean, clean', .plain rfl, ?_⟩
    rw [Machine.start, Machine.start, Event.steps_scanEvents, Event.steps_scanEvents]
    exact .nil
  have outcomes := Machine.run_alike agrees alike
  have outcome := check_of_advance fetched
  have outcome' := check_of_advance fetched'
  have record := trace_of_advance fetched
  have record' := trace_of_advance fetched'
  dsimp only at record record'
  generalize (Machine.start lexer token _).run = finished at outcomes outcome record
  generalize (Machine.start lexer' token' _).run = finished' at outcomes outcome' record'
  have first : (trace text).1 = check text := by rw [record, outcome]
  have first' : (trace text').1 = check text' := by rw [record', outcome']
  have steps : List.Forall₂ (Step.Alike (Paired tokens tokens')) (trace text).2 (trace text').2 := by
    rw [record, record']
    cases outcomes with
    | accepted alike | refused refusal alike =>
      rw [steps_finish, steps_finish]
      exact alike.steps
  refine ⟨?_, first, first', rules_eq_of_alike steps, steps⟩
  cases outcomes with
  | accepted alike => exact .inl ⟨outcome, outcome'⟩
  | refused refusal alike => exact .inr ⟨refusal, _, _, alike.pair, outcome, outcome'⟩

/-- Other names and numbers, another layout, and the same refusal of the same token. -/
theorem check_alike_respelled :
    ∃ (tokens tokens' : List Token) (refusal : Refusal) (a b : Token),
      (Lexer.ofString "fun void f() \x7b x.y = 1 + \x7d").tokenize.1 = .ok tokens ∧
      (Lexer.ofString "fun void g()\n\x7b p . q # r\n=2+\x7d").tokenize.1 = .ok tokens' ∧
      Paired tokens tokens' a b ∧
      check "fun void f() \x7b x.y = 1 + \x7d" = .error (refusal.fault a) ∧
      check "fun void g()\n\x7b p . q # r\n=2+\x7d" = .error (refusal.fault b) := by
  have clean : (Lexer.ofString "fun void f() \x7b x.y = 1 + \x7d").drain.fault = none := by cbv
  have clean' : (Lexer.ofString "fun void g()\n\x7b p . q # r\n=2+\x7d").drain.fault = none := by cbv
  have same : (Lexer.ofString "fun void f() \x7b x.y = 1 + \x7d").drain.tokens.map Token.terminal =
      (Lexer.ofString "fun void g()\n\x7b p . q # r\n=2+\x7d").drain.tokens.map Token.terminal := by
    cbv
  have found := tokenize_ok_iff.2 ⟨rfl, clean⟩
  have found' := tokenize_ok_iff.2 ⟨rfl, clean'⟩
  obtain ⟨⟨accepted, -⟩ | ⟨refusal, a, b, pair, refused, refused'⟩, -⟩ :=
    check_alike _ _ _ _ found found' same
  · have rejected : (check "fun void f() \x7b x.y = 1 + \x7d").isOk = false := by cbv
    rw [accepted] at rejected
    cases rejected
  · exact ⟨_, _, refusal, a, b, found, found', pair, refused, refused'⟩

end SyntaxCheck
