import SyntaxCheck.Recognizer.Task

/-!
# Texts and remarks of tasks

Some tasks hold a text that was read before, and hand it on until it is recorded. All such texts are lexemes,
or made of them. And what a task remarks is a definition or part of an expression, nothing else.

* `Step.texts`, `Task.HoldsOnly` - the texts that an entry shows, and the tasks that hold texts of a kind;
* `TextKind` - a kind of texts that paths and new values belong to if their parts do;
* `Task.decide_holds` - every decision keeps to such texts, and to such remarks.
-/

namespace SyntaxCheck

/-- The texts that an entry shows. -/
def Step.texts : Step → List String
  | .enter _ => []
  | .operand text | .binary text | .unary text | .call text _ => [text]

/-- The event is a remark about a definition, or about part of an expression that shows only such texts. -/
def Event.RemarksOnly (P : String → Prop) : Event → Prop
  | .defined _ _ => True
  | .grouped step => step.rule? = none ∧ ∀ text ∈ step.texts, P text
  | _ => False

/-- All texts that the task hands on are such texts. -/
def Task.HoldsOnly (P : String → Prop) : Task → Prop
  | .arguments callee | .moreArguments callee _ => P callee
  | .pathName _ before | .morePath _ before => P before
  | .remark event => event.RemarksOnly P
  | _ => True

/-- All texts that the tasks hand on are such texts. -/
def TasksHold (P : String → Prop) (tasks : List Task) : Prop := ∀ task ∈ tasks, task.HoldsOnly P

/-- Whatever comes of a decision holds only such texts, if the lexeme of a token that it takes is one. -/
def Decision.Holds (P : String → Prop) : Decision → Prop
  | .become tasks => TasksHold P tasks
  | .enter _ tasks => TasksHold P tasks
  | .take tasks => ∀ token, P token.lexeme → TasksHold P (tasks token)
  | .look tasks => ∀ next, TasksHold P (tasks next)
  | .note event => event.RemarksOnly P
  | .refuse _ => True

/-- Paths and new values are such texts if their parts are. -/
structure TextKind (P : String → Prop) : Prop where
  dotted : ∀ {path name : String}, P path → P name → P (path ++ "." ++ name)
  new : ∀ {name : String}, P name → P ("new " ++ name)

section Tasks

variable {P : String → Prop} {task : Task} {tasks behind : List Task} {now : Terminal}

@[simp] theorem tasksHold_nil : TasksHold P [] := nofun

@[simp] theorem tasksHold_cons : TasksHold P (task :: tasks) ↔ task.HoldsOnly P ∧ TasksHold P tasks :=
  List.forall_mem_cons

@[simp] theorem tasksHold_append :
    TasksHold P (tasks ++ behind) ↔ TasksHold P tasks ∧ TasksHold P behind :=
  List.forall_mem_append

@[simp] theorem holdsOnly_operand (ℓ : Level) : (Task.operand ℓ).HoldsOnly P := by
  cases ℓ <;> trivial

@[simp] theorem remarksOnly_defined (sort : DefinitionSort) (name : Token) :
    (Event.defined sort name).RemarksOnly P := trivial

@[simp] theorem remarksOnly_operand {text : String} :
    (Event.grouped (.operand text)).RemarksOnly P ↔ P text := by
  simp [Event.RemarksOnly, Step.texts, Step.rule?]

@[simp] theorem remarksOnly_binary {op : String} :
    (Event.grouped (.binary op)).RemarksOnly P ↔ P op := by
  simp [Event.RemarksOnly, Step.texts, Step.rule?]

@[simp] theorem remarksOnly_unary {op : String} :
    (Event.grouped (.unary op)).RemarksOnly P ↔ P op := by
  simp [Event.RemarksOnly, Step.texts, Step.rule?]

@[simp] theorem remarksOnly_call {name : String} {count : Nat} :
    (Event.grouped (.call name count)).RemarksOnly P ↔ P name := by
  simp [Event.RemarksOnly, Step.texts, Step.rule?]

attribute [local simp] Decision.Holds Task.HoldsOnly Task.condition Task.closeCall in
/-- A decision leaves only such texts, and remarks that show them. -/
theorem Task.decide_holds (kind : TextKind P) (now : Terminal) (held : task.HoldsOnly P) :
    (task.decide now).Holds P := by
  cases task with
  | definitions =>
    simp only [decide]
    unfold decideDefinitions
    split <;> simp
  | head m => simp only [decide, takeMark]; split <;> simp
  | mark m expectation => simp only [decide, takeMark]; split <;> simp
  | name role =>
    simp only [decide, takeName]
    split
    · intro token lexeme
      cases role with
      | instantiated => simpa [named] using kind.new lexeme
      | plain | defining sort => simp [named]
    · trivial
  | fields =>
    simp only [decide]
    unfold decideFields
    split <;> simp
  | statements =>
    simp only [decide]
    unfold decideStatements
    split <;> simp
  | statement =>
    simp only [decide]
    unfold decideStatement
    split <;> simp
    intro next
    split <;> simp
  | declaredType =>
    simp only [decide]
    split
    · intro next
      dsimp only
      split <;> simp
    · split <;> simp
  | clauses =>
    simp only [decide]
    unfold decideClauses
    split <;> simp
  | call | path role =>
    simp only [decide, takeName]
    split <;> simp
  | arguments callee =>
    have held : P callee := held
    simp only [decide]
    split <;> simp [held]
  | moreArguments callee count =>
    have held : P callee := held
    simp only [decide]
    split <;> simp [held]
  | pathName role before =>
    have held : P before := held
    simp only [decide, takeName]
    split
    · intro token lexeme
      simpa using kind.dotted held lexeme
    · trivial
  | morePath role before =>
    have path : P before := held
    simp only [decide]
    split
    · simp [path]
    · cases role <;> simp [traversed, path]
  | level ℓ =>
    simp only [decide, Decision.Holds, tasksHold_cons, holdsOnly_operand]
    simp
  | moreOperands ℓ =>
    simp only [decide]
    split
    · intro token lexeme
      simp only [tasksHold_cons, holdsOnly_operand]
      simp [lexeme]
    · simp
  | primary =>
    simp only [decide]
    unfold decidePrimary
    split
    · simp
    split
    · simp
    split
    · simp
    split
    · intro next
      dsimp only
      split <;> simp
    · trivial
  | remark event => exact held
  | program | type | parameters | block | declaration | assignment | callStatement => simp [decide]
  | returnType | typeName | parameterList | moreParameters | direction | returned | unary =>
    simp only [decide]
    split <;> simp

end Tasks

end SyntaxCheck
