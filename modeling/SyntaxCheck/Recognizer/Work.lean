import SyntaxCheck.Recognizer.Task

/-!
# How long until the next token is taken

* `Task.work`, `workOf` - a bound on the decisions made before a token is taken or refused;
* `Decision.Lighter` - a decision that takes nothing leaves less of them;
* `Task.decide_lighter` - every decision of the grammar does;
* `Task.decide_endOfInput` - the end of the input is never taken, and never looked beyond.

A task that cannot be passed over without a token hides all those behind it.
-/

namespace SyntaxCheck

namespace Level

/-- The levels from this one to the operands without an operator, counted from the tightest. -/
def height : Level → Nat
  | .product => 1
  | .sum => 2
  | .relation => 3
  | .equality => 4
  | .and => 5
  | .or => 6

end Level

namespace Task

/-- A bound on the decisions made from this task on before a token is taken or refused, given such a
bound for the tasks behind it. -/
def work (behind : Nat) : Task → Nat
  | .program => 3 + behind
  | .definitions => 2 + behind
  | .head _ | .mark _ _ | .name _ | .typeName | .direction | .call | .path _ | .pathName _ _ => 1
  | .type | .block | .declaration | .assignment | .callStatement => 2
  | .returnType | .statement => 3
  | .moreParameters | .moreOperands _ | .remark _ => 1 + behind
  | .clauses | .morePath _ _ => 2 + behind
  | .parameterList | .fields | .declaredType => 3 + behind
  | .parameters | .statements => 4 + behind
  | .primary => 2
  | .unary => 3
  | .level ℓ => 3 + ℓ.height
  | .moreArguments _ _ => 2
  | .arguments _ => 10
  | .returned => 10 + behind

end Task

/-- A bound on the decisions made before a token is taken or refused. -/
def workOf : List Task → Nat
  | [] => 0
  | task :: tasks => task.work (workOf tasks)

@[simp] theorem workOf_nil : workOf [] = 0 := rfl

@[simp] theorem workOf_cons (task : Task) (tasks : List Task) :
    workOf (task :: tasks) = task.work (workOf tasks) := rfl

/-- Whatever replaces a task leaves fewer decisions, for any tasks behind it. -/
def Decision.Lighter (task : Task) (behind : List Task) : Decision → Prop
  | .become tasks => workOf (tasks ++ behind) < workOf (task :: behind)
  | .enter _ tasks => workOf (tasks ++ behind) < workOf (task :: behind)
  | .take _ => True
  | .look tasks => ∀ next, workOf (tasks next ++ behind) < workOf (task :: behind)
  | .note _ => workOf behind < workOf (task :: behind)
  | .refuse _ => True

/-- A decision that neither takes a token nor looks beyond it. -/
def Decision.Stays : Decision → Prop
  | .take _ => False
  | .look _ => False
  | _ => True

namespace Task

theorem decide_lighter (task : Task) (now : Terminal) (behind : List Task) :
    (task.decide now).Lighter task behind := by
  cases task with
  | program => simp [decide, Decision.Lighter, work]
  | definitions =>
    simp only [decide]
    unfold decideDefinitions
    split <;> simp [Decision.Lighter, work] <;> omega
  | head m => simp only [decide, takeMark]; split <;> trivial
  | mark m expectation => simp only [decide, takeMark]; split <;> trivial
  | name role => simp only [decide, takeName]; split <;> trivial
  | returnType => simp only [decide]; split <;> simp [Decision.Lighter, work]
  | type => simp [decide, Decision.Lighter, work]
  | typeName => simp only [decide]; split <;> trivial
  | parameters => simp [decide, Decision.Lighter, work]
  | parameterList =>
    simp only [decide, Decision.Lighter]
    split <;> simp [work]
    omega
  | moreParameters =>
    simp only [decide]
    split <;> simp [Decision.Lighter, work]
  | fields =>
    simp only [decide]
    unfold decideFields
    split <;> simp [Decision.Lighter, work]
    omega
  | block => simp [decide, Decision.Lighter, work]
  | statements =>
    simp only [decide]
    unfold decideStatements
    split <;> simp [Decision.Lighter, work]
    omega
  | statement =>
    simp only [decide]
    unfold decideStatement
    split <;> simp [Decision.Lighter, work, condition]
    intro next
    split <;> simp [work]
  | declaration => simp [decide, Decision.Lighter, work]
  | declaredType =>
    simp only [decide]
    split
    · intro next
      dsimp only
      split <;> simp [work]
      omega
    · simp only [Decision.Lighter]
      split <;> simp [work]
      omega
  | assignment => simp [decide, Decision.Lighter, work]
  | clauses =>
    simp only [decide]
    unfold decideClauses
    split <;> simp [Decision.Lighter, work, condition] <;> omega
  | direction => simp only [decide]; split <;> trivial
  | returned =>
    simp only [decide, Decision.Lighter]
    split <;> simp only [List.cons_append, List.nil_append, workOf_cons, work, Level.height] <;> omega
  | callStatement => simp [decide, Decision.Lighter, work]
  | call => simp only [decide, takeName]; split <;> trivial
  | arguments callee =>
    simp only [decide, Decision.Lighter]
    split <;> simp [work, closeCall, Level.height]
  | moreArguments callee count =>
    simp only [decide]
    split <;> simp [Decision.Lighter, work, closeCall]
  | path role => simp only [decide, takeName]; split <;> trivial
  | pathName role before => simp only [decide, takeName]; split <;> trivial
  | morePath role before =>
    simp only [decide]
    split
    · trivial
    · cases role <;> simp [Decision.Lighter, work, traversed]
  | level ℓ =>
    simp only [decide, Decision.Lighter, List.cons_append, workOf_cons]
    cases ℓ <;> simp [work, operand, Level.height]
  | moreOperands ℓ =>
    simp only [decide]
    split <;> simp [Decision.Lighter, work]
  | unary =>
    simp only [decide]
    split <;> simp [Decision.Lighter, work]
  | primary =>
    simp only [decide]
    unfold decidePrimary
    split
    · trivial
    split
    · trivial
    split
    · trivial
    split
    · intro next
      dsimp only
      split <;> simp [work]
    · trivial
  | remark event => simp [decide, Decision.Lighter, work]

/-- The end of the input is never taken, and never looked beyond. -/
theorem decide_endOfInput (task : Task) : (task.decide .endOfInput).Stays := by
  cases task <;> try trivial
  case head m => cases m <;> trivial
  case mark m expectation => cases m <;> trivial
  case moreOperands ℓ => cases ℓ <;> trivial

end Task

end SyntaxCheck
