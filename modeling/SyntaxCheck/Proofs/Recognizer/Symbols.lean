import SyntaxCheck.Proofs.Grammar.Lookahead

/-!
# Tasks as a sentential form

The tasks of the recognizer are what is left of a leftmost derivation.

* `Task.symbols`, `symbolsOf` - the grammar symbols that a task stands for, and those of all tasks, with
  the end of the input behind them;
* `Decision.Unfolding`, `Task.decide_unfolding` - each decision applies productions at the left end, or
  takes a token that the form may start with.
-/

namespace SyntaxCheck

open GrammarSymbol

/-- The grammar symbols that a task stands for. -/
def Task.symbols : Task → List GrammarSymbol
  | .program | .definitions => [.part .definitions]
  | .head m | .mark m _ => [.token (.only m.terminal)]
  | .name _ => [GrammarSymbol.name]
  | .returnType => [.part .resultType]
  | .type => [.part .type]
  | .typeName => [.token .typeName]
  | .parameters => [.part .parameters]
  | .parameterList => [.part .parameterList]
  | .moreParameters => [.part .moreParameters]
  | .fields => [.part .fields]
  | .block => [.part .block]
  | .statements => [.part .statements]
  | .statement => [.part .statement]
  | .declaration => [.part .declaration]
  | .declaredType => [.part .declaredType]
  | .assignment => [.part .assignment]
  | .clauses => [.part .clauses]
  | .direction => [.token .direction]
  | .returned => [.part .returned]
  | .callStatement => [.part .callStatement]
  | .call => [.part .call]
  | .arguments _ => [.part .arguments, GrammarSymbol.mark .rightParen]
  | .moreArguments _ _ => [.part .moreArguments, GrammarSymbol.mark .rightParen]
  | .path _ => [.part .path]
  | .pathName _ _ => [GrammarSymbol.name, .part .morePath]
  | .morePath _ _ => [.part .morePath]
  | .level ℓ => [.part (.level ℓ)]
  | .moreOperands ℓ => [.part (.moreOperands ℓ)]
  | .unary => [.part .unary]
  | .primary => [.part .primary]
  | .remark _ => []

/-- What the tasks stand for, up to the end of the input. -/
def symbolsOf (tasks : List Task) : List GrammarSymbol :=
  tasks.flatMap Task.symbols ++ [.token (.only .endOfInput)]

@[simp] theorem symbolsOf_cons (task : Task) (tasks : List Task) :
    symbolsOf (task :: tasks) = task.symbols ++ symbolsOf tasks := by
  simp [symbolsOf]

/-- The form that a decision makes of a task comes from it by productions allowed before the current
token; a taken token belongs to the first class of the form. -/
def Decision.Unfolding (task : Task) (behind : List Task) (current : Token) : Decision → Prop
  | .become tasks | .enter _ tasks =>
    Unfolds current.terminal (symbolsOf (task :: behind)) (symbolsOf (tasks ++ behind))
  | .take tasks => ∃ c : TokenClass, c.holds current.terminal = true ∧
      Unfolds current.terminal (symbolsOf (task :: behind))
        (.token c :: symbolsOf (tasks current ++ behind))
  | .look tasks => ∀ next,
      Unfolds current.terminal (symbolsOf (task :: behind)) (symbolsOf (tasks next ++ behind))
  | .note _ => symbolsOf (task :: behind) = symbolsOf behind
  | .refuse _ => True

namespace Task

variable (behind : List Task) (current : Token)

theorem takeMark_unfolding (task : Task) (m : Mark) (expectation : Expectation)
    (same : task.symbols = [.token (.only m.terminal)]) :
    (takeMark m expectation current.terminal).Unfolding task behind current := by
  unfold takeMark
  split
  · rename_i found
    refine ⟨.only m.terminal, beq_iff_eq.2 found, ?_⟩
    rw [symbolsOf_cons, same]
    exact .refl _
  · trivial

theorem takeName_unfolding (task : Task) (tasks : Token → List Task)
    (unfolds : Unfolds current.terminal (symbolsOf (task :: behind))
      (GrammarSymbol.name :: symbolsOf (tasks current ++ behind))) :
    (takeName current.terminal tasks).Unfolding task behind current := by
  unfold takeName
  split
  · rename_i found
    exact ⟨.only .identifier, beq_iff_eq.2 found, unfolds⟩
  · trivial

theorem symbolsOf_named (role : NameRole) :
    symbolsOf (named current role ++ behind) = symbolsOf behind := by
  cases role <;> rfl

theorem symbolsOf_traversed (path : String) (role : PathRole) :
    symbolsOf (traversed path role ++ behind) = symbolsOf behind := by
  cases role <;> rfl

theorem symbols_operand (ℓ : Level) : (operand ℓ).symbols = [GrammarSymbol.operand ℓ] := by
  cases ℓ <;> rfl

theorem decideDefinitions_unfolding :
    (decideDefinitions current.terminal).Unfolding .definitions behind current := by
  unfold decideDefinitions
  split
  · exact Unfolds.expand .noDefinition rfl (.refl _)
  · exact Unfolds.expand .functionFirst rfl (.expand .function rfl (.refl _))
  · exact Unfolds.expand .typeFirst rfl (.expand .typeDefinition rfl (.refl _))
  · trivial

theorem decideFields_unfolding :
    (decideFields current.terminal).Unfolding .fields behind current := by
  unfold decideFields
  split
  · exact Unfolds.expand .noField rfl (.refl _)
  · trivial
  · exact Unfolds.expand .fieldFirst rfl (.refl _)
  · trivial

theorem decideStatements_unfolding :
    (decideStatements current.terminal).Unfolding .statements behind current := by
  unfold decideStatements
  split
  · exact Unfolds.expand .noStatement rfl (.refl _)
  · trivial
  · exact Unfolds.expand .statementFirst rfl (.refl _)

theorem decideStatement_unfolding :
    (decideStatement current.terminal).Unfolding .statement behind current := by
  unfold decideStatement
  split
  · exact Unfolds.expand .declares rfl (.refl _)
  · exact Unfolds.expand .branches rfl (.expand .conditional rfl (.refl _))
  · exact Unfolds.expand .repeats rfl (.expand .while_ rfl (.refl _))
  · exact Unfolds.expand .counts rfl (.expand .for_ rfl (.refl _))
  · exact Unfolds.expand .returns rfl (.expand .return_ rfl (.refl _))
  · exact Unfolds.expand .deletes rfl (.expand .delete rfl (.refl _))
  · intro next
    dsimp only
    split
    · exact .expand .calls rfl (.refl _)
    · exact .expand .assigns rfl (.refl _)
  · trivial

theorem decideClauses_unfolding :
    (decideClauses current.terminal).Unfolding .clauses behind current := by
  unfold decideClauses
  split
  · exact Unfolds.expand .elifFirst rfl (.expand .elif rfl (.refl _))
  · exact Unfolds.expand .elseLast rfl (.expand .else_ rfl (.refl _))
  · exact Unfolds.expand .noClause rfl (.refl _)

theorem decidePrimary_unfolding :
    (decidePrimary current.terminal).Unfolding .primary behind current := by
  unfold decidePrimary
  split
  · rename_i found
    exact ⟨.literal, found, .expand .literal rfl (.refl _)⟩
  split
  · rename_i found
    exact ⟨.only (.keyword .new), beq_iff_eq.2 found, .expand .new rfl (.refl _)⟩
  split
  · rename_i found
    exact ⟨.only (.symbol .leftParen), beq_iff_eq.2 found, .expand .parenthesised rfl (.refl _)⟩
  split
  · intro next
    dsimp only
    split
    · exact .expand .callOperand rfl (.refl _)
    · exact .expand .pathOperand rfl (.refl _)
  · trivial

/-- Every decision goes on with the leftmost derivation. -/
theorem decide_unfolding (task : Task) :
    (task.decide current.terminal).Unfolding task behind current := by
  cases task with
  | program => exact Unfolds.refl _
  | definitions => exact decideDefinitions_unfolding behind current
  | head m => exact takeMark_unfolding behind current _ m _ rfl
  | mark m expectation => exact takeMark_unfolding behind current _ m _ rfl
  | name role =>
    refine takeName_unfolding behind current _ _ ?_
    rw [symbolsOf_named]
    exact .refl _
  | returnType =>
    simp only [decide]
    split
    · rename_i found
      exact ⟨.only (.keyword .void), beq_iff_eq.2 found, .expand .noResult rfl (.refl _)⟩
    · exact Unfolds.expand .resultType rfl (.refl _)
  | type => exact Unfolds.expand .type rfl (.refl _)
  | typeName =>
    simp only [decide]
    split
    · rename_i found
      exact ⟨.typeName, by simpa [TokenClass.holds] using found, .refl _⟩
    · trivial
  | parameters => exact Unfolds.expand .parameters rfl (.refl _)
  | parameterList =>
    simp only [decide, Decision.Unfolding]
    split
    · exact .expand .noParameter rfl (.refl _)
    · exact .expand .parameterFirst rfl (.refl _)
  | moreParameters =>
    simp only [decide]
    split
    · rename_i found
      exact ⟨.only (.symbol .comma), beq_iff_eq.2 found, .expand .nextParameter rfl (.refl _)⟩
    · exact Unfolds.expand .lastParameter rfl (.refl _)
  | fields => exact decideFields_unfolding behind current
  | block => exact Unfolds.expand .block rfl (.refl _)
  | statements => exact decideStatements_unfolding behind current
  | statement => exact decideStatement_unfolding behind current
  | declaration => exact Unfolds.expand .declaration rfl (.refl _)
  | declaredType =>
    simp only [decide]
    split
    · intro next
      dsimp only
      split
      · exact .expand .declaredType rfl (.refl _)
      · exact .expand .noDeclaredType rfl (.refl _)
    · simp only [Decision.Unfolding]
      split
      · exact .expand .declaredType rfl (.refl _)
      · exact .expand .noDeclaredType rfl (.refl _)
  | assignment => exact Unfolds.expand .assignment rfl (.refl _)
  | clauses => exact decideClauses_unfolding behind current
  | direction =>
    simp only [decide]
    split
    · rename_i found
      exact ⟨.direction, by simpa [TokenClass.holds] using found, .refl _⟩
    · trivial
  | returned =>
    simp only [decide, Decision.Unfolding]
    split
    · exact .expand .valueReturned rfl (.refl _)
    · rename_i found
      exact .expand .nothingReturned (by simpa [Production.allowedBefore] using found) (.refl _)
  | callStatement => exact Unfolds.expand .callStatement rfl (.refl _)
  | call => exact takeName_unfolding behind current _ _ (.expand .call rfl (.refl _))
  | arguments callee =>
    simp only [decide, Decision.Unfolding]
    split
    · exact .expand .noArgument rfl (.refl _)
    · exact .expand .argumentFirst rfl (.refl _)
  | moreArguments callee count =>
    simp only [decide]
    split
    · rename_i found
      exact ⟨.only (.symbol .comma), beq_iff_eq.2 found, .expand .nextArgument rfl (.refl _)⟩
    · exact Unfolds.expand .lastArgument rfl (.refl _)
  | path role => exact takeName_unfolding behind current _ _ (.expand .path rfl (.refl _))
  | pathName role before => exact takeName_unfolding behind current _ _ (.refl _)
  | morePath role before =>
    simp only [decide]
    split
    · rename_i found
      exact ⟨.only (.symbol .dot), beq_iff_eq.2 found, .expand .pathGoesOn rfl (.refl _)⟩
    · simp only [Decision.Unfolding, symbolsOf_traversed]
      exact .expand .pathEnds rfl (.refl _)
  | level ℓ =>
    simp only [decide, Decision.Unfolding, List.cons_append, symbolsOf_cons, symbols_operand]
    exact .expand (.level ℓ) rfl (.refl _)
  | moreOperands ℓ =>
    simp only [decide]
    split
    · rename_i found
      refine ⟨.operator ℓ, found, .expand (.nextOperand ℓ) rfl ?_⟩
      simp only [List.cons_append, symbolsOf_cons, symbols_operand]
      exact .refl _
    · exact Unfolds.expand (.lastOperand ℓ) rfl (.refl _)
  | unary =>
    simp only [decide]
    split
    · rename_i found
      exact ⟨.sign, by simpa [TokenClass.holds] using found, .expand .signed rfl (.refl _)⟩
    · exact Unfolds.expand .unsigned rfl (.refl _)
  | primary => exact decidePrimary_unfolding behind current
  | remark event => rfl

end Task

end SyntaxCheck
