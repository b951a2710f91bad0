import SyntaxCheck.Proofs.Recognizer.Run

/-!
# Tasks that were chosen for the tokens ahead

Some tasks are put first because of the current token, or because of the one shown behind it. Nothing is done
before them, so that token is still there when their turn comes.

* `Task.isChosen` - the tasks that are put first only;
* `Task.Foresees` - what was seen when the task was chosen;
* `Task.decide_foresees` - every decision sees so much for the tasks it puts in place;
* `Machine.Foresight`, `Machine.Foresight.moves` - so it holds in every state of a run.
-/

namespace SyntaxCheck

/-! ### Tasks -/

/-- The task is put first, because of the tokens ahead. The brace at the end of a block comes later. -/
def Task.isChosen : Task → Bool
  | .head m => m ≠ .symbol .rightBrace
  | .declaration | .assignment | .callStatement | .call | .path _ => true
  | _ => false

/-- What the task was chosen for: the current token, and perhaps the one that is shown. -/
def Task.Foresees (now : Terminal) (shown : Option Token) : Task → Prop
  | .head m => m ≠ .symbol .rightBrace → now = m.terminal
  | .declaration => now = .keyword .var
  | .assignment | .path _ => now = .identifier
  | .callStatement | .call =>
    now = .identifier ∧ ∃ token ∈ shown, token.terminal = .symbol .leftParen
  | _ => True

/-- The first task may have been chosen for the tokens ahead, and none of the others was. -/
inductive Chosen (now : Terminal) (shown : Option Token) : List Task → Prop
  | nil : Chosen now shown []
  | cons {task : Task} {tasks : List Task} (first : task.Foresees now shown)
      (others : ∀ other ∈ tasks, other.isChosen = false) : Chosen now shown (task :: tasks)

variable {now : Terminal} {shown : Option Token} {task : Task} {tasks behind : List Task}

/-- A task that was not chosen is certain of nothing. -/
theorem Task.foresees_of_not_chosen (later : task.isChosen = false) : task.Foresees now shown := by
  cases task with
  | head m => exact fun other => absurd other (of_decide_eq_false later)
  | declaration | assignment | callStatement | call | path => cases later
  | _ => trivial

/-- None of the tasks was chosen. -/
theorem Chosen.of_forall (none : ∀ task ∈ tasks, task.isChosen = false) : Chosen now shown tasks := by
  cases tasks with
  | nil => exact .nil
  | cons task tasks =>
    obtain ⟨first, others⟩ := List.forall_mem_cons.1 none
    exact .cons (Task.foresees_of_not_chosen first) others

theorem Chosen.of_none (none : tasks.any Task.isChosen = false) : Chosen now shown tasks :=
  .of_forall fun _ among => Bool.eq_false_iff.2 (List.any_eq_false.1 none _ among)

theorem Chosen.append (h : Chosen now shown tasks) (later : ∀ other ∈ behind, other.isChosen = false) :
    Chosen now shown (tasks ++ behind) := by
  cases h with
  | nil => exact .of_forall later
  | cons first others => exact .cons first (List.forall_mem_append.2 ⟨others, later⟩)

/-! ### Decisions -/

/-- What the tasks put in place by a decision were chosen for is there. A token is taken for the one that was
shown, if one was. -/
def Decision.Foresees (now : Terminal) (shown : Option Token) : Decision → Prop
  | .become tasks | .enter _ tasks => Chosen now shown tasks
  | .take tasks => ∀ token next : Token, (∀ seen ∈ shown, next = seen) →
      Chosen next.terminal none (tasks token)
  | .look tasks => ∀ next : Token, Chosen now (some next) (tasks next.terminal)
  | .note _ | .refuse _ => True

namespace Task

theorem takeMark_foresees (m : Mark) (expectation : Expectation) :
    (takeMark m expectation now).Foresees now shown := by
  unfold takeMark
  split
  · exact fun _ _ _ => .nil
  · trivial

theorem takeName_foresees {tasks : Token → List Task}
    (none : ∀ token, (tasks token).any Task.isChosen = false) :
    (takeName now tasks).Foresees now shown := by
  unfold takeName
  split
  · exact fun token _ _ => Chosen.of_none (none token)
  · trivial

theorem decideDefinitions_foresees : (decideDefinitions now).Foresees now shown := by
  unfold decideDefinitions
  split
  · exact Chosen.nil
  · exact Chosen.cons (fun _ => rfl) (by decide)
  · exact Chosen.cons (fun _ => rfl) (by decide)
  · trivial

theorem decideFields_foresees : (decideFields now).Foresees now shown := by
  unfold decideFields
  split
  · exact Chosen.nil
  · trivial
  · exact Chosen.cons rfl (by decide)
  · trivial

theorem decideStatements_foresees : (decideStatements now).Foresees now shown := by
  unfold decideStatements
  split
  · exact Chosen.nil
  · trivial
  · exact Chosen.of_none rfl

theorem decideStatement_foresees : (decideStatement now).Foresees now shown := by
  unfold decideStatement
  split
  case h_1 => exact Chosen.cons rfl (by decide)
  case h_7 =>
    intro next
    dsimp only
    split
    · rename_i opens
      exact .cons ⟨rfl, next, rfl, opens⟩ (List.forall_mem_nil _)
    · exact .cons rfl (List.forall_mem_nil _)
  case h_8 => trivial
  all_goals exact Chosen.cons (fun _ => rfl) (by decide)

theorem decideClauses_foresees : (decideClauses now).Foresees now shown := by
  unfold decideClauses
  split
  · exact Chosen.cons (fun _ => rfl) (by decide)
  · exact Chosen.cons (fun _ => rfl) (by decide)
  · exact Chosen.nil

theorem decidePrimary_foresees : (decidePrimary now).Foresees now shown := by
  unfold decidePrimary
  split
  · exact fun _ _ _ => Chosen.of_none rfl
  split
  · exact fun _ _ _ => Chosen.of_none rfl
  split
  · exact fun _ _ _ => Chosen.of_none rfl
  split
  · rename_i name
    intro next
    dsimp only
    split
    · rename_i opens
      exact .cons ⟨name, next, rfl, opens⟩ (List.forall_mem_nil _)
    · exact .cons name (List.forall_mem_nil _)
  · trivial

/-- Every decision sees what the tasks it puts in place are chosen for. -/
theorem decide_foresees (h : task.Foresees now shown) : (task.decide now).Foresees now shown := by
  cases task with
  | program => exact Chosen.of_none rfl
  | definitions => exact decideDefinitions_foresees
  | head m => exact takeMark_foresees m _
  | mark m expectation => exact takeMark_foresees m expectation
  | name role => exact takeName_foresees fun token => by cases role <;> rfl
  | returnType =>
    simp only [decide]
    split
    · exact fun _ _ _ => .nil
    · exact Chosen.of_none rfl
  | type => exact Chosen.of_none rfl
  | typeName =>
    simp only [decide]
    split
    · exact fun _ _ _ => .nil
    · trivial
  | parameters => exact Chosen.of_none rfl
  | parameterList =>
    simp only [decide, Decision.Foresees]
    split <;> exact Chosen.of_none rfl
  | moreParameters =>
    simp only [decide]
    split
    · exact fun _ _ _ => Chosen.of_none rfl
    · exact Chosen.nil
  | fields => exact decideFields_foresees
  | block => exact Chosen.of_none rfl
  | statements => exact decideStatements_foresees
  | statement => exact decideStatement_foresees
  | declaration => exact Chosen.cons (fun _ => h) (by decide)
  | declaredType =>
    simp only [decide]
    split
    · intro next
      dsimp only
      split <;> exact Chosen.of_none rfl
    · simp only [Decision.Foresees]
      split <;> exact Chosen.of_none rfl
  | assignment => exact Chosen.cons h (by decide)
  | clauses => exact decideClauses_foresees
  | direction =>
    simp only [decide]
    split
    · exact fun _ _ _ => .nil
    · trivial
  | returned =>
    simp only [decide, Decision.Foresees]
    split <;> exact Chosen.of_none rfl
  | callStatement => exact Chosen.cons h (List.forall_mem_nil _)
  | call =>
    -- the parenthesis that was shown behind the name is the next token
    obtain ⟨name, seen, found, opens⟩ := h
    simp only [decide, takeName, if_pos name]
    intro token next same
    rw [same seen found, opens]
    exact .cons (fun _ => rfl) (List.forall_mem_singleton.2 rfl)
  | arguments callee =>
    simp only [decide, Decision.Foresees]
    split <;> exact Chosen.of_none rfl
  | moreArguments callee count =>
    simp only [decide]
    split
    · exact fun _ _ _ => Chosen.of_none rfl
    · exact Chosen.of_none rfl
  | path role => exact takeName_foresees fun token => rfl
  | pathName role before => exact takeName_foresees fun token => rfl
  | morePath role before =>
    simp only [decide]
    split
    · exact fun _ _ _ => Chosen.of_none rfl
    · cases role <;> exact Chosen.of_none rfl
  | level ℓ => cases ℓ <;> exact Chosen.of_none rfl
  | moreOperands ℓ =>
    simp only [decide]
    split
    · intro token next _
      cases ℓ <;> exact Chosen.of_none rfl
    · exact Chosen.nil
  | unary =>
    simp only [decide]
    split
    · exact fun _ _ _ => Chosen.of_none rfl
    · exact Chosen.of_none rfl
  | primary => exact decidePrimary_foresees
  | remark event => trivial

end Task

/-! ### Runs -/

namespace Machine

variable {machine machine' : Machine}

/-- What the first task was chosen for is there. -/
def Foresight (machine : Machine) : Prop :=
  Chosen machine.current.terminal machine.lexer.shown machine.tasks

/-- What the decision about the first task sees. -/
theorem Foresight.decides {decision : Decision} (h : machine.Foresight) (top : machine.tasks = task :: behind)
    (decided : task.decide machine.current.terminal = decision) :
    decision.Foresees machine.current.terminal machine.lexer.shown ∧
      ∀ other ∈ behind, other.isChosen = false := by
  unfold Foresight at h
  rw [top] at h
  cases h with
  | cons first others => exact ⟨decided ▸ Task.decide_foresees first, others⟩

/-- Every step keeps it. -/
theorem Foresight.moves (h : machine.Foresight) (moved : machine.Moves machine') :
    machine'.Foresight := by
  cases moved with
  | become top decided | enter top decided =>
    obtain ⟨chosen, others⟩ := h.decides top decided
    exact chosen.append others
  | @take task behind tasks token lexer top decided fetched =>
    obtain ⟨chosen, others⟩ := h.decides top decided
    have none := machine.lexer.shown_advance
    rw [fetched] at none
    have none : lexer.shown = .none := none
    -- what was shown is what is handed out
    have same : ∀ seen ∈ machine.lexer.shown, token = seen := by
      intro seen found
      rw [Lexer.advance, Option.mem_def.1 found] at fetched
      injection fetched with fetched
      injection fetched with fetched
      exact fetched.symm
    unfold Foresight
    dsimp only
    rw [none]
    exact (chosen machine.current token same).append others
  | @look task behind tasks token lexer top decided shown =>
    obtain ⟨chosen, others⟩ := h.decides top decided
    unfold Foresight
    dsimp only
    rw [(Lexer.peek_ok shown).1]
    exact (chosen token).append others
  | note top decided =>
    obtain ⟨-, others⟩ := h.decides top decided
    exact .of_forall others

theorem foresight_start (lexer : Lexer) (current : Token) (events : List Event) :
    (start lexer current events).Foresight :=
  Chosen.of_none rfl

end Machine

end SyntaxCheck
