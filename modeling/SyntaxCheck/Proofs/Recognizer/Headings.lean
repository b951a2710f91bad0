import SyntaxCheck.Proofs.Recognizer.Foresight
import SyntaxCheck.Proofs.Recognizer.Tracking

/-!
# Where an opening parenthesis is missed

An opening parenthesis that is not there is missed behind the keyword of a condition and behind the name of a
function, and nowhere else. Behind the name of a call it was seen before.

* `Refusal.missesParenthesis` - such a refusal;
* `Whole`, `Task.decide_outside` - the headings among the tasks are whole until their first token is taken;
* `Awaits` - the tokens behind which a heading needs the parenthesis;
* `Headed`, `Headed.decides` - how far the first heading was read, by the latest tokens;
* `Machine.ReadsHeading`, `Machine.ReadsHeading.missesParenthesis_iff` - the refusals of a run.
-/

namespace SyntaxCheck

/-! ### Headings -/

/-- An opening parenthesis is wanted. -/
def Expectation.opens : Expectation → Bool
  | .exactly m => m = .symbol .leftParen
  | .openParameters => true
  -- no condition stands behind `upto`
  | .openCondition k => k ≠ .upto
  | _ => false

/-- An opening parenthesis is wanted and not there. -/
def Refusal.missesParenthesis : Refusal → Bool
  | .unexpected expectation => expectation.opens
  | _ => false

/-- A function or a condition starts with the keyword. -/
def Terminal.startsHeading : Terminal → Bool
  | .keyword .fun_ | .keyword .if_ | .keyword .elif => true
  | _ => false

/-- The task is no part of a heading up to its parenthesis. -/
def Task.isOutside : Task → Bool
  | .head m => !m.terminal.startsHeading
  | .mark m expectation => !m.terminal.startsHeading && !expectation.opens
  | _ => true

/-- The headings among the tasks are whole. -/
inductive Whole : List Task → Prop
  | nil : Whole []
  | outside {task : Task} {tasks : List Task} (outside : task.isOutside = true) (later : Whole tasks) :
      Whole (task :: tasks)
  | condition {k : Keyword} {tasks : List Task} (opens : k = .if_ ∨ k = .elif) (later : Whole tasks) :
      Whole (.head (.keyword k) :: .mark (.symbol .leftParen) (.openCondition k) :: tasks)
  | function {tasks : List Task} (later : Whole tasks) :
      Whole (.head (.keyword .fun_) :: .returnType :: .name (.defining .function) ::
        .mark (.symbol .leftParen) .openParameters :: tasks)

variable {now : Terminal} {shown : Option Token} {task : Task} {tasks behind : List Task}
  {latest : List Terminal}

theorem Whole.append (h : Whole tasks) (later : Whole behind) : Whole (tasks ++ behind) := by
  induction h with
  | nil => exact later
  | outside outside _ ih => exact .outside outside ih
  | condition opens _ ih => exact .condition opens ih
  | function _ ih => exact .function ih

/-- There are no headings among the tasks. -/
theorem Whole.of_outside (outside : tasks.all Task.isOutside = true) : Whole tasks := by
  induction tasks with
  | nil => exact .nil
  | cons task tasks ih =>
    obtain ⟨first, others⟩ := Bool.and_eq_true_iff.1 outside
    exact .outside first (ih others)

/-! ### Outside of headings -/

/-- The decision leaves the headings whole, takes none of their keywords, and misses no parenthesis. -/
def Decision.StaysOutside (now : Terminal) : Decision → Prop
  | .become tasks | .enter _ tasks => Whole tasks
  | .take tasks => now.startsHeading = false ∧ ∀ token, Whole (tasks token)
  | .look tasks => ∀ next, Whole (tasks next)
  | .note _ => True
  | .refuse refusal => refusal.missesParenthesis = false

namespace Task

/-- The keyword or symbol that a rule was chosen by is taken. -/
theorem decide_head (m : Mark) (found : now = m.terminal) : (head m).decide now = .take fun _ => [] :=
  if_pos found

theorem takeMark_outside {m : Mark} {expectation : Expectation} (plain : m.terminal.startsHeading = false)
    (other : now = m.terminal ∨ expectation.opens = false) :
    (takeMark m expectation now).StaysOutside now := by
  unfold takeMark
  split
  · rename_i found
    exact ⟨found ▸ plain, fun _ => .nil⟩
  · rename_i missing
    exact other.resolve_left missing

theorem takeName_outside {tasks : Token → List Task}
    (outside : ∀ token, (tasks token).all isOutside = true) : (takeName now tasks).StaysOutside now := by
  unfold takeName
  split
  · rename_i name
    exact ⟨name ▸ rfl, fun token => .of_outside (outside token)⟩
  · rfl

theorem decideDefinitions_outside : (decideDefinitions now).StaysOutside now := by
  unfold decideDefinitions
  split
  · exact Whole.nil
  · exact Whole.function (.of_outside rfl)
  · exact Whole.of_outside rfl
  · rfl

theorem decideFields_outside : (decideFields now).StaysOutside now := by
  unfold decideFields
  split
  · exact Whole.nil
  · rfl
  · exact Whole.of_outside rfl
  · rfl

theorem decideStatements_outside : (decideStatements now).StaysOutside now := by
  unfold decideStatements
  split
  · exact Whole.nil
  · rfl
  · exact Whole.of_outside rfl

theorem decideStatement_outside : (decideStatement now).StaysOutside now := by
  unfold decideStatement
  split
  case h_2 => exact Whole.condition (.inl rfl) (.of_outside rfl)
  case h_7 =>
    intro next
    dsimp only
    split <;> exact .of_outside rfl
  case h_8 => rfl
  all_goals exact Whole.of_outside rfl

theorem decideClauses_outside : (decideClauses now).StaysOutside now := by
  unfold decideClauses
  split
  · exact Whole.condition (.inr rfl) (.of_outside rfl)
  · exact Whole.of_outside rfl
  · exact Whole.nil

theorem startsHeading_of_isLiteral (literal : now.isLiteral = true) : now.startsHeading = false := by
  cases now with
  | keyword k => cases k <;> first | rfl | cases literal
  | _ => rfl

theorem startsHeading_of_isPrimitiveType (primitive : now.isPrimitiveType = true) :
    now.startsHeading = false := by
  cases now with
  | keyword k => cases k <;> first | rfl | cases primitive
  | _ => rfl

theorem startsHeading_of_holds {ℓ : Level} (operator : ℓ.holds now = true) :
    now.startsHeading = false := by
  cases now with
  | keyword k => cases k <;> first | rfl | (cases ℓ <;> cases operator)
  | _ => rfl

theorem decidePrimary_outside : (decidePrimary now).StaysOutside now := by
  unfold decidePrimary
  split
  · rename_i literal
    exact ⟨startsHeading_of_isLiteral literal, fun _ => .of_outside rfl⟩
  split
  · rename_i new
    exact ⟨new ▸ rfl, fun _ => .of_outside rfl⟩
  split
  · rename_i opens
    exact ⟨opens ▸ rfl, fun _ => .of_outside rfl⟩
  split
  · intro next
    dsimp only
    split <;> exact .of_outside rfl
  · rfl

/-- What is decided outside of headings. -/
theorem decide_outside (outside : task.isOutside = true) (known : task.Foresees now shown) :
    (task.decide now).StaysOutside now := by
  cases task with
  | program => exact Whole.of_outside rfl
  | definitions => exact decideDefinitions_outside
  | head m =>
    refine takeMark_outside (Bool.not_eq_true' _ ▸ outside) ?_
    by_cases brace : m = .symbol .rightBrace
    · exact .inr (brace ▸ rfl)
    · exact .inl (known brace)
  | mark m expectation =>
    simp only [isOutside, Bool.and_eq_true, Bool.not_eq_true'] at outside
    exact takeMark_outside outside.1 (.inr outside.2)
  | name role => exact takeName_outside fun token => by cases role <;> rfl
  | returnType =>
    simp only [decide]
    split
    · rename_i void
      exact ⟨void ▸ rfl, fun _ => .nil⟩
    · exact Whole.of_outside rfl
  | type => exact Whole.of_outside rfl
  | typeName =>
    simp only [decide]
    split
    · rename_i type
      refine ⟨?_, fun _ => .nil⟩
      rcases type with rfl | primitive
      · rfl
      · exact startsHeading_of_isPrimitiveType primitive
    · rfl
  | parameters => exact Whole.of_outside rfl
  | parameterList =>
    simp only [decide, Decision.StaysOutside]
    split <;> exact .of_outside rfl
  | moreParameters =>
    simp only [decide]
    split
    · rename_i comma
      exact ⟨comma ▸ rfl, fun _ => .of_outside rfl⟩
    · exact Whole.nil
  | fields => exact decideFields_outside
  | block => exact Whole.of_outside rfl
  | statements => exact decideStatements_outside
  | statement => exact decideStatement_outside
  | declaration => exact Whole.of_outside rfl
  | declaredType =>
    simp only [decide]
    split
    · intro next
      dsimp only
      split <;> exact .of_outside rfl
    · simp only [Decision.StaysOutside]
      split <;> exact .of_outside rfl
  | assignment => exact Whole.of_outside rfl
  | clauses => exact decideClauses_outside
  | direction =>
    simp only [decide]
    split
    · rename_i direction
      refine ⟨?_, fun _ => .nil⟩
      rcases direction with rfl | rfl <;> rfl
    · rfl
  | returned =>
    simp only [decide, Decision.StaysOutside]
    split <;> exact .of_outside rfl
  | callStatement => exact Whole.of_outside rfl
  | call => exact takeName_outside fun token => rfl
  | arguments callee =>
    simp only [decide, Decision.StaysOutside]
    split <;> exact .of_outside rfl
  | moreArguments callee count =>
    simp only [decide]
    split
    · rename_i comma
      exact ⟨comma ▸ rfl, fun _ => .of_outside rfl⟩
    · exact Whole.of_outside rfl
  | path role => exact takeName_outside fun token => rfl
  | pathName role before => exact takeName_outside fun token => rfl
  | morePath role before =>
    simp only [decide]
    split
    · rename_i dot
      exact ⟨dot ▸ rfl, fun _ => .of_outside rfl⟩
    · cases role <;> exact Whole.of_outside rfl
  | level ℓ => cases ℓ <;> exact Whole.of_outside rfl
  | moreOperands ℓ =>
    simp only [decide]
    split
    · rename_i operator
      refine ⟨startsHeading_of_holds operator, fun token => ?_⟩
      cases ℓ <;> exact .of_outside rfl
    · exact Whole.nil
  | unary =>
    simp only [decide]
    split
    · rename_i operator
      refine ⟨?_, fun _ => .of_outside rfl⟩
      rcases operator with rfl | rfl <;> rfl
    · exact Whole.of_outside rfl
  | primary => exact decidePrimary_outside
  | remark event => trivial

end Task

/-! ### The latest tokens -/

/-- A heading needs a parenthesis behind the tokens, the latest of which comes first. -/
inductive Awaits : List Terminal → Prop
  | condition {k : Keyword} {latest : List Terminal} (opens : k = .if_ ∨ k = .elif) :
      Awaits (.keyword k :: latest)
  | parameters {name type : Terminal} {latest : List Terminal} :
      Awaits (name :: type :: .keyword .fun_ :: latest)

/-- The tokens end outside of a heading. -/
structure Calm (latest : List Terminal) : Prop where
  last : ∀ t ∈ latest.head?, t.startsHeading = false
  function : .keyword .fun_ ∉ latest.take 3

theorem Calm.not_awaits (h : Calm latest) : ¬Awaits latest := by
  rintro (⟨opens⟩ | _)
  · have last := h.last _ rfl
    rcases opens with rfl | rfl <;> cases last
  · exact h.function (by simp)

theorem Calm.cons (h : Calm latest) {t : Terminal} (plain : t.startsHeading = false) :
    Calm (t :: latest) := by
  have other : t ≠ .keyword .fun_ := by
    rintro rfl
    cases plain
  refine ⟨fun _ found => Option.some.inj found ▸ plain, ?_⟩
  rw [List.take_succ_cons, List.mem_cons, not_or]
  exact ⟨other.symm, fun among => h.function (List.take_subset_take_left latest (Nat.le_succ 2) among)⟩

/-- Behind the parenthesis of a condition. -/
theorem Calm.opened (h : Calm latest) {k : Keyword} (opens : k = .if_ ∨ k = .elif) :
    Calm (.symbol .leftParen :: .keyword k :: latest) := by
  refine ⟨fun _ found => Option.some.inj found ▸ rfl, ?_⟩
  have others : .keyword .fun_ ∉ latest.take 1 :=
    fun among => h.function (List.take_subset_take_left latest (Nat.le_add_left 1 2) among)
  rcases opens with rfl | rfl <;> simpa using others

/-! ### Inside of headings -/

/-- How far the first heading was read. -/
inductive Headed : List Terminal → List Task → Prop
  | outside {latest : List Terminal} {tasks : List Task} (calm : Calm latest) (whole : Whole tasks) :
      Headed latest tasks
  | condition {k : Keyword} {latest : List Terminal} {tasks : List Task} (opens : k = .if_ ∨ k = .elif)
      (calm : Calm latest) (whole : Whole tasks) :
      Headed (.keyword k :: latest) (.mark (.symbol .leftParen) (.openCondition k) :: tasks)
  | result {task : Task} {latest : List Terminal} {tasks : List Task}
      (type : task = .returnType ∨ task = .type ∨ task = .typeName) (calm : Calm latest)
      (whole : Whole tasks) :
      Headed (.keyword .fun_ :: latest) (task :: .name (.defining .function) ::
        .mark (.symbol .leftParen) .openParameters :: tasks)
  | name {type : Terminal} {latest : List Terminal} {tasks : List Task}
      (plain : type.startsHeading = false) (calm : Calm latest) (whole : Whole tasks) :
      Headed (type :: .keyword .fun_ :: latest) (.name (.defining .function) ::
        .mark (.symbol .leftParen) .openParameters :: tasks)
  | defined {event : Event} {type : Terminal} {latest : List Terminal} {tasks : List Task}
      (plain : type.startsHeading = false) (whole : Whole tasks) :
      Headed (.identifier :: type :: .keyword .fun_ :: latest) (.remark event ::
        .mark (.symbol .leftParen) .openParameters :: tasks)
  | parameters {type : Terminal} {latest : List Terminal} {tasks : List Task}
      (plain : type.startsHeading = false) (whole : Whole tasks) :
      Headed (.identifier :: type :: .keyword .fun_ :: latest)
        (.mark (.symbol .leftParen) .openParameters :: tasks)

/-- The decision reads on, or misses a parenthesis just where one is awaited and another token is there. -/
def Decision.ReadsOn (latest : List Terminal) (now : Terminal) (behind : List Task) : Decision → Prop
  | .become tasks | .enter _ tasks => Headed latest (tasks ++ behind)
  | .take tasks => ∀ token, Headed (now :: latest) (tasks token ++ behind)
  | .look tasks => ∀ next, Headed latest (tasks next ++ behind)
  | .note _ => Headed latest behind
  | .refuse refusal =>
    refusal.missesParenthesis = true ↔ now ≠ .symbol .leftParen ∧ Awaits latest

/-- Outside of headings, none is awaited. -/
theorem Decision.StaysOutside.readsOn {decision : Decision} (h : decision.StaysOutside now)
    (calm : Calm latest) (whole : Whole behind) : decision.ReadsOn latest now behind := by
  cases decision with
  | become | enter => exact .outside calm (Whole.append h whole)
  | take tasks => exact fun token => .outside (calm.cons h.1) ((h.2 token).append whole)
  | look tasks => exact fun next => .outside calm ((h next).append whole)
  | note => exact .outside calm whole
  | refuse refusal => exact iff_of_false (Bool.eq_false_iff.1 h) fun awaited => calm.not_awaits awaited.2

/-- Every decision reads on. -/
theorem Headed.decides (h : Headed latest (task :: behind)) (known : task.Foresees now shown) :
    (task.decide now).ReadsOn latest now behind := by
  cases h with
  | outside calm whole =>
    cases whole with
    | outside outside later => exact (Task.decide_outside outside known).readsOn calm later
    | condition opens later =>
      have found : now = .keyword _ := known (by simp)
      rw [Task.decide_head (.keyword _) found]
      subst found
      exact fun _ => .condition opens calm later
    | function later =>
      have found : now = .keyword .fun_ := known (by simp)
      rw [Task.decide_head (.keyword .fun_) found]
      subst found
      exact fun _ => .result (.inl rfl) calm later
  | condition opens calm whole =>
    simp only [Task.decide]
    unfold Task.takeMark
    split
    · rename_i found
      subst found
      exact fun _ => .outside (calm.opened opens) whole
    · rename_i missing
      refine iff_of_true ?_ ⟨missing, .condition opens⟩
      rcases opens with rfl | rfl <;> rfl
  | @result _ latest _ type calm whole =>
    -- the type of the result is none of the heading's keywords
    have idle : ¬Awaits (.keyword .fun_ :: latest) := by
      rintro (⟨opens⟩ | _)
      · rcases opens with same | same <;> cases same
      · exact calm.function (by simp)
    rcases type with rfl | rfl | rfl
    · simp only [Task.decide]
      split
      · rename_i void
        exact fun _ => .name (void ▸ rfl) calm whole
      · exact .result (.inr (.inl rfl)) calm whole
    · exact .result (.inr (.inr rfl)) calm whole
    · simp only [Task.decide]
      split
      · rename_i named
        refine fun _ => .name ?_ calm whole
        rcases named with rfl | primitive
        · rfl
        · exact Task.startsHeading_of_isPrimitiveType primitive
      · exact iff_of_false Bool.false_ne_true fun awaited => idle awaited.2
  | @name type latest _ plain calm whole =>
    have idle : ¬Awaits (type :: .keyword .fun_ :: latest) := by
      rintro (⟨opens⟩ | _)
      · rcases opens with rfl | rfl <;> cases plain
      · exact calm.function (by simp)
    simp only [Task.decide, Task.takeName]
    split
    · rename_i named
      exact fun _ => named ▸ .defined plain whole
    · exact iff_of_false Bool.false_ne_true fun awaited => idle awaited.2
  | defined plain whole => exact .parameters plain whole
  | @parameters type latest _ plain whole =>
    simp only [Task.decide]
    unfold Task.takeMark
    split
    · rename_i found
      subst found
      intro token
      have other : type ≠ .keyword .fun_ := by
        rintro rfl
        cases plain
      refine .outside ⟨fun _ same => Option.some.inj same ▸ rfl, ?_⟩ whole
      simpa [Mark.terminal] using other.symm
    · rename_i missing
      exact iff_of_true rfl ⟨missing, .parameters⟩

/-! ### Runs -/

namespace Machine

variable {machine machine' : Machine}

/-- The tokens that were read in front of the current one show how far the first heading was read. -/
def ReadsHeading (all : List Token) (machine : Machine) : Prop :=
  machine.Foresight ∧ ∃ read, read ++ machine.input = all ∧
    Headed (read.map Token.terminal).reverse machine.tasks

theorem readsHeading_start (lexer : Lexer) (current : Token) (events : List Event) :
    (start lexer current events).ReadsHeading (start lexer current events).input :=
  ⟨foresight_start lexer current events, [], rfl,
    .outside ⟨nofun, nofun⟩ (.of_outside rfl)⟩

/-- Every step reads on. -/
theorem ReadsHeading.moves {all : List Token} (h : machine.ReadsHeading all)
    (moved : machine.Moves machine') : machine'.ReadsHeading all := by
  obtain ⟨foresight, read, rfl, headed⟩ := h
  refine ⟨foresight.moves moved, ?_⟩
  -- what the decision about the first task does
  have decides : ∀ {task behind decision}, machine.tasks = task :: behind →
      task.decide machine.current.terminal = decision →
      decision.ReadsOn (read.map Token.terminal).reverse machine.current.terminal behind := by
    intro task behind decision top decided
    unfold Foresight at foresight
    rw [top] at headed foresight
    cases foresight with
    | cons known others => exact decided ▸ headed.decides known
  cases moved with
  | become top decided | enter top decided => exact ⟨read, rfl, decides top decided⟩
  | @take task behind tasks token lexer top decided fetched =>
    refine ⟨read ++ [machine.current], ?_, ?_⟩
    · rw [List.append_assoc, input_of_advance _ _ (more_of_decide decided id) fetched]
      rfl
    · rw [List.map_append, List.reverse_append]
      exact decides top decided machine.current
  | @look task behind tasks token lexer top decided shown =>
    exact ⟨read, congrArg (read ++ ·) (input_of_peek _ _ shown).1.symm, decides top decided token.terminal⟩
  | note top decided => exact ⟨read, rfl, decides top decided⟩

/-- A run that refuses a token misses a parenthesis just where a heading needs one. -/
theorem ReadsHeading.missesParenthesis_iff {all read : List Token} {refusal : Refusal}
    (h : machine.ReadsHeading all) (split : read ++ machine.input = all)
    (top : machine.tasks = task :: behind)
    (decided : task.decide machine.current.terminal = .refuse refusal) :
    refusal.missesParenthesis = true ↔
      machine.current.terminal ≠ .symbol .leftParen ∧ Awaits (read.map Token.terminal).reverse := by
  obtain ⟨foresight, read', rfl, headed⟩ := h
  obtain rfl := List.append_cancel_right split
  unfold Foresight at foresight
  rw [top] at headed foresight
  cases foresight with
  | cons known others =>
    have readsOn := headed.decides known
    rw [decided] at readsOn
    exact readsOn

end Machine

end SyntaxCheck
