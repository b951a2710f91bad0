import SyntaxCheck.Proofs.Recognizer.Run

/-!
# Between two turns of the same part

No part of the grammar has two turns without a token that is taken between them. The parts are ranked:
whatever comes first before the next token is taken has a lower rank than what came first before it.

* `Task.rank`, `Task.rankBehind` - the ranks of tasks that are no remarks;
* `Descends`, `Places`, `Task.decide_places` - what every decision puts in place ranks lower;
* `Machine.Turn`, `Machine.Moves.turn` - all that a step can do, told by ranks;
* `Task.part?`, `Machine.Enters` - the parts of the grammar, and the states in which one has its turn;
* `Machine.Reaches.input_suffix`, `Machine.token_between` - what was taken does not come back, and a token is
  taken between two turns.
-/

namespace SyntaxCheck

/-! ### Ranks -/

/-- The task is a remark. -/
def Task.isRemark : Task → Bool
  | .remark _ => true
  | _ => false

/-- The rank of a task that is no remark. What comes first before a token is taken has a lower one. -/
def Task.rank : Task → Nat
  | .head _ | .mark _ _ | .name _ | .typeName | .direction | .call | .path _ | .pathName _ _ => 0
  | .definitions | .type | .moreParameters | .block | .declaration | .assignment | .callStatement => 1
  | .moreArguments _ _ | .primary => 1
  | .program | .returnType | .parameterList | .statement | .declaredType | .unary => 2
  | .parameters | .fields | .statements => 3
  | .clauses => 4
  | .level ℓ => 2 + ℓ.height
  | .moreOperands ℓ => 10 - ℓ.height
  | .returned | .arguments _ => 9
  | .morePath _ _ => 10
  | .remark _ => 0

/-- What stands behind the task ranks lower than this. All ranks do, where the task ends with a token. -/
def Task.rankBehind : Task → Nat
  | .program | .definitions | .parameters | .parameterList | .moreParameters => 1
  | .declaredType => 2
  | .fields | .statements => 3
  | .statement | .declaration | .assignment | .clauses | .returned => 4
  | .level ℓ | .moreOperands ℓ => 10 - ℓ.height
  | .unary | .primary | .path _ | .pathName _ _ | .morePath _ _ => 10
  | _ => 11

/-- The tasks rank below the limit, each one below what those in front of it leave, and they leave the last
one to what stands behind. Remarks are passed over. -/
def Descends : Nat → List Task → Nat → Bool
  | limit, [], last => last ≤ limit
  | limit, task :: tasks, last =>
    if task.isRemark then Descends limit tasks last
    else task.rank < limit && Descends task.rankBehind tasks last

variable {limit limit' last final : Nat} {task : Task} {tasks behind : List Task}

theorem descends_remark (remark : task.isRemark = true) :
    Descends limit (task :: tasks) last = Descends limit tasks last :=
  if_pos remark

theorem descends_cons (ranked : task.isRemark = false) :
    Descends limit (task :: tasks) last = true ↔
      task.rank < limit ∧ Descends task.rankBehind tasks last = true := by
  rw [Descends, ranked, if_neg Bool.false_ne_true, Bool.and_eq_true, decide_eq_true_iff]

theorem descends_mono (le : limit ≤ limit') (h : Descends limit tasks last = true) :
    Descends limit' tasks last = true := by
  induction tasks with
  | nil => exact decide_eq_true (Nat.le_trans (of_decide_eq_true h) le)
  | cons task tasks ih =>
    cases ranked : task.isRemark with
    | true =>
      rw [descends_remark ranked] at h ⊢
      exact ih h
    | false =>
      rw [descends_cons ranked] at h ⊢
      exact ⟨Nat.lt_of_lt_of_le h.1 le, h.2⟩

theorem descends_append (h : Descends limit tasks last = true) (later : Descends last behind final = true) :
    Descends limit (tasks ++ behind) final = true := by
  induction tasks generalizing limit with
  | nil => exact descends_mono (of_decide_eq_true h) later
  | cons task tasks ih =>
    rw [List.cons_append]
    cases ranked : task.isRemark with
    | true =>
      rw [descends_remark ranked] at h ⊢
      exact ih h
    | false =>
      rw [descends_cons ranked] at h ⊢
      exact ⟨h.1, ih h.2⟩

/-! ### Decisions -/

/-- How many of the tasks are remarks. -/
def remarksOf (tasks : List Task) : Nat := tasks.countP Task.isRemark

/-- The tasks may be put in place of one below the limit, with one remark among them. -/
def Places (limit : Nat) (tasks : List Task) (last : Nat) : Prop :=
  (Descends limit tasks last && remarksOf tasks ≤ 1) = true

theorem Places.descends (h : Places limit tasks last) : Descends limit tasks last = true :=
  (Bool.and_eq_true_iff.1 h).1

theorem Places.remarksOf_le (h : Places limit tasks last) : remarksOf tasks ≤ 1 :=
  of_decide_eq_true (Bool.and_eq_true_iff.1 h).2

/-- What a decision puts in place of a task of the rank ranks lower, or a token is taken. -/
def Decision.Places (rank last : Nat) : Decision → Prop
  | .become tasks | .enter _ tasks => SyntaxCheck.Places rank tasks last
  | .take tasks => ∀ token, SyntaxCheck.Places 11 (tasks token) last
  | .look tasks => ∀ next, SyntaxCheck.Places rank (tasks next) last
  | .note _ => False
  | .refuse _ => True

namespace Task

variable {now : Terminal} {rank : Nat}

theorem takeMark_places (m : Mark) (expectation : Expectation) :
    (takeMark m expectation now).Places rank 11 := by
  unfold takeMark
  split
  · exact fun _ => rfl
  · trivial

theorem takeName_places {tasks : Token → List Task}
    (places : ∀ token, SyntaxCheck.Places 11 (tasks token) last) :
    (takeName now tasks).Places rank last := by
  unfold takeName
  split
  · exact places
  · trivial

theorem decideDefinitions_places : (decideDefinitions now).Places 1 1 := by
  unfold decideDefinitions
  split <;> first | exact rfl | trivial

theorem decideFields_places : (decideFields now).Places 3 3 := by
  unfold decideFields
  split <;> first | exact rfl | trivial

theorem decideStatements_places : (decideStatements now).Places 3 3 := by
  unfold decideStatements
  split <;> first | exact rfl | trivial

theorem decideStatement_places : (decideStatement now).Places 2 4 := by
  unfold decideStatement
  split
  case h_7 =>
    intro next
    dsimp only
    split <;> rfl
  all_goals first | exact rfl | trivial

theorem decideClauses_places : (decideClauses now).Places 4 4 := by
  unfold decideClauses
  split <;> exact rfl

theorem decidePrimary_places : (decidePrimary now).Places 1 10 := by
  unfold decidePrimary
  split
  · exact fun _ => rfl
  split
  · exact fun _ => rfl
  split
  · exact fun _ => rfl
  split
  · intro next
    dsimp only
    split <;> rfl
  · trivial

/-- Whatever is put in place of a task ranks lower. -/
theorem decide_places (ranked : task.isRemark = false) (now : Terminal) :
    (task.decide now).Places task.rank task.rankBehind := by
  cases task with
  | program => exact rfl
  | definitions => exact decideDefinitions_places
  | head m | mark m => exact takeMark_places m _
  | name role => exact takeName_places fun token => by cases role <;> rfl
  | type | parameters | block | declaration | assignment | callStatement => exact rfl
  | returnType | typeName | moreParameters | direction | moreArguments | unary =>
    simp only [decide]
    split
    · exact fun _ => rfl
    · first | exact rfl | trivial
  | parameterList | returned | arguments =>
    simp only [decide, Decision.Places]
    split <;> rfl
  | fields => exact decideFields_places
  | statements => exact decideStatements_places
  | statement => exact decideStatement_places
  | declaredType =>
    simp only [decide]
    split
    · intro next
      dsimp only
      split <;> rfl
    · simp only [Decision.Places]
      split <;> rfl
  | clauses => exact decideClauses_places
  | call | path | pathName => exact takeName_places fun token => rfl
  | morePath role before =>
    simp only [decide]
    split
    · exact fun _ => rfl
    · cases role <;> exact rfl
  | level ℓ => cases ℓ <;> exact rfl
  | moreOperands ℓ =>
    simp only [decide]
    split
    · intro token
      cases ℓ <;> rfl
    · cases ℓ <;> exact rfl
  | primary => exact decidePrimary_places
  | remark event => cases ranked

end Task

/-! ### Steps -/

namespace Machine

variable {machine machine' : Machine}

/-- What a step about the first task does to the tasks and to the tokens that are left. -/
inductive Turn (machine : Machine) (task : Task) (behind : List Task) (machine' : Machine) : Prop
  | remark (remark : task.isRemark = true) (left : machine'.tasks = behind)
      (kept : machine'.input = machine.input)
  | stays {tasks : List Task} (ranked : task.isRemark = false)
      (places : Places task.rank tasks task.rankBehind) (left : machine'.tasks = tasks ++ behind)
      (kept : machine'.input = machine.input)
  | takes {tasks : List Task} (ranked : task.isRemark = false)
      (places : Places 11 tasks task.rankBehind) (left : machine'.tasks = tasks ++ behind)
      (taken : machine.input = machine.current :: machine'.input)

theorem Moves.turn (moved : machine.Moves machine') :
    ∃ task behind, machine.tasks = task :: behind ∧ machine.Turn task behind machine' := by
  -- only a remark is noted
  have places : ∀ {task : Task} {decision : Decision}, task.decide machine.current.terminal = decision →
      (∀ event, decision ≠ .note event) →
      task.isRemark = false ∧ decision.Places task.rank task.rankBehind := by
    rintro task _ rfl other
    cases ranked : task.isRemark with
    | false => exact ⟨rfl, Task.decide_places ranked _⟩
    | true =>
      cases task with
      | remark event => exact absurd rfl (other event)
      | _ => cases ranked
  cases moved with
  | become top decided | enter top decided =>
    obtain ⟨ranked, places⟩ := places decided nofun
    exact ⟨_, _, top, .stays ranked places rfl rfl⟩
  | take top decided fetched =>
    obtain ⟨ranked, places⟩ := places decided nofun
    exact ⟨_, _, top, .takes ranked (places machine.current) rfl
      (input_of_advance _ _ (more_of_decide decided id) fetched)⟩
  | @look task behind tasks token lexer top decided shown =>
    obtain ⟨ranked, places⟩ := places decided nofun
    exact ⟨_, _, top, .stays ranked (places token.terminal) rfl (input_of_peek _ _ shown).1.symm⟩
  | @note task behind event top decided =>
    refine ⟨_, _, top, .remark ?_ rfl rfl⟩
    cases ranked : task.isRemark with
    | true => rfl
    | false =>
      have none := Task.decide_places ranked machine.current.terminal
      rw [decided] at none
      exact none.elim

/-- The tasks rank lower and lower until a token is taken. -/
def Paced (machine : Machine) : Prop := Descends 11 machine.tasks 0 = true

/-- What comes behind a task before a token is taken ranks lower. -/
theorem Turn.lower (turn : machine.Turn task behind machine') (ranked : task.isRemark = false)
    (h : Descends task.rankBehind behind 0 = true) :
    machine'.input = machine.input ∧ Descends task.rank machine'.tasks 0 = true ∨
      machine.input = machine.current :: machine'.input ∧ machine'.Paced := by
  cases turn with
  | remark remark => cases ranked.symm.trans remark
  | stays _ places left kept =>
    exact .inl ⟨kept, left ▸ descends_append places.descends h⟩
  | takes _ places left taken =>
    refine .inr ⟨taken, ?_⟩
    unfold Paced
    rw [left]
    exact descends_append places.descends h

/-- What a step leaves stays below the limit, unless a token was taken. -/
theorem Turn.descends (turn : machine.Turn task behind machine')
    (h : Descends limit (task :: behind) 0 = true) :
    machine'.input = machine.input ∧ Descends limit machine'.tasks 0 = true ∨
      machine.input = machine.current :: machine'.input ∧ machine'.Paced := by
  cases ranked : task.isRemark with
  | true =>
    cases turn with
    | remark remark left kept => exact .inl ⟨kept, left ▸ descends_remark ranked ▸ h⟩
    | stays other | takes other => cases ranked.symm.trans other
  | false =>
    rw [descends_cons ranked] at h
    exact (turn.lower ranked h.2).imp_left fun lower =>
      ⟨lower.1, descends_mono (Nat.le_of_lt h.1) lower.2⟩

theorem Paced.moves (h : machine.Paced) (moved : machine.Moves machine') : machine'.Paced := by
  obtain ⟨task, behind, top, turn⟩ := moved.turn
  unfold Paced at h
  rw [top] at h
  rcases turn.descends h with ⟨-, paced⟩ | ⟨-, paced⟩
  · exact paced
  · exact paced

/-- A step takes the current token, or none. -/
theorem Moves.input_suffix (moved : machine.Moves machine') :
    ∃ taken, machine.input = taken ++ machine'.input := by
  obtain ⟨task, behind, top, turn⟩ := moved.turn
  cases turn with
  | remark unranked left kept => exact ⟨[], kept.symm⟩
  | stays ranked places left kept => exact ⟨[], kept.symm⟩
  | takes ranked places left taken => exact ⟨[machine.current], taken⟩

/-- Tokens are taken from the front of the input, and none comes back. -/
theorem Reaches.input_suffix (reached : machine.Reaches machine') :
    ∃ taken, machine.input = taken ++ machine'.input := by
  induction reached with
  | refl => exact ⟨[], rfl⟩
  | step first _ ih =>
    obtain ⟨token, taken⟩ := (moves_of_step first).input_suffix
    obtain ⟨others, same⟩ := ih
    exact ⟨token ++ others, by rw [taken, same, List.append_assoc]⟩

/-- Until a token is taken, all that comes stays below the limit. -/
theorem Reaches.descends (reached : machine.Reaches machine')
    (h : Descends limit machine.tasks 0 = true) :
    machine'.input = machine.input ∧ Descends limit machine'.tasks 0 = true ∨
      ∃ token taken, machine.input = token :: (taken ++ machine'.input) := by
  induction reached with
  | refl => exact .inl ⟨rfl, h⟩
  | step first later ih =>
    obtain ⟨task, behind, top, turn⟩ := (moves_of_step first).turn
    rw [top] at h
    rcases turn.descends h with ⟨kept, lower⟩ | ⟨taken, -⟩
    · rw [← kept]
      exact ih lower
    · obtain ⟨more, same⟩ := later.input_suffix
      exact .inr ⟨_, more, taken.trans (congrArg _ same)⟩

end Machine

/-! ### Turns -/

/-- The part of the grammar that the task is a turn of, whatever it does with names and counts. Each loop and
each level of operators is a part of its own. -/
def Task.part? : Task → Option Task
  | .remark _ => none
  | .name _ => some (.name .plain)
  | .arguments _ => some (.arguments "")
  | .moreArguments _ _ => some (.moreArguments "" 0)
  | .path _ => some (.path .target)
  | .pathName _ _ => some (.pathName .target "")
  | .morePath _ _ => some (.morePath .target "")
  | task => some task

/-- The turns of one part have the same rank, and are no remarks. -/
theorem Task.rank_of_part? {part : Task} (h : task.part? = some part) :
    task.isRemark = false ∧ task.rank = part.rank := by
  cases task with
  | remark event => cases h
  | _ =>
    obtain rfl := Option.some.inj h
    exact ⟨rfl, rfl⟩

namespace Machine

variable {machine machine' next : Machine}

/-- The part of the grammar has its turn. -/
def Enters (machine : Machine) (part : Task) : Prop :=
  ∃ task behind, machine.tasks = task :: behind ∧ task.part? = some part

/-- Between two turns of the same part a token is taken. -/
theorem token_between {part : Task} (paced : machine.Paced) (enters : machine.Enters part)
    (leaves : machine.step = .next next) (later : next.Reaches machine') (again : machine'.Enters part) :
    ∃ token taken, machine.input = token :: (taken ++ machine'.input) := by
  obtain ⟨task, behind, top, part_eq⟩ := enters
  obtain ⟨other, behind', top', part_eq'⟩ := again
  obtain ⟨ranked, rank_eq⟩ := Task.rank_of_part? part_eq
  obtain ⟨ranked', rank_eq'⟩ := Task.rank_of_part? part_eq'
  obtain ⟨first, others, top'', turn⟩ := (moves_of_step leaves).turn
  obtain ⟨rfl, rfl⟩ := List.cons_eq_cons.1 (top.symm.trans top'')
  unfold Paced at paced
  rw [top, descends_cons ranked] at paced
  rcases turn.lower ranked paced.2 with ⟨kept, lower⟩ | ⟨taken, -⟩
  · rw [← kept]
    rcases later.descends lower with ⟨-, lower⟩ | taken
    · -- the second turn would have to rank below the first
      rw [top', descends_cons ranked', rank_eq, rank_eq'] at lower
      exact absurd lower.1 (Nat.lt_irrefl _)
    · exact taken
  · obtain ⟨more, same⟩ := later.input_suffix
    exact ⟨_, more, taken.trans (congrArg _ same)⟩

end Machine

end SyntaxCheck
