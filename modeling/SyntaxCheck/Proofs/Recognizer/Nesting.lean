import SyntaxCheck.Proofs.Recognizer.Transport

/-!
# What is open in the middle of a check

The tasks tell which braces are open. What stands between two braces comes right in front of the closing one,
and behind that brace come only clauses, the rest of what stands around it, or the other definitions.

* `Layer`, `Task.layer` - what a task has to do with braces;
* `Layer.precedes`, `Layered` - what may come right behind what, and lists of tasks in which it does;
* `Layer.standsFor`, `Replaces`, `layered_above` - tasks that may be put in the place of another one;
* `Nested` - the tasks are layered, and a closing brace is not due before it is there;
* `Task.decide_nests`, `Outcomes.Moves.nested` - every decision keeps them so;
* `Task.decide_closesLike`, `Task.decide_meetsEnd` - the end of the input and a closing brace are decided about
  alike.
-/

namespace SyntaxCheck

/-! ### Layers -/

/-- What a task has to do with braces. -/
inductive Layer
  /-- No brace, or one that opens. -/
  | inner
  /-- A statement or a block that is still to come. -/
  | opening
  /-- The clauses behind a block. -/
  | clauses
  /-- What stands between two braces. -/
  | body
  /-- A closing brace. -/
  | brace
  /-- The rest of the program. -/
  | definitions
  deriving DecidableEq

/-- What a keyword or symbol has to do with braces. -/
def Mark.layer : Mark → Layer
  | .symbol .rightBrace => .brace
  | _ => .inner

/-- What a task has to do with braces. -/
def Task.layer : Task → Layer
  | .program | .definitions => .definitions
  | .fields | .statements => .body
  | .head m | .mark m _ => m.layer
  | .block | .statement => .opening
  | .clauses => .clauses
  | _ => .inner

/-- A task of the second layer may come right behind one of the first. -/
def Layer.precedes : Layer → Layer → Bool
  | .definitions, _ => false
  | .body, next => next = .brace
  | .inner, next => next ≠ .brace
  | _, next => next = .clauses ∨ next = .body ∨ next = .definitions

/-- What may come right behind a task of the second layer may come right behind one of the first. -/
def Layer.standsFor : Layer → Layer → Bool
  | layer, .definitions => layer = .definitions
  | layer, .body => layer = .body
  | layer, .inner => layer = .inner
  | layer, _ => layer ≠ .definitions ∧ layer ≠ .body

theorem Layer.precedes_of_standsFor {layer other next : Layer} (stands : layer.standsFor other = true)
    (precedes : other.precedes next = true) : layer.precedes next = true := by
  revert stands precedes
  cases layer <;> cases other <;> cases next <;> decide

/-- Each task comes behind one that it may come behind, and the last ones are the definitions. -/
def Layered : List Layer → Bool
  | [] => true
  | [last] => last = .definitions
  | first :: second :: others => first.precedes second && Layered (second :: others)

/-- The tasks may be put in the place of one of the layer. -/
def Replaces (layer : Layer) : List Layer → Bool
  | [] => true
  | [last] => last.standsFor layer
  | first :: second :: others => first.precedes second && Replaces layer (second :: others)

theorem layered_tail {first : Layer} {others : List Layer} (h : Layered (first :: others) = true) :
    Layered others = true := by
  cases others with
  | nil => rfl
  | cons second others => exact (Bool.and_eq_true_iff.1 h).2

/-- Nothing is behind the definitions, and something that may come there is behind any other task. -/
theorem layered_next {layer : Layer} {others : List Layer}
    (layered : Layered (layer :: others) = true) :
    layer = .definitions ∧ others = [] ∨
      ∃ next later, others = next :: later ∧ layer.precedes next = true := by
  cases others with
  | nil => exact .inl ⟨of_decide_eq_true layered, rfl⟩
  | cons next later => exact .inr ⟨next, later, rfl, (Bool.and_eq_true_iff.1 layered).1⟩

/-- Nothing is behind the definitions. -/
theorem eq_nil_of_definitions {others : List Layer} (layered : Layered (.definitions :: others) = true) :
    others = [] := by
  rcases layered_next layered with ⟨-, none⟩ | ⟨next, later, -, precedes⟩
  · exact none
  · cases precedes

/-- The tasks behind another one are layered behind those in its place. -/
theorem layered_above {layer : Layer} {above behind : List Layer} (replaces : Replaces layer above = true)
    (h : Layered (layer :: behind) = true) : Layered (above ++ behind) = true := by
  induction above with
  | nil => exact layered_tail h
  | cons first above ih =>
    cases above with
    | cons second above =>
      obtain ⟨precedes, later⟩ := Bool.and_eq_true_iff.1 replaces
      exact Bool.and_eq_true_iff.2 ⟨precedes, ih later⟩
    | nil =>
      -- the last task stands in for the one that was there
      cases behind with
      | nil =>
        obtain rfl : layer = .definitions := of_decide_eq_true h
        exact replaces
      | cons next behind =>
        obtain ⟨precedes, later⟩ := Bool.and_eq_true_iff.1 h
        exact Bool.and_eq_true_iff.2 ⟨Layer.precedes_of_standsFor replaces precedes, later⟩

/-! ### Tasks -/

/-- The tasks are layered. A closing brace is not due before it is there. -/
structure Nested (now : Terminal) (tasks : List Task) : Prop where
  layered : Layered (tasks.map Task.layer) = true
  due : (tasks.map Task.layer).head? = some .brace → now = .symbol .rightBrace

/-- The tasks may be put in the place of one of the layer. They do not start with a closing brace, and they do
not let one become due that is not there. -/
structure Fits (layer : Layer) (now : Terminal) (tasks : List Task) : Prop where
  replaces : Replaces layer (tasks.map Task.layer) = true
  starts : (tasks.map Task.layer).head? ≠ some .brace
  leaves : tasks = [] → layer = .body → now = .symbol .rightBrace

/-- What a decision about a task of the layer puts in its place fits there. -/
def Decision.Nests (layer : Layer) (now : Terminal) : Decision → Prop
  | .become tasks | .enter _ tasks => Fits layer now tasks
  | .take tasks => ∀ token next, Fits layer next (tasks token)
  | .look tasks => ∀ next, Fits layer now (tasks next)
  | .note _ => Fits layer now []
  | .refuse _ => True

theorem Nested.above {task : Task} {tasks behind : List Task} {now next : Terminal}
    (h : Nested now (task :: behind)) (fits : Fits task.layer next tasks) :
    Nested next (tasks ++ behind) := by
  have layered : Layered (task.layer :: behind.map Task.layer) = true := h.layered
  refine ⟨?_, fun due => ?_⟩
  · rw [List.map_append]
    exact layered_above fits.replaces layered
  · cases tasks with
    | cons first tasks => exact absurd due fits.starts
    | nil =>
      cases behind with
      | nil => cases due
      | cons second behind =>
        -- a closing brace is due behind what stands in front of it
        refine fits.leaves rfl ?_
        have brace : second.layer = .brace := Option.some.inj due
        have precedes := (Bool.and_eq_true_iff.1 layered).1
        rw [brace] at precedes
        revert precedes
        cases task.layer <;> decide

/-! ### Decisions -/

/-- The tasks fit in the place of one of the layer, whatever the current token is. -/
def fitsAnywhere (layer : Layer) (layers : List Layer) : Bool :=
  Replaces layer layers && layers.head? ≠ some .brace && (layers ≠ [] || layer ≠ .body)

theorem Fits.of_anywhere {layer : Layer} {tasks : List Task} {now : Terminal}
    (anywhere : fitsAnywhere layer (tasks.map Task.layer) = true) : Fits layer now tasks := by
  simp only [fitsAnywhere, Bool.and_eq_true, Bool.or_eq_true, decide_eq_true_eq] at anywhere
  obtain ⟨⟨replaces, starts⟩, some⟩ := anywhere
  refine ⟨replaces, starts, ?_⟩
  rintro rfl body
  rcases some with some | other
  · exact absurd rfl some
  · exact absurd body other

namespace Task

variable (now : Terminal)

theorem takeMark_nests (m : Mark) (expectation : Expectation) :
    (takeMark m expectation now).Nests m.layer now := by
  have more : m.layer ≠ .body := by
    cases m with
    | keyword => exact nofun
    | symbol s => cases s <;> exact nofun
  unfold takeMark
  split
  · exact fun _ _ => .of_anywhere (by simpa [fitsAnywhere, Replaces] using more)
  · trivial

theorem takeName_nests {layer : Layer} {tasks : Token → List Task}
    (fits : ∀ token, fitsAnywhere layer ((tasks token).map Task.layer) = true) :
    (takeName now tasks).Nests layer now := by
  unfold takeName
  split
  · exact fun token _ => .of_anywhere (fits token)
  · trivial

theorem decideDefinitions_nests : (decideDefinitions now).Nests .definitions now := by
  unfold decideDefinitions
  split
  · exact Fits.of_anywhere rfl
  · exact Fits.of_anywhere rfl
  · exact Fits.of_anywhere rfl
  · trivial

theorem decideFields_nests : (decideFields now).Nests .body now := by
  unfold decideFields
  split
  · exact ⟨rfl, nofun, fun _ _ => rfl⟩
  · trivial
  · exact Fits.of_anywhere rfl
  · trivial

theorem decideStatements_nests : (decideStatements now).Nests .body now := by
  unfold decideStatements
  split
  · exact ⟨rfl, nofun, fun _ _ => rfl⟩
  · trivial
  · exact Fits.of_anywhere rfl

theorem decideStatement_nests : (decideStatement now).Nests .opening now := by
  unfold decideStatement
  split
  case h_7 =>
    intro next
    dsimp only
    split <;> exact .of_anywhere rfl
  case h_8 => trivial
  all_goals exact Fits.of_anywhere rfl

theorem decideClauses_nests : (decideClauses now).Nests .clauses now := by
  unfold decideClauses
  split <;> exact Fits.of_anywhere rfl

theorem decidePrimary_nests : (decidePrimary now).Nests .inner now := by
  unfold decidePrimary
  split
  · exact fun _ _ => .of_anywhere rfl
  split
  · exact fun _ _ => .of_anywhere rfl
  split
  · exact fun _ _ => .of_anywhere rfl
  split
  · intro next
    dsimp only
    split <;> exact .of_anywhere rfl
  · trivial

/-- What a decision puts in the place of a task fits there. -/
theorem decide_nests (task : Task) : (task.decide now).Nests task.layer now := by
  cases task with
  | program => exact Fits.of_anywhere rfl
  | definitions => exact decideDefinitions_nests now
  | head m | mark m => exact takeMark_nests now m _
  | name role => exact takeName_nests now fun token => by cases role <;> rfl
  | returnType =>
    simp only [decide]
    split
    · exact fun _ _ => .of_anywhere rfl
    · exact Fits.of_anywhere rfl
  | type => exact Fits.of_anywhere rfl
  | typeName =>
    simp only [decide]
    split
    · exact fun _ _ => .of_anywhere rfl
    · trivial
  | parameters => exact Fits.of_anywhere rfl
  | parameterList =>
    simp only [decide, Decision.Nests]
    split <;> exact .of_anywhere rfl
  | moreParameters =>
    simp only [decide]
    split
    · exact fun _ _ => .of_anywhere rfl
    · exact Fits.of_anywhere rfl
  | fields => exact decideFields_nests now
  | block => exact Fits.of_anywhere rfl
  | statements => exact decideStatements_nests now
  | statement => exact decideStatement_nests now
  | declaration => exact Fits.of_anywhere rfl
  | declaredType =>
    simp only [decide]
    split
    · intro next
      dsimp only
      split <;> exact .of_anywhere rfl
    · simp only [Decision.Nests]
      split <;> exact .of_anywhere rfl
  | assignment => exact Fits.of_anywhere rfl
  | clauses => exact decideClauses_nests now
  | direction =>
    simp only [decide]
    split
    · exact fun _ _ => .of_anywhere rfl
    · trivial
  | returned =>
    simp only [decide, Decision.Nests]
    split <;> exact .of_anywhere rfl
  | callStatement => exact Fits.of_anywhere rfl
  | call => exact takeName_nests now fun token => rfl
  | arguments callee =>
    simp only [decide, Decision.Nests]
    split <;> exact .of_anywhere rfl
  | moreArguments callee count =>
    simp only [decide]
    split
    · exact fun _ _ => .of_anywhere rfl
    · exact Fits.of_anywhere rfl
  | path role => exact takeName_nests now fun token => rfl
  | pathName role before => exact takeName_nests now fun token => rfl
  | morePath role before =>
    simp only [decide]
    split
    · exact fun _ _ => .of_anywhere rfl
    · cases role <;> exact Fits.of_anywhere rfl
  | level ℓ => cases ℓ <;> exact Fits.of_anywhere rfl
  | moreOperands ℓ =>
    simp only [decide]
    split
    · intro token next
      cases ℓ <;> exact .of_anywhere rfl
    · exact Fits.of_anywhere rfl
  | unary =>
    simp only [decide]
    split
    · exact fun _ _ => .of_anywhere rfl
    · exact Fits.of_anywhere rfl
  | primary => exact decidePrimary_nests now
  | remark event => exact Fits.of_anywhere rfl

end Task

/-- What comes of a decision is nested. -/
theorem Outcomes.Moves.nested {stream : Outcomes} {place place' seen : Nat} {current next : Token}
    {tasks tasks' : List Task} {entries : Derivation}
    (h : stream.Moves place current tasks seen entries place' tasks') (nested : Nested current.terminal tasks)
    (stays : place' = place → next = current) : Nested next.terminal tasks' := by
  have nests : ∀ {task : Task} {decision : Decision}, task.decide current.terminal = decision →
      decision.Nests task.layer current.terminal :=
    fun decided => decided ▸ Task.decide_nests _ _
  cases h with
  | become decided | enter decided =>
    rw [stays rfl]
    exact nested.above (nests decided)
  | take decided => exact nested.above (nests decided current next.terminal)
  | @look _ _ _ seen decided =>
    rw [stays rfl]
    exact nested.above (nests decided seen.terminal)
  | note decided =>
    rw [stays rfl]
    exact nested.above (nests decided)

/-! ### The end of the input and a closing brace -/

/-- The decision about a task of the layer at the end of the input, and the one at a closing brace. They are
the same where both go on. -/
def Decision.ClosesLike (layer : Layer) : Decision → Decision → Prop
  | .refuse refusal, closing =>
    refusal = .openBraces ∧ layer = .body ∧ closing = .become [] ∨
      refusal ≠ .openBraces ∧ (layer = .brace ∨ ∃ other, closing = .refuse other)
  | .take _, _ | .look _, _ => False
  | ending, closing => closing = ending ∨ layer = .definitions ∧ ending = .become []

namespace Task

theorem takeMark_closesLike (m : Mark) (expectation : Expectation) :
    (takeMark m expectation .endOfInput).ClosesLike m.layer
      (takeMark m expectation (.symbol .rightBrace)) := by
  have missing : takeMark m expectation .endOfInput = .refuse (.unexpected expectation) := by
    cases m <;> rfl
  rw [missing]
  refine .inr ⟨nofun, ?_⟩
  unfold takeMark
  split
  · rename_i found
    cases m with
    | keyword => cases found
    | symbol s =>
      cases found
      exact .inl rfl
  · exact .inr ⟨_, rfl⟩

/-- The end of the input and a closing brace are decided about alike. Only where more may come in front of the
brace, the input may not end. -/
theorem decide_closesLike (task : Task) :
    (task.decide .endOfInput).ClosesLike task.layer (task.decide (.symbol .rightBrace)) := by
  cases task with
  | definitions => exact .inr ⟨rfl, rfl⟩
  | fields | statements => exact .inl ⟨rfl, rfl, rfl⟩
  | head m | mark m => exact takeMark_closesLike m _
  | name | typeName | statement | direction | call | path | pathName | primary =>
    exact .inr ⟨nofun, .inr ⟨_, rfl⟩⟩
  | moreOperands ℓ => cases ℓ <;> exact .inl rfl
  | _ => exact .inl rfl

end Task

/-- Tasks that are chosen by the class of the next token are the same at the end of the input and at a closing
brace. Braces are left open only where the input ends. -/
def Decision.MeetsEnd (now : Terminal) : Decision → Prop
  | .look tasks => tasks .endOfInput = tasks (.symbol .rightBrace)
  | .refuse .openBraces => now = .endOfInput
  | _ => True

theorem Task.decide_meetsEnd (task : Task) (now : Terminal) : (task.decide now).MeetsEnd now := by
  cases task with
  | definitions | fields | statements | statement | clauses =>
    simp only [decide, decideDefinitions, decideFields, decideStatements, decideStatement, decideClauses]
    split <;> trivial
  | head | mark | name | call | path | pathName =>
    simp only [decide, takeMark, takeName]
    split <;> trivial
  | returnType | typeName | moreParameters | declaredType | direction | moreArguments | morePath
    | moreOperands | unary =>
    simp only [decide]
    split <;> trivial
  | primary =>
    simp only [decide, decidePrimary]
    repeat' split
    all_goals trivial
  | _ => trivial

end SyntaxCheck
