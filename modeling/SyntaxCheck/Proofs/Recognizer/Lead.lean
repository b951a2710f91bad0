import SyntaxCheck.Proofs.Grammar.Completion
import SyntaxCheck.Proofs.Recognizer.Symbols
import SyntaxCheck.Proofs.Recognizer.Run

/-!
# Where the recognizer looks beyond a name

It does so only at a name, and only where the name can be taken whatever comes next. So no token is
refused while the one after it is already there.

* `NameLed`, `derivable_of_nameLed` - the first symbol of the tasks starts with a name for certain;
* `Task.decide_look` - looking beyond a token leaves such tasks, whatever is seen;
* `Task.decide_of_nameLed` - they stay so until the name is taken;
* `Machine.Led` - the invariant of a run.
-/

namespace SyntaxCheck

open GrammarSymbol

/-- The symbol starts with a name for certain, or with a token class that has names. -/
def GrammarSymbol.isNameLed : GrammarSymbol → Bool
  | .token c => c.holds .identifier
  | .part .type | .part .path | .part .call | .part .callStatement | .part .assignment => true
  | _ => false

/-- The tasks stand for symbols the first of which starts with a name. -/
def NameLed (tasks : List Task) : Prop :=
  ∃ s γ, symbolsOf tasks = s :: γ ∧ s.isNameLed = true

/-- A name may come where the tasks are led by one. -/
theorem derivable_of_nameLed {tasks : List Task} (led : NameLed tasks) :
    ∃ word, Derivable (symbolsOf tasks) (.identifier :: word) := by
  obtain ⟨s, γ, symbols, leads⟩ := led
  rw [symbols]
  have path : ∀ δ, ∃ word, Derivable (.part .path :: δ) (.identifier :: word) := by
    intro δ
    obtain ⟨word, derived⟩ := exists_derivable (.part .morePath :: δ)
    exact ⟨word, (derived.token (c := .only .identifier) rfl).expand .path fun _ _ => rfl⟩
  have call : ∀ δ, ∃ word, Derivable (.part .call :: δ) (.identifier :: word) := by
    intro δ
    obtain ⟨word, derived⟩ := exists_derivable
      (GrammarSymbol.mark .leftParen :: .part .arguments :: GrammarSymbol.mark .rightParen :: δ)
    exact ⟨word, (derived.token (c := .only .identifier) rfl).expand .call fun _ _ => rfl⟩
  cases s with
  | token c =>
    obtain ⟨word, derived⟩ := exists_derivable γ
    exact ⟨word, derived.token leads⟩
  | part n =>
    cases n with
    | type =>
      obtain ⟨word, derived⟩ := exists_derivable γ
      exact ⟨word, (derived.token (c := .typeName) rfl).expand .type fun _ _ => rfl⟩
    | path => exact path γ
    | call => exact call γ
    | callStatement =>
      obtain ⟨word, derived⟩ := call γ
      exact ⟨word, derived.expand .callStatement fun _ _ => rfl⟩
    | assignment =>
      obtain ⟨word, derived⟩ := path (GrammarSymbol.mark .assign :: GrammarSymbol.expression :: γ)
      exact ⟨word, derived.expand .assignment fun _ _ => rfl⟩
    | _ => cases leads

/-- A decision keeps the lead of a name, and neither refuses it nor looks beyond it. -/
def Decision.KeepsLead (behind : List Task) : Decision → Prop
  | .become tasks => NameLed (tasks ++ behind)
  | .enter _ tasks => NameLed (tasks ++ behind)
  | .take _ => True
  | .note _ => NameLed behind
  | .look _ => False
  | .refuse _ => False

/-- A decision that looks beyond a token does so at a name, and leaves tasks that are led by it. -/
def Decision.LooksAtLead (now : Terminal) (behind : List Task) : Decision → Prop
  | .look tasks => now = .identifier ∧ ∀ next, NameLed (tasks next ++ behind)
  | _ => True

namespace Task

theorem decide_of_nameLed {task : Task} {behind : List Task} (led : NameLed (task :: behind)) :
    (task.decide .identifier).KeepsLead behind := by
  obtain ⟨s, γ, symbols, leads⟩ := led
  rw [symbolsOf_cons] at symbols
  cases task with
  | remark event => exact ⟨s, γ, symbols, leads⟩
  | name role => trivial
  | type => exact ⟨_, _, rfl, rfl⟩
  | typeName => trivial
  | assignment => exact ⟨_, _, rfl, rfl⟩
  | callStatement => exact ⟨_, _, rfl, rfl⟩
  | call => trivial
  | path role => trivial
  | pathName role before => trivial
  | head m =>
    injection symbols with same
    subst same
    cases m <;> cases leads
  | mark m expectation =>
    injection symbols with same
    subst same
    cases m <;> cases leads
  | _ =>
    injection symbols with same
    subst same
    cases leads

theorem looksAtLead_takeMark {m : Mark} {expectation : Expectation} (now : Terminal)
    (behind : List Task) : (takeMark m expectation now).LooksAtLead now behind := by
  unfold takeMark
  split <;> trivial

theorem looksAtLead_takeName {tasks : Token → List Task} (now : Terminal)
    (behind : List Task) : (takeName now tasks).LooksAtLead now behind := by
  unfold takeName
  split <;> trivial

/-- A call or a path behind a name at which the recognizer looks further. -/
theorem nameLed_branch {called followed : Task} {behind : List Task} (next : Terminal)
    (one : NameLed (called :: behind)) (other : NameLed (followed :: behind)) :
    NameLed ((if next = .symbol .leftParen then [called] else [followed]) ++ behind) := by
  split
  · exact one
  · exact other

theorem decide_look {task : Task} {behind : List Task} {after : Terminal → Bool} (now : Terminal)
    (spaced : Spaced after (symbolsOf (task :: behind))) :
    (task.decide now).LooksAtLead now behind := by
  cases task with
  | head m => exact looksAtLead_takeMark now behind
  | mark m expectation => exact looksAtLead_takeMark now behind
  | name role => exact looksAtLead_takeName now behind
  | call => exact looksAtLead_takeName now behind
  | path role => exact looksAtLead_takeName now behind
  | pathName role before => exact looksAtLead_takeName now behind
  | statement =>
    simp only [decide]
    unfold decideStatement
    split <;> first | trivial | skip
    exact ⟨rfl, fun next => nameLed_branch next ⟨_, _, rfl, rfl⟩ ⟨_, _, rfl, rfl⟩⟩
  | primary =>
    simp only [decide]
    unfold decidePrimary
    split
    · trivial
    split
    · trivial
    split
    · trivial
    split
    · rename_i name
      exact ⟨name, fun next => nameLed_branch next ⟨_, _, rfl, rfl⟩ ⟨_, _, rfl, rfl⟩⟩
    · trivial
  | declaredType =>
    -- a declared type is followed by the name of the variable
    obtain ⟨δ, behind_eq⟩ := spaced.2.1 rfl
    have led : NameLed behind := ⟨_, _, behind_eq.symm, rfl⟩
    simp only [decide]
    split
    · rename_i name
      refine ⟨name, fun next => ?_⟩
      dsimp only
      split
      · exact ⟨_, _, rfl, rfl⟩
      · exact led
    · trivial
  | definitions =>
    simp only [decide]
    unfold decideDefinitions
    split <;> trivial
  | fields =>
    simp only [decide]
    unfold decideFields
    split <;> trivial
  | statements =>
    simp only [decide]
    unfold decideStatements
    split <;> trivial
  | clauses =>
    simp only [decide]
    unfold decideClauses
    split <;> trivial
  | _ =>
    simp only [decide]
    first | trivial | (split <;> trivial)

end Task

namespace Machine

/-- While a token is shown, the tasks are led by a name, and that is the current token. -/
def Led (machine : Machine) : Prop :=
  machine.lexer.shown.isSome = true →
    machine.current.terminal = .identifier ∧ NameLed machine.tasks

variable {machine machine' : Machine} {task : Task} {behind : List Task}

/-- While a token is shown, the decision keeps the lead of the name. -/
theorem Led.keeps {decision : Decision} (h : machine.Led)
    (shown : machine.lexer.shown.isSome = true) (top : machine.tasks = task :: behind)
    (decided : task.decide machine.current.terminal = decision) :
    machine.current.terminal = .identifier ∧ decision.KeepsLead behind := by
  obtain ⟨name, led⟩ := h shown
  rw [top] at led
  refine ⟨name, ?_⟩
  rw [← decided, name]
  exact Task.decide_of_nameLed led

theorem Led.moves {after : Terminal → Bool} (h : machine.Led)
    (spaced : Spaced after (symbolsOf machine.tasks)) (moved : machine.Moves machine') :
    machine'.Led := by
  cases moved with
  | @become task behind tasks top decided =>
    intro shown
    exact h.keeps shown top decided
  | @enter task behind tasks rule top decided =>
    intro shown
    exact h.keeps shown top decided
  | @take task behind tasks token lexer top decided fetched =>
    -- a token that is handed out is shown no longer
    intro shown
    have none := machine.lexer.shown_advance
    rw [fetched] at none
    rw [none] at shown
    cases shown
  | @look task behind tasks token lexer top decided shown =>
    intro _
    rw [top] at spaced
    have looks := Task.decide_look machine.current.terminal spaced
    rw [decided] at looks
    exact ⟨looks.1, looks.2 token.terminal⟩
  | @note task behind event top decided =>
    intro shown
    exact h.keeps shown top decided

/-- No token is refused while the one after it is shown. -/
theorem Led.shown_eq_none {refusal : Refusal} (h : machine.Led)
    (top : machine.tasks = task :: behind)
    (decided : task.decide machine.current.terminal = .refuse refusal) :
    machine.lexer.shown = none := by
  cases found : machine.lexer.shown with
  | none => rfl
  | some token =>
    have shown : machine.lexer.shown.isSome = true := by rw [found]; rfl
    exact (h.keeps shown top decided).2.elim

end Machine

end SyntaxCheck
