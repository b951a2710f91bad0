import SyntaxCheck.Proofs.Grammar.Meaning
import SyntaxCheck.Proofs.Recognizer.Symbols

/-!
# What a run records

If the tasks derive the word that is still to be read, then the entries that are still to be recorded
can be read off the trees.

* `Task.record`, `recordOf` - the entries that are recorded when the trees of the tasks are recognized;
* `Records` - the tasks derive a word, and it is recorded so;
* `Records.of_part`, `Records.of_token`, `Records.of_plain` - how the first task is taken apart, and how
  tasks that record no more than their trees say are put in its place.
-/

namespace SyntaxCheck

/-! ### The entries of tasks -/

/-- The task records no more than its trees say. -/
def Task.isPlain : Task → Bool
  | .program | .remark _ => false
  | .name .instantiated => false
  | .arguments _ | .moreArguments _ _ | .moreOperands _ => false
  | .path .operand | .pathName .operand _ | .morePath .operand _ => false
  | _ => true

/-- The entries recorded for a task when its trees are recognized. -/
def Task.record : Task → List (Tree Token) → Derivation
  | .program, forest => .enter .program :: forest.flatMap Tree.steps
  | .remark event, _ => event.step?.toList
  | .name .instantiated, .leaf letter :: _ => [.operand ("new " ++ letter.lexeme)]
  | .arguments callee, tree :: _ =>
    tree.arguments.flatMap Expression.steps ++ [.call callee tree.arguments.length]
  | .moreArguments callee count, tree :: _ =>
    tree.arguments.flatMap Expression.steps ++ [.call callee (count + tree.arguments.length)]
  | .moreOperands _, tree :: _ => tree.links.flatMap fun link => link.2.steps ++ [.binary link.1]
  | .path .operand, tree :: _ => [.operand tree.dotted]
  | .pathName .operand before, .leaf letter :: tree :: _ =>
    [.operand (before ++ "." ++ letter.lexeme ++ tree.dotted)]
  | .morePath .operand before, tree :: _ => [.operand (before ++ tree.dotted)]
  | _, forest => forest.flatMap Tree.steps

theorem Task.record_of_isPlain {task : Task} (plain : task.isPlain = true)
    (forest : List (Tree Token)) : task.record forest = forest.flatMap Tree.steps := by
  unfold Task.record
  split <;> first | rfl | cases plain

/-- The entries recorded for tasks when their trees are recognized. -/
def recordOf : List Task → List (Tree Token) → Derivation
  | [], _ => []
  | task :: tasks, forest =>
    task.record (forest.take task.symbols.length) ++
      recordOf tasks (forest.drop task.symbols.length)

section Cons

variable {task : Task} {tasks : List Task} {first second : Tree Token} {forest : List (Tree Token)}

theorem recordOf_cons (trees : List (Tree Token)) (length : trees.length = task.symbols.length) :
    recordOf (task :: tasks) (trees ++ forest) = task.record trees ++ recordOf tasks forest := by
  rw [recordOf, ← length, List.take_left, List.drop_left]

theorem recordOf_one (length : 1 = task.symbols.length) :
    recordOf (task :: tasks) (first :: forest) = task.record [first] ++ recordOf tasks forest :=
  recordOf_cons [first] length

theorem recordOf_two (length : 2 = task.symbols.length) :
    recordOf (task :: tasks) (first :: second :: forest) =
      task.record [first, second] ++ recordOf tasks forest :=
  recordOf_cons [first, second] length

end Cons

theorem recordOf_remark (event : Event) (tasks : List Task) (forest : List (Tree Token)) :
    recordOf (.remark event :: tasks) forest = event.step?.toList ++ recordOf tasks forest :=
  recordOf_cons [] rfl

/-- Tasks that record no more than their trees say. -/
theorem recordOf_plain {tasks behind : List Task} {trees forest : List (Tree Token)}
    (plain : tasks.all Task.isPlain = true)
    (length : trees.length = (tasks.flatMap Task.symbols).length) :
    recordOf (tasks ++ behind) (trees ++ forest) =
      trees.flatMap Tree.steps ++ recordOf behind forest := by
  induction tasks generalizing trees with
  | nil =>
    obtain rfl := List.length_eq_zero_iff.1 length
    rfl
  | cons task tasks ih =>
    rw [List.all_cons, Bool.and_eq_true] at plain
    rw [List.flatMap_cons, List.length_append] at length
    -- the trees of the first task, and those of the others
    rw [← List.take_append_drop task.symbols.length trees]
    have first : (trees.take task.symbols.length).length = task.symbols.length :=
      List.length_take_of_le (by omega)
    have others : (trees.drop task.symbols.length).length = (tasks.flatMap Task.symbols).length := by
      rw [List.length_drop]
      omega
    rw [List.cons_append, List.append_assoc, recordOf_cons _ first, ih plain.2 others,
      Task.record_of_isPlain plain.1, List.flatMap_append, List.append_assoc]

/-! ### Derivations with their entries -/

/-- The tasks derive the word, and these are the entries that are recorded. -/
def Records (tasks : List Task) (word : List Token) (entries : Derivation) : Prop :=
  ∃ forest, Derives Token.terminal (symbolsOf tasks) forest word ∧ recordOf tasks forest = entries

namespace Records

variable {task : Task} {tasks behind : List Task} {current : Token} {word : List Token}
  {entries : Derivation} {n : Nonterminal} {after : Terminal → Bool}

/-- A production that fits is applied for a task that stands for one part. -/
theorem of_part (spaced : Spaced after (symbolsOf (task :: behind)))
    (h : Records (task :: behind) (current :: word) entries) (stands : task.symbols = [.part n]) :
    ∃ (p : Production n) (children forest : List (Tree Token)),
      p.fits current.terminal = true ∧
      p.fitsBefore (word.map Token.terminal).head? = true ∧
      children.length = p.parts.length ∧
      Derives Token.terminal (p.parts ++ symbolsOf behind) (children ++ forest) (current :: word) ∧
      task.record [.node p children] ++ recordOf behind forest = entries := by
  obtain ⟨forest, derived, rfl⟩ := h
  rw [symbolsOf_cons, stands] at derived spaced
  obtain ⟨p, children, forest, rfl, arity, allowed, later⟩ := derived.of_part
  refine ⟨p, children, forest, later.fits spaced allowed, later.fitsBefore spaced, arity, later, ?_⟩
  exact (recordOf_one (by rw [stands]; rfl)).symm

/-- The same for a task above the expressions, with the entries of its trees. -/
theorem of_part_above (spaced : Spaced after (symbolsOf (task :: behind)))
    (h : Records (task :: behind) (current :: word) entries) (stands : task.symbols = [.part n])
    (plain : task.isPlain = true) (above : n.isExpression = false) :
    ∃ (p : Production n) (children forest : List (Tree Token)),
      p.fits current.terminal = true ∧
      p.fitsBefore (word.map Token.terminal).head? = true ∧
      children.length = p.parts.length ∧
      Derives Token.terminal (p.parts ++ symbolsOf behind) (children ++ forest) (current :: word) ∧
      entries = n.rule?.toList.map .enter ++
        (children.flatMap Tree.steps ++ recordOf behind forest) := by
  obtain ⟨p, children, forest, fits, fitsBefore, arity, derived, rfl⟩ := h.of_part spaced stands
  refine ⟨p, children, forest, fits, fitsBefore, arity, derived, ?_⟩
  rw [Task.record_of_isPlain plain, List.flatMap_singleton, Tree.steps_node p children above,
    List.append_assoc]

/-- A task that stands for one token. -/
theorem of_token {c : TokenClass}
    (h : Records (task :: behind) (current :: word) entries) (stands : task.symbols = [.token c])
    (plain : task.isPlain = true) :
    c.holds current.terminal = true ∧ Records behind word entries := by
  obtain ⟨forest, derived, rfl⟩ := h
  rw [symbolsOf_cons, stands] at derived
  obtain ⟨_, forest, _, rfl, rest, fits, later⟩ := derived.of_token
  cases rest
  have split : recordOf (task :: behind) (.leaf current :: forest) =
      task.record [.leaf current] ++ recordOf behind forest :=
    recordOf_one (by rw [stands]; rfl)
  refine ⟨fits, forest, later, ?_⟩
  rw [split, Task.record_of_isPlain plain, List.flatMap_singleton, Tree.steps_leaf, List.nil_append]

/-- Tasks that record no more than their trees say take the place of symbols. -/
theorem of_plain (tasks : List Task) {γ : List GrammarSymbol} {trees forest : List (Tree Token)}
    (derived : Derives Token.terminal (γ ++ symbolsOf behind) (trees ++ forest) word)
    (arity : trees.length = γ.length) (plain : tasks.all Task.isPlain = true)
    (same : tasks.flatMap Task.symbols = γ) :
    Records (tasks ++ behind) word (trees.flatMap Tree.steps ++ recordOf behind forest) := by
  refine ⟨trees ++ forest, ?_, recordOf_plain plain (by rw [same, arity])⟩
  rw [symbolsOf, List.flatMap_append, List.append_assoc, same]
  exact derived

end Records

/-- The first of some trees is a node, and those inside it take its place. -/
theorem Derives.of_part_append {n : Nonterminal} {γ δ : List GrammarSymbol}
    {trees forest : List (Tree Token)} {word : List Token}
    (h : Derives Token.terminal (.part n :: γ ++ δ) (trees ++ forest) word)
    (arity : trees.length = γ.length + 1) (above : n.isExpression = false) :
    ∃ (p : Production n) (trees' : List (Tree Token)),
      Derives Token.terminal (p.parts ++ γ ++ δ) (trees' ++ forest) word ∧
      trees'.length = (p.parts ++ γ).length ∧
      trees.flatMap Tree.steps = n.rule?.toList.map .enter ++ trees'.flatMap Tree.steps := by
  cases trees with
  | nil => cases arity
  | cons tree trees =>
    obtain ⟨p, children, _, same, arity', -, later⟩ := h.of_part
    injection same with first others
    subst first others
    refine ⟨p, children ++ trees, ?_, ?_, ?_⟩
    · rw [List.append_assoc, List.append_assoc]
      exact later
    · rw [List.length_append, List.length_append, arity', Nat.succ.inj arity]
    · rw [List.flatMap_cons, Tree.steps_node p children above, List.flatMap_append,
        List.append_assoc]

/-- The first tree for a token class is the current token. -/
theorem Derives.of_token_append {α : Type} {classOf : α → Terminal} {c : TokenClass}
    {γ δ : List GrammarSymbol} {trees forest : List (Tree α)} {letter : α} {word : List α}
    (h : Derives classOf (.token c :: γ ++ δ) (trees ++ forest) (letter :: word))
    (arity : trees.length = γ.length + 1) :
    ∃ trees', trees = .leaf letter :: trees' ∧ trees'.length = γ.length ∧
      Derives classOf (γ ++ δ) (trees' ++ forest) word := by
  cases trees with
  | nil => cases arity
  | cons tree trees =>
    obtain ⟨_, _, _, first, rest, -, later⟩ := h.of_token
    injection first with first others
    injection rest with rest words
    subst first others rest words
    exact ⟨trees, rfl, Nat.succ.inj arity, later⟩

namespace Derives

variable {γ : List GrammarSymbol} {tree : Tree Token} {forest : List (Tree Token)}
  {word : List Token}

/-- The tree of a part that stands for an expression has the record of the expression. -/
theorem steps_head {n : Nonterminal}
    (h : Derives Token.terminal (.part n :: γ) (tree :: forest) word)
    (inside : n.isExpression = true) : tree.steps = tree.expression.steps := by
  obtain ⟨p, children, _, same, -⟩ := h.of_part
  injection same with same
  rw [same]
  exact Tree.steps_expression p children inside

theorem steps_operand {ℓ : Level}
    (h : Derives Token.terminal (.operand ℓ :: γ) (tree :: forest) word) :
    tree.steps = tree.expression.steps := by
  cases ℓ <;> exact h.steps_head rfl

end Derives

end SyntaxCheck
