import Mathlib.Data.List.Basic
import Mathlib.Data.List.Induction
import SyntaxCheck.Proofs.Derivation.Expression

/-!
# Operands on the stack

An entry of a record that joins expressions takes them from the stack. Where they are all there, the
record is one of rules and whole expressions.

* `StackEffect` - what an entry, or anything that leads to entries, does to the height of the stack;
* `Derivation.stack` - the finished expressions behind a record, the latest first;
* `expressions_append` - the expressions of a record, from any place of it on;
* `expressions_append_entered` - those in front of a rule;
* `Derivation.Supplied` - every entry finds what it takes;
* `Derivation.Supplied.exists_outline` - then no expression is torn apart.
-/

namespace SyntaxCheck

/-! ### The height of the stack -/

/-- What is done to a stack of finished expressions. -/
inductive StackEffect
  /-- Nothing. -/
  | keeps
  /-- The latest `count` are joined to one. -/
  | joins (count : Nat)
  /-- None is left. -/
  | clears

namespace StackEffect

/-- How many finished expressions it takes. -/
def needs : StackEffect → Nat
  | .joins count => count
  | _ => 0

/-- How many there are afterwards. -/
def after : StackEffect → Nat → Nat
  | .keeps, height => height
  | .joins count, height => height - count + 1
  | .clears, _ => 0

theorem after_le_after (effect : StackEffect) {m n : Nat} (le : m ≤ n) :
    effect.after m ≤ effect.after n := by
  cases effect with
  | keeps => exact le
  | joins count => exact Nat.succ_le_succ (Nat.sub_le_sub_right le count)
  | clears => exact Nat.le_refl _

end StackEffect

/-- What an entry does to the finished expressions. -/
def Step.effect : Step → StackEffect
  | .enter _ => .clears
  | .operand _ => .joins 0
  | .binary _ => .joins 2
  | .unary _ => .joins 1
  | .call _ count => .joins count

theorem Step.length_regroup (step : Step) (stack : List String) :
    (step.regroup stack).length = step.effect.after stack.length := by
  cases step with
  | binary op =>
    simp only [regroup, effect, StackEffect.after, List.length_cons, List.length_tail]
    omega
  | _ => simp [regroup, effect, StackEffect.after]

/-- The finished expressions behind a record, the latest first. -/
def Derivation.stack (record : Derivation) : List String :=
  record.foldl (fun stack step => step.regroup stack) []

open SyntaxCheck.Derivation

theorem stack_concat (before : Derivation) (step : Step) :
    stack (before ++ [step]) = step.regroup before.stack := by
  rw [stack, List.foldl_append]
  rfl

/-- Behind a rule that was entered, what came before it is off the stack. -/
theorem stack_entered (earlier since : Derivation) (rule : Rule) :
    stack (earlier ++ .enter rule :: since) = since.stack := by
  rw [stack, List.foldl_append]
  rfl

theorem length_stack_concat (before : Derivation) (step : Step) :
    (stack (before ++ [step])).length = step.effect.after before.stack.length := by
  rw [stack_concat, Step.length_regroup]

/-- What comes before a record takes nothing from its stack. -/
theorem length_stack_le_append (a b : Derivation) : b.stack.length ≤ (stack (a ++ b)).length := by
  induction b using List.reverseRecOn with
  | nil => exact Nat.zero_le _
  | append_singleton b step ih =>
    rw [← List.append_assoc, length_stack_concat, length_stack_concat]
    exact step.effect.after_le_after ih

/-- The expressions of a record go on from the stack behind any part of it. -/
theorem expressionsFrom_append (before : Derivation) (stack : List String) :
    ∃ shown, ∀ later, expressionsFrom stack (before ++ later) =
      shown ++ expressionsFrom (before.foldl (fun stack step => step.regroup stack) stack) later := by
  induction before generalizing stack with
  | nil => exact ⟨[], fun _ => rfl⟩
  | cons step before ih =>
    obtain ⟨shown, same⟩ := ih (step.regroup stack)
    cases step with
    | enter rule =>
      refine ⟨stack.reverse ++ shown, fun later => ?_⟩
      rw [List.append_assoc]
      exact congrArg (stack.reverse ++ ·) (same later)
    | operand text => exact ⟨shown, same⟩
    | binary op => exact ⟨shown, same⟩
    | unary op => exact ⟨shown, same⟩
    | call name count => exact ⟨shown, same⟩

theorem expressions_append (before : Derivation) :
    ∃ shown, ∀ later, expressions (before ++ later) = shown ++ expressionsFrom before.stack later :=
  expressionsFrom_append before []

/-- The expressions in front of a rule are finished. -/
theorem expressions_append_entered (before later : Derivation)
    (starts : later = [] ∨ ∃ rule others, later = .enter rule :: others) :
    expressions (before ++ later) = before.expressions ++ later.expressions := by
  obtain ⟨shown, same⟩ := expressions_append before
  have alone := same []
  rw [List.append_nil] at alone
  rw [same, alone, List.append_assoc]
  congr 1
  rcases starts with rfl | ⟨rule, others, rfl⟩
  · simp
  · simp [expressions]

/-! ### Records whose entries find what they take -/

namespace Derivation

/-- Every entry finds what it takes on the stack. -/
inductive Supplied : Derivation → Prop
  | nil : Supplied []
  | concat {before : Derivation} {step : Step} (earlier : Supplied before)
      (enough : step.effect.needs ≤ before.stack.length) : Supplied (before ++ [step])

namespace Supplied

variable {record before : Derivation} {step : Step}

theorem of_concat (h : Supplied (before ++ [step])) :
    before.Supplied ∧ step.effect.needs ≤ before.stack.length := by
  generalize same : before ++ [step] = record at h
  cases h with
  | nil => simp at same
  | concat earlier enough =>
    obtain ⟨rfl, last⟩ := List.append_inj' same rfl
    obtain rfl := List.singleton_inj.1 last
    exact ⟨earlier, enough⟩

/-- Another record may follow, whatever is on the stack. -/
theorem append {later : Derivation} (h : record.Supplied) (h' : later.Supplied) :
    Supplied (record ++ later) := by
  induction h' with
  | nil => rwa [List.append_nil]
  | concat _ enough ih =>
    rw [← List.append_assoc]
    exact .concat ih (Nat.le_trans enough (length_stack_le_append _ _))

theorem of_append {later : Derivation} (h : Supplied (before ++ later)) : before.Supplied := by
  induction later using List.reverseRecOn with
  | nil => rwa [List.append_nil] at h
  | append_singleton later step ih =>
    rw [← List.append_assoc] at h
    exact ih h.of_concat.1

theorem needs_le {later : Derivation} (h : Supplied (before ++ step :: later)) :
    step.effect.needs ≤ before.stack.length := by
  rw [List.append_cons] at h
  exact h.of_append.of_concat.2

end Supplied

end Derivation

/-! ### Whole expressions -/

/-- An entry joins as many trees as it takes. -/
theorem Step.exists_joined (step : Step) {trees : List Expression} {count : Nat}
    (joins : step.effect = .joins count) (enough : trees.length = count) :
    ∃ tree : Expression, tree.steps = trees.flatMap Expression.steps ++ [step] := by
  cases step with
  | enter rule => cases joins
  | operand text =>
    injection joins with none
    subst none
    obtain rfl := List.length_eq_zero_iff.1 enough
    exact ⟨.operand text, by simp [Expression.steps]⟩
  | binary op =>
    injection joins with two
    subst two
    obtain ⟨left, right, rfl⟩ := List.length_eq_two.1 enough
    exact ⟨.binary op left right, by simp [Expression.steps]⟩
  | unary op =>
    injection joins with one
    subst one
    obtain ⟨inner, rfl⟩ := List.length_eq_one_iff.1 enough
    exact ⟨.unary op inner, by simp [Expression.steps]⟩
  | call callee count =>
    injection joins with all
    exact ⟨.call callee trees, by rw [Expression.steps, enough, all]⟩

theorem Outline.steps_map_inr (trees : List Expression) :
    Outline.steps (trees.map .inr) = trees.flatMap Expression.steps := by
  rw [Outline.steps, List.flatMap_map]
  rfl

namespace Derivation

/-- Behind the latest rule of such a record stand trees, one for each text on the stack. -/
theorem Supplied.exists_trees {record : Derivation} (h : record.Supplied) :
    ∃ (outline : Outline) (trees : List Expression),
      record = outline.steps ++ trees.flatMap Expression.steps ∧
        trees.length = record.stack.length := by
  induction h with
  | nil => exact ⟨[], [], rfl, rfl⟩
  | @concat before step _ enough ih =>
    obtain ⟨outline, trees, same, height⟩ := ih
    rw [length_stack_concat]
    cases effect : step.effect with
    | keeps => cases step <;> cases effect
    | clears =>
      -- the trees are left behind by the rule
      cases step with
      | enter rule =>
        refine ⟨outline ++ trees.map .inr ++ [.inl rule], [], ?_, rfl⟩
        rw [same, Outline.steps_append, Outline.steps_append, Outline.steps_map_inr,
          List.flatMap_nil, List.append_nil]
        rfl
      | _ => cases effect
    | joins count =>
      -- the latest trees become one
      rw [effect, StackEffect.needs, ← height] at enough
      have split := List.take_append_drop (trees.length - count) trees
      have latest : (trees.drop (trees.length - count)).length = count := by
        rw [List.length_drop]
        omega
      obtain ⟨tree, steps⟩ := step.exists_joined effect latest
      refine ⟨outline, trees.take (trees.length - count) ++ [tree], ?_, ?_⟩
      · rw [same, List.flatMap_append, List.flatMap_singleton, steps, List.append_assoc,
          ← List.append_assoc (List.flatMap _ _), ← List.flatMap_append, split]
      · rw [← height, StackEffect.after, List.length_append, List.length_take]
        simp

/-- Such a record is that of rules and whole expressions. -/
theorem Supplied.exists_outline {record : Derivation} (h : record.Supplied) :
    ∃ outline : Outline, record = outline.steps := by
  obtain ⟨outline, trees, same, -⟩ := h.exists_trees
  refine ⟨outline ++ trees.map .inr, ?_⟩
  rw [Outline.steps_append, Outline.steps_map_inr, same]

end Derivation

end SyntaxCheck
