import SyntaxCheck.Derivation.Basic

/-!
# Expressions as trees

What a record says about an expression is a tree, written down in the order in which its parts are
finished.

* `Expression`, `Expression.render` - a tree of operands, operators and calls, and its text with every
  group in parentheses;
* `Expression.steps` - the entries of a record that build the tree;
* `expressionsFrom_steps` - a record builds the trees whose entries it holds, whatever is on the stack;
* `Outline`, `Outline.rules_steps`, `Outline.expressions_steps` - rules and expressions in the order of
  the text, and what a record of them says.
-/

namespace SyntaxCheck

/-- An expression without the parentheses of its text. -/
inductive Expression
  | operand (text : String)
  | binary (op : String) (left right : Expression)
  | unary (op : String) (inner : Expression)
  | call (callee : String) (arguments : List Expression)

namespace Expression

/-- The text of an expression with every group in parentheses. An operator of letters is set off by a
blank from the operand behind it. -/
def render : Expression → String
  | .operand text => text
  | .binary op left right => "(" ++ left.render ++ " " ++ op ++ " " ++ right.render ++ ")"
  | .unary op inner =>
    "(" ++ op ++ (if op.toList.all isAlphabetic then " " else "") ++ inner.render ++ ")"
  | .call callee arguments => callee ++ "(" ++ String.intercalate ", " (arguments.map render) ++ ")"

/-- The entries that build an expression: those of its parts, and then what joins them. -/
def steps : Expression → Derivation
  | .operand text => [.operand text]
  | .binary op left right => left.steps ++ right.steps ++ [.binary op]
  | .unary op inner => inner.steps ++ [.unary op]
  | .call callee arguments => arguments.flatMap steps ++ [.call callee arguments.length]

end Expression

open SyntaxCheck.Derivation

mutual

/-- The entries of an expression put its text onto the stack. -/
theorem expressionsFrom_steps (e : Expression) (stack : List String) (rest : Derivation) :
    expressionsFrom stack (e.steps ++ rest) = expressionsFrom (e.render :: stack) rest := by
  cases e with
  | operand text => simp [Expression.steps, expressionsFrom, Step.regroup, Expression.render]
  | binary op left right =>
    simp only [Expression.steps, List.append_assoc]
    rw [expressionsFrom_steps left, expressionsFrom_steps right]
    simp [expressionsFrom, Step.regroup, Step.joined, Expression.render]
  | unary op inner =>
    simp only [Expression.steps, List.append_assoc]
    rw [expressionsFrom_steps inner]
    simp only [List.cons_append, List.nil_append, expressionsFrom, Step.regroup, Step.signed,
      Step.gap, Expression.render, List.headD_cons, List.tail_cons]
  | call callee arguments =>
    simp only [Expression.steps, List.append_assoc]
    rw [expressionsFrom_flatMap_steps arguments]
    -- the call takes as many texts as it has arguments, and these are the latest
    have length : (arguments.map Expression.render).reverse.length = arguments.length := by simp
    simp only [List.cons_append, List.nil_append, expressionsFrom, Step.regroup, Step.called,
      Expression.render]
    rw [List.take_left' length, List.drop_left' length, List.reverse_reverse]

/-- The entries of some expressions put their texts onto the stack. -/
theorem expressionsFrom_flatMap_steps (es : List Expression) (stack : List String)
    (rest : Derivation) :
    expressionsFrom stack (es.flatMap Expression.steps ++ rest) =
      expressionsFrom ((es.map Expression.render).reverse ++ stack) rest := by
  cases es with
  | nil => rfl
  | cons e es =>
    rw [List.flatMap_cons, List.append_assoc, expressionsFrom_steps e,
      expressionsFrom_flatMap_steps es]
    simp

end

/-- The entries of an expression enter no rule. -/
theorem rules_steps (e : Expression) : rules e.steps = [] := by
  cases e with
  | operand text => simp [Expression.steps, rules, Step.rule?]
  | binary op left right =>
    simp only [Expression.steps, rules_append, rules_steps left, rules_steps right]
    rfl
  | unary op inner =>
    simp only [Expression.steps, rules_append, rules_steps inner]
    rfl
  | call callee arguments =>
    have inside : ∀ e ∈ arguments, rules e.steps = [] := fun e _ => rules_steps e
    have none : rules (arguments.flatMap Expression.steps) = [] := by
      unfold rules
      rw [List.filterMap_flatMap]
      exact List.flatMap_eq_nil_iff.2 inside
    rw [Expression.steps, rules_append, none]
    rfl

/-! ### Rules and expressions in order -/

/-- Rules that are entered and expressions that stand between them. -/
abbrev Outline := List (Rule ⊕ Expression)

namespace Outline

/-- The entries of a record that holds the rules and expressions. -/
def steps (outline : Outline) : Derivation :=
  outline.flatMap (Sum.elim (fun rule => [.enter rule]) Expression.steps)

@[simp] theorem steps_nil : steps [] = [] := rfl

@[simp] theorem steps_append (a b : Outline) : steps (a ++ b) = steps a ++ steps b :=
  List.flatMap_append

/-- The rules of the record are those of the outline. -/
theorem rules_steps (outline : Outline) : rules outline.steps = outline.filterMap Sum.getLeft? := by
  induction outline with
  | nil => rfl
  | cons item outline ih =>
    have split : steps (item :: outline) = steps [item] ++ steps outline :=
      steps_append [item] outline
    rw [split, rules_append, ih]
    cases item with
    | inl rule => rfl
    | inr e =>
      have alone : steps [.inr e] = e.steps := List.append_nil _
      rw [alone, SyntaxCheck.rules_steps]
      rfl

/-- The expressions of the record are those of the outline, wherever rules are entered. -/
theorem expressionsFrom_steps (outline : Outline) (stack : List String) :
    expressionsFrom stack outline.steps =
      stack.reverse ++ (outline.filterMap Sum.getRight?).map Expression.render := by
  induction outline generalizing stack with
  | nil => simp [steps]
  | cons item outline ih =>
    have split : steps (item :: outline) = steps [item] ++ steps outline :=
      steps_append [item] outline
    rw [split]
    cases item with
    | inl rule =>
      show stack.reverse ++ expressionsFrom [] (steps outline) = _
      rw [ih []]
      rfl
    | inr e =>
      have alone : steps [.inr e] = e.steps := List.append_nil _
      rw [alone, SyntaxCheck.expressionsFrom_steps, ih]
      simp

theorem expressions_steps (outline : Outline) :
    expressions outline.steps = (outline.filterMap Sum.getRight?).map Expression.render :=
  expressionsFrom_steps outline []

end Outline

end SyntaxCheck
