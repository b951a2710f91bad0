import SyntaxCheck.Derivation.Rule
import SyntaxCheck.Text.CharClass

/-!
# Records of a derivation

No tree is built while a text is checked. What was recognized is kept as a list of steps: the rules
in the order they were entered, and between them the operands and operators of each expression in
postfix order. The record is enough to show how the operands are grouped.

* `Step`, `Derivation` - one entry, and the whole record in the order of recognition;
* `Derivation.rules` - the rules entered;
* `Step.regroup` - one entry acts on a stack of finished expressions;
* `Derivation.expressions` - every expression, fully parenthesised.
-/

namespace SyntaxCheck

/-- One entry of a record. -/
inductive Step
  /-- A rule was entered. -/
  | enter (rule : Rule)
  /-- An operand without parts: a literal, a path, or a new value. -/
  | operand (text : String)
  /-- An operator joins the two latest expressions. -/
  | binary (op : String)
  /-- An operator stands before the latest expression. -/
  | unary (op : String)
  /-- A call takes the latest `count` expressions. -/
  | call (name : String) (count : Nat)
  deriving DecidableEq

/-- A record in the order of recognition. -/
abbrev Derivation := List Step

/-! ### One entry -/

namespace Step

/-- The rule that an entry enters. -/
def rule? : Step → Option Rule
  | .enter rule => some rule
  | _ => none

/-- What stands between an operator and the expression after it: operators of letters need a blank. -/
def gap (op : String) : String :=
  if op.toList.all isAlphabetic then " " else ""

/-- An operator between two expressions. -/
def joined (left op right : String) : String :=
  "(" ++ left ++ " " ++ op ++ " " ++ right ++ ")"

/-- An operator before an expression. -/
def signed (op operand : String) : String :=
  "(" ++ op ++ gap op ++ operand ++ ")"

/-- A call with its arguments. -/
def called (name : String) (arguments : List String) : String :=
  name ++ "(" ++ String.intercalate ", " arguments ++ ")"

/-- An entry acts on the finished expressions, the latest first. Where too few are left, the missing
ones are empty texts. Entering a rule leaves none: what was finished belongs to the rule before. -/
def regroup : Step → List String → List String
  | .enter _, _ => []
  | .operand text, stack => text :: stack
  | .binary op, stack => joined (stack.tail.headD "") op (stack.headD "") :: stack.tail.tail
  | .unary op, stack => signed op (stack.headD "") :: stack.tail
  | .call name count, stack => called name (stack.take count).reverse :: stack.drop count

end Step

/-! ### The whole record -/

namespace Derivation

/-- The rules entered, in order. -/
def rules (steps : Derivation) : List Rule :=
  steps.filterMap Step.rule?

/-- The expressions of a record that follows some finished expressions, the latest first. -/
def expressionsFrom : List String → Derivation → List String
  | stack, [] => stack.reverse
  | stack, .enter _ :: steps => stack.reverse ++ expressionsFrom [] steps
  | stack, step :: steps => expressionsFrom (step.regroup stack) steps

/-- Every expression of a record, in the order of recognition. -/
def expressions (steps : Derivation) : List String :=
  expressionsFrom [] steps

@[simp] theorem rules_append (a b : Derivation) : rules (a ++ b) = rules a ++ rules b :=
  List.filterMap_append

@[simp] theorem expressionsFrom_nil (stack : List String) :
    expressionsFrom stack [] = stack.reverse := rfl

@[simp] theorem expressionsFrom_enter (stack : List String) (rule : Rule) (steps : Derivation) :
    expressionsFrom stack (.enter rule :: steps) = stack.reverse ++ expressions steps := rfl

@[simp] theorem expressions_nil : expressions [] = [] := rfl

end Derivation

end SyntaxCheck
