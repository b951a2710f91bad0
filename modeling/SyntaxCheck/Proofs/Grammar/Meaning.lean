import SyntaxCheck.Proofs.Derivation.Expression
import SyntaxCheck.Proofs.Grammar.Derivation
import SyntaxCheck.Token.Basic

/-!
# What a derivation tree says

* `Nonterminal.rule?`, `Tree.rules` - the rules of a tree, each before those inside it;
* `Tree.expression` - the expression that a tree of an operand or of a level stands for: parentheses
  are left out, and operators of one level are grouped to the left;
* `Tree.outline`, `Tree.expressions` - the rules and the outermost expressions in the order of the text;
* `Tree.steps`, `Tree.steps_node`, `Tree.steps_expression` - the record that these make.
-/

namespace SyntaxCheck

namespace Nonterminal

/-- The rule whose use is recorded when the part is entered. -/
def rule? : Nonterminal → Option Rule
  | .program => some .program
  | .function => some .functionDefinition
  | .typeDefinition => some .typeDefinition
  | .type => some .type
  | .parameters => some .parameters
  | .block => some .block
  | .declaration => some .declaration
  | .assignment => some .assignment
  | .conditional => some .if_
  | .elif => some .elif
  | .else_ => some .else_
  | .while_ => some .while_
  | .for_ => some .for_
  | .return_ => some .return_
  | .delete => some .delete
  | .callStatement => some .callStatement
  | _ => none

/-- The part stands for one expression. -/
def isExpression : Nonterminal → Bool
  | .level _ | .unary | .primary | .call => true
  | _ => false

/-- The part stands for an expression or occurs in one. -/
def isInner : Nonterminal → Bool
  | .moreOperands _ | .arguments | .moreArguments | .path | .morePath => true
  | n => n.isExpression

end Nonterminal

namespace Tree

/-- The nonterminals of a tree, each before those inside it. -/
def nonterminals {α : Type} : Tree α → List Nonterminal
  | .leaf _ => []
  | @node _ n _ children => n :: children.flatMap nonterminals

/-- The rules of a tree, each before those inside it. -/
def rules {α : Type} (tree : Tree α) : List Rule :=
  tree.nonterminals.filterMap Nonterminal.rule?

/-- The text of a path, or of the part of one behind its first name. -/
def dotted : Tree Token → String
  | .node .path [.leaf name, more] => name.lexeme ++ more.dotted
  | .node .pathGoesOn [_, .leaf name, more] => "." ++ name.lexeme ++ more.dotted
  | _ => ""

/-- Operators and operands, applied to an expression from left to right. -/
def grouped (left : Expression) (links : List (String × Expression)) : Expression :=
  links.foldl (fun left link => .binary link.1 left link.2) left

mutual

/-- The expression that a tree stands for. -/
def expression : Tree Token → Expression
  | .node (.level _) children =>
    match children with
    | [first, more] => grouped first.expression more.links
    | _ => .operand ""
  | .node .signed [.leaf op, inner] => .unary op.lexeme inner.expression
  | .node .unsigned [inner] => inner.expression
  | .node .literal [.leaf literal] => .operand literal.lexeme
  | .node .new [_, .leaf name] => .operand ("new " ++ name.lexeme)
  | .node .parenthesised [_, inner, _] => inner.expression
  | .node .callOperand [call] => call.expression
  | .node .pathOperand [path] => .operand path.dotted
  | .node .call [.leaf callee, _, arguments, _] => .call callee.lexeme arguments.arguments
  | _ => .operand ""

/-- The operators behind the first operand of a level, each with the operand behind it. -/
def links : Tree Token → List (String × Expression)
  | .node (.nextOperand _) children =>
    match children with
    | [.leaf op, operand, more] => (op.lexeme, operand.expression) :: more.links
    | _ => []
  | _ => []

/-- The arguments of a call. -/
def arguments : Tree Token → List Expression
  | .node .argumentFirst [first, more] => first.expression :: more.arguments
  | .node .nextArgument [_, next, more] => next.expression :: more.arguments
  | _ => []

end

/-- The rules and the outermost expressions of a tree, in the order of the text. -/
def outline : Tree Token → Outline
  | .leaf _ => []
  | @node _ n p children =>
    if n.isExpression then [.inr (expression (.node p children))]
    else n.rule?.toList.map .inl ++ children.flatMap outline

/-- The outermost expressions of a tree, in the order of the text. -/
def expressions (tree : Tree Token) : List Expression :=
  tree.outline.filterMap Sum.getRight?

/-- The entries of a record of the tree. -/
def steps (tree : Tree Token) : Derivation := tree.outline.steps

/-! ### The meaning of a node, production by production -/

section Node

variable (opening first inner more closing : Tree Token) (ℓ : Level) (token : Token)

@[simp] theorem expression_level :
    (node (.level ℓ) [first, more]).expression = grouped first.expression more.links := rfl

@[simp] theorem expression_signed :
    (node .signed [leaf token, inner]).expression = .unary token.lexeme inner.expression := rfl

@[simp] theorem expression_unsigned : (node .unsigned [inner]).expression = inner.expression := rfl

@[simp] theorem expression_literal :
    (node .literal [leaf token]).expression = .operand token.lexeme := rfl

@[simp] theorem expression_new :
    (node .new [opening, leaf token]).expression = .operand ("new " ++ token.lexeme) := rfl

@[simp] theorem expression_parenthesised :
    (node .parenthesised [opening, inner, closing]).expression = inner.expression := rfl

@[simp] theorem expression_callOperand :
    (node .callOperand [inner]).expression = inner.expression := rfl

@[simp] theorem expression_pathOperand :
    (node .pathOperand [inner]).expression = .operand inner.dotted := rfl

@[simp] theorem expression_call :
    (node .call [leaf token, opening, inner, closing]).expression =
      .call token.lexeme inner.arguments := rfl

@[simp] theorem links_lastOperand : (node (.lastOperand ℓ) []).links = [] := rfl

@[simp] theorem links_nextOperand :
    (node (.nextOperand ℓ) [leaf token, inner, more]).links =
      (token.lexeme, inner.expression) :: more.links := rfl

@[simp] theorem arguments_noArgument : (node .noArgument []).arguments = [] := rfl

@[simp] theorem arguments_lastArgument : (node .lastArgument []).arguments = [] := rfl

@[simp] theorem arguments_argumentFirst :
    (node .argumentFirst [first, more]).arguments = first.expression :: more.arguments := rfl

@[simp] theorem arguments_nextArgument :
    (node .nextArgument [opening, first, more]).arguments =
      first.expression :: more.arguments := rfl

@[simp] theorem dotted_path :
    (node .path [leaf token, more]).dotted = token.lexeme ++ more.dotted := rfl

@[simp] theorem dotted_pathEnds : (node .pathEnds []).dotted = "" := rfl

@[simp] theorem dotted_pathGoesOn :
    (node .pathGoesOn [opening, leaf token, more]).dotted =
      "." ++ token.lexeme ++ more.dotted := rfl

end Node

end Tree

/-! ### The entries of a record -/

namespace Tree

@[simp] theorem steps_leaf (letter : Token) : (leaf letter).steps = [] := by
  simp [steps, outline]

theorem flatMap_steps (forest : List (Tree Token)) :
    Outline.steps (forest.flatMap outline) = forest.flatMap steps :=
  List.flatMap_assoc

/-- A part above the expressions enters its rule, if it has one, and goes on with what is inside. -/
theorem steps_node {n : Nonterminal} (p : Production n) (children : List (Tree Token))
    (above : n.isExpression = false) :
    (node p children).steps = n.rule?.toList.map .enter ++ children.flatMap steps := by
  unfold steps
  rw [outline, above, if_neg Bool.false_ne_true, Outline.steps_append, flatMap_steps]
  congr 1
  cases n.rule? <;> rfl

/-- The record of a part that stands for an expression is the record of the expression. -/
theorem steps_expression {n : Nonterminal} (p : Production n) (children : List (Tree Token))
    (inside : n.isExpression = true) :
    (node p children).steps = (node p children).expression.steps := by
  unfold steps
  rw [outline, if_pos inside]
  exact List.append_nil _

/-- Operators and operands are recorded behind the expression they are applied to. -/
theorem steps_grouped (left : Expression) (links : List (String × Expression)) :
    (grouped left links).steps =
      left.steps ++ links.flatMap fun link => link.2.steps ++ [.binary link.1] := by
  induction links generalizing left with
  | nil => exact (List.append_nil _).symm
  | cons link links ih =>
    show (grouped (.binary link.1 left link.2) links).steps = _
    rw [ih, List.flatMap_cons]
    simp [Expression.steps]

end Tree

/-! ### The rules of a tree -/

/-- The symbol occurs inside an expression. -/
def GrammarSymbol.isInner : GrammarSymbol → Bool
  | .token _ => true
  | .part n => n.isInner

theorem isInner_parts {n : Nonterminal} (p : Production n) (inner : n.isInner = true) :
    p.parts.all GrammarSymbol.isInner = true := by
  cases p with
  | level ℓ => cases ℓ <;> rfl
  | nextOperand ℓ => cases ℓ <;> rfl
  | lastOperand ℓ => rfl
  | _ => first | rfl | cases inner

theorem rule?_of_isInner {n : Nonterminal} (inner : n.isInner = true) : n.rule? = none := by
  cases n <;> first | rfl | cases inner

theorem Tree.rules_node {α : Type} {n : Nonterminal} (p : Production n) (children : List (Tree α)) :
    (node p children).rules = n.rule?.toList ++ children.flatMap rules := by
  unfold rules
  rw [nonterminals, List.filterMap_cons, List.filterMap_flatMap]
  cases n.rule? <;> rfl

theorem exists_of_forall₂ {α β : Type} {R : α → β → Prop} {as : List α} {bs : List β}
    (h : List.Forall₂ R as bs) {b : β} (found : b ∈ bs) : ∃ a ∈ as, R a b := by
  induction h with
  | nil => cases found
  | cons first _ ih =>
    rcases List.mem_cons.1 found with rfl | found
    · exact ⟨_, List.mem_cons_self, first⟩
    · obtain ⟨a, among, related⟩ := ih found
      exact ⟨a, List.mem_cons_of_mem _ among, related⟩

/-- No rule is used inside an expression, so the outline of a tree has all its rules. -/
theorem Derives.rules_outline {γ : List GrammarSymbol} {forest : List (Tree Token)}
    {word : List Token} (h : Derives Token.terminal γ forest word) :
    ∀ tree ∈ forest, tree.outline.filterMap Sum.getLeft? = tree.rules := by
  have all : List.Forall₂ (fun s tree => tree.outline.filterMap Sum.getLeft? = tree.rules ∧
      (s.isInner = true → tree.rules = [])) γ forest := by
    refine h.forall₂ (fun c letter => ⟨by simp [Tree.outline, Tree.rules, Tree.nonterminals],
      fun _ => by simp [Tree.rules, Tree.nonterminals]⟩) ?_
    intro n p children inside
    have none : n.isInner = true → (Tree.node p children).rules = [] := by
      intro inner
      rw [Tree.rules_node, rule?_of_isInner inner]
      refine List.flatMap_eq_nil_iff.2 fun child found => ?_
      obtain ⟨s, among, -, empty⟩ := exists_of_forall₂ inside found
      exact empty (List.all_eq_true.1 (isInner_parts p inner) s among)
    refine ⟨?_, none⟩
    by_cases expression : n.isExpression = true
    · -- the outline keeps the expression as a whole, and no rule is inside it
      have inner : n.isInner = true := by
        cases n <;> first | rfl | cases expression
      rw [none inner, Tree.outline, if_pos expression]
      rfl
    · rw [Tree.outline, if_neg expression, Tree.rules_node, List.filterMap_append,
        List.filterMap_flatMap]
      congr 1
      · cases n.rule? <;> rfl
      · refine List.flatMap_congr fun child found => ?_
        obtain ⟨_, _, same, -⟩ := exists_of_forall₂ inside found
        exact same
  intro tree found
  obtain ⟨_, _, same, -⟩ := exists_of_forall₂ all found
  exact same

end SyntaxCheck
