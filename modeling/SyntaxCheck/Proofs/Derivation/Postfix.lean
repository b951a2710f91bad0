import SyntaxCheck.Proofs.Derivation.Operands

/-!
# Reading a record back

A record lists the parts of each expression before what joins them. Read back, it gives the expressions
that were listed, however many of them stand on the stack at once; and no entry reaches for an operand
behind the latest rule, even if there are too few in front of it.

* `expressions_append_enter` - a rule parts the expressions before it from those behind it;
* `expressions_read_back` - this for every record, and the expressions of every list of trees.
-/

namespace SyntaxCheck

open SyntaxCheck.Derivation

/-- A rule parts a record: what comes behind it takes no operand from before it. -/
theorem expressions_append_enter (a b : Derivation) (rule : Rule) :
    expressions (a ++ [.enter rule] ++ b) = expressions a ++ expressions b := by
  have parted := expressions_append_entered a (.enter rule :: b) (.inr ⟨rule, b, rfl⟩)
  have behind : expressions (.enter rule :: b) = expressions b := expressionsFrom_enter [] rule b
  rw [List.append_assoc, List.singleton_append, parted, behind]

/-- Whatever entries two records hold, also such as find too few operands: the expressions of both with a
rule between them are those of the first one and then those of the second one, and the rules of both are
those of each. And where trees are written down one after the other, each with its parts before what joins
them, wherever rules are entered between them, the expressions are the texts of the trees in that order,
and the rules are those that were entered. -/
theorem expressions_read_back :
    (∀ (a b : Derivation) (rule : Rule),
      expressions (a ++ [.enter rule] ++ b) = expressions a ++ expressions b ∧
        rules (a ++ b) = rules a ++ rules b) ∧
    ∀ outline : Outline,
      expressions outline.steps = (outline.filterMap Sum.getRight?).map Expression.render ∧
        rules outline.steps = outline.filterMap Sum.getLeft? := by
  constructor
  · intro a b rule
    exact ⟨expressions_append_enter a b rule, rules_append a b⟩
  · intro outline
    exact ⟨outline.expressions_steps, outline.rules_steps⟩

/-- Two trees share the stack of one rule, and the first one calls with a call that has no argument. An operator
behind the next rule finds no operand: the empty text stands for each of them. -/
example :
    expressions ([.enter .for_, .call "g" 0, .operand "x", .unary "not", .call "f" 2, .operand "n"] ++
        [.enter .block] ++ [.binary "+"]) = ["f(g(), (not x))", "n", "( + )"] := by
  rw [expressions_append_enter]
  rfl

end SyntaxCheck
