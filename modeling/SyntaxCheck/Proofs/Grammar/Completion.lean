import SyntaxCheck.Proofs.Grammar.Derivation
import SyntaxCheck.Recognizer.Work

/-!
# Every sentential form can be completed

* `TokenClass.exists_holds` - no class of tokens is empty;
* `Nonterminal.shortest`, `Nonterminal.depth` - a production that leads to a word for each part, and how
  deep the tree of that word is;
* `exists_derivable` - every sentential form derives a word.

The production without a value of a `return` is the only one that is not allowed everywhere. It is not
among the shortest ones.
-/

namespace SyntaxCheck

theorem TokenClass.exists_holds (c : TokenClass) : ∃ t, c.holds t = true := by
  cases c with
  | only t => exact ⟨t, beq_self_eq_true t⟩
  | typeName => exact ⟨.identifier, rfl⟩
  | literal => exact ⟨.integer, rfl⟩
  | operator ℓ =>
    cases ℓ with
    | or => exact ⟨.keyword .or, rfl⟩
    | and => exact ⟨.keyword .and, rfl⟩
    | equality => exact ⟨.symbol .equal, rfl⟩
    | relation => exact ⟨.symbol .less, rfl⟩
    | sum => exact ⟨.symbol .plus, rfl⟩
    | product => exact ⟨.symbol .star, rfl⟩
  | sign => exact ⟨.symbol .minus, rfl⟩
  | direction => exact ⟨.keyword .upto, rfl⟩

namespace Nonterminal

/-- A production with a tree that is not deep. -/
def shortest : (n : Nonterminal) → Production n
  | .program => .program
  | .definitions => .noDefinition
  | .function => .function
  | .typeDefinition => .typeDefinition
  | .resultType => .noResult
  | .type => .type
  | .parameters => .parameters
  | .parameterList => .noParameter
  | .moreParameters => .lastParameter
  | .fields => .noField
  | .block => .block
  | .statements => .noStatement
  | .statement => .deletes
  | .declaration => .declaration
  | .declaredType => .noDeclaredType
  | .assignment => .assignment
  | .conditional => .conditional
  | .clauses => .noClause
  | .elif => .elif
  | .else_ => .else_
  | .while_ => .while_
  | .for_ => .for_
  | .return_ => .return_
  | .returned => .valueReturned
  | .delete => .delete
  | .callStatement => .callStatement
  | .call => .call
  | .arguments => .noArgument
  | .moreArguments => .lastArgument
  | .path => .path
  | .morePath => .pathEnds
  | .level ℓ => .level ℓ
  | .moreOperands ℓ => .lastOperand ℓ
  | .unary => .unsigned
  | .primary => .literal

/-- The depth of the tree that the shortest productions make. -/
def depth : Nonterminal → Nat
  | .program | .parameters | .path | .call | .block | .unary | .statement | .typeDefinition => 1
  | .callStatement | .function | .else_ => 2
  | .level ℓ => 1 + ℓ.height
  | .returned | .declaration | .assignment | .conditional | .elif | .while_ | .for_ => 8
  | .return_ => 9
  | _ => 0

theorem allowedBefore_shortest (n : Nonterminal) (t : Terminal) :
    n.shortest.allowedBefore t = true := by
  cases n <;> rfl

/-- The tree of the symbol is less deep than the bound. -/
def isBelow (bound : Nat) : GrammarSymbol → Bool
  | .token _ => true
  | .part n => n.depth < bound

theorem isBelow_shortest (n : Nonterminal) : n.shortest.parts.all (isBelow n.depth) = true := by
  cases n with
  | level ℓ => cases ℓ <;> rfl
  | _ => rfl

/-- The parts of a shortest production have trees that are less deep. -/
theorem depth_lt {n m : Nonterminal} (h : GrammarSymbol.part m ∈ n.shortest.parts) :
    m.depth < n.depth :=
  of_decide_eq_true (List.all_eq_true.1 n.isBelow_shortest _ h)

end Nonterminal

/-- Symbols in front of a form that derives a word, if any part among them may stand there. -/
theorem exists_derivable_append {γ δ : List GrammarSymbol}
    (parts : ∀ n, .part n ∈ δ → ∀ γ, (∃ word, Derivable γ word) →
      ∃ word, Derivable (.part n :: γ) word)
    (later : ∃ word, Derivable γ word) : ∃ word, Derivable (δ ++ γ) word := by
  induction δ with
  | nil => exact later
  | cons s δ ih =>
    have behind := ih fun n found => parts n (List.mem_cons_of_mem s found)
    cases s with
    | token c =>
      obtain ⟨word, derived⟩ := behind
      obtain ⟨t, fits⟩ := c.exists_holds
      exact ⟨t :: word, derived.token fits⟩
    | part n => exact parts n List.mem_cons_self _ behind

/-- A part in front of a form that derives a word. -/
theorem exists_derivable_part (n : Nonterminal) (γ : List GrammarSymbol)
    (later : ∃ word, Derivable γ word) : ∃ word, Derivable (.part n :: γ) word := by
  induction depth_eq : n.depth using Nat.strongRecOn generalizing n γ with
  | ind depth ih =>
    -- the trees of the parts of the shortest production are less deep
    have inside : ∃ word, Derivable (n.shortest.parts ++ γ) word := by
      refine exists_derivable_append (fun m found δ behind => ?_) later
      exact ih m.depth (depth_eq ▸ Nonterminal.depth_lt found) m δ behind rfl
    obtain ⟨word, derived⟩ := inside
    exact ⟨word, derived.expand n.shortest fun t _ => n.allowedBefore_shortest t⟩

/-- Every sentential form derives a word. -/
theorem exists_derivable (γ : List GrammarSymbol) : ∃ word, Derivable γ word := by
  have derived : ∃ word, Derivable (γ ++ []) word :=
    exists_derivable_append (fun n _ => exists_derivable_part n) ⟨[], .nil⟩
  rwa [List.append_nil] at derived

end SyntaxCheck
