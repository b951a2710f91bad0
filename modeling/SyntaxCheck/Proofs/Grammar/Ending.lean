import SyntaxCheck.Proofs.Grammar.Derivation

/-!
# The end of the input in derivable words

* `Derives.countP_eq` - symbols of a sort that every production keeps are as many in a form as in its
  words;
* `Generates.ends` - a program has the end of the input as its last terminal, and nowhere else.
-/

namespace SyntaxCheck

variable {α : Type} {classOf : α → Terminal} {γ : List GrammarSymbol}

/-- Symbols of a sort that every production keeps are as many in a form as in its words. -/
theorem Derives.countP_eq {forest : List (Tree α)} {word : List α}
    (h : Derives classOf γ forest word) (sort : GrammarSymbol → Bool) (letters : Terminal → Bool)
    (tokens : ∀ c t, TokenClass.holds c t = true → letters t = sort (.token c))
    (parts : ∀ {n : Nonterminal} (p : Production n),
      p.parts.countP sort = [GrammarSymbol.part n].countP sort) :
    word.countP (fun letter => letters (classOf letter)) = γ.countP sort := by
  induction h with
  | nil => rfl
  | leaf fits _ ih => rw [List.countP_cons, List.countP_cons, ih, tokens _ _ fits]
  | node p _ _ _ ih =>
    rw [ih, List.countP_append, parts p, ← List.countP_append]
    rfl

/-- The symbol ends a program. -/
def GrammarSymbol.ends : GrammarSymbol → Bool
  | .token (.only .endOfInput) => true
  | .part .program => true
  | _ => false

theorem ends_of_holds (c : TokenClass) (t : Terminal) (fits : c.holds t = true) :
    (t == .endOfInput) = GrammarSymbol.ends (.token c) := by
  cases c with
  | only t' =>
    obtain rfl := eq_of_beq fits
    cases t <;> rfl
  | operator ℓ =>
    have other : t ≠ .endOfInput := by
      rintro rfl
      cases ℓ <;> cases fits
    exact beq_eq_false_iff_ne.2 other
  | _ =>
    have other : t ≠ .endOfInput := by
      rintro rfl
      cases fits
    exact beq_eq_false_iff_ne.2 other

theorem countP_ends_parts {n : Nonterminal} (p : Production n) :
    p.parts.countP GrammarSymbol.ends = [GrammarSymbol.part n].countP GrammarSymbol.ends := by
  cases p with
  | level ℓ => cases ℓ <;> rfl
  | nextOperand ℓ => cases ℓ <;> rfl
  | _ => rfl

/-- A form with a token at its end derives words that end with the token. -/
theorem Derives.getLast {forest : List (Tree α)} {word : List α} {c : TokenClass}
    (h : Derives classOf (γ ++ [.token c]) forest word) :
    ∃ init letter, word = init ++ [letter] ∧ c.holds (classOf letter) = true := by
  generalize form : γ ++ [.token c] = δ at h
  induction h generalizing γ with
  | nil => simp at form
  | @leaf _ letter _ _ _ fits later ih =>
    cases γ with
    | nil =>
      injection form with same others
      injection same with same
      subst same others
      cases later
      exact ⟨[], letter, rfl, fits⟩
    | cons s γ =>
      injection form with same others
      obtain ⟨init, last, rfl, ends⟩ := ih others
      exact ⟨letter :: init, last, rfl, ends⟩
  | @node n p _ _ _ _ _ _ later ih =>
    cases γ with
    | nil => cases form
    | cons s γ =>
      injection form with same others
      exact ih (γ := p.parts ++ γ)
        ((List.append_assoc _ _ _).trans (congrArg (p.parts ++ ·) others))

/-- A program has the end of the input as its last terminal, and nowhere else. -/
theorem Generates.ends {word : List Terminal} (h : Generates word) :
    ∃ init, word = init ++ [.endOfInput] ∧ .endOfInput ∉ init := by
  obtain ⟨tree, derived⟩ := h
  have count := derived.countP_eq GrammarSymbol.ends (· == .endOfInput) ends_of_holds
    countP_ends_parts
  obtain ⟨p, children, _, -, -, -, later⟩ := derived.of_part
  cases p
  obtain ⟨init, last, rfl, same⟩ := later.getLast (γ := [.part .definitions])
  obtain rfl := eq_of_beq same
  refine ⟨init, rfl, List.count_eq_zero.1 ?_⟩
  -- the start symbol counts once, and the last terminal is that one
  have once : (init ++ [Terminal.endOfInput]).count .endOfInput = 1 := count
  rw [List.count_append, List.count_singleton_self] at once
  omega

end SyntaxCheck
