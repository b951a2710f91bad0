import SyntaxCheck.Proofs.Grammar.Ending

/-!
# Braces of a program

Every production opens as many braces as it closes, and so does a program.

* `TokenClass.eq_of_brace` - a brace is in no class but its own;
* `count_braces_parts`, `Derives.count_braces` - the braces of a right-hand side, and of a word;
* `Generates.count_braces` - a program opens as many braces as it closes.
-/

namespace SyntaxCheck

variable {α : Type} {classOf : α → Terminal} {γ : List GrammarSymbol}

/-- A brace is in no class but its own. -/
theorem TokenClass.eq_of_brace {c : TokenClass} {s : Symbol} (brace : s = .leftBrace ∨ s = .rightBrace)
    (fits : c.holds (.symbol s) = true) : c = .only (.symbol s) := by
  rcases brace with rfl | rfl <;> cases c with
  | only t => rw [eq_of_beq fits]
  | operator ℓ => cases ℓ <;> cases fits
  | _ => cases fits

/-- A token is a brace just when its class is that of the brace. -/
theorem beq_brace_of_holds {c : TokenClass} {t : Terminal} {s : Symbol}
    (brace : s = .leftBrace ∨ s = .rightBrace) (fits : c.holds t = true) :
    (t == .symbol s) = (GrammarSymbol.token c == .mark s) := by
  rw [Bool.eq_iff_iff, beq_iff_eq, beq_iff_eq]
  constructor
  · rintro rfl
    rw [TokenClass.eq_of_brace brace fits]
  · intro same
    injection same with same
    subst same
    exact eq_of_beq fits

/-- A right-hand side has as many opening braces as closing ones. -/
theorem count_braces_parts {n : Nonterminal} (p : Production n) :
    p.parts.count (.mark .leftBrace) = p.parts.count (.mark .rightBrace) := by
  cases p with
  | level ℓ => cases ℓ <;> rfl
  | nextOperand ℓ => cases ℓ <;> rfl
  | _ => rfl

/-- A word opens as many braces as it closes, but for those of the form. -/
theorem Derives.count_braces {forest : List (Tree α)} {word : List α}
    (h : Derives classOf γ forest word) :
    (word.map classOf).count (.symbol .leftBrace) + γ.count (.mark .rightBrace) =
      (word.map classOf).count (.symbol .rightBrace) + γ.count (.mark .leftBrace) := by
  induction h with
  | nil => rfl
  | leaf fits _ ih =>
    simp only [List.map_cons, List.count_cons, beq_brace_of_holds (.inl rfl) fits,
      beq_brace_of_holds (.inr rfl) fits]
    omega
  | @node n p γ _ _ _ _ _ _ ih =>
    have parts := count_braces_parts p
    have same : ∀ s : Symbol, (.part n :: γ).count (GrammarSymbol.mark s) = γ.count (.mark s) := by
      intro s
      refine List.count_cons_of_ne ?_
      exact GrammarSymbol.noConfusion
    rw [List.count_append, List.count_append] at ih
    rw [same, same]
    omega

/-- A program opens as many braces as it closes. -/
theorem Generates.count_braces {word : List Terminal} (h : Generates word) :
    word.count (.symbol .leftBrace) = word.count (.symbol .rightBrace) := by
  obtain ⟨tree, derived⟩ := h
  have count := derived.count_braces
  rwa [List.map_id] at count

end SyntaxCheck
