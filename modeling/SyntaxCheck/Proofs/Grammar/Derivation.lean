import Mathlib.Data.List.Forall2
import SyntaxCheck.Proofs.Grammar.Basic

/-!
# Derivations

* `Derives.length_eq` - a forest has one tree for each symbol;
* `Derives.expand` - a production is applied at the left end;
* `Derives.forall₂_of_letters`, `Derives.forall₂` - induction over the trees of a derivation;
* `Derives.relabel` - only the classes of the letters matter;
* `Derivable` - a sentential form derives a word of terminals, with constructors as lemmas;
* `Unfolds` - a sentential form is unfolded from the left, with the next terminal known.
-/

namespace SyntaxCheck

variable {α β : Type} {classOf : α → Terminal} {γ δ : List GrammarSymbol}

namespace Derives

theorem length_eq {forest : List (Tree α)} {word : List α} (h : Derives classOf γ forest word) :
    forest.length = γ.length := by
  induction h with
  | nil => rfl
  | leaf _ _ ih => simp [ih]
  | node p arity _ _ ih =>
    simp only [List.length_append, arity] at ih
    simp only [List.length_cons]
    omega

/-- The trees of a right-hand side become the children of a node. -/
theorem expand {n : Nonterminal} (p : Production n) {forest : List (Tree α)} {word : List α}
    (allowed : ∀ t ∈ (word.map classOf).head?, p.allowedBefore t = true)
    (later : Derives classOf (p.parts ++ γ) forest word) :
    ∃ forest', Derives classOf (.part n :: γ) forest' word := by
  have enough : p.parts.length ≤ forest.length := by
    rw [later.length_eq, List.length_append]
    exact Nat.le_add_right _ _
  refine ⟨.node p (forest.take p.parts.length) :: forest.drop p.parts.length,
    .node p (List.length_take_of_le enough) allowed ?_⟩
  rwa [List.take_append_drop]

/-- A token class at the left end stands for the first letter. -/
theorem of_token {c : TokenClass} {forest : List (Tree α)} {word : List α}
    (h : Derives classOf (.token c :: γ) forest word) :
    ∃ letter forest' word', forest = .leaf letter :: forest' ∧ word = letter :: word' ∧
      c.holds (classOf letter) = true ∧ Derives classOf γ forest' word' := by
  cases h with
  | leaf fits later => exact ⟨_, _, _, rfl, rfl, fits, later⟩

/-- A part at the left end is replaced by one of its productions. -/
theorem of_part {n : Nonterminal} {forest : List (Tree α)} {word : List α}
    (h : Derives classOf (.part n :: γ) forest word) :
    ∃ (p : Production n) (children forest' : List (Tree α)), forest = .node p children :: forest' ∧
      children.length = p.parts.length ∧
      (∀ t ∈ (word.map classOf).head?, p.allowedBefore t = true) ∧
      Derives classOf (p.parts ++ γ) (children ++ forest') word := by
  cases h with
  | node p arity allowed later => exact ⟨p, _, _, rfl, arity, allowed, later⟩

/-- What holds of the leaves of fitting letters, and of a node if it holds of its children, holds of every
tree. -/
theorem forall₂_of_letters {P : GrammarSymbol → Tree α → Prop} {Q : α → Prop}
    {forest : List (Tree α)} {word : List α} (letters : ∀ letter ∈ word, Q letter)
    (leaf : ∀ c letter, c.holds (classOf letter) = true → Q letter → P (.token c) (.leaf letter))
    (node : ∀ {n : Nonterminal} (p : Production n) (children : List (Tree α)),
      List.Forall₂ P p.parts children → P (.part n) (.node p children))
    (h : Derives classOf γ forest word) : List.Forall₂ P γ forest := by
  induction h with
  | nil => exact .nil
  | leaf fits _ ih =>
    refine .cons (leaf _ _ fits (letters _ List.mem_cons_self)) (ih fun letter among => ?_)
    exact letters letter (List.mem_cons_of_mem _ among)
  | node p arity _ _ ih =>
    have ih := ih letters
    have inside := List.forall₂_take p.parts.length ih
    have behind := List.forall₂_drop p.parts.length ih
    rw [List.take_left, List.take_left' arity] at inside
    rw [List.drop_left, List.drop_left' arity] at behind
    exact .cons (node p _ inside) behind

/-- What holds of leaves, and of a node if it holds of its children, holds of every tree. -/
theorem forall₂ {P : GrammarSymbol → Tree α → Prop} {forest : List (Tree α)} {word : List α}
    (leaf : ∀ c letter, P (.token c) (.leaf letter))
    (node : ∀ {n : Nonterminal} (p : Production n) (children : List (Tree α)),
      List.Forall₂ P p.parts children → P (.part n) (.node p children))
    (h : Derives classOf γ forest word) : List.Forall₂ P γ forest :=
  h.forall₂_of_letters (Q := fun _ => True) (fun _ _ => trivial) (fun c letter _ _ => leaf c letter)
    node

/-- The tree of a token class is a leaf. -/
theorem getElem?_of_token {forest : List (Tree α)} {word : List α}
    (h : Derives classOf γ forest word) {i : Nat} {c : TokenClass}
    (stands : γ[i]? = some (.token c)) : ∃ letter, forest[i]? = some (.leaf letter) := by
  have all : List.Forall₂ (fun s tree => ∀ c, s = .token c → ∃ letter, tree = .leaf letter)
      γ forest := by
    refine h.forall₂ (fun c letter _ _ => ⟨letter, rfl⟩) ?_
    intro n p children _ c same
    cases same
  clear h
  induction all generalizing i with
  | nil => cases stands
  | cons first _ ih =>
    cases i with
    | zero =>
      obtain ⟨letter, rfl⟩ := first c (Option.some.inj stands)
      exact ⟨letter, rfl⟩
    | succ i => exact ih stands

/-- Letters may be exchanged for others of the same classes. -/
theorem relabel {classOf' : β → Terminal} {forest : List (Tree α)} {word : List α}
    (h : Derives classOf γ forest word) {word' : List β}
    (same : word'.map classOf' = word.map classOf) :
    ∃ forest', Derives classOf' γ forest' word' := by
  induction h generalizing word' with
  | nil =>
    rw [List.map_nil, List.map_eq_nil_iff] at same
    subst same
    exact ⟨[], .nil⟩
  | leaf fits _ ih =>
    obtain ⟨letter', later', rfl, class_eq, same⟩ := List.map_eq_cons_iff.1 same
    obtain ⟨forest', derived⟩ := ih same
    exact ⟨.leaf letter' :: forest', .leaf (class_eq ▸ fits) derived⟩
  | node p _ allowed _ ih =>
    obtain ⟨forest', derived⟩ := ih same
    exact derived.expand p (same ▸ allowed)

end Derives

/-! ### Words of terminals -/

/-- The sentential form derives the word. -/
def Derivable (γ : List GrammarSymbol) (word : List Terminal) : Prop :=
  ∃ forest, Derives id γ forest word

theorem derivable_map_iff {word : List α} :
    Derivable γ (word.map classOf) ↔ ∃ forest, Derives classOf γ forest word := by
  constructor
  · rintro ⟨forest, derived⟩
    exact derived.relabel (List.map_id _).symm
  · rintro ⟨forest, derived⟩
    exact derived.relabel (List.map_id _)

theorem generates_iff {word : List Terminal} :
    Generates word ↔ Derivable [.part .program] word := by
  constructor
  · rintro ⟨tree, derived⟩
    exact ⟨[tree], derived⟩
  · rintro ⟨forest, derived⟩
    obtain ⟨tree, rfl⟩ := List.length_eq_one_iff.1 derived.length_eq
    exact ⟨tree, derived⟩

namespace Derivable

variable {word : List Terminal}

theorem nil : Derivable [] [] := ⟨[], .nil⟩

theorem token {c : TokenClass} {t : Terminal} (fits : c.holds t = true)
    (later : Derivable γ word) : Derivable (.token c :: γ) (t :: word) := by
  obtain ⟨forest, derived⟩ := later
  exact ⟨.leaf t :: forest, .leaf fits derived⟩

theorem expand {n : Nonterminal} (p : Production n)
    (allowed : ∀ t ∈ word.head?, p.allowedBefore t = true)
    (later : Derivable (p.parts ++ γ) word) : Derivable (.part n :: γ) word := by
  obtain ⟨forest, derived⟩ := later
  exact derived.expand p (by rwa [List.map_id])

end Derivable

/-! ### Unfolding from the left -/

/-- Productions allowed before a terminal are applied at the left end of a sentential form. -/
inductive Unfolds (t : Terminal) : List GrammarSymbol → List GrammarSymbol → Prop
  | refl (γ : List GrammarSymbol) : Unfolds t γ γ
  | expand {n : Nonterminal} (p : Production n) {γ δ : List GrammarSymbol}
      (allowed : p.allowedBefore t = true) (later : Unfolds t (p.parts ++ γ) δ) :
      Unfolds t (.part n :: γ) δ

/-- What the unfolded form derives, the form itself derives. -/
theorem Unfolds.derivable {t : Terminal} {word : List Terminal} (h : Unfolds t γ δ)
    (derived : Derivable δ (t :: word)) : Derivable γ (t :: word) := by
  induction h with
  | refl => exact derived
  | expand p allowed _ ih =>
    refine (ih derived).expand p fun t' found => ?_
    cases found
    exact allowed

end SyntaxCheck
