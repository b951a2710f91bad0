import SyntaxCheck.Proofs.Grammar.Derivation
import SyntaxCheck.Recognizer.Work

/-!
# Lookahead

What the next terminal, and in three places the one behind it, says about the production to be used.

* `Nonterminal.nullable`, `Nonterminal.starts`, `Nonterminal.follows` - whether a part may be empty, the
  terminals it may start with, and those that may come behind it;
* `starts_of_parts`, `spaced_parts` - the tables agree with every production, by evaluation;
* `Spaced` - each symbol of a sentential form is followed by what may follow it;
* `Derives.startsAny`, `Derives.fits`, `Derives.fitsBefore` - a derivation agrees with the tables;
* `Derives.unique` - a word has one forest only.
-/

namespace SyntaxCheck

/-! ### All terminals -/

/-- Every symbol. -/
def Symbol.all : List Symbol := [
  .plus, .minus, .star, .slash, .percent, .assign, .equal, .notEqual, .less, .lessEqual, .greater,
  .greaterEqual, .dot, .leftParen, .rightParen, .leftBrace, .rightBrace, .comma, .colon, .semicolon]

theorem Symbol.mem_all (s : Symbol) : s ∈ all := by
  cases s <;> decide

namespace Terminal

/-- Every terminal. -/
def all : List Terminal :=
  Keyword.all.map .keyword ++ Symbol.all.map .symbol ++
    [.identifier, .integer, .double, .char, .string, .endOfInput]

theorem mem_all (t : Terminal) : t ∈ all := by
  unfold all
  cases t with
  | keyword k => simp [Keyword.mem_all k]
  | symbol s => simp [Symbol.mem_all s]
  | _ => simp

instance decidableForall (p : Terminal → Prop) [DecidablePred p] : Decidable (∀ t, p t) :=
  decidable_of_iff (∀ t ∈ all, p t) ⟨fun h t => h t (mem_all t), fun h t _ => h t⟩

/-! ### Sets of terminals -/

/-- A statement may begin with the terminal. -/
def startsStatement : Terminal → Bool
  | .keyword .var | .keyword .if_ | .keyword .while_ | .keyword .for_ | .keyword .return_ => true
  | .keyword .delete | .identifier => true
  | _ => false

/-- The terminal may come behind a statement. -/
def followsStatement : Terminal → Bool
  | .symbol .rightBrace => true
  | t => t.startsStatement

/-- The terminal may come behind a definition. -/
def followsDefinition : Terminal → Bool
  | .keyword .fun_ | .keyword .type | .endOfInput => true
  | _ => false

/-- The terminal may come behind an expression. -/
def followsExpression : Terminal → Bool
  | .symbol .rightParen | .symbol .comma | .symbol .leftBrace => true
  | .keyword .upto | .keyword .downto => true
  | t => t.followsStatement

end Terminal

namespace Level

/-- Every level. -/
def all : List Level := [.or, .and, .equality, .relation, .sum, .product]

/-- The terminal is an operator of a looser level. -/
def isBelow (ℓ : Level) (t : Terminal) : Bool :=
  all.any fun looser => ℓ.height < looser.height && looser.holds t

end Level

/-- The terminal may come behind an operand without binary operators. -/
def Terminal.followsOperand (t : Terminal) : Bool :=
  t.followsExpression || Level.all.any fun ℓ => ℓ.holds t

/-! ### Tables -/

namespace Nonterminal

/-- The part may be empty. -/
def nullable : Nonterminal → Bool
  | .definitions | .parameters | .parameterList | .moreParameters | .fields | .statements => true
  | .declaredType | .clauses | .returned | .arguments | .moreArguments | .morePath => true
  | .moreOperands _ => true
  | _ => false

/-- The part may start with the terminal. -/
def starts : Nonterminal → Terminal → Bool
  | .program, t => t.followsDefinition
  | .definitions, t => t == .keyword .fun_ || t == .keyword .type
  | .function, t => t == .keyword .fun_
  | .typeDefinition, t => t == .keyword .type
  | .resultType, t => t == .keyword .void || TokenClass.typeName.holds t
  | .type, t | .parameters, t | .parameterList, t | .declaredType, t => TokenClass.typeName.holds t
  | .moreParameters, t | .moreArguments, t => t == .symbol .comma
  | .fields, t | .declaration, t => t == .keyword .var
  | .block, t => t == .symbol .leftBrace
  | .statements, t | .statement, t => t.startsStatement
  | .assignment, t | .callStatement, t | .call, t | .path, t => t == .identifier
  | .conditional, t => t == .keyword .if_
  | .clauses, t => t == .keyword .elif || t == .keyword .else_
  | .elif, t => t == .keyword .elif
  | .else_, t => t == .keyword .else_
  | .while_, t => t == .keyword .while_
  | .for_, t => t == .keyword .for_
  | .return_, t => t == .keyword .return_
  | .delete, t => t == .keyword .delete
  | .returned, t | .arguments, t | .level _, t | .unary, t => t.startsExpression
  | .morePath, t => t == .symbol .dot
  | .moreOperands ℓ, t => ℓ.holds t
  | .primary, t => t.startsExpression && !TokenClass.sign.holds t

/-- The terminal may come behind the part. -/
def follows : Nonterminal → Terminal → Bool
  | .program, _ => false
  | .definitions, t => t == .endOfInput
  | .function, t | .typeDefinition, t => t.followsDefinition
  | .resultType, t | .type, t | .declaredType, t => t == .identifier
  | .parameters, t | .parameterList, t | .moreParameters, t => t == .symbol .rightParen
  | .arguments, t | .moreArguments, t => t == .symbol .rightParen
  | .fields, t | .statements, t => t == .symbol .rightBrace
  | .block, t | .elif, t =>
    t.followsStatement || t.followsDefinition || t == .keyword .elif || t == .keyword .else_
  | .level ℓ, t | .moreOperands ℓ, t => t.followsExpression || ℓ.isBelow t
  | .unary, t | .primary, t | .call, t => t.followsOperand
  | .path, t | .morePath, t => t.followsOperand || t == .symbol .assign
  | _, t => t.followsStatement

end Nonterminal

namespace GrammarSymbol

/-- The symbol may stand for the empty word. -/
def nullable : GrammarSymbol → Bool
  | .token _ => false
  | .part n => n.nullable

/-- What the symbol stands for may start with the terminal. -/
def starts : GrammarSymbol → Terminal → Bool
  | .token c => c.holds
  | .part n => n.starts

/-- The terminal may come behind what the symbol stands for. -/
def follows : GrammarSymbol → Terminal → Bool
  | .token _, _ => true
  | .part n, t => n.follows t

end GrammarSymbol

open GrammarSymbol

/-- All the symbols may stand for the empty word. -/
def nullableAll (γ : List GrammarSymbol) : Bool := γ.all GrammarSymbol.nullable

/-- What the symbols stand for may start with the terminal. -/
def startsAny : List GrammarSymbol → Terminal → Bool
  | [], _ => false
  | s :: γ, t => s.starts t || s.nullable && startsAny γ t

/-- Each symbol is followed by what may follow it, provided that only terminals of the set `after`
come behind all of them. A declared type is followed by the name and the equals sign, too. -/
def Spaced (after : Terminal → Bool) : List GrammarSymbol → Prop
  | [] => True
  | s :: γ => (∀ t, (startsAny γ t || nullableAll γ && after t) = true → s.follows t = true) ∧
      (s = .part .declaredType → [name, mark .assign] <+: γ) ∧ Spaced after γ

instance decidableSpaced (after : Terminal → Bool) :
    (γ : List GrammarSymbol) → Decidable (Spaced after γ)
  | [] => .isTrue trivial
  | _ :: γ => @instDecidableAnd _ _ _ (@instDecidableAnd _ _ _ (decidableSpaced after γ))

/-! ### The tables agree with the productions -/

variable {n : Nonterminal}

theorem nullable_of_parts (p : Production n) (h : nullableAll p.parts = true) :
    n.nullable = true := by
  cases p
  case level ℓ => cases ℓ <;> cases h
  case nextOperand ℓ => cases h
  all_goals first | rfl | cases h

theorem starts_of_parts (p : Production n) :
    ∀ t, startsAny p.parts t = true → n.starts t = true := by
  cases p
  case level ℓ => cases ℓ <;> decide +kernel
  case nextOperand ℓ => cases ℓ <;> decide +kernel
  case lastOperand ℓ => intro t h; cases h
  all_goals decide +kernel

theorem spaced_parts (p : Production n) : Spaced n.follows p.parts := by
  cases p
  case level ℓ => cases ℓ <;> decide +kernel
  case nextOperand ℓ => cases ℓ <;> decide +kernel
  case lastOperand ℓ => trivial
  all_goals decide +kernel

/-- At most one production of a nonterminal has a right-hand side that may be empty. -/
theorem eq_of_nullable {p q : Production n} (hp : nullableAll p.parts = true)
    (hq : nullableAll q.parts = true) : p = q := by
  cases p <;> cases q <;> first
    | rfl
    | exact absurd hp Bool.false_ne_true
    | exact absurd hq Bool.false_ne_true

namespace Production

/-- By the tables, the production may be used before the terminal. -/
def fits (p : Production n) (t : Terminal) : Bool :=
  startsAny p.parts t || nullableAll p.parts && n.follows t && p.allowedBefore t

/-- The terminal behind the next one lets the production be used. -/
def fitsBefore : Production n → Option Terminal → Bool
  | .assigns, next | .pathOperand, next => next != some (.symbol .leftParen)
  | .calls, next | .callOperand, next => next == some (.symbol .leftParen)
  | .noDeclaredType, next => next != some .identifier
  | .declaredType, next => next == some .identifier
  | _, _ => true

/-- By the tables, one terminal admits both productions. -/
def clashes (p q : Production n) : Bool :=
  Terminal.all.any fun t => p.fits t && q.fits t

theorem clashes_of_fits {p q : Production n} {t : Terminal} (hp : p.fits t = true)
    (hq : q.fits t = true) : p.clashes q = true :=
  List.any_eq_true.2 ⟨t, Terminal.mem_all t, by rw [hp, hq]; rfl⟩

theorem clashes_comm (p q : Production n) : p.clashes q = q.clashes p := by
  unfold clashes
  exact congrArg Terminal.all.any (funext fun t => Bool.and_comm _ _)

/-- An operator that goes on with the operands of a level cannot come behind them. -/
theorem clashes_operand (ℓ : Level) : (lastOperand ℓ).clashes (nextOperand ℓ) = false := by
  cases ℓ <;> decide +kernel

/-- Two terminals of lookahead tell the productions of a nonterminal apart. -/
theorem eq_of_fits {p q : Production n} {t : Terminal} {next : Option Terminal}
    (hp : p.fits t = true) (hq : q.fits t = true) (hp' : p.fitsBefore next = true)
    (hq' : q.fitsBefore next = true) : p = q := by
  have clash := clashes_of_fits hp hq
  cases p
  case lastOperand ℓ =>
    cases q
    · rfl
    · rw [clashes_operand] at clash
      cases clash
  case nextOperand ℓ =>
    cases q
    · rw [clashes_comm, clashes_operand] at clash
      cases clash
    · rfl
  all_goals
    cases q <;> first
    | rfl
    | exact absurd clash (by decide +kernel)
    | exact absurd (eq_of_beq hp') (bne_iff_ne.1 hq')
    | exact absurd (eq_of_beq hq') (bne_iff_ne.1 hp')

end Production

/-! ### Derivations agree with the tables -/

theorem startsAny_append (γ δ : List GrammarSymbol) (t : Terminal) :
    startsAny (γ ++ δ) t = (startsAny γ t || nullableAll γ && startsAny δ t) := by
  induction γ with
  | nil => rfl
  | cons s γ ih =>
    simp only [List.cons_append, startsAny, ih, nullableAll, List.all_cons]
    cases s.starts t <;> cases s.nullable <;> rfl

theorem nullableAll_append (γ δ : List GrammarSymbol) :
    nullableAll (γ ++ δ) = (nullableAll γ && nullableAll δ) :=
  List.all_append

namespace Spaced

variable {after inner : Terminal → Bool} {γ δ : List GrammarSymbol} {s : GrammarSymbol}

theorem tail (h : Spaced after (s :: γ)) : Spaced after γ := h.2.2

theorem append (hδ : Spaced inner δ) (hγ : Spaced after γ)
    (between : ∀ t, (startsAny γ t || nullableAll γ && after t) = true → inner t = true) :
    Spaced after (δ ++ γ) := by
  induction δ with
  | nil => exact hγ
  | cons s δ ih =>
    obtain ⟨head, declared, tail⟩ := hδ
    refine ⟨fun t found => head t ?_, fun is_type => ?_, ih tail⟩
    · have found : (startsAny (δ ++ γ) t || nullableAll (δ ++ γ) && after t) = true := found
      rw [startsAny_append, nullableAll_append] at found
      have inside := between t
      -- what follows `δ` is the start of `γ`, or what follows both if `γ` may be empty
      revert found inside
      cases startsAny δ t <;> cases nullableAll δ <;> cases startsAny γ t <;>
        cases nullableAll γ <;> cases after t <;> simp
    · exact (declared is_type).trans (List.prefix_append δ γ)

/-- A production may be applied at the left end. -/
theorem expand (p : Production n) (h : Spaced after (.part n :: γ)) :
    Spaced after (p.parts ++ γ) :=
  (spaced_parts p).append h.tail h.1

theorem unfolds {t : Terminal} (h : Spaced after γ) (unfolded : Unfolds t γ δ) :
    Spaced after δ := by
  induction unfolded with
  | refl => exact h
  | expand p _ _ ih => exact ih (h.expand p)

end Spaced

namespace Derives

variable {α : Type} {classOf : α → Terminal} {γ : List GrammarSymbol} {after : Terminal → Bool}
  {forest : List (Tree α)} {word : List α} {letter : α}

theorem startsAny (h : Derives classOf γ forest word) :
    ∀ t ∈ (word.map classOf).head?, startsAny γ t = true := by
  induction h with
  | nil => simp
  | leaf fits _ _ =>
    intro t found
    cases found
    simp only [SyntaxCheck.startsAny, starts, fits, Bool.true_or]
  | node p _ _ _ ih =>
    intro t found
    have started := ih t found
    rw [startsAny_append, Bool.or_eq_true, Bool.and_eq_true] at started
    simp only [SyntaxCheck.startsAny, starts, nullable, Bool.or_eq_true, Bool.and_eq_true]
    rcases started with inside | ⟨empty, behind⟩
    · exact .inl (starts_of_parts p t inside)
    · exact .inr ⟨nullable_of_parts p empty, behind⟩

theorem nullableAll (h : Derives classOf γ forest word) (empty : word = []) :
    nullableAll γ = true := by
  induction h with
  | nil => rfl
  | leaf => cases empty
  | node p _ _ _ ih =>
    have all := ih empty
    rw [nullableAll_append, Bool.and_eq_true] at all
    simp only [SyntaxCheck.nullableAll, List.all_cons, nullable, Bool.and_eq_true]
    exact ⟨nullable_of_parts p all.1, all.2⟩

/-- The next letter admits the production that is used. -/
theorem fits {p : Production n} (spaced : Spaced after (.part n :: γ))
    (allowed : ∀ t ∈ ((letter :: word).map classOf).head?, p.allowedBefore t = true)
    (h : Derives classOf (p.parts ++ γ) forest (letter :: word)) :
    p.fits (classOf letter) = true := by
  have started := h.startsAny (classOf letter) rfl
  rw [startsAny_append, Bool.or_eq_true, Bool.and_eq_true] at started
  unfold Production.fits
  rcases started with inside | ⟨empty, behind⟩
  · rw [inside, Bool.true_or]
  · have follows : n.follows (classOf letter) = true := spaced.1 _ (by rw [behind, Bool.true_or])
    rw [empty, follows, allowed _ rfl, Bool.and_self, Bool.and_self, Bool.or_true]

/-- A call starts with a name and a parenthesis. -/
theorem head?_of_call (h : Derives classOf (.part .call :: γ) forest (letter :: word)) :
    (word.map classOf).head? = some (.symbol .leftParen) := by
  obtain ⟨p, _, _, -, -, -, later⟩ := h.of_part
  cases p
  obtain ⟨_, _, _, -, rest, -, later⟩ := later.of_token
  obtain ⟨_, _, _, -, rfl, fits, -⟩ := later.of_token
  cases rest
  exact congrArg some (eq_of_beq fits)

/-- No parenthesis comes behind the first name of a path. -/
theorem head?_of_path (spaced : Spaced after (.part .path :: γ))
    (h : Derives classOf (.part .path :: γ) forest (letter :: word)) :
    (word.map classOf).head? ≠ some (.symbol .leftParen) := by
  obtain ⟨p, _, _, -, -, -, later⟩ := h.of_part
  cases p
  obtain ⟨_, _, _, -, rest, -, later⟩ := later.of_token
  cases rest
  intro found
  have started : SyntaxCheck.startsAny (.part .morePath :: γ) (.symbol .leftParen) = true :=
    later.startsAny _ found
  simp only [SyntaxCheck.startsAny, starts, nullable, Bool.or_eq_true, Bool.and_eq_true] at started
  rcases started with inside | ⟨_, behind⟩
  · exact absurd inside (by decide)
  · exact absurd (spaced.1 _ (by rw [behind, Bool.true_or])) (by decide)

/-- The letter behind the next one admits the production that is used. -/
theorem fitsBefore {p : Production n} (spaced : Spaced after (.part n :: γ))
    (h : Derives classOf (p.parts ++ γ) forest (letter :: word)) :
    p.fitsBefore (word.map classOf).head? = true := by
  have spaced' := spaced.expand p
  cases p
  case assigns =>
    obtain ⟨q, _, _, -, -, -, later⟩ := h.of_part
    have spaced' := spaced'.expand q
    cases q
    exact bne_iff_ne.2 (later.head?_of_path spaced')
  case calls =>
    obtain ⟨q, _, _, -, -, -, later⟩ := h.of_part
    cases q
    exact beq_iff_eq.2 later.head?_of_call
  case pathOperand => exact bne_iff_ne.2 (h.head?_of_path spaced')
  case callOperand => exact beq_iff_eq.2 h.head?_of_call
  case noDeclaredType =>
    -- the name of the variable, and the equals sign that is no name
    obtain ⟨δ, rfl⟩ := spaced.2.1 rfl
    obtain ⟨_, _, _, -, rest, -, later⟩ := h.of_token
    obtain ⟨_, _, _, -, rfl, fits, -⟩ := later.of_token
    cases rest
    refine bne_iff_ne.2 fun found => ?_
    cases (Option.some.inj found).symm.trans (eq_of_beq fits)
  case declaredType =>
    obtain ⟨δ, rfl⟩ := spaced.2.1 rfl
    obtain ⟨q, _, _, -, -, -, later⟩ := h.of_part
    cases q
    obtain ⟨_, _, _, -, rest, -, later⟩ := later.of_token
    obtain ⟨_, _, _, -, rfl, fits, -⟩ := later.of_token
    cases rest
    exact beq_iff_eq.2 (congrArg some (eq_of_beq fits))
  all_goals rfl

/-- A word has one forest only. -/
theorem unique {forest' : List (Tree α)} (spaced : Spaced after γ)
    (h : Derives classOf γ forest word) (h' : Derives classOf γ forest' word) :
    forest = forest' := by
  induction h generalizing forest' with
  | nil => cases h'; rfl
  | leaf _ _ ih =>
    cases h' with
    | leaf _ later' => rw [ih spaced.tail later']
  | @node n p _ _ _ word arity allowed later ih =>
    obtain ⟨q, _, _, rfl, arity', allowed', later'⟩ := h'.of_part
    have same : p = q := by
      cases word with
      | nil =>
        -- no terminal to look at: both right-hand sides are empty
        have empty := later.nullableAll rfl
        have empty' := later'.nullableAll rfl
        rw [nullableAll_append, Bool.and_eq_true] at empty empty'
        exact eq_of_nullable empty.1 empty'.1
      | cons letter word =>
        exact Production.eq_of_fits (later.fits spaced allowed) (later'.fits spaced allowed')
          (later.fitsBefore spaced) (later'.fitsBefore spaced)
    subst same
    obtain ⟨rfl, rfl⟩ := List.append_inj (ih (spaced.expand p) later') (arity.trans arity'.symm)
    rfl

end Derives

end SyntaxCheck
