import SyntaxCheck.Proofs.Grammar.Meaning
import SyntaxCheck.Proofs.Lexer.Writing

/-!
# Trees put together

Where no production asks for what comes behind it, trees are put together piece by piece, each with the
part of the word that it spells.

* `Spells`, `Spells.node` - trees spell a part of a word, whatever comes behind it;
* `ReadsAs` - tokens of given kinds and texts are spelled by a tree with some meaning;
* `ReadsAs.level`, `ReadsAs.expression_of_level`, `ReadsAs.operand` - from the tighter levels of operators
  to the looser ones;
* `ReadsAs.joined`, `ReadsAs.signed`, `ReadsAs.called`, `ReadsAs.parenthesised` - groups.
-/

namespace SyntaxCheck

open GrammarSymbol

/-! ### Parts of a word -/

section Spells

variable {α : Type} {classOf : α → Terminal} {γ δ : List GrammarSymbol} {forest forest' : List (Tree α)}
  {word word' : List α}

/-- The trees, one for each symbol, spell the word, whatever is derived behind them. -/
def Spells (classOf : α → Terminal) (γ : List GrammarSymbol) (forest : List (Tree α))
    (word : List α) : Prop :=
  ∀ ⦃δ behind rest⦄, Derives classOf δ behind rest →
    Derives classOf (γ ++ δ) (forest ++ behind) (word ++ rest)

namespace Spells

theorem nil : Spells classOf [] [] [] := fun _ _ _ derived => derived

theorem append (first : Spells classOf γ forest word) (later : Spells classOf δ forest' word') :
    Spells classOf (γ ++ δ) (forest ++ forest') (word ++ word') := by
  intro ε behind rest derived
  rw [List.append_assoc, List.append_assoc, List.append_assoc]
  exact first (later derived)

/-- One tree in front of others. -/
theorem cons {s : GrammarSymbol} {tree : Tree α} (first : Spells classOf [s] [tree] word)
    (later : Spells classOf δ forest' word') :
    Spells classOf (s :: δ) (tree :: forest') (word ++ word') :=
  first.append later

/-- One letter in front of what others spell. -/
theorem leaf {c : TokenClass} {letter : α} (fits : c.holds (classOf letter) = true)
    (later : Spells classOf δ forest' word') :
    Spells classOf (.token c :: δ) (.leaf letter :: forest') (letter :: word') :=
  fun _ _ _ derived => .leaf fits (later derived)

/-- A production that may be used before every terminal. -/
theorem node {n : Nonterminal} (p : Production n) (always : ∀ t, p.allowedBefore t = true)
    (inside : Spells classOf p.parts forest word) :
    Spells classOf [.part n] [.node p forest] word := by
  intro ε behind rest derived
  have arity := (inside .nil).length_eq
  rw [List.append_nil, List.append_nil] at arity
  exact .node p arity (fun t _ => always t) (inside derived)

/-- Some trees spell a word for themselves. -/
theorem derives (h : Spells classOf γ forest word) : Derives classOf γ forest word := by
  have derived := h .nil
  rwa [List.append_nil, List.append_nil, List.append_nil] at derived

end Spells

end Spells

/-! ### Tokens with a meaning -/

theorem exists_mark_of_operator {ℓ : Level} (t : Terminal) (h : ℓ.holds t = true) :
    ∃ m : Mark, t = m.terminal := by
  cases t with
  | keyword k => exact ⟨.keyword k, rfl⟩
  | symbol s => exact ⟨.symbol s, rfl⟩
  | _ => cases ℓ <;> cases h

theorem exists_mark_of_sign (t : Terminal) (h : TokenClass.sign.holds t = true) :
    ∃ m : Mark, t = m.terminal := by
  cases t with
  | keyword k => exact ⟨.keyword k, rfl⟩
  | symbol s => exact ⟨.symbol s, rfl⟩
  | _ => cases h

/-- Tokens with these kinds and texts are spelled by a tree of which this holds. -/
def ReadsAs (s : GrammarSymbol) (items : List Item) (meaning : Tree Token → Prop) : Prop :=
  ∀ tokens, tokens.map Token.item = items →
    ∃ tree, meaning tree ∧ Spells Token.terminal [s] [tree] tokens

/-- A token fits where one of its kind does. -/
theorem TokenClass.fits {c : TokenClass} {token : Token} {item : Item} (same : token.item = item)
    (holds : c.holds item.1.terminal = true) : c.holds token.terminal = true := by
  rw [← same] at holds
  exact holds

theorem Mark.fits {m : Mark} {token : Token} (same : token.item = m.item) :
    (TokenClass.only m.terminal).holds token.terminal = true :=
  TokenClass.fits same (by simp [TokenClass.holds, Mark.item])

/-- No more operands stand before anything. -/
theorem spells_lastOperand (ℓ : Level) :
    Spells Token.terminal [.part (.moreOperands ℓ)] [.node (.lastOperand ℓ) []] [] :=
  .node (.lastOperand ℓ) (fun _ => rfl) .nil

namespace ReadsAs

variable {e e' : Expression} {items items' : List Item} {ℓ : Level} {lexeme : List Char}

/-- An operand is an expression of its level. -/
theorem level (ℓ : Level) (h : ReadsAs (GrammarSymbol.operand ℓ) items (·.expression = e)) :
    ReadsAs (.part (.level ℓ)) items (·.expression = e) := by
  intro tokens same
  obtain ⟨tree, means, spells⟩ := h tokens same
  have all := Spells.node (.level ℓ) (fun _ => rfl) (spells.cons (spells_lastOperand ℓ))
  rw [List.append_nil] at all
  refine ⟨_, ?_, all⟩
  rw [← means]
  rfl

/-- Every level is an operand of the next looser one. -/
theorem expression_of_level (h : ReadsAs (.part (.level ℓ)) items (·.expression = e)) :
    ReadsAs GrammarSymbol.expression items (·.expression = e) := by
  have and (h : ReadsAs (.part (.level .and)) items (·.expression = e)) := level .or h
  have equality (h : ReadsAs (.part (.level .equality)) items (·.expression = e)) :=
    and (level .and h)
  have relation (h : ReadsAs (.part (.level .relation)) items (·.expression = e)) :=
    equality (level .equality h)
  have sum (h : ReadsAs (.part (.level .sum)) items (·.expression = e)) :=
    relation (level .relation h)
  cases ℓ with
  | or => exact h
  | and => exact and h
  | equality => exact equality h
  | relation => exact relation h
  | sum => exact sum h
  | product => exact sum (level .sum h)

theorem unary (h : ReadsAs (.part .primary) items (·.expression = e)) :
    ReadsAs (.part .unary) items (·.expression = e) := by
  intro tokens same
  obtain ⟨tree, means, spells⟩ := h tokens same
  refine ⟨.node .unsigned [tree], ?_, .node .unsigned (fun _ => rfl) spells⟩
  rw [← means]
  rfl

/-- What stands for itself is an operand of every level. -/
theorem operand (ℓ : Level) (h : ReadsAs (.part .primary) items (·.expression = e)) :
    ReadsAs (GrammarSymbol.operand ℓ) items (·.expression = e) := by
  have product : ReadsAs (.part (.level .product)) items (·.expression = e) := level .product h.unary
  have sum : ReadsAs (.part (.level .sum)) items (·.expression = e) := level .sum product
  have relation : ReadsAs (.part (.level .relation)) items (·.expression = e) := level .relation sum
  have equality : ReadsAs (.part (.level .equality)) items (·.expression = e) :=
    level .equality relation
  cases ℓ with
  | or => exact level .and equality
  | and => exact equality
  | equality => exact relation
  | relation => exact sum
  | sum => exact product
  | product => exact h.unary

theorem expression (h : ReadsAs (.part .primary) items (·.expression = e)) :
    ReadsAs GrammarSymbol.expression items (·.expression = e) :=
  level .or (h.operand .or)

/-- Parentheses add nothing to the meaning. -/
theorem parenthesised (h : ReadsAs GrammarSymbol.expression items (·.expression = e)) :
    ReadsAs (.part .primary) ((Mark.symbol .leftParen).item :: items ++
      [(Mark.symbol .rightParen).item]) (·.expression = e) := by
  intro tokens same
  obtain ⟨opening, tokens, rfl, opens, same⟩ := List.map_eq_cons_iff.1 same
  obtain ⟨inside, closing, rfl, within, same⟩ := List.map_eq_append_iff.1 same
  obtain ⟨closing, nothing, rfl, closes, same⟩ := List.map_eq_cons_iff.1 same
  obtain rfl := List.map_eq_nil_iff.1 same
  obtain ⟨tree, means, spells⟩ := h inside within
  refine ⟨.node .parenthesised [.leaf opening, tree, .leaf closing], ?_,
    .node .parenthesised (fun _ => rfl) ?_⟩
  · rw [← means]
    rfl
  · exact .leaf (Mark.fits opens) (spells.cons (.leaf (Mark.fits closes) .nil))

/-- An operator between two operands of its level. -/
theorem joined {m : Mark} (holds : ℓ.holds m.terminal = true)
    (left : ReadsAs (.part .primary) items (·.expression = e))
    (right : ReadsAs (.part .primary) items' (·.expression = e')) :
    ReadsAs (.part (.level ℓ)) (items ++ m.item :: items')
      (·.expression = .binary m.spelling e e') := by
  intro tokens same
  obtain ⟨first, tokens, rfl, before, same⟩ := List.map_eq_append_iff.1 same
  obtain ⟨op, second, rfl, between, behind⟩ := List.map_eq_cons_iff.1 same
  obtain ⟨tree, means, spells⟩ := left.operand ℓ first before
  obtain ⟨tree', means', spells'⟩ := right.operand ℓ second behind
  have fits : (TokenClass.operator ℓ).holds op.terminal = true :=
    TokenClass.fits between (by rwa [Mark.item, Mark.terminal_kind])
  have next := Spells.leaf fits (spells'.cons (spells_lastOperand ℓ))
  have more := Spells.node (.nextOperand ℓ) (fun _ => rfl) next
  rw [List.append_nil] at more
  refine ⟨_, ?_, .node (.level ℓ) (fun _ => rfl) (spells.cons more)⟩
  rw [← means, ← means', ← Token.lexeme_of_mark between]
  rfl

/-- A sign before an operand. -/
theorem signed {m : Mark} (holds : TokenClass.sign.holds m.terminal = true)
    (inner : ReadsAs (.part .primary) items (·.expression = e)) :
    ReadsAs (.part .unary) (m.item :: items) (·.expression = .unary m.spelling e) := by
  intro tokens same
  obtain ⟨op, tokens, rfl, before, same⟩ := List.map_eq_cons_iff.1 same
  obtain ⟨tree, means, spells⟩ := inner.unary tokens same
  have fits : TokenClass.sign.holds op.terminal = true :=
    TokenClass.fits before (by rwa [Mark.item, Mark.terminal_kind])
  refine ⟨_, ?_, .node .signed (fun _ => rfl) (.leaf fits spells)⟩
  rw [← means, ← Token.lexeme_of_mark before]
  rfl

/-- Expressions behind commas. -/
theorem moreArguments {es : List Expression} {itemLists : List (List Item)}
    (all : List.Forall₂ (fun items e => ReadsAs GrammarSymbol.expression items (·.expression = e))
      itemLists es) :
    ReadsAs (.part .moreArguments) (itemLists.flatMap ((Mark.symbol .comma).item :: ·))
      (·.arguments = es) := by
  induction all with
  | nil =>
    intro tokens same
    obtain rfl := List.map_eq_nil_iff.1 same
    exact ⟨.node .lastArgument [], rfl,
      .node .lastArgument (fun _ => rfl) .nil⟩
  | cons next _ ih =>
    intro tokens same
    rw [List.flatMap_cons] at same
    obtain ⟨comma, tokens, rfl, before, same⟩ := List.map_eq_cons_iff.1 same
    obtain ⟨first, behind, rfl, within, same⟩ := List.map_eq_append_iff.1 same
    obtain ⟨tree, means, spells⟩ := next first within
    obtain ⟨more, means', spells'⟩ := ih behind same
    refine ⟨_, ?_, .node .nextArgument (fun _ => rfl)
      (.leaf (Mark.fits before) (spells.cons spells'))⟩
    rw [← means, ← means']
    rfl

/-- Expressions with commas between them. -/
theorem arguments {es : List Expression} {itemLists : List (List Item)}
    (first : ReadsAs GrammarSymbol.expression items (·.expression = e))
    (all : List.Forall₂ (fun items e => ReadsAs GrammarSymbol.expression items (·.expression = e))
      itemLists es) :
    ReadsAs (.part .arguments) (items ++ itemLists.flatMap ((Mark.symbol .comma).item :: ·))
      (·.arguments = e :: es) := by
  intro tokens same
  obtain ⟨front, behind, rfl, within, same⟩ := List.map_eq_append_iff.1 same
  obtain ⟨tree, means, spells⟩ := first front within
  obtain ⟨more, means', spells'⟩ := moreArguments all behind same
  refine ⟨_, ?_, .node .argumentFirst (fun _ => rfl) (spells.cons spells')⟩
  rw [← means, ← means']
  rfl

theorem noArgument : ReadsAs (.part .arguments) [] (·.arguments = []) := by
  intro tokens same
  obtain rfl := List.map_eq_nil_iff.1 same
  exact ⟨.node .noArgument [], rfl, .node .noArgument (fun _ => rfl) .nil⟩

/-- A name with arguments in parentheses. -/
theorem called {name : String} {es : List Expression}
    (inside : ReadsAs (.part .arguments) items (·.arguments = es)) :
    ReadsAs (.part .primary) ((.identifier name, lexeme) :: (Mark.symbol .leftParen).item :: items ++
      [(Mark.symbol .rightParen).item]) (·.expression = .call (String.ofList lexeme) es) := by
  intro tokens same
  obtain ⟨callee, tokens, rfl, named, same⟩ := List.map_eq_cons_iff.1 same
  obtain ⟨opening, tokens, rfl, opens, same⟩ := List.map_eq_cons_iff.1 same
  obtain ⟨within, tokens, rfl, between, same⟩ := List.map_eq_append_iff.1 same
  obtain ⟨closing, nothing, rfl, closes, same⟩ := List.map_eq_cons_iff.1 same
  obtain rfl := List.map_eq_nil_iff.1 same
  obtain ⟨tree, means, spells⟩ := inside within between
  have parens := Spells.leaf (Mark.fits opens) (spells.cons (.leaf (Mark.fits closes) .nil))
  have call := Spells.node .call (fun _ => rfl) (.leaf (TokenClass.fits named rfl) parens)
  refine ⟨_, ?_, .node .callOperand (fun _ => rfl) call⟩
  rw [← means, ← Token.lexeme_of_item named]
  rfl

/-- A literal. -/
theorem literal {kind : TokenKind} (holds : TokenClass.literal.holds kind.terminal = true) :
    ReadsAs (.part .primary) [(kind, lexeme)] (·.expression = .operand (String.ofList lexeme)) := by
  intro tokens same
  obtain ⟨token, nothing, rfl, alone, same⟩ := List.map_eq_cons_iff.1 same
  obtain rfl := List.map_eq_nil_iff.1 same
  refine ⟨_, ?_, .node .literal (fun _ => rfl) (.leaf (TokenClass.fits alone holds) .nil)⟩
  rw [← Token.lexeme_of_item alone]
  rfl

/-- A new value of a named type. -/
theorem new {name : String} :
    ReadsAs (.part .primary) [(Mark.keyword .new).item, (.identifier name, lexeme)]
      (·.expression = .operand ("new " ++ String.ofList lexeme)) := by
  intro tokens same
  obtain ⟨new, tokens, rfl, first, same⟩ := List.map_eq_cons_iff.1 same
  obtain ⟨token, nothing, rfl, named, same⟩ := List.map_eq_cons_iff.1 same
  obtain rfl := List.map_eq_nil_iff.1 same
  refine ⟨_, ?_, .node .new (fun _ => rfl)
    (.leaf (Mark.fits first) (.leaf (TokenClass.fits named rfl) .nil))⟩
  rw [← Token.lexeme_of_item named]
  rfl

/-! ### Paths -/

theorem pathEnds : ReadsAs (.part .morePath) [] (·.dotted = "") := by
  intro tokens same
  obtain rfl := List.map_eq_nil_iff.1 same
  exact ⟨.node .pathEnds [], rfl, .node .pathEnds (fun _ => rfl) .nil⟩

variable {name text : String}

/-- One more name behind a dot. -/
theorem pathGoesOn (h : ReadsAs (.part .morePath) items (·.dotted = text)) :
    ReadsAs (.part .morePath) ((Mark.symbol .dot).item :: (.identifier name, lexeme) :: items)
      (·.dotted = "." ++ String.ofList lexeme ++ text) := by
  intro tokens same
  obtain ⟨dot, tokens, rfl, first, same⟩ := List.map_eq_cons_iff.1 same
  obtain ⟨token, tokens, rfl, named, same⟩ := List.map_eq_cons_iff.1 same
  obtain ⟨more, means, spells⟩ := h tokens same
  refine ⟨_, ?_, .node .pathGoesOn (fun _ => rfl)
    (.leaf (Mark.fits first) (.leaf (TokenClass.fits named rfl) spells))⟩
  rw [← means, ← Token.lexeme_of_item named]
  rfl

theorem path (h : ReadsAs (.part .morePath) items (·.dotted = text)) :
    ReadsAs (.part .path) ((.identifier name, lexeme) :: items)
      (·.dotted = String.ofList lexeme ++ text) := by
  intro tokens same
  obtain ⟨token, tokens, rfl, named, same⟩ := List.map_eq_cons_iff.1 same
  obtain ⟨more, means, spells⟩ := h tokens same
  refine ⟨_, ?_, .node .path (fun _ => rfl) (.leaf (TokenClass.fits named rfl) spells)⟩
  rw [← means, ← Token.lexeme_of_item named]
  rfl

/-- A path is an operand. -/
theorem pathOperand (h : ReadsAs (.part .path) items (·.dotted = text)) :
    ReadsAs (.part .primary) items (·.expression = .operand text) := by
  intro tokens same
  obtain ⟨path, means, spells⟩ := h tokens same
  refine ⟨_, ?_, .node .pathOperand (fun _ => rfl) spells⟩
  rw [← means]
  rfl

end ReadsAs

end SyntaxCheck
