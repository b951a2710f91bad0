import SyntaxCheck.Proofs.Grammar.Composition
import SyntaxCheck.Proofs.Recognizer.Trace

/-!
# Printed groups read again

An expression of a record is printed with every group in parentheses. Such a text has the tokens of the
expression, and these are derived from a single operand, so it stands for the same expression wherever
one may stand.

* `Expression.IsFixed` - the printed expression is read again as what it is;
* `Expression.IsFixed.binary`, `unary`, `call` and the others - one for each form of an expression;
* `Tree.IsFixed`, `isFixed_node` - what a tree of a text stands for is fixed, by its production;
* `assigned`, `exists_tree_of_assigned` - a program with one given expression;
* `expressions_fixed` - the printed expressions of an accepted text.
-/

namespace SyntaxCheck

/-! ### Expressions -/

/-- The printed expression has tokens that are derived as one operand, which stands for the expression. -/
def Expression.IsFixed (e : Expression) : Prop :=
  ∃ items, Prints items e.render ∧ ReadsAs (.part .primary) items (·.expression = e)

namespace Expression.IsFixed

variable {e e' : Expression} {kind : TokenKind} {name : String} {lexeme : List Char} {m : Mark}
  {ℓ : Level}

theorem of_render {items : List Item} {text : String} (same : e.render = text)
    (prints : Prints items text) (reads : ReadsAs (.part .primary) items (·.expression = e)) :
    e.IsFixed := by
  subst same
  exact ⟨items, prints, reads⟩

theorem literal (h : Lexeme kind lexeme) (holds : TokenClass.literal.holds kind.terminal = true) :
    (operand (String.ofList lexeme)).IsFixed :=
  of_render (by rw [render]) (.alone h) (.literal holds)

theorem new (h : Lexeme (.identifier name) lexeme) :
    (operand ("new " ++ String.ofList lexeme)).IsFixed :=
  of_render (by rw [render]; rfl) ((Prints.alone h).behind .new) .new

theorem path {items : List Item} {text : String} (prints : Prints items text)
    (reads : ReadsAs (.part .path) items (·.dotted = text)) : (operand text).IsFixed :=
  of_render (by rw [render]) prints reads.pathOperand

theorem binary (holds : ℓ.holds m.terminal = true) (left : e.IsFixed) (right : e'.IsFixed) :
    (binary m.spelling e e').IsFixed := by
  obtain ⟨items, prints, reads⟩ := left
  obtain ⟨items', prints', reads'⟩ := right
  exact of_render (by rw [render, Step.joined]) (prints.joined m prints')
    (reads.joined holds reads').expression_of_level.parenthesised

theorem unary (holds : TokenClass.sign.holds m.terminal = true) (inner : e.IsFixed) :
    (unary m.spelling e).IsFixed := by
  have known : m = .symbol .minus ∨ m = .keyword .not := by
    cases m <;> simpa [TokenClass.holds, Mark.terminal] using holds
  obtain ⟨items, prints, reads⟩ := inner
  have product := ReadsAs.level .product (reads.signed holds)
  exact of_render (by rw [render, Step.signed, Step.gap]) (prints.signed known)
    product.expression_of_level.parenthesised

/-- Expressions that are fixed, with the tokens of each. -/
theorem exists_items {es : List Expression} (all : ∀ e ∈ es, e.IsFixed) :
    ∃ itemLists, List.Forall₂ Prints itemLists (es.map render) ∧
      List.Forall₂ (fun items e => ReadsAs .expression items (·.expression = e)) itemLists es := by
  induction es with
  | nil => exact ⟨[], .nil, .nil⟩
  | cons e es ih =>
    obtain ⟨items, prints, reads⟩ := all e List.mem_cons_self
    obtain ⟨itemLists, allPrint, allRead⟩ := ih fun e among => all e (List.mem_cons_of_mem _ among)
    exact ⟨items :: itemLists, .cons prints allPrint, .cons reads.expression allRead⟩

theorem call {es : List Expression} (callee : Lexeme (.identifier name) lexeme)
    (all : ∀ e ∈ es, e.IsFixed) : (call (String.ofList lexeme) es).IsFixed := by
  obtain ⟨itemLists, prints, reads⟩ := exists_items all
  have same : (Expression.call (String.ofList lexeme) es).render =
      Step.called (String.ofList lexeme) (es.map render) := by
    rw [render, Step.called]
  cases reads with
  | nil =>
    have nothing : Prints [] (", ".intercalate (([] : List Expression).map render)) := Prints.nothing
    exact of_render same (nothing.called callee) ReadsAs.noArgument.called
  | cons first more =>
    cases prints with
    | cons print prints =>
      exact of_render same ((print.separated prints).called callee) (first.arguments more).called

/-- Operators of one level and their operands. -/
theorem grouped (ℓ : Level) {links : List (String × Expression)}
    (all : ∀ link ∈ links, ∃ m : Mark, link.1 = m.spelling ∧ ℓ.holds m.terminal = true ∧
      link.2.IsFixed) (left : e.IsFixed) : (Tree.grouped e links).IsFixed := by
  induction links generalizing e with
  | nil => exact left
  | cons link links ih =>
    obtain ⟨m, same, holds, right⟩ := all link List.mem_cons_self
    refine ih (fun link among => all link (List.mem_cons_of_mem _ among)) ?_
    show (Expression.binary link.1 e link.2).IsFixed
    rw [same]
    exact binary holds left right

end Expression.IsFixed

/-! ### Trees -/

/-- The expression that a tree of the symbol stands for is fixed, and so are those it is made of. A leaf
of the symbol has a lexeme that fits. -/
def Tree.IsFixed : GrammarSymbol → Tree Token → Prop
  | .token c, tree => ∃ letter, tree = .leaf letter ∧ c.holds letter.terminal = true ∧
      (letter.terminal ≠ .endOfInput → Lexeme letter.kind letter.lexeme.toList)
  | .part (.moreOperands ℓ), tree => ∀ link ∈ tree.links, ∃ m : Mark, link.1 = m.spelling ∧
      ℓ.holds m.terminal = true ∧ link.2.IsFixed
  | .part .arguments, tree => ∀ e ∈ tree.arguments, e.IsFixed
  | .part .moreArguments, tree => ∀ e ∈ tree.arguments, e.IsFixed
  | .part .path, tree => ∃ items, Prints items tree.dotted ∧
      ReadsAs (.part .path) items (·.dotted = tree.dotted)
  | .part .morePath, tree => ∃ items, Prints items tree.dotted ∧
      ReadsAs (.part .morePath) items (·.dotted = tree.dotted) ∧
      ∀ c ∈ tree.dotted.toList.head?, isWordPart c = false
  | .part n, tree => n.isExpression = true → tree.expression.IsFixed

namespace Tree.IsFixed

variable {tree : Tree Token} {ℓ : Level}

theorem of_operand (h : IsFixed (GrammarSymbol.operand ℓ) tree) : tree.expression.IsFixed := by
  cases ℓ <;> exact h rfl

/-- A name is a lexeme. -/
theorem of_name (h : IsFixed .name tree) : ∃ letter name lexeme, tree = .leaf letter ∧
    letter.lexeme = String.ofList lexeme ∧ Lexeme (.identifier name) lexeme := by
  obtain ⟨letter, rfl, fits, isLexeme⟩ := h
  have class_eq : letter.kind.terminal = .identifier := eq_of_beq fits
  have isLexeme := isLexeme (by rw [Token.terminal, class_eq]; decide)
  cases kind : letter.kind with
  | identifier name =>
    rw [kind] at isLexeme
    exact ⟨letter, name, _, rfl, String.ofList_toList.symm, isLexeme⟩
  | _ => rw [kind] at class_eq; cases class_eq

/-- What is spelled in one way only is spelled so. -/
theorem of_mark {c : TokenClass} (h : IsFixed (.token c) tree)
    (marks : ∀ t, c.holds t = true → ∃ m : Mark, t = m.terminal) :
    ∃ letter, ∃ m : Mark, tree = .leaf letter ∧ letter.lexeme = m.spelling ∧
      c.holds m.terminal = true := by
  obtain ⟨letter, rfl, fits, isLexeme⟩ := h
  obtain ⟨m, same⟩ := marks _ fits
  have isLexeme := isLexeme (by rw [same]; cases m <;> exact nofun)
  have item := Mark.item_of_terminal isLexeme same
  refine ⟨letter, m, rfl, ?_, same ▸ fits⟩
  exact String.toList_inj.1 (congrArg Prod.snd item)

theorem path {items : List Item} {text : String} (same : tree.dotted = text)
    (prints : Prints items text) (reads : ReadsAs (.part .path) items (·.dotted = text)) :
    IsFixed (.part .path) tree := by
  subst same
  exact ⟨items, prints, reads⟩

theorem morePath {items : List Item} {text : String} (same : tree.dotted = text)
    (prints : Prints items text) (reads : ReadsAs (.part .morePath) items (·.dotted = text))
    (ends : ∀ c ∈ text.toList.head?, isWordPart c = false) : IsFixed (.part .morePath) tree := by
  subst same
  exact ⟨items, prints, reads, ends⟩

end Tree.IsFixed

/-- What a node stands for is fixed, if this holds of its children. -/
theorem isFixed_node {n : Nonterminal} (p : Production n) (children : List (Tree Token))
    (inside : List.Forall₂ Tree.IsFixed p.parts children) :
    Tree.IsFixed (.part n) (.node p children) := by
  cases p with
  | level ℓ =>
    obtain _ | ⟨first, _ | ⟨more, _ | _⟩⟩ := inside
    intro _
    rw [Tree.expression_level]
    exact .grouped ℓ more first.of_operand
  | signed =>
    obtain _ | ⟨op, _ | ⟨inner, _ | _⟩⟩ := inside
    obtain ⟨letter, m, rfl, same, holds⟩ := op.of_mark exists_mark_of_sign
    intro _
    rw [Tree.expression_signed, same]
    exact .unary holds (inner rfl)
  | unsigned =>
    obtain _ | ⟨inner, _ | _⟩ := inside
    intro _
    rw [Tree.expression_unsigned]
    exact inner rfl
  | literal =>
    obtain _ | ⟨⟨letter, rfl, holds, isLexeme⟩, _ | _⟩ := inside
    intro _
    have isLexeme := isLexeme (by rintro same; rw [same] at holds; cases holds)
    rw [Tree.expression_literal, ← String.ofList_toList (s := letter.lexeme)]
    exact .literal isLexeme holds
  | new =>
    obtain _ | ⟨⟨new, rfl, -⟩, _ | ⟨named, _ | _⟩⟩ := inside
    obtain ⟨letter, name, lexeme, rfl, same, isLexeme⟩ := named.of_name
    intro _
    rw [Tree.expression_new, same]
    exact .new isLexeme
  | parenthesised =>
    obtain _ | ⟨-, _ | ⟨inner, _ | ⟨-, _ | _⟩⟩⟩ := inside
    intro _
    rw [Tree.expression_parenthesised]
    exact inner rfl
  | callOperand =>
    obtain _ | ⟨call, _ | _⟩ := inside
    intro _
    rw [Tree.expression_callOperand]
    exact call rfl
  | pathOperand =>
    obtain _ | ⟨⟨items, prints, reads⟩, _ | _⟩ := inside
    intro _
    rw [Tree.expression_pathOperand]
    exact .path prints reads
  | call =>
    obtain _ | ⟨named, _ | ⟨-, _ | ⟨arguments, _ | ⟨-, _ | _⟩⟩⟩⟩ := inside
    obtain ⟨letter, name, lexeme, rfl, same, isLexeme⟩ := named.of_name
    intro _
    rw [Tree.expression_call, same]
    exact .call isLexeme arguments
  | lastOperand ℓ =>
    obtain _ | _ := inside
    intro link among
    simp at among
  | nextOperand ℓ =>
    obtain _ | ⟨op, _ | ⟨inner, _ | ⟨more, _ | _⟩⟩⟩ := inside
    obtain ⟨letter, m, rfl, same, holds⟩ := op.of_mark exists_mark_of_operator
    intro link among
    rw [Tree.links_nextOperand] at among
    rcases List.mem_cons.1 among with rfl | among
    · exact ⟨m, same, holds, inner.of_operand⟩
    · exact more link among
  | noArgument =>
    obtain _ | _ := inside
    intro e among
    simp at among
  | lastArgument =>
    obtain _ | _ := inside
    intro e among
    simp at among
  | argumentFirst =>
    obtain _ | ⟨first, _ | ⟨more, _ | _⟩⟩ := inside
    intro e among
    rw [Tree.arguments_argumentFirst] at among
    rcases List.mem_cons.1 among with rfl | among
    · exact first rfl
    · exact more e among
  | nextArgument =>
    obtain _ | ⟨-, _ | ⟨next, _ | ⟨more, _ | _⟩⟩⟩ := inside
    intro e among
    rw [Tree.arguments_nextArgument] at among
    rcases List.mem_cons.1 among with rfl | among
    · exact next rfl
    · exact more e among
  | pathEnds =>
    obtain _ | _ := inside
    exact .morePath rfl Prints.nothing ReadsAs.pathEnds (by simp)
  | pathGoesOn =>
    obtain _ | ⟨⟨dot, rfl, -⟩, _ | ⟨named, _ | ⟨⟨items, prints, reads, ends⟩, _ | _⟩⟩⟩ := inside
    obtain ⟨letter, name, lexeme, rfl, same, isLexeme⟩ := named.of_name
    have prints := (prints.named isLexeme ends).dotted
    rw [← String.append_assoc] at prints
    refine .morePath (by rw [Tree.dotted_pathGoesOn, same]) prints reads.pathGoesOn ?_
    rw [String.append_assoc, String.toList_append]
    rintro c found
    cases found
    decide
  | path =>
    obtain _ | ⟨named, _ | ⟨⟨items, prints, reads, ends⟩, _ | _⟩⟩ := inside
    obtain ⟨letter, name, lexeme, rfl, same, isLexeme⟩ := named.of_name
    exact .path (by rw [Tree.dotted_path, same]) (prints.named isLexeme ends) reads.path
  | _ =>
    intro inner
    cases inner

namespace Tree

variable {n : Nonterminal} (p : Production n) (children : List (Tree Token))

@[simp] theorem expressions_leaf (letter : Token) : (leaf letter).expressions = [] := by
  simp [expressions, outline]

theorem expressions_of_isExpression (inside : n.isExpression = true) :
    (node p children).expressions = [(node p children).expression] := by
  rw [expressions, outline, if_pos inside]
  rfl

theorem expressions_of_above (above : n.isExpression = false) :
    (node p children).expressions = children.flatMap expressions := by
  rw [expressions, outline, if_neg (by rw [above]; exact Bool.false_ne_true),
    List.filterMap_append, List.filterMap_flatMap]
  cases n.rule? <;> rfl

end Tree

/-- The expressions of a tree of lexemes are fixed. -/
theorem Derives.isFixed {γ : List GrammarSymbol} {forest : List (Tree Token)} {word : List Token}
    (h : Derives Token.terminal γ forest word)
    (lexemes : ∀ token ∈ word, token.terminal ≠ .endOfInput →
      Lexeme token.kind token.lexeme.toList) :
    ∀ tree ∈ forest, ∀ e ∈ tree.expressions, e.IsFixed := by
  have all : List.Forall₂ (fun s tree => tree.IsFixed s ∧ ∀ e ∈ tree.expressions, e.IsFixed)
      γ forest := by
    refine h.forall₂_of_letters lexemes ?_ ?_
    · intro c letter fits isLexeme
      exact ⟨⟨letter, rfl, fits, isLexeme⟩, by simp⟩
    · intro n p children inside
      have node := isFixed_node p children (inside.imp fun _ _ both => both.1)
      refine ⟨node, fun e among => ?_⟩
      cases expression : n.isExpression with
      | true =>
        rw [Tree.expressions_of_isExpression p children expression] at among
        obtain rfl := List.mem_singleton.1 among
        cases n <;> first | exact node expression | cases expression
      | false =>
        rw [Tree.expressions_of_above p children expression] at among
        obtain ⟨child, found, among⟩ := List.mem_flatMap.1 among
        obtain ⟨_, _, -, fixed⟩ := exists_of_forall₂ inside found
        exact fixed e among
  intro tree found
  obtain ⟨_, _, -, fixed⟩ := exists_of_forall₂ all found
  exact fixed

/-! ### Programs -/

/-- A program that assigns the text to a variable. -/
def assigned (text : String) : String := "fun void f() \x7b x = " ++ text ++ " \x7d"

/-- The tokens of the program in front of the assigned text. -/
def assignedItems : List Item := [
  (Mark.keyword .fun_).item, (Mark.keyword .void).item, (.identifier "f", ['f']),
  (Mark.symbol .leftParen).item, (Mark.symbol .rightParen).item, (Mark.symbol .leftBrace).item,
  (.identifier "x", ['x']), (Mark.symbol .assign).item]

theorem isLexeme_letter {c : Char} (known : c = 'f' ∨ c = 'x') :
    Lexeme (.identifier (String.ofList [c])) [c] := by
  refine .identifier ⟨?_, by simp⟩ fun k => ?_
  · rcases known with rfl | rfl <;> decide
  · rcases known with rfl | rfl <;> cases k <;> decide

theorem toList_assigned (text : String) :
    (assigned text).toList = ['f', 'u', 'n', ' ', 'v', 'o', 'i', 'd', ' ', 'f', '(', ')', ' ',
      '\x7b', ' ', 'x', ' ', '=', ' '] ++ (text.toList ++ [' ', '\x7d']) := by
  unfold assigned
  simp only [String.toList_append, List.append_assoc]
  rfl

/-- The program has the tokens of the assigned text in it. -/
theorem writes_assigned {items : List Item} {text : String} (prints : Prints items text) :
    Writes (assignedItems ++ (items ++ [(Mark.symbol .rightBrace).item])) (assigned text).toList := by
  have f : Lexeme (.identifier "f") ['f'] := isLexeme_letter (.inl rfl)
  have x : Lexeme (.identifier "x") ['x'] := isLexeme_letter (.inr rfl)
  have close := Writes.nil.symbol .rightBrace nofun
  have value := (prints (Closes.blank _) close.blank).blank.symbol .assign ((Closes.blank _).ends _)
  have target := value.blank.lexeme x ((Closes.blank _).ends _)
  have body := (target.blank.symbol .leftBrace nofun).blank
  have parameters := (body.symbol .rightParen nofun).symbol .leftParen nofun
  have named := parameters.lexeme f (ends_leftParen _ _)
  have result := named.blank.mark (.keyword .void) ((Closes.blank _).ends _)
  have all := result.blank.mark (.keyword .fun_) ((Closes.blank _).ends _)
  rw [toList_assigned]
  exact all

/-- Tokens with these kinds and texts are spelled by trees with these expressions. -/
def Yields (γ : List GrammarSymbol) (items : List Item) (es : List Expression) : Prop :=
  ∀ tokens, tokens.map Token.item = items →
    ∃ forest, forest.flatMap Tree.expressions = es ∧ Spells Token.terminal γ forest tokens

namespace Yields

variable {γ δ : List GrammarSymbol} {items items' : List Item} {es es' : List Expression}

theorem nil : Yields [] [] [] := by
  intro tokens same
  obtain rfl := List.map_eq_nil_iff.1 same
  exact ⟨[], rfl, .nil⟩

theorem token {c : TokenClass} {item : Item} (holds : c.holds item.1.terminal = true)
    (later : Yields γ items es) : Yields (.token c :: γ) (item :: items) es := by
  intro tokens same
  obtain ⟨letter, tokens, rfl, first, same⟩ := List.map_eq_cons_iff.1 same
  obtain ⟨forest, means, spells⟩ := later tokens same
  refine ⟨.leaf letter :: forest, ?_, .leaf (TokenClass.fits first holds) spells⟩
  simp [means]

theorem mark (m : Mark) (later : Yields γ items es) :
    Yields (.token (.only m.terminal) :: γ) (m.item :: items) es :=
  token (by simp [TokenClass.holds, Mark.item]) later

theorem append (first : Yields γ items es) (later : Yields δ items' es') :
    Yields (γ ++ δ) (items ++ items') (es ++ es') := by
  intro tokens same
  obtain ⟨front, behind, rfl, within, same⟩ := List.map_eq_append_iff.1 same
  obtain ⟨forest, means, spells⟩ := first front within
  obtain ⟨forest', means', spells'⟩ := later behind same
  refine ⟨forest ++ forest', ?_, spells.append spells'⟩
  rw [List.flatMap_append, means, means']

/-- A part above the expressions has those that are inside it. -/
theorem node {n : Nonterminal} (p : Production n) (always : ∀ t, p.allowedBefore t = true)
    (above : n.isExpression = false) (inside : Yields p.parts items es) :
    Yields [.part n] items es := by
  intro tokens same
  obtain ⟨forest, means, spells⟩ := inside tokens same
  refine ⟨[.node p forest], ?_, .node p always spells⟩
  rw [List.flatMap_singleton, Tree.expressions_of_above p forest above, means]

theorem expression {e : Expression} (h : ReadsAs .expression items (·.expression = e)) :
    Yields [.expression] items [e] := by
  intro tokens same
  obtain ⟨tree, means, spells⟩ := h tokens same
  refine ⟨[tree], ?_, spells⟩
  obtain ⟨p, children, forest, same, -⟩ := spells.derives.of_part
  obtain ⟨rfl, -⟩ := List.cons_eq_cons.1 same
  rw [List.flatMap_singleton, Tree.expressions_of_isExpression p children rfl, means]

end Yields

/-- These tokens are derived as a program with one expression. -/
theorem yields_assigned {items : List Item} {e : Expression}
    (h : ReadsAs (.part .primary) items (·.expression = e)) :
    Yields [.part .program]
      (assignedItems ++ (items ++ [(Mark.symbol .rightBrace).item]) ++ [(.endOfInput, [])]) [e] := by
  have path : Yields [.part .path] [(.identifier "x", ['x'])] [] :=
    .node .path (fun _ => rfl) rfl (.token rfl (.node .pathEnds (fun _ => rfl) rfl .nil))
  have assignment : Yields [.part .assignment] _ [e] :=
    .node .assignment (fun _ => rfl) rfl
      (path.append (.mark (.symbol .assign) (.expression h.expression)))
  have none : Yields [.part .statements] [] [] := .node .noStatement (fun _ => rfl) rfl .nil
  have statement : Yields [.part .statement] _ _ := .node .assigns (fun _ => rfl) rfl assignment
  have statements : Yields [.part .statements] _ _ :=
    .node .statementFirst (fun _ => rfl) rfl (statement.append none)
  have block : Yields [.part .block] _ _ :=
    .node .block (fun _ => rfl) rfl
      (.mark (.symbol .leftBrace) (statements.append (.mark (.symbol .rightBrace) .nil)))
  have parameters : Yields [.part .parameters] [] [] :=
    .node .parameters (fun _ => rfl) rfl (.node .noParameter (fun _ => rfl) rfl .nil)
  have result : Yields [.part .resultType] _ _ :=
    .node .noResult (fun _ => rfl) rfl (.mark (.keyword .void) .nil)
  have named : Yields (.name :: _) ((.identifier "f", ['f']) :: _) _ :=
    .token rfl (.mark (.symbol .leftParen) (parameters.append (.mark (.symbol .rightParen) block)))
  have function : Yields [.part .function] _ _ :=
    .node .function (fun _ => rfl) rfl (.mark (.keyword .fun_) (result.append named))
  have noMore : Yields [.part .definitions] [] [] :=
    .node .noDefinition (fun _ => rfl) rfl .nil
  have definitions : Yields [.part .definitions] _ _ :=
    .node .functionFirst (fun _ => rfl) rfl (function.append noMore)
  have ending : Yields [.token (.only .endOfInput)] [(.endOfInput, [])] [] := .token rfl .nil
  have program : Yields [.part .program] _ _ :=
    .node .program (fun _ => rfl) rfl (definitions.append ending)
  simpa [assignedItems] using program

/-- The program has a derivation tree with the expression as its only one. -/
theorem exists_tree_of_assigned {e : Expression} (h : e.IsFixed) :
    ∃ tree, (Lexer.ofString (assigned e.render)).drain.fault = none ∧
      Derives Token.terminal [.part .program] [tree]
        (Lexer.ofString (assigned e.render)).drain.tokens ∧ tree.expressions = [e] := by
  obtain ⟨items, prints, reads⟩ := h
  obtain ⟨clean, same⟩ := drain_of_writes (writes_assigned prints)
  obtain ⟨forest, means, spells⟩ := yields_assigned reads _ same
  obtain ⟨tree, rfl⟩ := List.length_eq_one_iff.1 spells.derives.length_eq
  rw [List.flatMap_singleton] at means
  exact ⟨tree, clean, spells.derives, means⟩

/-- The expressions of a derivation tree of a text are fixed. -/
theorem isFixed_of_tokenize {text : String} {tokens : List Token} {tree : Tree Token}
    (found : (Lexer.ofString text).tokenize.1 = .ok tokens)
    (derived : Derives Token.terminal [.part .program] [tree] tokens) :
    ∀ e ∈ tree.expressions, e.IsFixed :=
  derived.isFixed (Lexer.tokenize_ok_iff_tiles.1 found).lexemes tree List.mem_cons_self

/-- A printed expression that is fixed is the only one of its program. -/
theorem trace_assigned {e : Expression} (h : e.IsFixed) :
    check (assigned e.render) = .ok () ∧ (trace (assigned e.render)).1 = .ok () ∧
      (trace (assigned e.render)).2.expressions = [e.render] := by
  obtain ⟨tree, clean, derived, only⟩ := exists_tree_of_assigned h
  have record := trace_of_derives clean derived
  refine ⟨(check_ok_iff_drain _).2 ⟨clean, ?_⟩, by rw [record], ?_⟩
  · exact generates_iff.2 (derivable_map_iff.2 ⟨_, derived⟩)
  · rw [record, Tree.steps, Outline.expressions_steps]
    exact congrArg (List.map Expression.render) only

/-- No two expressions that are fixed are printed alike: the text is derived in one way. -/
theorem render_injective {e e' : Expression} (h : e.IsFixed) (h' : e'.IsFixed)
    (same : e.render = e'.render) : e = e' := by
  obtain ⟨tree, -, derived, only⟩ := exists_tree_of_assigned h
  obtain ⟨tree', -, derived', only'⟩ := exists_tree_of_assigned h'
  rw [← same] at derived'
  obtain ⟨rfl, -⟩ := List.cons_eq_cons.1 (derived.unique spaced_program derived')
  rw [only] at only'
  exact List.singleton_injective only'

/-- The printed expressions of an accepted text: a program with one of them is accepted, and prints
that one again. Two expressions of accepted texts that are printed alike are the same. -/
theorem expressions_fixed (text : String) (accepted : check text = .ok ()) :
    (∀ g ∈ (trace text).2.expressions,
      check (assigned g) = .ok () ∧ (trace (assigned g)).1 = .ok () ∧
        (trace (assigned g)).2.expressions = [g]) ∧
    ∃ tokens tree, (Lexer.ofString text).tokenize.1 = .ok tokens ∧
      Derives Token.terminal [.part .program] [tree] tokens ∧
      (trace text).2.expressions = tree.expressions.map Expression.render ∧
      ∀ text' tokens' tree', (Lexer.ofString text').tokenize.1 = .ok tokens' →
        Derives Token.terminal [.part .program] [tree'] tokens' →
        ∀ e ∈ tree.expressions, ∀ e' ∈ tree'.expressions, e.render = e'.render → e = e' := by
  obtain ⟨clean, generates⟩ := (check_ok_iff_drain text).1 accepted
  rw [generates_iff, derivable_map_iff] at generates
  obtain ⟨forest, derived⟩ := generates
  obtain ⟨tree, rfl⟩ := List.length_eq_one_iff.1 derived.length_eq
  have found := tokenize_ok_iff.2 ⟨rfl, clean⟩
  have fixed := isFixed_of_tokenize found derived
  have printed : (trace text).2.expressions = tree.expressions.map Expression.render := by
    rw [trace_of_derives clean derived]
    exact Outline.expressions_steps tree.outline
  refine ⟨fun g among => ?_, _, tree, found, derived, printed, ?_⟩
  · rw [printed] at among
    obtain ⟨e, inside, rfl⟩ := List.mem_map.1 among
    exact trace_assigned (fixed e inside)
  · intro text' tokens' tree' found' derived' e among e' among' same
    exact render_injective (fixed e among) (isFixed_of_tokenize found' derived' e' among') same

/-- Parentheses, comments and blanks of a text are not printed, and printing again changes nothing. -/
theorem expressions_fixed_or :
    check "fun void f() \x7b x = not (a . b) == new T # c\n or g(-1, 'q') \x7d" = .ok () ∧
      check (assigned "(((not a.b) == new T) or g((-1), 'q'))") = .ok () ∧
      (trace (assigned "(((not a.b) == new T) or g((-1), 'q'))")).2.expressions =
        ["(((not a.b) == new T) or g((-1), 'q'))"] := by
  have accepted :
      check "fun void f() \x7b x = not (a . b) == new T # c\n or g(-1, 'q') \x7d" = .ok () := by
    cbv
  have printed : (trace
      "fun void f() \x7b x = not (a . b) == new T # c\n or g(-1, 'q') \x7d").2.expressions =
        ["(((not a.b) == new T) or g((-1), 'q'))"] := by
    cbv
  obtain ⟨fixed, -⟩ := expressions_fixed _ accepted
  rw [printed] at fixed
  have again := fixed _ (List.mem_singleton_self _)
  exact ⟨accepted, again.1, again.2.2⟩

end SyntaxCheck
