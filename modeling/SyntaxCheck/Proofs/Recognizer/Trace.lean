import Mathlib
import SyntaxCheck.Proofs.Recognizer.Language

/-!
# The record of an accepted text

* `trace_of_advance` - the record is what is kept of the events of the run;
* `trace_of_derives` - the record of a program holds the rules and expressions of its tree;
* `trace_eq_tree` - an accepted text has one derivation tree, and that is what its record says.
-/

namespace SyntaxCheck

variable {text : String} {token : Token} {lexer : Lexer}

theorem trace_of_advance (fetched : (Lexer.ofString text).advance = (.ok token, lexer)) :
    trace text =
      let finished := (Machine.start lexer token ((Lexer.ofString text).scanEvents token)).run
      (finished.1, Event.steps (Session.finish finished)) := by
  unfold trace
  rw [parse_of_advance (Session.ofString text).traced rfl fetched]
  rfl

/-- The record of a program holds the rules and expressions of its tree. -/
theorem trace_of_derives {tree : Tree Token} (clean : (Lexer.ofString text).drain.fault = none)
    (derived : Derives Token.terminal [.part .program] [tree] (Lexer.ofString text).drain.tokens) :
    trace text = (.ok (), tree.steps) := by
  cases next : (Lexer.ofString text).advance with
  | mk answer lexer =>
    cases answer with
    | error fault =>
      rw [Lexer.drain_of_fault next] at clean
      cases clean
    | ok token =>
      obtain ⟨tokens_eq, fault_eq⟩ := Machine.drain_of_advance [.program]
        ((Lexer.ofString text).scanEvents token) next
      rw [tokens_eq] at derived
      obtain ⟨final, run_eq, -, steps⟩ := Machine.run_of_derives (fault_eq.symm.trans clean) derived
      have started : Event.steps ((Lexer.ofString text).scanEvents token).reverse = [] :=
        Event.steps_scanEvents _ token
      rw [trace_of_advance next]
      dsimp only
      rw [run_eq, Session.finish, Event.steps_cons, steps, started, List.nil_append]
      exact congrArg (Prod.mk _) (List.append_nil _)

theorem Tree.rules_steps {tree : Tree Token} {word : List Token}
    (derived : Derives Token.terminal [.part .program] [tree] word) :
    tree.steps.rules = tree.rules := by
  rw [Tree.steps, Outline.rules_steps]
  exact derived.rules_outline tree List.mem_cons_self

/-- Nothing comes behind a program. -/
theorem spaced_program : Spaced (fun _ => false) [.part .program] := by
  refine ⟨fun _ found => (Bool.false_ne_true found).elim, ?_, trivial⟩
  intro same
  cases same

/-- An accepted text has one derivation tree. The record of its check has the rules of the tree, each
before those inside it, and its outermost expressions in the order of the text. -/
theorem trace_eq_tree (text : String) (accepted : check text = .ok ()) :
    ∃ tokens tree, (Lexer.ofString text).tokenize.1 = .ok tokens ∧
      Derives Token.terminal [.part .program] [tree] tokens ∧
      (∀ forest, Derives Token.terminal [.part .program] forest tokens → forest = [tree]) ∧
      (trace text).1 = .ok () ∧
      (trace text).2.rules = tree.rules ∧
      (trace text).2.expressions = tree.expressions.map Expression.render := by
  obtain ⟨clean, generates⟩ := (check_ok_iff_drain text).1 accepted
  rw [generates_iff, derivable_map_iff] at generates
  obtain ⟨forest, derived⟩ := generates
  obtain ⟨tree, rfl⟩ := List.length_eq_one_iff.1 derived.length_eq
  have record := trace_of_derives clean derived
  refine ⟨_, tree, tokenize_ok_iff.2 ⟨rfl, clean⟩, derived, ?_, ?_, ?_, ?_⟩
  · intro forest derived'
    exact derived'.unique spaced_program derived
  · rw [record]
  · rw [record]
    exact Tree.rules_steps derived
  · rw [record]
    exact Outline.expressions_steps tree.outline

/-- The record of one assignment. -/
theorem trace_eq_tree_assignment :
    check "fun void f() \x7b x = 1 + 2 * -y \x7d" = .ok () ∧
      ∃ tokens tree,
        (Lexer.ofString "fun void f() \x7b x = 1 + 2 * -y \x7d").tokenize.1 = .ok tokens ∧
        Derives Token.terminal [.part .program] [tree] tokens ∧
        tree.rules = [.program, .functionDefinition, .parameters, .block, .assignment] ∧
        tree.expressions.map Expression.render = ["(1 + (2 * (-y)))"] := by
  have accepted : check "fun void f() \x7b x = 1 + 2 * -y \x7d" = .ok () := by cbv
  obtain ⟨tokens, tree, found, derived, -, -, rules_eq, expressions_eq⟩ :=
    trace_eq_tree _ accepted
  refine ⟨accepted, tokens, tree, found, derived, ?_, ?_⟩
  · rw [← rules_eq]
    cbv
  · rw [← expressions_eq]
    cbv

end SyntaxCheck
