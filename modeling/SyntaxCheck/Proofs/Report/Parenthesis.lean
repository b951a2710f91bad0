import SyntaxCheck.Proofs.Recognizer.Headings
import SyntaxCheck.Proofs.Recognizer.Viability
import SyntaxCheck.Report.Basic

/-!
# When the parentheses of a condition are suggested

The suggestion is found by the description of what was wanted, and that of the parenthesis behind the name of
a function starts like that of the one behind `if` and `elif`. So both of them bring it up.

* `Suggestion.parenthesize`, `Refusal.parenthesize_mem_iff` - the suggestion, and the refusals it is made for;
* `BehindCondition`, `BehindFunction`, `awaits_iff` - the two places, by the tokens in front;
* `Machine.stopped_of_run` - what stops a run;
* `parenthesize_suggested_iff` - the rejected texts for which it is made; one of them holds no condition.
-/

namespace SyntaxCheck

/-! ### The suggestion -/

/-- Conditions have parentheses. -/
def Suggestion.parenthesize : Suggestion :=
  ⟨"Conditions of 'if' and 'elif' must be parenthesized", some "("⟩

open Suggestion

theorem LexicalCause.parenthesize_not_mem (cause : LexicalCause) : parenthesize ∉ cause.suggestions := by
  unfold suggestions
  split
  · decide
  · repeat' split
    all_goals decide
  · exact List.not_mem_nil

theorem Expectation.parenthesize_mem_iff (expectation : Expectation) :
    parenthesize ∈ GrammarCause.suggestionsFor expectation.text.toList ↔ expectation.opens = true := by
  cases expectation with
  | exactly m =>
    cases m with
    | keyword k => cases k <;> decide
    | symbol s => cases s <;> decide
  | openCondition k => cases k <;> decide
  | _ => decide

/-- It is made for the refusals that miss a parenthesis. -/
theorem Refusal.parenthesize_mem_iff (refusal : Refusal) (found : String) :
    parenthesize ∈ (refusal.cause found).suggestions ↔ refusal.missesParenthesis = true := by
  cases refusal with
  | unexpected expectation => exact expectation.parenthesize_mem_iff
  | _ => simp [cause, GrammarCause.suggestions, parenthesize, missesParenthesis]

/-! ### The places -/

/-- The last of the tokens is the keyword of a condition. -/
def BehindCondition (before : List Token) : Prop :=
  ∃ earlier keyword, before = earlier ++ [keyword] ∧
    (keyword.terminal = .keyword .if_ ∨ keyword.terminal = .keyword .elif)

/-- The last of the tokens is the name of a function: it stands behind `fun` and the type of the result. -/
def BehindFunction (before : List Token) : Prop :=
  ∃ earlier keyword type name, before = earlier ++ [keyword, type, name] ∧
    keyword.terminal = .keyword .fun_

theorem awaits_iff {before : List Token} :
    Awaits (before.map Token.terminal).reverse ↔ BehindCondition before ∨ BehindFunction before := by
  rw [← List.map_reverse]
  constructor
  · generalize classes : before.reverse.map Token.terminal = latest
    intro awaits
    cases awaits with
    | @condition k latest opens =>
      obtain ⟨keyword, earlier, split, same, -⟩ := List.map_eq_cons_iff.1 classes
      refine .inl ⟨earlier.reverse, keyword, List.reverse_eq_cons_iff.1 split, ?_⟩
      rw [same]
      rcases opens with rfl | rfl
      · exact .inl rfl
      · exact .inr rfl
    | parameters =>
      obtain ⟨name, others, split, -, classes⟩ := List.map_eq_cons_iff.1 classes
      obtain ⟨type, others, rfl, -, classes⟩ := List.map_eq_cons_iff.1 classes
      obtain ⟨keyword, earlier, rfl, same, -⟩ := List.map_eq_cons_iff.1 classes
      refine .inr ⟨earlier.reverse, keyword, type, name, ?_, same⟩
      simpa using List.reverse_eq_iff.1 split
  · rintro (⟨earlier, keyword, rfl, opens⟩ | ⟨earlier, keyword, type, name, rfl, same⟩)
    · rw [List.reverse_append]
      show Awaits (keyword.terminal :: _)
      rcases opens with opens | opens
      · exact opens ▸ .condition (.inl rfl)
      · exact opens ▸ .condition (.inr rfl)
    · rw [List.reverse_append]
      show Awaits (_ :: _ :: keyword.terminal :: _)
      exact same ▸ .parameters

/-! ### Texts that are rejected -/

/-- What stops a run: a token that is refused, or a lexical fault. The refusal misses a parenthesis just where
a heading needs one. -/
theorem Machine.stopped_of_run {lexer : Lexer} {current : Token} {events : List Event} {fault : Fault}
    {left : Machine} (fresh : lexer.shown = none)
    (failed : (start lexer current events).run = (.error fault, left)) :
    (∃ read token refusal, read ++ [token] <+: (start lexer current events).input ∧
      fault = Refusal.fault refusal token ∧ Viable (read.map Token.terminal) ∧
      (refusal.missesParenthesis = true ↔
        token.terminal ≠ .symbol .leftParen ∧ (BehindCondition read ∨ BehindFunction read))) ∨
    ∃ lexical : LexicalFault, fault = lexical.toFault := by
  obtain ⟨final, reached, fails⟩ := fails_of_run failed
  obtain ⟨⟨read, tracks⟩, -⟩ := tracks_of_reaches fresh reached
  have reads : final.ReadsHeading (start lexer current events).input :=
    reached.preserves (fun _ _ reads moved => reads.moves moved) (readsHeading_start lexer current events)
  cases fails with
  | @refuse task behind refusal top decided =>
    obtain ⟨word, begins⟩ := tracks.viable
    refine .inl ⟨read, left.current, refusal, tracks.isPrefix, rfl,
      viable_of_generates (not_mem_endOfInput tracks.goesOn) begins, ?_⟩
    rw [reads.missesParenthesis_iff tracks.input_eq top decided, awaits_iff]
  | take => exact .inr ⟨_, rfl⟩
  | look => exact .inr ⟨_, rfl⟩

/-- A rejected text brings the suggestion up just when the token that is refused stands where the parenthesis
should, behind the keyword of a condition or behind the name of a function. A lexical fault never does. -/
theorem parenthesize_suggested_iff (text file : String) (fault : Fault)
    (rejected : check text = .error fault) :
    (∀ cause, fault.cause = .grammatical cause →
      ∃ before token cursor, (Cursor.start text.toList).Scans (before ++ [token]) cursor ∧
        fault.span = token.span ∧ Viable (before.map Token.terminal) ∧
        (parenthesize ∈ (Report.ofFault file fault).suggestions ↔
          token.terminal ≠ .symbol .leftParen ∧ (BehindCondition before ∨ BehindFunction before))) ∧
    ∀ cause, fault.cause = .lexical cause →
      parenthesize ∉ (Report.ofFault file fault).suggestions := by
  constructor
  · intro cause same
    cases next : (Lexer.ofString text).advance with
    | mk answer lexer =>
      cases answer with
      | error lexical =>
        rw [check_of_missing next] at rejected
        injection rejected with rejected
        rw [← rejected] at same
        cases same
      | ok token =>
        have fresh := (Lexer.ofString text).shown_advance
        rw [next] at fresh
        have scanned := (Machine.drain_of_advance [.program]
          ((Lexer.ofString text).scanEvents token) next).1
        rw [check_of_advance next] at rejected
        rcases Machine.stopped_of_run fresh (Prod.ext rejected rfl) with
          ⟨read, refused, refusal, isPrefix, rfl, viable, misses⟩ | ⟨lexical, rfl⟩
        · have isPrefix : read ++ [refused] <+: (Lexer.ofString text).drain.tokens := scanned ▸ isPrefix
          obtain ⟨cursor, scans⟩ := Lexer.scans_of_isPrefix (Cursor.start text.toList) isPrefix
          exact ⟨read, refused, cursor, scans, rfl, viable,
            (refusal.parenthesize_mem_iff refused.describe).trans misses⟩
        · cases same
  · intro cause same
    show parenthesize ∉ fault.cause.suggestions
    rw [same]
    exact cause.parenthesize_not_mem

/-- An `if` without its parenthesis brings the suggestion up. -/
theorem parenthesize_suggested_condition :
    ∃ fault before token cursor, check "fun void f() \x7b if x \x7b \x7d \x7d" = .error fault ∧
      parenthesize ∈ (Report.ofFault "a.tsl" fault).suggestions ∧
      (Cursor.start "fun void f() \x7b if x \x7b \x7d \x7d".toList).Scans (before ++ [token]) cursor ∧
      fault.span = token.span ∧ token.terminal ≠ .symbol .leftParen ∧
      (BehindCondition before ∨ BehindFunction before) := by
  have rejected : check "fun void f() \x7b if x \x7b \x7d \x7d" =
      .error ⟨.grammatical (.unexpectedToken "'(' after 'if'" "identifier 'x'"), ⟨18, 19, 1, 19⟩⟩ := by cbv
  obtain ⟨before, token, cursor, scans, place, -, suggested⟩ :=
    (parenthesize_suggested_iff _ "a.tsl" _ rejected).1 _ rfl
  have among : parenthesize ∈ GrammarCause.suggestionsFor "'(' after 'if'".toList := by decide
  obtain ⟨other, behind⟩ := suggested.1 among
  exact ⟨_, before, token, cursor, rejected, among, scans, place, other, behind⟩

/-- A function without its parameters brings the suggestion up, and there is no condition in the text. -/
theorem parenthesize_suggested_function :
    ∃ fault tokens, check "fun void f \x7b \x7d" = .error fault ∧
      parenthesize ∈ (Report.ofFault "a.tsl" fault).suggestions ∧
      (Lexer.ofString "fun void f \x7b \x7d").tokenize.1 = .ok tokens ∧
      ∀ token ∈ tokens, token.terminal ≠ .keyword .if_ ∧ token.terminal ≠ .keyword .elif := by
  have rejected : check "fun void f \x7b \x7d" =
      .error ⟨.grammatical (.unexpectedToken "'(' after function name" "'\x7b'"), ⟨11, 12, 1, 12⟩⟩ := by cbv
  have found : (Lexer.ofString "fun void f \x7b \x7d").tokenize.1 = .ok
      [⟨.keyword .fun_, "fun", ⟨0, 3, 1, 1⟩⟩, ⟨.keyword .void, "void", ⟨4, 8, 1, 5⟩⟩,
        ⟨.identifier "f", "f", ⟨9, 10, 1, 10⟩⟩, ⟨.symbol .leftBrace, "\x7b", ⟨11, 12, 1, 12⟩⟩,
        ⟨.symbol .rightBrace, "\x7d", ⟨13, 14, 1, 14⟩⟩, .endOfInput ⟨14, 1, 15⟩] := by cbv
  exact ⟨_, _, rejected, by decide, found, by decide⟩

end SyntaxCheck
