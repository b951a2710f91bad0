import SyntaxCheck.Proofs.Lexeme.LongestMatch
import SyntaxCheck.Proofs.Lexer.Drain

/-!
# Tokens scanned one after the other

* `Cursor.Scans` - the tokens that repeated scans find;
* `Cursor.Scans.concat`, `Cursor.Scans.of_concat` - the last scan;
* `Lexer.scans_of_isPrefix`, `Lexer.scans_of_fault` - what is handed out was scanned so.
-/

namespace SyntaxCheck

/-- Repeated scans find the tokens, and leave the second cursor. -/
inductive Cursor.Scans : Cursor → List Token → Cursor → Prop
  | refl (cursor : Cursor) : Scans cursor [] cursor
  | step {cursor cursor' cursor'' : Cursor} {token : Token} {tokens : List Token}
      (scanned : cursor.scan = (.ok token, cursor')) (later : Scans cursor' tokens cursor'') :
      Scans cursor (token :: tokens) cursor''

/-- One more scan. -/
theorem Cursor.Scans.concat {cursor cursor' cursor'' : Cursor} {token : Token} {tokens : List Token}
    (h : cursor.Scans tokens cursor') (scanned : cursor'.scan = (.ok token, cursor'')) :
    cursor.Scans (tokens ++ [token]) cursor'' := by
  induction h with
  | refl => exact .step scanned (.refl _)
  | step first _ ih => exact .step first (ih scanned)

/-- The last scan. -/
theorem Cursor.Scans.of_concat {cursor cursor' : Cursor} {token : Token} {tokens : List Token}
    (h : cursor.Scans (tokens ++ [token]) cursor') :
    ∃ before, cursor.Scans tokens before ∧ before.scan = (.ok token, cursor') := by
  induction tokens generalizing cursor with
  | nil =>
    obtain _ | ⟨scanned, _ | _⟩ := h
    exact ⟨cursor, .refl cursor, scanned⟩
  | cons first tokens ih =>
    obtain _ | ⟨scanned, later⟩ := h
    obtain ⟨before, scans, last⟩ := ih later
    exact ⟨before, .step scanned scans, last⟩

namespace Lexer

/-- A lexer that shows no token scans for the next one. -/
theorem advance_of_scan {cursor cursor' : Cursor} {answer : Except LexicalFault Token}
    (scanned : cursor.scan = (answer, cursor')) :
    advance ⟨cursor, none⟩ = (answer, ⟨cursor', none⟩) := by
  have advanced : advance ⟨cursor, none⟩ = (cursor.scan.1, ⟨cursor.scan.2, none⟩) := rfl
  rw [advanced, scanned]

/-- The tokens handed out were scanned one after the other. -/
theorem scans_of_isPrefix {tokens : List Token} (cursor : Cursor)
    (h : tokens <+: (drain ⟨cursor, none⟩).tokens) : ∃ cursor', cursor.Scans tokens cursor' := by
  induction tokens generalizing cursor with
  | nil => exact ⟨cursor, .refl cursor⟩
  | cons token tokens ih =>
    cases scanned : cursor.scan with
    | mk answer cursor' =>
      have next := advance_of_scan scanned
      cases answer with
      | error fault =>
        rw [drain_of_fault next, List.prefix_nil] at h
        cases h
      | ok token' =>
        cases ended : token'.isEndOfInput with
        | true =>
          rw [drain_of_end next ended, List.cons_prefix_cons, List.prefix_nil] at h
          obtain ⟨rfl, rfl⟩ := h
          exact ⟨cursor', .step scanned (.refl cursor')⟩
        | false =>
          rw [drain_of_more next ended, List.cons_prefix_cons] at h
          obtain ⟨rfl, h⟩ := h
          obtain ⟨cursor'', later⟩ := ih cursor' h
          exact ⟨cursor'', .step scanned later⟩

/-- The fault that ends it was met behind all of them. -/
theorem scans_of_fault {fault : LexicalFault} (cursor : Cursor)
    (h : (drain ⟨cursor, none⟩).fault = some fault) :
    ∃ cursor', cursor.Scans (drain ⟨cursor, none⟩).tokens cursor' ∧
      cursor'.scan.1 = .error fault := by
  generalize handed : (drain ⟨cursor, none⟩).tokens = tokens
  induction tokens generalizing cursor with
  | nil =>
    cases scanned : cursor.scan with
    | mk answer cursor' =>
      have next := advance_of_scan scanned
      cases answer with
      | error fault' =>
        rw [drain_of_fault next] at h
        obtain rfl := Option.some.inj h
        exact ⟨cursor, .refl cursor, by rw [scanned]⟩
      | ok token =>
        have first : (drain ⟨cursor, none⟩).tokens.head? = some token :=
          head?_drain (by rw [next])
        rw [handed] at first
        cases first
  | cons token tokens ih =>
    cases scanned : cursor.scan with
    | mk answer cursor' =>
      have next := advance_of_scan scanned
      cases answer with
      | error fault' =>
        rw [drain_of_fault next] at handed
        cases handed
      | ok token' =>
        cases ended : token'.isEndOfInput with
        | true =>
          rw [drain_of_end next ended] at h
          cases h
        | false =>
          rw [drain_of_more next ended] at h handed
          injection handed with same handed
          subst same
          obtain ⟨cursor'', later, missing⟩ := ih cursor' h handed
          exact ⟨cursor'', .step scanned later, missing⟩

end Lexer

end SyntaxCheck
