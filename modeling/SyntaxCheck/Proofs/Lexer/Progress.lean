import SyntaxCheck.Proofs.Lexer.Tiling

/-!
# Every scan goes on

A scan uses up some of the text, unless it finds the end of the input. So the end of the input is found
after no more scans than there are characters, however many faults are met on the way.

* `Cursor.length_rest_scan_lt_of_fault` - a scan that meets a fault uses up a character, too;
* `EndsAt`, `Lexer.exists_end` - where a stream comes to the end of the input, and that a lexer does;
* `Lexer.remaining_calls_le` - no calls of a lexer bring anything back.
-/

namespace SyntaxCheck

/-- A scan that meets a fault uses up a character. -/
theorem Cursor.length_rest_scan_lt_of_fault {cursor cursor' : Cursor} {fault : LexicalFault}
    (h : cursor.scan = (.error fault, cursor')) : cursor'.rest.length < cursor.rest.length := by
  have found := cursor.finds_scan
  rw [h] at found
  cases found with
  | @fault skipped ahead reported rest cause split _ some =>
    have used := List.length_pos_iff.2 some
    have lengths := congrArg List.length split
    simp only [List.length_append] at used lengths
    show rest.length < cursor.rest.length
    omega

/-- The end of the input is found at this index of a stream, and not before. -/
structure EndsAt (outcomes : Nat → Except LexicalFault Token) (n : Nat) : Prop where
  ends : ∃ token, outcomes n = .ok token ∧ token.isEndOfInput = true
  first : ∀ i < n, ∀ token, outcomes i = .ok token → token.isEndOfInput = false

namespace EndsAt

variable {outcomes outcomes' : Nat → Except LexicalFault Token} {n : Nat}

/-- A stream that goes on like another one from an earlier index on ends as much earlier. -/
theorem drop {k : Nat} (h : EndsAt outcomes n) (le : k ≤ n)
    (same : ∀ i, outcomes' i = outcomes (k + i)) : EndsAt outcomes' (n - k) := by
  constructor
  · rw [same, Nat.add_sub_cancel' le]
    exact h.ends
  · intro i less token found
    rw [same] at found
    exact h.first (k + i) (by omega) token found

/-- One more outcome in front. -/
theorem cons (h : EndsAt outcomes n)
    (goesOn : ∀ token, outcomes' 0 = .ok token → token.isEndOfInput = false)
    (same : ∀ i, outcomes' (i + 1) = outcomes i) : EndsAt outcomes' (n + 1) := by
  constructor
  · rw [same]
    exact h.ends
  · intro i less token found
    cases i with
    | zero => exact goesOn token found
    | succ i =>
      rw [same] at found
      exact h.first i (Nat.lt_of_succ_lt_succ less) token found

end EndsAt

namespace Lexer

variable {lexer lexer' fresh : Lexer} {fault : LexicalFault}

/-- A fault leaves fewer tokens. -/
theorem remaining_advance_lt_of_fault (h : lexer.advance = (.error fault, lexer')) :
    lexer'.remaining < lexer.remaining := by
  unfold advance at h
  split at h
  · injection h with same
    cases same
  · rename_i shown
    injection h with found left
    subst left
    have shorter := Cursor.length_rest_scan_lt_of_fault (Prod.ext found rfl)
    simpa [remaining, shownCount, shown] using shorter

theorem remaining_advance_le (lexer : Lexer) : lexer.advance.2.remaining ≤ lexer.remaining := by
  unfold advance
  cases shown : lexer.shown with
  | some token => exact Nat.le_add_right _ _
  | none => simpa [remaining, shownCount, shown] using Cursor.length_rest_scan_le lexer.cursor

/-- A lexer comes to the end of the input. -/
theorem exists_end (lexer : Lexer) : ∃ n ≤ lexer.remaining, EndsAt lexer.outcome n := by
  -- by what is left in front of the end of the input
  induction left : lexer.remaining using Nat.strongRecOn generalizing lexer with
  | ind m ih =>
    -- one outcome less
    have later : lexer.advance.2.remaining < m →
        (∀ token, lexer.outcome 0 = .ok token → token.isEndOfInput = false) →
        ∃ n ≤ m, EndsAt lexer.outcome n := by
      intro fewer goesOn
      obtain ⟨n, le, ends⟩ := ih _ fewer _ rfl
      exact ⟨n + 1, Nat.lt_of_le_of_lt le fewer, ends.cons goesOn lexer.outcome_succ⟩
    cases next : lexer.advance with
    | mk answer lexer' =>
      have first : lexer.outcome 0 = answer := congrArg Prod.fst next
      rw [next, first, ← left] at later
      cases answer with
      | error fault => exact left ▸ later (remaining_advance_lt_of_fault next) nofun
      | ok token =>
        cases ended : token.isEndOfInput with
        | true => exact ⟨0, Nat.zero_le _, ⟨token, first, ended⟩, nofun⟩
        | false =>
          refine left ▸ later (remaining_advance_lt next ended) fun token' same => ?_
          injection same with same
          exact same ▸ ended

theorem remaining_advanced_le (fresh : Lexer) (n : Nat) :
    (fresh.advanced n).remaining ≤ fresh.remaining := by
  induction n with
  | zero => exact Nat.le_refl _
  | succ n ih => exact Nat.le_trans (remaining_advance_le _) ih

theorem Reads.remaining_le {reader : Reader} (h : Reads fresh reader lexer) :
    lexer.remaining ≤ fresh.remaining := by
  cases h with
  | next i => exact remaining_advanced_le fresh i
  | @held i _ _ shown =>
    exact Nat.le_trans (remaining_peek_le shown) (remaining_advanced_le fresh i)

/-- No calls of a lexer bring anything back. -/
theorem remaining_calls_le (fresh : Lexer) (cs : List Call) :
    (fresh.calls cs).2.remaining ≤ fresh.remaining := by
  have started : Reads fresh ⟨0, false⟩ fresh := .next 0
  obtain ⟨reader, -, stands⟩ := started.calls cs
  exact stands.remaining_le

end Lexer

end SyntaxCheck
