import SyntaxCheck.Proofs.Lexer.Progress

/-!
# Every text is used up

A scan moves the cursor on, also over a fault, unless it finds the end of the input. So whoever asks a lexer
for one token after another, and passes over the faults, comes to the end of the input after no more calls
than there are characters left, and stays there.

* `Cursor.Finds.offset_lt` - a scan moves on unless it finds the end of the input;
* `Lexer.AtEnd` - nothing but one end of the input comes, and `Lexer.AtEnd.calls` - so every call is answered;
* `Lexer.Comes.remaining_le` - how many tokens may come, by the place of the cursor;
* `Lexer.calls_exhausted` - the end of the input is reached from any state of a lexer, and for good.
-/

namespace SyntaxCheck

/-- A scan moves on unless it finds the end of the input. -/
theorem Cursor.Finds.offset_lt {cursor cursor' : Cursor} {outcome : Except LexicalFault Token}
    (found : cursor.Finds outcome cursor')
    (goesOn : ∀ token, outcome = .ok token → token.isEndOfInput = false) :
    cursor.position.offset < cursor'.position.offset := by
  cases found with
  | endOfInput => exact Bool.noConfusion (goesOn _ rfl)
  | @token skipped lexeme rest kind split skips isLexeme ends =>
    have some := List.length_pos_iff.2 isLexeme.ne_nil
    simp only [Position.offset_after]
    omega
  | @fault skipped ahead reported rest cause split skips some =>
    have used := List.length_pos_iff.2 some
    rw [List.length_append] at used
    simp only [Position.offset_after, List.length_append]
    omega

namespace Lexer

variable {lexer lexer' : Lexer} {token : Token}

/-! ### At the end -/

/-- Nothing but this end of the input comes from now on: it is what the next scan finds, without moving, and
no other token is shown. -/
structure AtEnd (token : Token) (lexer : Lexer) : Prop where
  ended : token.isEndOfInput = true
  again : lexer.cursor.scan = (.ok token, lexer.cursor)
  held : ∀ other ∈ lexer.shown, other = token

namespace AtEnd

theorem peek_eq (h : lexer.AtEnd token) : lexer.peek = (.ok token, ⟨lexer.cursor, some token⟩) := by
  obtain ⟨cursor, shown⟩ := lexer
  have again : cursor.scan = (.ok token, cursor) := h.again
  cases shown with
  | none => simp only [peek, again]
  | some other =>
    obtain rfl := h.held other rfl
    rfl

theorem advance_eq (h : lexer.AtEnd token) : lexer.advance = (.ok token, ⟨lexer.cursor, none⟩) := by
  obtain ⟨cursor, shown⟩ := lexer
  have again : cursor.scan = (.ok token, cursor) := h.again
  cases shown with
  | none => simp only [advance, again]
  | some other =>
    obtain rfl := h.held other rfl
    rfl

/-- Every call is answered by the end of the input, and leaves it there. -/
theorem call (h : lexer.AtEnd token) (c : Call) :
    (lexer.call c).1 = .ok [token] ∧ (lexer.call c).2.cursor = lexer.cursor ∧
      (lexer.call c).2.AtEnd token := by
  have handed : AtEnd token ⟨lexer.cursor, none⟩ := ⟨h.ended, h.again, nofun⟩
  cases c with
  | peek =>
    rw [Lexer.call, h.peek_eq]
    refine ⟨rfl, rfl, h.ended, h.again, ?_⟩
    rintro other found
    exact (Option.some.inj found).symm
  | advance =>
    rw [Lexer.call, h.advance_eq]
    exact ⟨rfl, rfl, handed⟩
  | tokenize =>
    rw [Lexer.call, tokenize_of_end h.advance_eq h.ended]
    exact ⟨rfl, rfl, handed⟩

theorem calls (h : lexer.AtEnd token) (cs : List Call) :
    (∀ answer ∈ (lexer.calls cs).1, answer = .ok [token]) ∧
      (lexer.calls cs).2.cursor = lexer.cursor := by
  induction cs generalizing lexer with
  | nil => exact ⟨List.forall_mem_nil _, rfl⟩
  | cons c cs ih =>
    obtain ⟨answered, stays, left⟩ := h.call c
    obtain ⟨others, stays'⟩ := ih left
    exact ⟨List.forall_mem_cons.2 ⟨answered, others⟩, stays'.trans stays⟩

end AtEnd

/-- An end of the input that is scanned and handed out leaves nothing else. -/
theorem atEnd_of_advance (fresh : lexer.shown = none) (h : lexer.advance = (.ok token, lexer'))
    (ended : token.isEndOfInput = true) : lexer'.AtEnd token := by
  unfold advance at h
  rw [fresh] at h
  injection h with found left
  have again := Cursor.scan_of_end (Prod.ext found rfl) ended
  subst left
  exact ⟨ended, again, nofun⟩

/-- So does one that was shown before. -/
theorem Reads.atEnd {fresh : Lexer} {reader : Reader} {n : Nat} (none : fresh.shown = none)
    (h : Reads fresh reader lexer) (found : lexer.outcome n = .ok token)
    (ended : token.isEndOfInput = true) : (lexer.advanced (n + 1)).AtEnd token := by
  -- whether or not a token is shown, the same lexers come behind
  have same : lexer.advance = (fresh.advanced reader.index).advance := h.advance_eq
  rw [outcome_congr same] at found
  rw [advanced_succ, same, ← advanced_succ]
  have handed := advance_advanced (fresh.advanced reader.index) n
  rw [found] at handed
  exact atEnd_of_advance (shown_advanced (shown_advanced none _) n) handed ended

/-! ### Before the end -/

/-- No more tokens come than there are characters behind the cursor, and the one that is shown. -/
theorem Comes.remaining_le {text : List Char} {mark : Position} (h : Comes text lexer mark) :
    lexer.remaining ≤
      text.length - lexer.cursor.position.offset + if lexer.shown.isSome then 1 else 0 := by
  obtain ⟨⟨before, split, place⟩, -⟩ := h.standsIn
  have left : text.length - lexer.cursor.position.offset = lexer.cursor.rest.length := by
    simp [← split, place, Position.first]
  have held : lexer.shownCount ≤ if lexer.shown.isSome then 1 else 0 := by
    unfold shownCount
    cases lexer.shown with
    | none => exact Nat.le_refl _
    | some token =>
      dsimp only [Option.isSome_some]
      split <;> simp
  rw [left]
  exact Nat.add_le_add_left held _

/-- Whatever a lexer of a text was asked for, also behind faults: its next scan moves on unless it finds the
end of the input. Repeated calls of `advance` hand that out after no more of them than there are characters
behind the cursor, one for the end itself, and one for a token that is shown. From then on every call is
answered by the same end of the input, and the cursor stays where it is. -/
theorem calls_exhausted (text : String) (cs : List Call) :
    let lexer := ((ofString text).calls cs).2
    ((∀ token, lexer.cursor.scan.1 = .ok token → token.isEndOfInput = false) →
      lexer.cursor.position.offset < lexer.cursor.scan.2.position.offset) ∧
    ∃ n token,
      n < text.length - lexer.cursor.position.offset + 1 + (if lexer.shown.isSome then 1 else 0) ∧
      lexer.outcome n = .ok token ∧ token.isEndOfInput = true ∧
      ∀ later, (∀ answer ∈ ((lexer.advanced (n + 1)).calls later).1, answer = .ok [token]) ∧
        ((lexer.advanced (n + 1)).calls later).2.cursor = (lexer.advanced (n + 1)).cursor := by
  have started : Reads (start text.toList) ⟨0, false⟩ (ofString text) := .next 0
  obtain ⟨reader, -, stands⟩ := started.calls cs
  generalize ((ofString text).calls cs).2 = lexer at stands ⊢
  obtain ⟨mark, comes⟩ := stands.comes
  refine ⟨lexer.cursor.finds_scan.offset_lt, ?_⟩
  obtain ⟨n, le, ends⟩ := lexer.exists_end
  obtain ⟨token, found, ended⟩ := ends.ends
  have bound := comes.remaining_le
  rw [String.length_toList] at bound
  exact ⟨n, token, by omega, found, ended, (stands.atEnd rfl found ended).calls⟩

/-- A peek has met a bad escape. Five of eight characters are left, and the fourth call finds the end of the
input behind a token, another fault and a token. -/
example :
    let lexer := ((ofString "\"a\\q $ b").calls [.peek]).2
    lexer.cursor.position.offset = 3 ∧
      (List.range 4).map (fun n => (lexer.outcome n).map Token.terminal) =
        [.ok .identifier, .error ⟨.unexpectedChar '$', ⟨5, 6, 1, 6⟩⟩, .ok .identifier, .ok .endOfInput] := by
  constructor <;> cbv

end Lexer

end SyntaxCheck
