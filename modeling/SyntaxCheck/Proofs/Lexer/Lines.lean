import SyntaxCheck.Proofs.Lexeme.Line
import SyntaxCheck.Proofs.Lexer.Progress

/-!
# Texts one below the other

A text with another one below it, a newline between them, has the tokens of both: those of the upper one
where they were, and those of the lower one as many lines further down.

* `Token.moved`, `Located.moved`, `movedOutcome` - tokens and faults at other places;
* `Span.below`, `Token.below`, `Located.below` - places of the lower text;
* `Cursor.scan_below` - a scan does not depend on where it starts;
* `Cursor.scan_newline`, `Cursor.scan_newline_of_end` - the scans of a text with more lines behind it;
* `Lexer.outcome_upper`, `Lexer.outcome_lower` - the stream of both texts;
* `Lexer.tokenize_lines` - all tokens, or the first fault.
-/

namespace SyntaxCheck

/-! ### Tokens and faults at other places -/

section Moved

variable (move : Span → Span)

/-- The token at another place. -/
def Token.moved (token : Token) : Token := { token with span := move token.span }

/-- The fault at another place. -/
def Located.moved {α : Type} (located : Located α) : Located α :=
  { located with span := move located.span }

/-- The token or fault at another place. -/
def movedOutcome : Except LexicalFault Token → Except LexicalFault Token
  | .ok token => .ok (token.moved move)
  | .error fault => .error (fault.moved move)

end Moved

/-! ### Places of the lower text -/

section Below

variable (upper : List Char)

/-- The place below a text, with a newline in between. -/
def Position.below (p : Position) : Position :=
  ⟨p.offset + (upper.length + 1), p.line + (upper.count '\n' + 1), p.column⟩

/-- The part of the text below another one, with a newline in between. -/
def Span.below (span : Span) : Span :=
  ⟨span.start + (upper.length + 1), span.stop + (upper.length + 1),
    span.line + (upper.count '\n' + 1), span.column⟩

/-- The token of a text that stands below another one. -/
abbrev Token.below (token : Token) : Token := token.moved (Span.below upper)

/-- The fault in a text that stands below another one. -/
abbrev Located.below {α : Type} (located : Located α) : Located α := located.moved (Span.below upper)

/-- The token or fault of a text that stands below another one. -/
abbrev outcomeBelow : Except LexicalFault Token → Except LexicalFault Token :=
  movedOutcome (Span.below upper)

/-- The tokens or the fault of a text that stands below another one. -/
def answerBelow : Lexer.Answer → Lexer.Answer
  | .ok tokens => .ok (tokens.map (Token.below upper))
  | .error fault => .error (fault.below upper)

/-- The tokens or the fault of two texts, one below the other: the end of the upper one goes. -/
def answerLines : Lexer.Answer → Lexer.Answer → Lexer.Answer
  | .error fault, _ => .error fault
  | .ok tokens, later => (answerBelow upper later).map (tokens.filter (!·.isEndOfInput) ++ ·)

/-- The cursor of a text that stands below another one. -/
def Cursor.below (cursor : Cursor) : Cursor := { cursor with position := cursor.position.below upper }

namespace Position

theorem next_below (p : Position) (c : Char) : (p.below upper).next c = (p.next c).below upper := by
  unfold next below
  split <;> congr 1 <;> dsimp only <;> omega

@[simp] theorem after_below (p : Position) (text : List Char) :
    (p.below upper).after text = (p.after text).below upper := by
  induction text generalizing p with
  | nil => rfl
  | cons c text ih => rw [after_cons, after_cons, next_below, ih]

@[simp] theorem span_below (p : Position) (length : Nat) :
    (p.below upper).span length = (p.span length).below upper := by
  simp only [span, below, Span.below, Span.mk.injEq, true_and, and_true]
  omega

/-- The lower text starts behind the newline. -/
theorem first_below : first.after (upper ++ ['\n']) = first.below upper := by
  have offset := offset_after first upper
  have line := line_after first upper
  rw [after_append, after_cons, after_nil, next_newline, offset, line]
  simp only [first, below, Position.mk.injEq, and_true]
  omega

end Position

namespace Cursor

/-- A scan does not depend on where it starts. -/
theorem scan_below (cursor : Cursor) :
    (cursor.below upper).scan = (outcomeBelow upper cursor.scan.1, cursor.scan.2.below upper) := by
  unfold scan
  simp only [below, Position.after_below]
  split
  · rfl
  · unfold scanLexeme
    split <;> simp [movedOutcome, Token.moved, Located.moved]

end Cursor

namespace Lexer

/-- The lexer of a text that stands below another one. -/
def below (lexer : Lexer) : Lexer := ⟨lexer.cursor.below upper, lexer.shown.map (Token.below upper)⟩

theorem advance_below (lexer : Lexer) :
    (lexer.below upper).advance = (outcomeBelow upper lexer.advance.1, lexer.advance.2.below upper) := by
  unfold advance below
  cases lexer.shown with
  | some token => rfl
  | none => simp [Cursor.scan_below]

theorem outcome_below (lexer : Lexer) (n : Nat) :
    (lexer.below upper).outcome n = outcomeBelow upper (lexer.outcome n) := by
  induction n generalizing lexer with
  | zero => exact congrArg Prod.fst (advance_below upper lexer)
  | succ n ih => rw [outcome_succ, outcome_succ, advance_below, ih]

end Lexer

theorem Collects.relocated {outcomes : Nat → Except LexicalFault Token} {i j : Nat} {answer : Lexer.Answer}
    (h : Collects outcomes i answer j) :
    Collects (fun n => outcomeBelow upper (outcomes n)) i (answerBelow upper answer) j := by
  induction h with
  | fault found => exact .fault (congrArg (outcomeBelow upper) found)
  | ended found ended => exact .ended (congrArg (outcomeBelow upper) found) ended
  | @more i j token answer found more later ih =>
    have whole : Collects (fun n => outcomeBelow upper (outcomes n)) i
        ((answerBelow upper answer).map (token.below upper :: ·)) j :=
      .more (congrArg (outcomeBelow upper) found) more ih
    cases answer <;> exact whole

end Below

/-! ### Scans with more lines behind -/

namespace Cursor

variable {cursor cursor' : Cursor} {answer : Except LexicalFault Token}

/-- The cursor with more text behind. -/
def extend (more : List Char) (cursor : Cursor) : Cursor := { cursor with rest := cursor.rest ++ more }

/-- What is found in a text is found there, too, if more lines follow. -/
theorem scan_newline (lower : List Char) (found : cursor.scan = (answer, cursor'))
    (goesOn : ∀ token, answer = .ok token → token.isEndOfInput = false) :
    (cursor.extend ('\n' :: lower)).scan = (answer, cursor'.extend ('\n' :: lower)) := by
  unfold scan at found
  have stops : (splitTrivia false cursor.rest).2 ≠ [] := by
    intro all
    simp only [all] at found
    injection found with found
    exact absurd (goesOn _ found.symm) (by simp [Token.isEndOfInput])
  unfold scan
  simp only [extend, splitTrivia_of_stop _ stops]
  obtain ⟨c, tail, head⟩ := List.exists_cons_of_ne_nil stops
  simp only [head, List.cons_append] at found ⊢
  unfold scanLexeme at found ⊢
  rw [readLexeme_newline]
  cases read : readLexeme c tail with
  | token kind lexeme rest =>
    rw [read] at found
    injection found with same left
    subst same left
    rfl
  | fault cause ahead reported rest =>
    rw [read] at found
    injection found with same left
    subst same left
    rfl

/-- Where a text ends, the lines behind it are scanned. -/
theorem scan_newline_of_end (lower : List Char) {token : Token} (found : cursor.scan.1 = .ok token)
    (ended : token.isEndOfInput = true) :
    (cursor.extend ('\n' :: lower)).scan =
      scan ⟨lower, cursor.position.after (cursor.rest ++ ['\n'])⟩ := by
  have all : (splitTrivia false cursor.rest).2 = [] := by
    have finds := cursor.finds_scan
    rw [found] at finds
    generalize cursor.scan.2 = cursor' at finds
    cases finds with
    | endOfInput skips =>
      have split := splitTrivia_of_skips skips
      rw [List.append_nil] at split
      rw [split]
    | token _ _ isLexeme =>
      rw [isLexeme.goesOn] at ended
      cases ended
  have place : cursor.position.after (cursor.rest ++ '\n' :: (splitTrivia false lower).1) =
      (cursor.position.after (cursor.rest ++ ['\n'])).after (splitTrivia false lower).1 := by
    rw [← Position.after_append, List.append_assoc]
    rfl
  unfold scan
  simp only [extend, splitTrivia_newline_of_all _ all, place]

end Cursor

/-! ### The stream of both texts -/

namespace Lexer

variable {upper : List Char} {n i : Nat}

/-- The lexer with more text behind. -/
def extend (more : List Char) (lexer : Lexer) : Lexer := ⟨lexer.cursor.extend more, lexer.shown⟩

/-- Up to the end of the upper text, the lexer of both texts stands where the one of the upper text
does. -/
theorem advanced_upper (lower : List Char) (ends : EndsAt (start upper).outcome n) (le : i ≤ n) :
    (start (upper ++ '\n' :: lower)).advanced i =
      ((start upper).advanced i).extend ('\n' :: lower) := by
  induction i with
  | zero => rfl
  | succ i ih =>
    have scanned := Cursor.scan_newline lower (scan_advanced upper i) (ends.first i le)
    have here : ((start upper).advanced i).shown = none := shown_advanced rfl i
    have behind : ((start upper).advanced (i + 1)).shown = none := shown_advanced rfl (i + 1)
    rw [advanced, ih (Nat.le_of_succ_le le), extend, extend, here, behind, advance_of_scan scanned]

/-- The stream of both texts starts with what comes before the end of the upper one. -/
theorem outcome_upper (lower : List Char) (ends : EndsAt (start upper).outcome n) (lt : i < n) :
    (start (upper ++ '\n' :: lower)).outcome i = (start upper).outcome i := by
  have scanned := Cursor.scan_newline lower (scan_advanced upper i) (ends.first i lt)
  have here : ((start upper).advanced i).shown = none := shown_advanced rfl i
  rw [outcome, advanced_upper lower ends (Nat.le_of_lt lt), extend, here, advance_of_scan scanned]

theorem outcome_add (lexer : Lexer) (m n : Nat) :
    lexer.outcome (m + n) = (lexer.advanced m).outcome n := by
  induction m generalizing lexer with
  | zero => rw [Nat.zero_add, advanced]
  | succ m ih => rw [Nat.add_right_comm, outcome_succ, ih, advanced_succ]

/-- It goes on with the stream of the lower one. -/
theorem outcome_lower (lower : List Char) (ends : EndsAt (start upper).outcome n) (i : Nat) :
    (start (upper ++ '\n' :: lower)).outcome (n + i) =
      outcomeBelow upper ((start lower).outcome i) := by
  obtain ⟨token, found, ended⟩ := ends.ends
  obtain ⟨before, whole, place⟩ := standsIn_advanced upper n
  have here : ((start upper).advanced n).shown = none := shown_advanced rfl n
  have scanned := Cursor.scan_newline_of_end lower
    ((congrArg Prod.fst (scan_advanced upper n)).trans found) ended
  rw [place, ← Position.after_append, ← List.append_assoc, whole, Position.first_below] at scanned
  have same : ((start (upper ++ '\n' :: lower)).advanced n).advance =
      ((start lower).below upper).advance := by
    rw [advanced_upper lower ends (Nat.le_refl n), extend, here]
    exact congrArg (fun answer => (answer.1, (⟨answer.2, none⟩ : Lexer))) scanned
  rw [outcome_add, outcome_congr same, outcome_below]

/-- What is collected from both texts: the tokens of the upper one up to its end, and then what is
collected from the lower one. -/
theorem collects_lines {answer later : Answer} {j k : Nat} (lower : List Char)
    (ends : EndsAt (start upper).outcome n) (le : i ≤ n)
    (collected : Collects (start upper).outcome i answer j)
    (collected' : Collects (start lower).outcome 0 later k) :
    ∃ l, Collects (start (upper ++ '\n' :: lower)).outcome i (answerLines upper answer later) l := by
  obtain ⟨last, atEnd, isEnd⟩ := ends.ends
  induction collected with
  | @fault i fault found =>
    have lt : i < n := by
      refine Nat.lt_of_le_of_ne le fun same => ?_
      rw [same, atEnd] at found
      cases found
    exact ⟨i + 1, .fault ((outcome_upper lower ends lt).trans found)⟩
  | @ended i token found ended =>
    have same : i = n := by
      refine Nat.le_antisymm le (Nat.le_of_not_lt fun lt => ?_)
      rw [ends.first i lt token found] at ended
      cases ended
    subst same
    have goesOn : ∀ m, outcomeBelow upper ((start lower).outcome (0 + m)) =
        (start (upper ++ '\n' :: lower)).outcome (i + m) := by
      intro m
      rw [Nat.zero_add, outcome_lower lower ends]
    obtain ⟨l, whole⟩ := (collected'.relocated upper).shift goesOn
    have answer_eq : answerLines upper (.ok [token]) later = answerBelow upper later := by
      cases later <;> simp [answerLines, answerBelow, ended, Except.map]
    exact ⟨l, answer_eq ▸ whole⟩
  | @more i j token answer found more _ ih =>
    have lt : i < n := by
      refine Nat.lt_of_le_of_ne le fun same => ?_
      rw [same, atEnd] at found
      injection found with found
      rw [← found, isEnd] at more
      cases more
    obtain ⟨l, whole⟩ := ih lt
    have all := Collects.more ((outcome_upper lower ends lt).trans found) more whole
    have answer_eq : answerLines upper (answer.map (token :: ·)) later =
        (answerLines upper answer later).map (token :: ·) := by
      cases answer <;> cases later <;> simp [answerLines, answerBelow, more, Except.map]
    exact ⟨l, answer_eq ▸ all⟩

/-- The lexer of two texts, one below the other. -/
theorem ofString_lines (upper lower : String) :
    ofString (upper ++ "\n" ++ lower) = start (upper.toList ++ '\n' :: lower.toList) := by
  rw [ofString, String.toList_append, String.toList_append, List.append_assoc]
  rfl

/-- The tokens of a text with another one below it, a newline between them: those of both, without the end
of the upper one. A fault in the upper text is the fault of both; otherwise one in the lower text is. -/
theorem tokenize_lines (upper lower : String) :
    (ofString (upper ++ "\n" ++ lower)).tokenize.1 =
      match (ofString upper).tokenize.1 with
      | .error fault => .error fault
      | .ok tokens =>
        match (ofString lower).tokenize.1 with
        | .error fault => .error (fault.below upper.toList)
        | .ok later =>
          .ok (tokens.filter (!·.isEndOfInput) ++ later.map (Token.below upper.toList)) := by
  obtain ⟨n, -, ends⟩ := exists_end (start upper.toList)
  obtain ⟨j, collected, -⟩ := collects_tokenize (start upper.toList) 0
  obtain ⟨k, collected', -⟩ := collects_tokenize (start lower.toList) 0
  obtain ⟨l, whole⟩ := collects_lines lower.toList ends (Nat.zero_le n) collected collected'
  obtain ⟨m, both, -⟩ := collects_tokenize (ofString (upper ++ "\n" ++ lower)) 0
  rw [ofString_lines] at both ⊢
  rw [advanced] at both
  rw [(both.unique whole).1, advanced, advanced]
  unfold ofString
  cases (start upper.toList).tokenize.1 with
  | error fault => rfl
  | ok tokens => cases (start lower.toList).tokenize.1 <;> rfl

end Lexer

end SyntaxCheck
