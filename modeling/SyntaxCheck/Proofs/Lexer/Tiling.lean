import Mathlib.Data.List.DropRight
import SyntaxCheck.Proofs.Lexer.Calls
import SyntaxCheck.Proofs.Lexer.Scans

/-!
# Tokens and places in a text

The tokens of a text are parts of it, one behind the other, with blanks and comments between them. Each
knows where it is, and so does each fault.

* `lineAt`, `columnAt` - the line and column of a place, from the characters before it;
* `Span.FitsIn`, `Token.StandsIn` - a span and a token agree with the text;
* `Cursor.Finds`, `Cursor.finds_scan` - all that a scan can find;
* `Cursor.StandsIn` - a cursor stands at its place in the text, and `Cursor.StandsIn.scan` keeps it there;
* `Lexer.Comes` - the states that a lexer comes to, with the place where its latest scan started a lexeme;
* `Tiles` - tokens and what is skipped in front of them make up a text;
* `Lexer.tokenize_ok_iff_tiles` - the tokens of a text do, and only these;
* `Lexer.lexeme_of_calls`, `Lexer.calls_stand` - the tokens and faults that answer any calls.
-/

namespace SyntaxCheck

/-! ### Lines and columns -/

/-- The line of a place, counted from one: each newline before it opens another. -/
def lineAt (text : List Char) (offset : Nat) : Nat := 1 + (text.take offset).count '\n'

/-- The column of a place, counted from one, by the characters between the last newline before it and
the place. -/
def columnAt (text : List Char) (offset : Nat) : Nat :=
  1 + ((text.take offset).rtakeWhile (· ≠ '\n')).length

theorem Position.column_first_after (before : List Char) :
    (first.after before).column = 1 + (before.rtakeWhile (· ≠ '\n')).length := by
  induction before using List.reverseRecOn with
  | nil => rfl
  | append_singleton before c ih =>
    rw [after_append, after_cons, after_nil, List.rtakeWhile_concat]
    by_cases newline : c = '\n'
    · simp [newline, next_newline]
    · rw [next_of_ne _ newline, ih]
      simp [newline, Nat.add_assoc]

/-- The place behind the beginning of a text. -/
theorem Position.first_after (before behind : List Char) :
    first.after before = ⟨before.length, lineAt (before ++ behind) before.length,
      columnAt (before ++ behind) before.length⟩ := by
  have offset := offset_after first before
  have line := line_after first before
  have column := column_first_after before
  rw [lineAt, columnAt, List.take_left]
  cases place : first.after before
  rw [place] at offset line column
  simp only [first, Nat.zero_add] at offset line column
  rw [offset, line, column]

/-- The span lies in the text, and has the line and column where it starts. -/
structure Span.FitsIn (span : Span) (text : List Char) : Prop where
  start_le : span.start ≤ span.stop
  stop_le : span.stop ≤ text.length
  line_eq : span.line = lineAt text span.start
  column_eq : span.column = columnAt text span.start

/-- The token is the part of the text under its span: some characters, or the end of the text. -/
structure Token.StandsIn (token : Token) (text : List Char) : Prop where
  fits : token.span.FitsIn text
  lexeme_eq : token.lexeme.toList = text.extract token.span.start token.span.stop
  some : token.isEndOfInput = false → token.span.start < token.span.stop
  atEnd : token.isEndOfInput = true →
    token.span.start = text.length ∧ token.span.stop = text.length

/-- The span of a part of a text fits. -/
theorem Span.fitsIn_of_part (before part behind : List Char) :
    ((Position.first.after before).span part.length).FitsIn (before ++ (part ++ behind)) := by
  rw [Position.first_after before (part ++ behind)]
  refine ⟨Nat.le_add_right _ _, ?_, rfl, rfl⟩
  simp only [Position.span, List.length_append]
  omega

/-! ### Scans -/

/-- No lexeme is the end of the input. -/
theorem Lexeme.goesOn {kind : TokenKind} {lexeme : List Char} (h : Lexeme kind lexeme)
    (text : String) (span : Span) : Token.isEndOfInput ⟨kind, text, span⟩ = false := by
  refine Bool.eq_false_iff.2 fun ended => ?_
  have kind_eq := Token.isEndOfInput_iff.1 ended
  cases h <;> cases kind_eq

/-- All that a scan can find: the end of the input, a lexeme, or a fault in what is used up. -/
inductive Cursor.Finds (cursor : Cursor) : Except LexicalFault Token → Cursor → Prop
  | endOfInput (skips : Skips cursor.rest []) :
      Finds cursor (.ok (.endOfInput (cursor.position.after cursor.rest)))
        ⟨[], cursor.position.after cursor.rest⟩
  | token {skipped lexeme rest : List Char} {kind : TokenKind}
      (split : cursor.rest = skipped ++ (lexeme ++ rest)) (skips : Skips skipped (lexeme ++ rest))
      (isLexeme : Lexeme kind lexeme) (ends : Ends kind rest) :
      Finds cursor
        (.ok ⟨kind, String.ofList lexeme, (cursor.position.after skipped).span lexeme.length⟩)
        ⟨rest, (cursor.position.after skipped).after lexeme⟩
  | fault {skipped ahead reported rest : List Char} {cause : LexicalCause}
      (split : cursor.rest = skipped ++ (ahead ++ reported ++ rest))
      (skips : Skips skipped (ahead ++ reported ++ rest)) (some : ahead ++ reported ≠ []) :
      Finds cursor
        (.error ⟨cause, ((cursor.position.after skipped).after ahead).span reported.length⟩)
        ⟨rest, (cursor.position.after skipped).after (ahead ++ reported)⟩

theorem Cursor.finds_scan (cursor : Cursor) : cursor.Finds cursor.scan.1 cursor.scan.2 := by
  unfold scan
  split
  rename_i skipped text split_eq
  obtain ⟨all, skips⟩ := splitTrivia_eq_iff.1 split_eq
  dsimp only
  split
  · rw [List.append_nil] at all
    subst all
    exact .endOfInput skips
  · rename_i c text
    have whole := readLexeme_append c text
    have some := readLexeme_consumed_ne_nil c text
    unfold scanLexeme
    split
    · rename_i kind lexeme rest read
      obtain ⟨isLexeme, ends, same⟩ := readLexeme_eq_token_iff.1 read
      exact .token (by rw [same, all]) (same ▸ skips) isLexeme ends
    · rename_i cause ahead reported rest read
      rw [read] at whole some
      have whole : ahead ++ reported ++ rest = c :: text := whole
      exact .fault (by rw [whole, all]) (whole ▸ skips) some

/-- The place where the lexeme of the next scan starts, behind blanks and comments. -/
def Cursor.mark (cursor : Cursor) : Position :=
  cursor.position.after (splitTrivia false cursor.rest).1

/-- The cursor stands behind a beginning of the text, and at the place behind that. -/
def Cursor.StandsIn (cursor : Cursor) (text : List Char) : Prop :=
  ∃ before, before ++ cursor.rest = text ∧ cursor.position = Position.first.after before

namespace Cursor

variable {cursor cursor' : Cursor} {outcome : Except LexicalFault Token} {text : List Char}
  {token : Token} {fault : LexicalFault}

theorem standsIn_start (text : List Char) : (start text).StandsIn text := ⟨[], rfl, rfl⟩

theorem StandsIn.offset_le (h : cursor.StandsIn text) : cursor.position.offset ≤ text.length := by
  obtain ⟨before, rfl, place⟩ := h
  simp [place, Position.first]

/-- A cursor that moves over some text still stands in it. -/
theorem StandsIn.over {skipped rest : List Char} (h : cursor.StandsIn text)
    (split : cursor.rest = skipped ++ rest) :
    StandsIn ⟨rest, cursor.position.after skipped⟩ text := by
  obtain ⟨before, rfl, place⟩ := h
  refine ⟨before ++ skipped, ?_, ?_⟩
  · rw [split, List.append_assoc]
  · rw [place, Position.after_append]

theorem StandsIn.span_fitsIn {skipped part rest : List Char} (h : cursor.StandsIn text)
    (split : cursor.rest = skipped ++ (part ++ rest)) :
    ((cursor.position.after skipped).span part.length).FitsIn text := by
  obtain ⟨before, same, place⟩ := h.over split
  dsimp only at same place
  rw [place, ← same]
  exact Span.fitsIn_of_part before part rest

/-- A scan leaves the cursor in the text, and no farther back. -/
theorem StandsIn.scan (h : cursor.StandsIn text) (found : cursor.Finds outcome cursor') :
    cursor'.StandsIn text ∧ cursor.position.offset ≤ cursor.mark.offset ∧
      cursor.mark.offset ≤ cursor'.position.offset := by
  unfold mark
  cases found with
  | endOfInput skips =>
    refine ⟨h.over (List.append_nil _).symm, ?_, ?_⟩
    · simp
    · simp only [Position.offset_after]
      have lengths := length_splitTrivia false cursor.rest
      omega
  | @token skipped lexeme rest kind split skips =>
    rw [split, splitTrivia_of_skips skips]
    refine ⟨?_, by simp, by simp⟩
    have used : cursor.rest = (skipped ++ lexeme) ++ rest := by simp [split]
    have moved := h.over used
    rwa [Position.after_append] at moved
  | @fault skipped ahead reported rest cause split skips =>
    rw [split, splitTrivia_of_skips skips]
    refine ⟨?_, by simp, by simp [Nat.add_assoc]⟩
    have used : cursor.rest = (skipped ++ (ahead ++ reported)) ++ rest := by simp [split]
    have moved := h.over used
    rwa [Position.after_append] at moved

/-- A token that is found stands in the text, in front of the cursor. -/
theorem StandsIn.of_token (h : cursor.StandsIn text) (found : cursor.Finds (.ok token) cursor') :
    token.StandsIn text ∧ cursor.position.offset ≤ token.span.start ∧
      token.span.stop = cursor'.position.offset := by
  cases found with
  | endOfInput skips =>
    have used : cursor.rest = cursor.rest ++ ([] ++ []) := by simp
    have fits := h.span_fitsIn used
    have all : (cursor.position.after cursor.rest).offset = text.length := by
      obtain ⟨before, rfl, place⟩ := h
      simp [place, Position.first]
    refine ⟨⟨fits, ?_, nofun, fun _ => ⟨all, all⟩⟩, by simp [Token.endOfInput, Position.span], rfl⟩
    simp [Token.endOfInput, Position.span]
  | @token skipped lexeme rest kind split skips isLexeme ends =>
    have fits := h.span_fitsIn split
    have some := List.length_pos_iff.2 isLexeme.ne_nil
    refine ⟨⟨fits, ?_, fun _ => ?_, fun ended => ?_⟩, ?_, ?_⟩
    · obtain ⟨before, same, place⟩ := h.over split
      dsimp only at same place
      rw [place, ← same]
      simp [Position.span, Position.first]
    · exact Nat.lt_add_of_pos_right some
    · rw [isLexeme.goesOn] at ended
      cases ended
    · simp [Position.span]
    · simp [Position.span]

/-- A fault that is found lies in the text. -/
theorem StandsIn.of_fault (h : cursor.StandsIn text) (found : cursor.Finds (.error fault) cursor') :
    fault.span.FitsIn text := by
  cases found with
  | @fault skipped ahead reported rest cause split =>
    have used : cursor.rest = (skipped ++ ahead) ++ (reported ++ rest) := by simp [split]
    have fits := h.span_fitsIn used
    rwa [Position.after_append] at fits

end Cursor

/-! ### Lexers of a text -/

namespace Lexer

/-- The place where the latest scan started a lexeme, once a token was asked for: a scan is made only if
none is shown. -/
def markAfter (lexer : Lexer) (mark : Position) : Position :=
  if lexer.shown.isSome then mark else lexer.cursor.mark

/-- The states that a lexer of the text comes to when tokens are asked for one at a time, with the place
where its latest scan started a lexeme. -/
inductive Comes (text : List Char) : Lexer → Position → Prop
  | start : Comes text (start text) Position.first
  | peek {lexer : Lexer} {mark : Position} (h : Comes text lexer mark) :
      Comes text lexer.peek.2 (lexer.markAfter mark)
  | advance {lexer : Lexer} {mark : Position} (h : Comes text lexer mark) :
      Comes text lexer.advance.2 (lexer.markAfter mark)

variable {lexer : Lexer} {text : List Char} {mark : Position}

theorem cursor_peek (lexer : Lexer) :
    lexer.peek.2.cursor = if lexer.shown.isSome then lexer.cursor else lexer.cursor.scan.2 := by
  unfold peek
  cases shown : lexer.shown with
  | some token => rfl
  | none =>
    cases scanned : lexer.cursor.scan with
    | mk outcome cursor => cases outcome <;> rfl

theorem cursor_advance (lexer : Lexer) :
    lexer.advance.2.cursor = if lexer.shown.isSome then lexer.cursor else lexer.cursor.scan.2 := by
  unfold advance
  cases lexer.shown <;> rfl

/-- The mark does not lie behind the cursor, and the cursor stands in the text. -/
theorem Comes.standsIn (h : Comes text lexer mark) :
    lexer.cursor.StandsIn text ∧ mark.offset ≤ lexer.cursor.position.offset := by
  -- one scan, or none, is made for a token
  have asked : ∀ {lexer : Lexer} {mark : Position} {cursor : Cursor},
      lexer.cursor.StandsIn text ∧ mark.offset ≤ lexer.cursor.position.offset →
      cursor = (if lexer.shown.isSome then lexer.cursor else lexer.cursor.scan.2) →
      cursor.StandsIn text ∧ (lexer.markAfter mark).offset ≤ cursor.position.offset := by
    rintro lexer mark cursor ⟨stands, before⟩ rfl
    unfold markAfter
    split
    · exact ⟨stands, before⟩
    · obtain ⟨stands', -, before'⟩ := stands.scan lexer.cursor.finds_scan
      exact ⟨stands', before'⟩
  induction h with
  | start => exact ⟨Cursor.standsIn_start text, Nat.le_refl _⟩
  | peek _ ih => exact asked ih (cursor_peek _)
  | advance _ ih => exact asked ih (cursor_advance _)

theorem Comes.advanced (text : List Char) (n : Nat) :
    ∃ mark, Comes text ((Lexer.start text).advanced n) mark := by
  induction n with
  | zero => exact ⟨_, .start⟩
  | succ n ih =>
    obtain ⟨mark, comes⟩ := ih
    exact ⟨_, comes.advance⟩

theorem Reads.comes {reader : Reader} (h : Reads (Lexer.start text) reader lexer) :
    ∃ mark, Comes text lexer mark := by
  cases h with
  | next i => exact Comes.advanced text i
  | @held i token _ shown =>
    obtain ⟨mark, comes⟩ := Comes.advanced text i
    have comes := comes.peek
    rw [shown] at comes
    exact ⟨_, comes⟩

/-! ### The stream of a text -/

theorem scan_advanced (text : List Char) (n : Nat) :
    ((Lexer.start text).advanced n).cursor.scan =
      ((Lexer.start text).outcome n, ((Lexer.start text).advanced (n + 1)).cursor) := by
  have none : ((Lexer.start text).advanced n).shown = none := shown_advanced rfl n
  have moved := cursor_advance ((Lexer.start text).advanced n)
  rw [none] at moved
  refine Prod.ext ?_ moved.symm
  rw [outcome, Lexer.advance, none]

theorem standsIn_advanced (text : List Char) (n : Nat) :
    ((Lexer.start text).advanced n).cursor.StandsIn text := by
  obtain ⟨mark, comes⟩ := Comes.advanced text n
  exact comes.standsIn.1

/-- What a scan of the stream finds. -/
theorem finds_outcome (text : List Char) (n : Nat) :
    ((Lexer.start text).advanced n).cursor.Finds ((Lexer.start text).outcome n)
      ((Lexer.start text).advanced (n + 1)).cursor := by
  have found := ((Lexer.start text).advanced n).cursor.finds_scan
  rwa [scan_advanced] at found

theorem offset_advanced_mono (text : List Char) {i j : Nat} (before : i ≤ j) :
    ((Lexer.start text).advanced i).cursor.position.offset ≤
      ((Lexer.start text).advanced j).cursor.position.offset := by
  induction before with
  | refl => exact Nat.le_refl _
  | @step j _ ih =>
    obtain ⟨-, skipped, used⟩ := (standsIn_advanced text j).scan (finds_outcome text j)
    exact Nat.le_trans ih (Nat.le_trans skipped used)

end Lexer

/-- The tokens are the same, or the first one lies in front of the second one. -/
def Token.Precedes (a b : Token) : Prop :=
  a = b ∨ (a.span.start < b.span.start ∧ a.span.stop ≤ b.span.start)

/-- A token of the stream lies in front of a later one, unless both are the end of the input. -/
theorem Lexer.precedes_outcome {text : List Char} {i j : Nat} {a b : Token} (before : i ≤ j)
    (first : (Lexer.start text).outcome i = .ok a) (second : (Lexer.start text).outcome j = .ok b) :
    a.Precedes b := by
  rcases Nat.lt_or_eq_of_le before with earlier | rfl
  · cases ended : a.isEndOfInput with
    | true =>
      rw [outcome_of_end rfl first ended before] at second
      exact .inl (Except.ok.inj second)
    | false =>
      have found := finds_outcome text i
      have found' := finds_outcome text j
      rw [first] at found
      rw [second] at found'
      obtain ⟨stands, -, stop⟩ := (standsIn_advanced text i).of_token found
      obtain ⟨-, start, -⟩ := (standsIn_advanced text j).of_token found'
      have some := stands.some ended
      have between := offset_advanced_mono text (i := i + 1) earlier
      exact .inr ⟨by omega, by omega⟩
  · rw [first] at second
    exact .inl (Except.ok.inj second)

/-! ### Tokens make up a text -/

/-- From a place on, the tokens make up the text with the blanks and comments in front of each. The last
one is the end of the input, behind all of the text. -/
inductive Tiles : Position → List Char → List Token → Prop
  | endOfInput {p : Position} {gap : List Char} (skips : Skips gap []) :
      Tiles p gap [.endOfInput (p.after gap)]
  | token {p : Position} {gap lexeme rest : List Char} {kind : TokenKind} {tokens : List Token}
      (skips : Skips gap (lexeme ++ rest)) (isLexeme : Lexeme kind lexeme) (ends : Ends kind rest)
      (later : Tiles ((p.after gap).after lexeme) rest tokens) :
      Tiles p (gap ++ (lexeme ++ rest))
        (⟨kind, String.ofList lexeme, (p.after gap).span lexeme.length⟩ :: tokens)

section Tiles

variable {p : Position} {text : List Char} {tokens : List Token}

/-- The tokens that are handed out make up the text, if no fault is met. -/
theorem tiles_of_drain (clean : (Lexer.drain ⟨⟨text, p⟩, none⟩).fault = none) :
    Tiles p text (Lexer.drain ⟨⟨text, p⟩, none⟩).tokens := by
  induction length : text.length using Nat.strongRecOn generalizing p text with
  | ind n ih =>
    have found := Cursor.finds_scan ⟨text, p⟩
    cases scanned : Cursor.scan ⟨text, p⟩ with
    | mk outcome cursor =>
      have next := Lexer.advance_of_scan scanned
      rw [scanned] at found
      cases found with
      | endOfInput skips =>
        rw [Lexer.drain_of_end next rfl]
        exact .endOfInput skips
      | @token skipped lexeme rest kind split skips isLexeme ends =>
        have split : text = skipped ++ (lexeme ++ rest) := split
        have some := List.length_pos_iff.2 isLexeme.ne_nil
        have shorter : rest.length < n := by
          rw [← length, split, List.length_append, List.length_append]
          omega
        rw [Lexer.drain_of_more next (isLexeme.goesOn _ _)] at clean ⊢
        have later := ih _ shorter clean rfl
        rw [split]
        exact .token skips isLexeme ends later
      | fault =>
        rw [Lexer.drain_of_fault next] at clean
        cases clean

/-- Each of them is a lexeme, but the end of the input. -/
theorem Tiles.lexemes (h : Tiles p text tokens) :
    ∀ token ∈ tokens, token.terminal ≠ .endOfInput → Lexeme token.kind token.lexeme.toList := by
  induction h with
  | endOfInput skips =>
    intro token among more
    obtain rfl := List.mem_singleton.1 among
    exact absurd rfl more
  | token skips isLexeme ends later ih =>
    intro token among more
    rcases List.mem_cons.1 among with rfl | among
    · rwa [String.toList_ofList]
    · exact ih token among more

/-- Tokens that make up a text are handed out. -/
theorem drain_of_tiles (h : Tiles p text tokens) :
    (Lexer.drain ⟨⟨text, p⟩, none⟩).fault = none ∧
      (Lexer.drain ⟨⟨text, p⟩, none⟩).tokens = tokens := by
  induction h with
  | @endOfInput p gap skips =>
    have next := Lexer.advance_of_scan (scan_eq_endOfInput ⟨gap, p⟩ skips)
    rw [Lexer.drain_of_end next rfl]
    exact ⟨rfl, rfl⟩
  | @token p gap lexeme rest kind tokens skips isLexeme ends later ih =>
    have next := Lexer.advance_of_scan
      (scan_eq_token ⟨gap ++ (lexeme ++ rest), p⟩ rfl skips isLexeme ends)
    rw [Lexer.drain_of_more next (isLexeme.goesOn _ _)]
    exact ⟨ih.1, congrArg _ ih.2⟩

end Tiles

/-- The tokens of a text are those that make it up. -/
theorem Lexer.tokenize_ok_iff_tiles {text : String} {tokens : List Token} :
    (ofString text).tokenize.1 = .ok tokens ↔ Tiles Position.first text.toList tokens := by
  constructor
  · intro found
    obtain ⟨rfl, clean⟩ := tokenize_ok_iff.1 found
    exact tiles_of_drain clean
  · intro tiles
    obtain ⟨clean, handed⟩ := drain_of_tiles tiles
    exact tokenize_ok_iff.2 ⟨handed, clean⟩

/-! ### What answers calls -/

/-- The tokens that answer calls are lexemes, but the end of the input. -/
theorem Lexer.lexeme_of_calls {text : String} {cs : List Call} {answer : Answer} {token : Token}
    (among : answer ∈ ((ofString text).calls cs).1) (found : token ∈ answer.tokens)
    (more : token.kind ≠ .endOfInput) : Lexeme token.kind token.lexeme.toList := by
  have started : Reads (start text.toList) ⟨0, false⟩ (ofString text) := .next 0
  obtain ⟨reader, runs, -⟩ := started.calls cs
  obtain ⟨k, -, same⟩ := runs.of_mem among found
  have finds := finds_outcome text.toList k
  rw [same] at finds
  generalize ((start text.toList).advanced (k + 1)).cursor = cursor at finds
  cases finds with
  | endOfInput => exact absurd rfl more
  | token _ _ isLexeme => rwa [String.toList_ofList]

/-- Whatever a lexer of a text is asked for, also behind a fault: in all the states it comes to, its
latest lexeme does not start behind its cursor, which stands in the text; the tokens that it answers are
the parts of the text that their spans say, each in front of the next one; their lines and columns, and
those of the faults, are those of the place; and without a fault the tokens with blanks and comments
between them are all of the text. -/
theorem Lexer.calls_stand (text : String) (cs : List Call) :
    (∃ mark, Comes text.toList ((ofString text).calls cs).2 mark) ∧
    (∀ lexer mark, Comes text.toList lexer mark →
      mark.offset ≤ lexer.cursor.position.offset ∧
        lexer.cursor.position.offset ≤ text.toList.length) ∧
    (∀ answer ∈ ((ofString text).calls cs).1, ∀ token ∈ answer.tokens, token.StandsIn text.toList) ∧
    (∀ fault, .error fault ∈ ((ofString text).calls cs).1 → fault.span.FitsIn text.toList) ∧
    (((ofString text).calls cs).1.flatMap Answer.tokens).Pairwise Token.Precedes ∧
    ∀ tokens, (ofString text).tokenize.1 = .ok tokens →
      Tiles Position.first text.toList tokens := by
  have started : Reads (start text.toList) ⟨0, false⟩ (ofString text) := .next 0
  obtain ⟨reader, runs, stands⟩ := started.calls cs
  refine ⟨stands.comes, fun lexer mark comes => ?_, ?_, ?_, ?_, fun _ => tokenize_ok_iff_tiles.1⟩
  · obtain ⟨stands, before⟩ := comes.standsIn
    exact ⟨before, stands.offset_le⟩
  · intro answer among token found
    obtain ⟨k, -, same⟩ := runs.of_mem among found
    have found := finds_outcome text.toList k
    rw [same] at found
    exact ((standsIn_advanced text.toList k).of_token found).1
  · intro fault among
    obtain ⟨k, same⟩ := runs.of_fault among
    have found := finds_outcome text.toList k
    rw [same] at found
    exact (standsIn_advanced text.toList k).of_fault found
  · exact runs.pairwise fun k l a b before first second => precedes_outcome before first second

end SyntaxCheck
