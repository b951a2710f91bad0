import SyntaxCheck.Proofs.Text.SingleLine
import SyntaxCheck.Proofs.Lexer.Tiling

/-!
# Tokens and lexical faults on one line

* `Lexeme.newline_notMem` - no lexeme goes over the end of a line;
* `LexicalCause.quoted`, `LexicalCause.isLine_message` - what a message quotes, and that it is on one line
  if that is;
* `LexicalCause.StaysOnLine`, `staysOnLine_readLexeme` - whatever goes wrong with a lexeme, the report starts
  on its line and quotes no newline;
* `ShownOnLine`, `Cursor.shownOnLine_scan` - so all that a scan finds is shown on one line.
-/

namespace SyntaxCheck

/-! ### Lexemes -/

theorem StringBody.newline_notMem {value body : List Char} (inside : StringBody value body) :
    '\n' ∉ body := by
  have escape : ∀ known ∈ stringEscapes, '\n' ≠ known.1 := by decide
  induction inside with
  | nil => exact List.not_mem_nil
  | char plain _ ih => exact List.not_mem_cons_of_ne_of_not_mem plain.1.symm ih
  | escape known _ ih =>
    exact List.not_mem_cons_of_ne_of_not_mem (by decide)
      (List.not_mem_cons_of_ne_of_not_mem (escape _ known) ih)

theorem CharBody.newline_notMem {value : Char} {body : List Char} (inside : CharBody value body) :
    '\n' ∉ body := by
  have escape : ∀ known ∈ escapes, '\n' ≠ known.1 := by decide
  cases inside with
  | char plain => simpa using plain.1.symm
  | escape known => simpa using escape _ known

/-- No character of a class without the newline is one. -/
theorem newline_notMem_of_class {p : Char → Bool} {text : List Char} (apart : p '\n' = false)
    (all : ∀ c ∈ text, p c = true) : '\n' ∉ text := by
  intro found
  rw [all _ found] at apart
  cases apart

theorem IsWord.newline_notMem {c : Char} {parts : List Char} (word : IsWord c parts) :
    '\n' ∉ c :: parts := by
  refine List.not_mem_cons_of_ne_of_not_mem ?_ (newline_notMem_of_class (by decide) word.parts)
  rintro rfl
  exact absurd word.letter (by decide)

theorem IsDigits.newline_notMem {digits : List Char} (some : IsDigits digits) : '\n' ∉ digits :=
  newline_notMem_of_class (by decide) some.digit

/-- A lexeme ends on its line. -/
theorem Lexeme.newline_notMem {kind : TokenKind} {lexeme : List Char} (h : Lexeme kind lexeme) :
    '\n' ∉ lexeme := by
  cases h with
  | keyword k =>
    obtain ⟨c, parts, same, word⟩ := k.isWord
    rw [same]
    exact word.newline_notMem
  | identifier word => exact word.newline_notMem
  | integer some => exact some.newline_notMem
  | double some more => simp [some.newline_notMem, more.newline_notMem]
  | string inside => simp [inside.newline_notMem]
  | char inside => simp [inside.newline_notMem]
  | symbol s => cases s <;> decide

/-! ### What is no lexeme -/

/-- The part of the text that the message about a cause quotes. -/
def LexicalCause.quoted : LexicalCause → List Char
  | .unexpectedChar c | .invalidEscape c => [c]
  | .malformedNumber text => text.toList
  | .unterminatedString | .unterminatedChar | .invalidCharLiteral => []

/-- Without a newline in what it quotes, a message is on one line. -/
theorem LexicalCause.isLine_message {cause : LexicalCause} (free : '\n' ∉ cause.quoted) :
    IsLine cause.message := by
  cases cause with
  | unexpectedChar c =>
    have free : '\n' ∉ [c] := free
    show IsLine ("unexpected character '" ++ String.singleton c ++ "'")
    simpa [IsLine] using free
  | unterminatedString =>
    show IsLine "unterminated string literal"
    simp [IsLine]
  | unterminatedChar =>
    show IsLine "unterminated character literal"
    simp [IsLine]
  | invalidCharLiteral =>
    show IsLine "character literal must contain exactly one character"
    simp [IsLine]
  | invalidEscape c =>
    have free : '\n' ∉ [c] := free
    show IsLine ("invalid escape sequence '\\" ++ String.singleton c ++ "'")
    simpa [IsLine] using free
  | malformedNumber text =>
    have free : IsLine text := free
    show IsLine ("malformed number '" ++ text ++ "'")
    simpa [IsLine] using free

theorem ne_newline_of_badEscape {text : List Char} {c : Char}
    (bad : (readBody text).ending = .badEscape c) : '\n' ≠ c := by
  fun_induction readBody text with
  | case3 e rest d found ih => exact ih bad
  | case5 e rest unknown line =>
    cases bad
    exact Ne.symm line
  | case8 c rest _ _ _ _ ih => exact ih bad
  | _ => cases bad

/-- The report on what is no lexeme starts in front of the newline, if there is one, and it quotes none. -/
structure LexicalCause.StaysOnLine (cause : LexicalCause) (reported : List Char) : Prop where
  quoted : '\n' ∉ cause.quoted
  starts : ∃ d more, reported = d :: more ∧ d ≠ '\n'

/-- A cause that quotes nothing is reported from some other character on. -/
theorem LexicalCause.StaysOnLine.of_quoted_eq_nil {cause : LexicalCause} {d : Char} {more : List Char}
    (none : cause.quoted = []) (line : d ≠ '\n') : cause.StaysOnLine (d :: more) :=
  ⟨none ▸ List.not_mem_nil, d, more, rfl, line⟩

section Misread

variable {c : Char} {text ahead reported rest : List Char} {cause : LexicalCause}

theorem staysOnLine_malformedNumber (digit : c.isDigit = true)
    (h : malformedNumber (c :: text) = .fault cause ahead reported rest) : cause.StaysOnLine reported := by
  have run := newline_notMem_of_class (by decide) (all_takeWhile isNumberPart (c :: text))
  have part : isNumberPart c = true := by simp [isNumberPart, isWordPart_of_isDigit digit]
  have line : c ≠ '\n' := by
    rintro rfl
    exact absurd digit (by decide)
  injection h with cause_eq _ reported_eq
  subst cause_eq reported_eq
  exact ⟨by simpa [LexicalCause.quoted] using run, c, _, List.takeWhile_cons_of_pos part, line⟩

theorem staysOnLine_readNumber (digit : c.isDigit = true)
    (h : readNumber (c :: text) = .fault cause ahead reported rest) : cause.StaysOnLine reported := by
  unfold readNumber at h
  split at h
  · dsimp only at h
    split at h
    · cases h
    · exact staysOnLine_malformedNumber digit h
  · dsimp only at h
    split at h
    · exact staysOnLine_malformedNumber digit h
    · cases h

theorem staysOnLine_readString (h : readString text = .fault cause ahead reported rest) :
    cause.StaysOnLine reported := by
  unfold readString at h
  dsimp only at h
  split at h
  · cases h
  · cases h
    exact .of_quoted_eq_nil rfl (by decide)
  · rename_i bad
    cases h
    exact ⟨by simpa [LexicalCause.quoted] using ne_newline_of_badEscape bad, _, _, rfl, by decide⟩

theorem staysOnLine_closeCharLiteral {value : Char} {spelling : List Char}
    (h : closeCharLiteral value spelling text = .fault cause ahead reported rest) :
    cause.StaysOnLine reported := by
  unfold closeCharLiteral at h
  split at h <;> cases h <;> exact .of_quoted_eq_nil rfl (by decide)

theorem staysOnLine_readCharLiteral
    (h : readCharLiteral text = .fault cause ahead reported rest) : cause.StaysOnLine reported := by
  unfold readCharLiteral at h
  split at h
  · cases h
    exact .of_quoted_eq_nil rfl (by decide)
  · cases h
    exact .of_quoted_eq_nil rfl (by decide)
  · split at h
    · exact staysOnLine_closeCharLiteral h
    · split at h <;> cases h
      · exact .of_quoted_eq_nil rfl (by decide)
      · rename_i line
        exact ⟨by simpa [LexicalCause.quoted] using Ne.symm line, _, _, rfl, by decide⟩
  · split at h
    · cases h
      exact .of_quoted_eq_nil rfl (by decide)
    split at h
    · cases h
      exact .of_quoted_eq_nil rfl (by decide)
    · exact staysOnLine_closeCharLiteral h

/-- A message quotes a character that is no newline, or a run that stops in front of one. -/
theorem staysOnLine_readLexeme (line : c ≠ '\n')
    (h : readLexeme c text = .fault cause ahead reported rest) : cause.StaysOnLine reported := by
  unfold readLexeme at h
  split at h
  · cases h
  split at h
  · rename_i digit
    exact staysOnLine_readNumber digit h
  split at h
  · exact staysOnLine_readString h
  split at h
  · exact staysOnLine_readCharLiteral h
  · unfold readSymbol at h
    split at h <;> cases h
    exact ⟨by simpa [LexicalCause.quoted] using line.symm, c, [], rfl, line⟩

end Misread

/-! ### What a scan finds -/

/-- The token can be listed and described on one line, or the message about the fault is on one. -/
def ShownOnLine : Except LexicalFault Token → Prop
  | .ok token => IsLine token.lexeme ∧ IsLine token.describe
  | .error fault => IsLine fault.cause.message

theorem Lexeme.shownOnLine {kind : TokenKind} {lexeme : List Char} (h : Lexeme kind lexeme)
    (span : Span) : ShownOnLine (.ok ⟨kind, String.ofList lexeme, span⟩) := by
  have line := h.newline_notMem
  refine ⟨isLine_ofList.2 line, ?_⟩
  cases h <;> simpa [Token.describe, IsLine] using line

/-- Blanks and comments are skipped up to a character that is neither. -/
theorem Skips.stops {skipped text : List Char} (h : Skips skipped text) :
    ∀ c ∈ text.head?, isBlank c = false ∧ c ≠ '#' := by
  induction h with
  | none stops => exact stops
  | blank _ _ ih => exact ih
  | comment _ _ _ ih => exact ih

/-- Whatever a scan finds is shown on one line. -/
theorem Cursor.shownOnLine_scan (cursor : Cursor) : ShownOnLine cursor.scan.1 := by
  unfold scan
  split
  rename_i skipped text split_eq
  obtain ⟨-, skips⟩ := splitTrivia_eq_iff.1 split_eq
  dsimp only
  split
  · exact ⟨by simp [Token.endOfInput, IsLine], by simp [Token.endOfInput, Token.describe, IsLine]⟩
  · rename_i c text
    unfold scanLexeme
    split
    · rename_i read
      exact (readLexeme_eq_token_iff.1 read).1.shownOnLine _
    · rename_i read
      refine LexicalCause.isLine_message (staysOnLine_readLexeme ?_ read).quoted
      -- a newline would have been skipped
      rintro rfl
      exact absurd (skips.stops '\n' rfl).1 (by decide)

end SyntaxCheck
