import SyntaxCheck.Lexeme.Reading
import SyntaxCheck.Lexeme.Trivia

/-!
# Lexemes and the ends of lines

A newline ends a lexeme as the end of the text does, and also what is no lexeme. So whatever is read at
the head of a text is read there, too, if more lines follow.

* `Reading.extend` - a reading with more text behind it;
* `readWord_newline`, `readNumber_newline`, `readString_newline`, `readCharLiteral_newline`,
  `readSymbol_newline` - one sort of lexeme at a time;
* `readLexeme_newline` - any lexeme;
* `splitTrivia_of_stop`, `splitTrivia_newline_of_all` - blanks and comments, which may go on.
-/

namespace SyntaxCheck

/-- The same reading with more text behind it. -/
def Reading.extend (more : List Char) : Reading → Reading
  | .token kind lexeme rest => .token kind lexeme (rest ++ more)
  | .fault cause ahead reported rest => .fault cause ahead reported (rest ++ more)

variable (text more : List Char)

/-! ### Runs of characters -/

section Run

variable {p : Char → Bool} {c : Char}

theorem takeWhile_append_stop (stops : p c = false) :
    (text ++ c :: more).takeWhile p = text.takeWhile p := by
  induction text with
  | nil => simp [stops]
  | cons d text ih => simp [List.takeWhile_cons, ih]

theorem dropWhile_append_stop (stops : p c = false) :
    (text ++ c :: more).dropWhile p = text.dropWhile p ++ c :: more := by
  induction text with
  | nil => simp [stops]
  | cons d text ih =>
    simp only [List.cons_append, List.dropWhile_cons, ih]
    split <;> rfl

end Run

/-- A word ends with its line. -/
theorem readWord_newline (c : Char) :
    readWord c (text ++ '\n' :: more) = (readWord c text).extend ('\n' :: more) := by
  have stops : isWordPart '\n' = false := by decide
  simp only [readWord, takeWhile_append_stop _ _ stops, dropWhile_append_stop _ _ stops,
    Reading.extend]

/-! ### Numbers -/

theorem malformedNumber_newline :
    malformedNumber (text ++ '\n' :: more) = (malformedNumber text).extend ('\n' :: more) := by
  have stops : isNumberPart '\n' = false := by decide
  simp only [malformedNumber, takeWhile_append_stop _ _ stops, dropWhile_append_stop _ _ stops,
    Reading.extend]

/-- No number runs on into a newline. -/
theorem isGlued_newline : isGlued (text ++ '\n' :: more) = isGlued text := by
  match text with
  | [] => rfl
  | [c] =>
    by_cases point : c = '.'
    · subst point
      rfl
    · simp [isGlued, point]
  | c :: d :: text =>
    by_cases point : c = '.'
    · subst point
      rfl
    · simp [isGlued, point]

theorem startsWithDigit_newline :
    startsWithDigit (text ++ '\n' :: more) = startsWithDigit text := by
  cases text <;> rfl

theorem readNumber_of_point {text rest : List Char} (h : text.dropWhile Char.isDigit = '.' :: rest) :
    readNumber text =
      if startsWithDigit rest && !isGlued (rest.dropWhile Char.isDigit) then
        .token (.double (.ofDecimal (text.takeWhile Char.isDigit) (rest.takeWhile Char.isDigit)))
          (text.takeWhile Char.isDigit ++ '.' :: rest.takeWhile Char.isDigit)
          (rest.dropWhile Char.isDigit)
      else malformedNumber text := by
  unfold readNumber
  rw [h]
  rfl

theorem readNumber_of_noPoint {text : List Char}
    (h : ∀ rest, text.dropWhile Char.isDigit ≠ '.' :: rest) :
    readNumber text =
      if isGlued (text.dropWhile Char.isDigit) then malformedNumber text
      else .token (.integer (String.ofList (text.takeWhile Char.isDigit)))
        (text.takeWhile Char.isDigit) (text.dropWhile Char.isDigit) := by
  unfold readNumber
  split
  · rename_i rest found
    exact absurd found (h rest)
  · rfl

theorem readNumber_newline :
    readNumber (text ++ '\n' :: more) = (readNumber text).extend ('\n' :: more) := by
  have stops : Char.isDigit '\n' = false := rfl
  have behind := dropWhile_append_stop text more stops
  by_cases point : ∃ rest, text.dropWhile Char.isDigit = '.' :: rest
  · obtain ⟨rest, point⟩ := point
    rw [point, List.cons_append] at behind
    rw [readNumber_of_point point, readNumber_of_point behind,
      takeWhile_append_stop _ _ stops, takeWhile_append_stop _ _ stops,
      dropWhile_append_stop _ _ stops, startsWithDigit_newline, isGlued_newline,
      malformedNumber_newline]
    split <;> rfl
  · have noPoint : ∀ rest, (text ++ '\n' :: more).dropWhile Char.isDigit ≠ '.' :: rest := by
      rw [behind]
      cases first : text.dropWhile Char.isDigit with
      | nil => simp
      | cons c rest =>
        rintro rest' same
        injection same with same
        exact point ⟨rest, by rw [first, same]⟩
    rw [readNumber_of_noPoint (not_exists.1 point), readNumber_of_noPoint noPoint, behind,
      takeWhile_append_stop _ _ stops, isGlued_newline, malformedNumber_newline]
    split <;> rfl

/-! ### Literals between quotes -/

/-- The same body with more text behind it. -/
def Body.extend (more : List Char) (body : Body) : Body := { body with rest := body.rest ++ more }

/-- A backslash has its own cases, alone and in front of a character. -/
theorem ne_backslash {c : Char} {rest : List Char} (alone : c = '\\' → rest = [] → False)
    (escaped : ∀ e rest', c = '\\' → rest = e :: rest' → False) : c ≠ '\\' := by
  rintro rfl
  cases rest with
  | nil => exact alone rfl rfl
  | cons e rest => exact escaped e rest rfl rfl

/-- A string literal ends with its line, closed or not; a backslash does not escape the newline. -/
theorem readBody_newline :
    readBody (text ++ '\n' :: more) = (readBody text).extend ('\n' :: more) := by
  have line : escaped? '"' '\n' = none := rfl
  fun_induction readBody text with
  | case1 => rfl
  | case2 => rfl
  | case3 e rest c found ih => simp [readBody, found, ih, Body.cons, Body.extend]
  | case4 rest unknown => simp [readBody, line, Body.extend]
  | case5 e rest unknown other => simp [readBody, unknown, other, Body.extend]
  | case6 rest => simp [readBody, Body.extend]
  | case7 rest => simp [readBody, Body.extend]
  | case8 c rest alone escaped quote newline ih =>
    simp [readBody, ne_backslash alone escaped, quote, newline, ih, Body.cons, Body.extend]

theorem readString_newline :
    readString (text ++ '\n' :: more) = (readString text).extend ('\n' :: more) := by
  unfold readString
  rw [readBody_newline]
  simp only [Body.extend]
  split <;> rfl

theorem closeCharLiteral_newline (value : Char) (spelling : List Char) :
    closeCharLiteral value spelling (text ++ '\n' :: more) =
      (closeCharLiteral value spelling text).extend ('\n' :: more) := by
  fun_cases closeCharLiteral value spelling text with
  | case1 rest => rfl
  | case2 rest => rfl
  | case3 => rfl
  | case4 _ quote newline nonempty =>
    cases text with
    | nil => exact absurd rfl nonempty
    | cons c rest =>
      have quote : c ≠ '\'' := fun same => quote rest (same ▸ rfl)
      have newline : c ≠ '\n' := fun same => newline rest (same ▸ rfl)
      simp [closeCharLiteral, quote, newline, Reading.extend]

theorem readCharLiteral_newline :
    readCharLiteral (text ++ '\n' :: more) = (readCharLiteral text).extend ('\n' :: more) := by
  have line : escaped? '\'' '\n' = none := rfl
  fun_cases readCharLiteral text with
  | case1 => rfl
  | case2 => rfl
  | case3 e rest c found => simp [readCharLiteral, found, closeCharLiteral_newline]
  | case4 rest unknown => simp [readCharLiteral, line, Reading.extend]
  | case5 e rest unknown other => simp [readCharLiteral, unknown, other, Reading.extend]
  | case6 rest => simp [readCharLiteral, Reading.extend]
  | case7 rest => simp [readCharLiteral, Reading.extend]
  | case8 c rest alone escaped quote newline =>
    simp [readCharLiteral, ne_backslash alone escaped, quote, newline, closeCharLiteral_newline]

/-! ### Symbols -/

theorem Symbol.read?_newline (c : Char) :
    Symbol.read? c (text ++ '\n' :: more) =
      (Symbol.read? c text).map fun read => (read.1, read.2 ++ '\n' :: more) := by
  cases text with
  | nil => cases made : alone? c <;> simp [read?, made]
  | cons d rest =>
    by_cases equals : d = '='
    · subst equals
      cases longer : withEquals? c <;> cases made : alone? c <;> simp [read?, longer, made]
    · cases made : alone? c <;> simp [read?, equals, made]

theorem readSymbol_newline (c : Char) :
    readSymbol c (text ++ '\n' :: more) = (readSymbol c text).extend ('\n' :: more) := by
  unfold readSymbol
  rw [Symbol.read?_newline]
  cases Symbol.read? c text <;> rfl

/-! ### Any lexeme -/

/-- Whatever stands at the head of a text is read there, too, if more lines follow. -/
theorem readLexeme_newline (c : Char) :
    readLexeme c (text ++ '\n' :: more) = (readLexeme c text).extend ('\n' :: more) := by
  have number := readNumber_newline (c :: text) more
  unfold readLexeme
  split
  · exact readWord_newline text more c
  split
  · exact number
  split
  · exact readString_newline text more
  split
  · exact readCharLiteral_newline text more
  · exact readSymbol_newline text more c

/-! ### Blanks and comments -/

/-- What stops blanks and comments in a text stops them whatever follows it. -/
theorem splitTrivia_of_stop {text : List Char} {inComment : Bool}
    (stops : (splitTrivia inComment text).2 ≠ []) :
    splitTrivia inComment (text ++ more) =
      ((splitTrivia inComment text).1, (splitTrivia inComment text).2 ++ more) := by
  induction text generalizing inComment with
  | nil => exact absurd rfl stops
  | cons c text ih =>
    simp only [List.cons_append, splitTrivia] at stops ⊢
    split
    · rename_i skips
      rw [if_pos skips] at stops
      rw [ih stops]
    · rfl

/-- A text of nothing but blanks and comments is skipped with the newline behind it, and more if there
is any. -/
theorem splitTrivia_newline_of_all {text : List Char} {inComment : Bool}
    (all : (splitTrivia inComment text).2 = []) :
    splitTrivia inComment (text ++ '\n' :: more) =
      (text ++ '\n' :: (splitTrivia false more).1, (splitTrivia false more).2) := by
  induction text generalizing inComment with
  | nil => cases inComment <;> rfl
  | cons c text ih =>
    simp only [List.cons_append, splitTrivia] at all ⊢
    split
    · rename_i skips
      rw [if_pos skips] at all
      rw [ih all]
    · rename_i stops
      rw [if_neg stops] at all
      cases all

end SyntaxCheck
