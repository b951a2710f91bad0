import SyntaxCheck.Fault.Basic
import SyntaxCheck.Lexeme.Escape
import SyntaxCheck.Text.CharClass
import SyntaxCheck.Token.Basic

/-!
# Reading one lexeme

Behind blanks and comments, the head of a text is a lexeme or it is not; either way some characters
are used up. What is read never depends on what came before.

* `Reading` - a kind with its lexeme, or a cause with the text before and under the report;
* `readWord`, `readNumber`, `readString`, `readCharLiteral`, `readSymbol` - the sorts of lexeme;
* `readLexeme` - the lexeme at the head of a text, its sort decided by the first character;
* `readLexeme_append`, `readLexeme_consumed_ne_nil` - nothing is lost, and something is used up.
-/

namespace SyntaxCheck

/-- What the head of a text is. -/
inductive Reading
  /-- A lexeme of some kind, and the text after it. -/
  | token (kind : TokenKind) (lexeme rest : List Char)
  /-- No lexeme. The report covers `reported`; `ahead` was used up before it. -/
  | fault (cause : LexicalCause) (ahead reported rest : List Char)

namespace Reading

/-- The characters used up. -/
def consumed : Reading → List Char
  | .token _ lexeme _ => lexeme
  | .fault _ ahead reported _ => ahead ++ reported

/-- The text after them. -/
def rest : Reading → List Char
  | .token _ _ rest => rest
  | .fault _ _ _ rest => rest

end Reading

/-! ### Words -/

/-- A keyword or an identifier: the longest run of word characters. -/
def readWord (c : Char) (text : List Char) : Reading :=
  let lexeme := c :: text.takeWhile isWordPart
  .token (.ofWord (String.ofList lexeme)) lexeme (text.dropWhile isWordPart)

/-! ### Numbers -/

/-- A character that makes a number malformed along with what it is glued to. -/
def isNumberPart (c : Char) : Bool := isWordPart c || c == '.'

/-- A number may not run on into a letter, an underscore, or a point with a digit behind it. -/
def isGlued : List Char → Bool
  | '.' :: c :: _ => c.isDigit
  | c :: _ => isAlphabetic c || c == '_'
  | [] => false

/-- The text starts with a decimal digit. -/
def startsWithDigit : List Char → Bool
  | c :: _ => c.isDigit
  | [] => false

/-- Everything glued onto a number that goes wrong. -/
def malformedNumber (text : List Char) : Reading :=
  let reported := text.takeWhile isNumberPart
  .fault (.malformedNumber (String.ofList reported)) [] reported (text.dropWhile isNumberPart)

/-- Digits, or digits with a point and more digits. -/
def readNumber (text : List Char) : Reading :=
  let whole := text.takeWhile Char.isDigit
  match text.dropWhile Char.isDigit with
  | '.' :: rest =>
    let fraction := rest.takeWhile Char.isDigit
    let after := rest.dropWhile Char.isDigit
    if startsWithDigit rest && !isGlued after then
      .token (.double (.ofDecimal whole fraction)) (whole ++ '.' :: fraction) after
    else malformedNumber text
  | rest =>
    if isGlued rest then malformedNumber text
    else .token (.integer (String.ofList whole)) whole rest

/-! ### Literals between quotes -/

/-- A string literal, behind its opening quote. -/
def readString (text : List Char) : Reading :=
  let body := readBody text
  match body.ending with
  | .closed => .token (.string (String.ofList body.value)) ('"' :: body.text) body.rest
  | .cut => .fault .unterminatedString [] ('"' :: body.text) body.rest
  | .badEscape c => .fault (.invalidEscape c) ('"' :: body.text) ['\\'] body.rest

/-- The end of a character literal whose only character is spelled as given. -/
def closeCharLiteral (value : Char) (spelling : List Char) : List Char → Reading
  | '\'' :: rest => .token (.char value) ('\'' :: spelling ++ ['\'']) rest
  | '\n' :: rest => .fault .unterminatedChar [] ('\'' :: spelling) ('\n' :: rest)
  | [] => .fault .unterminatedChar [] ('\'' :: spelling) []
  | rest => .fault .invalidCharLiteral [] ('\'' :: spelling) rest

/-- A character literal, behind its opening quote. -/
def readCharLiteral : List Char → Reading
  | [] => .fault .unterminatedChar [] ['\''] []
  | ['\\'] => .fault .unterminatedChar [] ['\'', '\\'] []
  | '\\' :: e :: rest =>
    match escaped? '\'' e with
    | some c => closeCharLiteral c ['\\', e] rest
    | none =>
      if e = '\n' then .fault .unterminatedChar [] ['\'', '\\'] (e :: rest)
      else .fault (.invalidEscape e) ['\''] ['\\'] (e :: rest)
  | c :: rest =>
    if c = '\'' then .fault .invalidCharLiteral [] ['\'', '\''] rest
    else if c = '\n' then .fault .unterminatedChar [] ['\''] (c :: rest)
    else closeCharLiteral c [c] rest

/-! ### Symbols -/

/-- The longest symbol, or a character that starts no token. -/
def readSymbol (c : Char) (text : List Char) : Reading :=
  match Symbol.read? c text with
  | some (s, rest) => .token (.symbol s) s.spelling rest
  | none => .fault (.unexpectedChar c) [] [c] text

/-! ### Any lexeme -/

/-- The lexeme at the head of the text `c :: text`. -/
def readLexeme (c : Char) (text : List Char) : Reading :=
  if isAlphabetic c then readWord c text
  else if c.isDigit then readNumber (c :: text)
  else if c = '"' then readString text
  else if c = '\'' then readCharLiteral text
  else readSymbol c text

/-! ### Nothing is lost -/

theorem readWord_append (c : Char) (text : List Char) :
    (readWord c text).consumed ++ (readWord c text).rest = c :: text := by
  simp only [readWord, Reading.consumed, Reading.rest, List.cons_append,
    List.takeWhile_append_dropWhile]

theorem malformedNumber_append (text : List Char) :
    (malformedNumber text).consumed ++ (malformedNumber text).rest = text := by
  simp only [malformedNumber, Reading.consumed, Reading.rest, List.nil_append,
    List.takeWhile_append_dropWhile]

theorem readNumber_append (text : List Char) :
    (readNumber text).consumed ++ (readNumber text).rest = text := by
  have whole : text.takeWhile Char.isDigit ++ text.dropWhile Char.isDigit = text :=
    List.takeWhile_append_dropWhile
  unfold readNumber
  split
  · rename_i rest split_eq
    rw [split_eq] at whole
    dsimp only
    split
    · simp only [Reading.consumed, Reading.rest, List.append_assoc, List.cons_append,
        List.takeWhile_append_dropWhile]
      exact whole
    · exact malformedNumber_append text
  · dsimp only
    split
    · exact malformedNumber_append text
    · exact whole

theorem readString_append (text : List Char) :
    (readString text).consumed ++ (readString text).rest = '"' :: text := by
  have all := readBody_append text
  unfold readString
  dsimp only
  split
  · rename_i ending
    rw [ending] at all
    simpa [Reading.consumed, Reading.rest, BodyEnd.unread] using all
  · rename_i ending
    rw [ending] at all
    simpa [Reading.consumed, Reading.rest, BodyEnd.unread] using all
  · rename_i ending
    rw [ending] at all
    simpa [Reading.consumed, Reading.rest, BodyEnd.unread] using all

theorem closeCharLiteral_append (value : Char) (spelling text : List Char) :
    (closeCharLiteral value spelling text).consumed ++ (closeCharLiteral value spelling text).rest =
      '\'' :: (spelling ++ text) := by
  unfold closeCharLiteral
  split <;> simp [Reading.consumed, Reading.rest]

theorem readCharLiteral_append (text : List Char) :
    (readCharLiteral text).consumed ++ (readCharLiteral text).rest = '\'' :: text := by
  unfold readCharLiteral
  split
  · rfl
  · rfl
  · split
    · exact closeCharLiteral_append _ _ _
    · split <;> rfl
  · split
    · rename_i quote
      subst quote
      rfl
    · split
      · rfl
      · exact closeCharLiteral_append _ _ _

theorem readSymbol_append (c : Char) (text : List Char) :
    (readSymbol c text).consumed ++ (readSymbol c text).rest = c :: text := by
  unfold readSymbol
  split
  · rename_i found
    exact Symbol.spelling_append_of_read? found
  · rfl

/-- A lexeme, or what is no lexeme, and the text after it make up the text. -/
theorem readLexeme_append (c : Char) (text : List Char) :
    (readLexeme c text).consumed ++ (readLexeme c text).rest = c :: text := by
  unfold readLexeme
  split
  · exact readWord_append c text
  split
  · exact readNumber_append (c :: text)
  split
  · rename_i quote
    subst quote
    exact readString_append text
  split
  · rename_i quote
    subst quote
    exact readCharLiteral_append text
  · exact readSymbol_append c text

/-! ### Something is used up -/

theorem malformedNumber_consumed_ne_nil {c : Char} (digit : c.isDigit = true) (text : List Char) :
    (malformedNumber (c :: text)).consumed ≠ [] := by
  have part : isNumberPart c = true := by
    unfold isNumberPart
    rw [isWordPart_of_isDigit digit, Bool.true_or]
  simp only [malformedNumber, Reading.consumed, List.nil_append, List.takeWhile_cons, part]
  exact List.cons_ne_nil _ _

theorem readNumber_consumed_ne_nil {c : Char} (digit : c.isDigit = true) (text : List Char) :
    (readNumber (c :: text)).consumed ≠ [] := by
  have whole : (c :: text).takeWhile Char.isDigit = c :: text.takeWhile Char.isDigit := by
    simp only [List.takeWhile_cons, digit, if_true]
  unfold readNumber
  split
  · dsimp only
    split
    · rw [whole]
      exact List.cons_ne_nil _ _
    · exact malformedNumber_consumed_ne_nil digit text
  · dsimp only
    split
    · exact malformedNumber_consumed_ne_nil digit text
    · rw [whole]
      exact List.cons_ne_nil _ _

theorem readString_consumed_ne_nil (text : List Char) : (readString text).consumed ≠ [] := by
  unfold readString
  dsimp only
  split <;> exact List.cons_ne_nil _ _

theorem closeCharLiteral_consumed_ne_nil (value : Char) (spelling text : List Char) :
    (closeCharLiteral value spelling text).consumed ≠ [] := by
  unfold closeCharLiteral
  split <;> exact List.cons_ne_nil _ _

theorem readCharLiteral_consumed_ne_nil (text : List Char) :
    (readCharLiteral text).consumed ≠ [] := by
  unfold readCharLiteral
  split
  · exact List.cons_ne_nil _ _
  · exact List.cons_ne_nil _ _
  · split
    · exact closeCharLiteral_consumed_ne_nil _ _ _
    · split <;> exact List.cons_ne_nil _ _
  · split
    · exact List.cons_ne_nil _ _
    · split
      · exact List.cons_ne_nil _ _
      · exact closeCharLiteral_consumed_ne_nil _ _ _

theorem readSymbol_consumed_ne_nil (c : Char) (text : List Char) :
    (readSymbol c text).consumed ≠ [] := by
  unfold readSymbol
  split
  · exact Symbol.spelling_ne_nil _
  · exact List.cons_ne_nil _ _

/-- At least one character is used up, also where there is no lexeme. -/
theorem readLexeme_consumed_ne_nil (c : Char) (text : List Char) :
    (readLexeme c text).consumed ≠ [] := by
  unfold readLexeme
  split
  · exact List.cons_ne_nil _ _
  split
  · rename_i digit
    exact readNumber_consumed_ne_nil digit text
  split
  · exact readString_consumed_ne_nil text
  split
  · exact readCharLiteral_consumed_ne_nil text
  · exact readSymbol_consumed_ne_nil c text

/-- What follows a lexeme is no longer than what follows its first character. -/
theorem length_rest_readLexeme_le (c : Char) (text : List Char) :
    (readLexeme c text).rest.length ≤ text.length := by
  have all := congrArg List.length (readLexeme_append c text)
  have some := List.length_pos_iff.2 (readLexeme_consumed_ne_nil c text)
  rw [List.length_append, List.length_cons] at all
  omega

end SyntaxCheck
