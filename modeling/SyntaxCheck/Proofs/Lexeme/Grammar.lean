import SyntaxCheck.Lexeme.Reading

/-!
# The lexical grammar

What a lexeme is, without a word about how it is read.

* `escapes`, `StringBody`, `CharBody` - what may stand between quotes, and the value it has;
* `Lexeme` - a text is a lexeme of a kind;
* `Glued` - a number runs on into what may not follow it;
* `Ends` - a lexeme cannot be read on into the text that follows, and is no glued number.
-/

namespace SyntaxCheck

/-! ### Literals between quotes -/

/-- The letters behind a backslash, with the characters they stand for. -/
def escapes : List (Char × Char) := [('n', '\n'), ('t', '\t'), ('\'', '\''), ('\\', '\\')]

/-- In a string, the quote may be escaped, too. -/
def stringEscapes : List (Char × Char) := ('"', '"') :: escapes

/-- The text between the quotes of a string with this value. -/
inductive StringBody : (value text : List Char) → Prop
  | nil : StringBody [] []
  | char {c : Char} {value text : List Char} (plain : c ≠ '\n' ∧ c ≠ '"' ∧ c ≠ '\\')
      (later : StringBody value text) : StringBody (c :: value) (c :: text)
  | escape {e c : Char} {value text : List Char} (known : (e, c) ∈ stringEscapes)
      (later : StringBody value text) : StringBody (c :: value) ('\\' :: e :: text)

/-- The text between the quotes of a character literal with this value. -/
inductive CharBody : (value : Char) → (text : List Char) → Prop
  | char {c : Char} (plain : c ≠ '\n' ∧ c ≠ '\'' ∧ c ≠ '\\') : CharBody c [c]
  | escape {e c : Char} (known : (e, c) ∈ escapes) : CharBody c ['\\', e]

/-! ### Lexemes -/

/-- A letter with letters, digits and underscores behind it. -/
structure IsWord (c : Char) (parts : List Char) : Prop where
  letter : isAlphabetic c = true
  parts : ∀ d ∈ parts, isWordPart d = true

/-- Some digits. -/
structure IsDigits (digits : List Char) : Prop where
  ne_nil : digits ≠ []
  digit : ∀ d ∈ digits, d.isDigit = true

/-- The text is a lexeme of the kind. -/
inductive Lexeme : TokenKind → List Char → Prop
  | keyword (k : Keyword) : Lexeme (.keyword k) k.spelling.toList
  | identifier {c : Char} {parts : List Char} (word : IsWord c parts)
      (free : ∀ k : Keyword, k.spelling ≠ String.ofList (c :: parts)) :
      Lexeme (.identifier (String.ofList (c :: parts))) (c :: parts)
  | integer {digits : List Char} (some : IsDigits digits) :
      Lexeme (.integer (String.ofList digits)) digits
  | double {whole fraction : List Char} (some : IsDigits whole) (more : IsDigits fraction) :
      Lexeme (.double (.ofDecimal whole fraction)) (whole ++ '.' :: fraction)
  | string {value body : List Char} (inside : StringBody value body) :
      Lexeme (.string (String.ofList value)) ('"' :: body ++ ['"'])
  | char {value : Char} {body : List Char} (inside : CharBody value body) :
      Lexeme (.char value) ('\'' :: body ++ ['\''])
  | symbol (s : Symbol) : Lexeme (.symbol s) s.spelling

/-- A number of the kind runs on into the text. -/
def Glued : TokenKind → List Char → Prop
  | .integer _, c :: _ => isAlphabetic c = true ∨ c = '_' ∨ c = '.'
  | .double _, c :: text =>
    isAlphabetic c = true ∨ c = '_' ∨ (c = '.' ∧ startsWithDigit text = true)
  | _, _ => False

/-- A lexeme of the kind ends where the text goes on so. -/
def Ends : TokenKind → List Char → Prop
  | .keyword _, rest | .identifier _, rest => ∀ c ∈ rest.head?, isWordPart c = false
  | .integer digits, rest =>
    (∀ c ∈ rest.head?, c.isDigit = false) ∧ ¬Glued (.integer digits) rest
  | .double value, rest => (∀ c ∈ rest.head?, c.isDigit = false) ∧ ¬Glued (.double value) rest
  | .symbol s, rest => s = .assign ∨ s = .less ∨ s = .greater → rest.head? ≠ some '='
  | _, _ => True

/-! ### Words and numbers are runs of characters -/

section Run

variable {p : Char → Bool} {run rest : List Char}

theorem takeWhile_run (all : ∀ c ∈ run, p c = true) (stops : ∀ c ∈ rest.head?, p c = false) :
    (run ++ rest).takeWhile p = run := by
  rw [List.takeWhile_append_of_pos all]
  cases rest with
  | nil => exact List.append_nil run
  | cons c rest =>
    rw [List.takeWhile_cons_of_neg (by rw [stops c rfl]; exact Bool.false_ne_true), List.append_nil]

theorem dropWhile_run (all : ∀ c ∈ run, p c = true) (stops : ∀ c ∈ rest.head?, p c = false) :
    (run ++ rest).dropWhile p = rest := by
  rw [List.dropWhile_append_of_pos all]
  cases rest with
  | nil => rfl
  | cons c rest => rw [List.dropWhile_cons_of_neg (by rw [stops c rfl]; exact Bool.false_ne_true)]

theorem all_takeWhile (p : Char → Bool) (text : List Char) :
    ∀ c ∈ text.takeWhile p, p c = true := by
  intro c found
  exact List.all_eq_true.1 List.all_takeWhile c found

theorem stops_dropWhile (p : Char → Bool) (text : List Char) :
    ∀ c ∈ (text.dropWhile p).head?, p c = false := by
  intro c found
  have stopped := List.head?_dropWhile_not p text
  rw [Option.mem_def.1 found] at stopped
  exact stopped

end Run

theorem Keyword.isWord (k : Keyword) :
    ∃ c parts, k.spelling.toList = c :: parts ∧ IsWord c parts := by
  cases k <;> exact ⟨_, _, rfl, by decide, List.all_eq_true.1 (by decide)⟩

end SyntaxCheck
