/-!
# Symbols

* `Symbol` - the operators and punctuation marks;
* `Symbol.spelling` - the characters of a symbol;
* `Symbol.read?` - the longest symbol at the head of a text.
-/

namespace SyntaxCheck

/-- An operator or a punctuation mark. -/
inductive Symbol
  | plus | minus | star | slash | percent | assign | equal | notEqual | less | lessEqual
  | greater | greaterEqual | dot | leftParen | rightParen | leftBrace | rightBrace | comma
  | colon | semicolon
  deriving DecidableEq

namespace Symbol

/-- The characters of a symbol. -/
def spelling : Symbol → List Char
  | .plus => ['+']
  | .minus => ['-']
  | .star => ['*']
  | .slash => ['/']
  | .percent => ['%']
  | .assign => ['=']
  | .equal => ['=', '=']
  | .notEqual => ['!', '=']
  | .less => ['<']
  | .lessEqual => ['<', '=']
  | .greater => ['>']
  | .greaterEqual => ['>', '=']
  | .dot => ['.']
  | .leftParen => ['(']
  | .rightParen => [')']
  | .leftBrace => ['\x7b']
  | .rightBrace => ['\x7d']
  | .comma => [',']
  | .colon => [':']
  | .semicolon => [';']

/-- The name of the class of tokens, as the journal shows it. -/
def label : Symbol → String
  | .plus => "Plus"
  | .minus => "Minus"
  | .star => "Star"
  | .slash => "Slash"
  | .percent => "Percent"
  | .assign => "Eq"
  | .equal => "EqEq"
  | .notEqual => "Ne"
  | .less => "Lt"
  | .lessEqual => "Le"
  | .greater => "Gt"
  | .greaterEqual => "Ge"
  | .dot => "Dot"
  | .leftParen => "LParen"
  | .rightParen => "RParen"
  | .leftBrace => "LBrace"
  | .rightBrace => "RBrace"
  | .comma => "Comma"
  | .colon => "Colon"
  | .semicolon => "Semicolon"

/-- The symbol that a character followed by an equals sign makes. -/
def withEquals? : Char → Option Symbol
  | '=' => some .equal
  | '!' => some .notEqual
  | '<' => some .lessEqual
  | '>' => some .greaterEqual
  | _ => none

/-- The symbol that a character makes by itself. -/
def alone? : Char → Option Symbol
  | '+' => some .plus
  | '-' => some .minus
  | '*' => some .star
  | '/' => some .slash
  | '%' => some .percent
  | '=' => some .assign
  | '<' => some .less
  | '>' => some .greater
  | '.' => some .dot
  | '(' => some .leftParen
  | ')' => some .rightParen
  | '\x7b' => some .leftBrace
  | '\x7d' => some .rightBrace
  | ',' => some .comma
  | ':' => some .colon
  | ';' => some .semicolon
  | _ => none

/-- The longest symbol at the head of the text `c :: rest`, and the text after it. -/
def read? (c : Char) (rest : List Char) : Option (Symbol × List Char) :=
  match rest with
  | '=' :: after =>
    match withEquals? c with
    | some s => some (s, after)
    | none => (alone? c).map fun s => (s, rest)
  | _ => (alone? c).map fun s => (s, rest)

theorem spelling_of_withEquals? {c : Char} {s : Symbol} (h : withEquals? c = some s) :
    s.spelling = [c, '='] := by
  unfold withEquals? at h
  split at h <;> cases h <;> rfl

theorem spelling_of_alone? {c : Char} {s : Symbol} (h : alone? c = some s) : s.spelling = [c] := by
  unfold alone? at h
  split at h <;> cases h <;> rfl

/-- Reading a symbol splits the text into its spelling and the rest. -/
theorem spelling_append_of_read? {c : Char} {rest after : List Char} {s : Symbol}
    (h : read? c rest = some (s, after)) : s.spelling ++ after = c :: rest := by
  unfold read? at h
  split at h
  · split at h
    · rename_i made
      injection h with h
      injection h with hs ha
      subst hs ha
      rw [spelling_of_withEquals? made]
      rfl
    · obtain ⟨t, made, ht⟩ := Option.map_eq_some_iff.1 h
      injection ht with hs ha
      subst hs ha
      rw [spelling_of_alone? made]
      rfl
  · obtain ⟨t, made, ht⟩ := Option.map_eq_some_iff.1 h
    injection ht with hs ha
    subst hs ha
    rw [spelling_of_alone? made]
    rfl

theorem spelling_ne_nil (s : Symbol) : s.spelling ≠ [] := by
  cases s <;> decide

end Symbol

end SyntaxCheck
