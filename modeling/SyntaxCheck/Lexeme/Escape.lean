/-!
# Escapes in literals

* `escaped?` - the character that a letter after a backslash stands for;
* `BodyEnd`, `Body`, `readBody` - the inside of a string literal, up to the quote that closes it or to
  the place where it goes wrong.
-/

namespace SyntaxCheck

/-- What a character after a backslash stands for, inside a literal with this delimiter. A double quote
may be escaped only where it would end the literal. -/
def escaped? (delimiter : Char) : Char → Option Char
  | 'n' => some '\n'
  | 't' => some '\t'
  | '\'' => some '\''
  | '\\' => some '\\'
  | '"' => if delimiter = '"' then some '"' else none
  | _ => none

/-- How the inside of a string literal ends. -/
inductive BodyEnd
  /-- With the closing quote. -/
  | closed
  /-- With the line or the text. -/
  | cut
  /-- With a backslash before a character that it cannot escape. -/
  | badEscape (c : Char)
  deriving DecidableEq

/-- The inside of a string literal: its value, the text it was read from, how it ends, and what follows.
The backslash of a bad escape belongs to neither text. -/
structure Body where
  value : List Char
  text : List Char
  ending : BodyEnd
  rest : List Char

namespace Body

/-- A body with one more character, spelled as given, before it. -/
def cons (c : Char) (spelling : List Char) (body : Body) : Body :=
  { body with value := c :: body.value, text := spelling ++ body.text }

end Body

/-- Reads the inside of a string literal behind its opening quote. -/
def readBody : List Char → Body
  | [] => ⟨[], [], .cut, []⟩
  | ['\\'] => ⟨[], ['\\'], .cut, []⟩
  | '\\' :: e :: rest =>
    match escaped? '"' e with
    | some c => (readBody rest).cons c ['\\', e]
    | none => if e = '\n' then ⟨[], ['\\'], .cut, e :: rest⟩ else ⟨[], [], .badEscape e, e :: rest⟩
  | c :: rest =>
    if c = '"' then ⟨[], ['"'], .closed, rest⟩
    else if c = '\n' then ⟨[], [], .cut, c :: rest⟩
    else (readBody rest).cons c [c]

/-- The characters that a body covers beyond its text. -/
def BodyEnd.unread : BodyEnd → List Char
  | .badEscape _ => ['\\']
  | _ => []

/-- A body loses no character. -/
theorem readBody_append (text : List Char) :
    (readBody text).text ++ (readBody text).ending.unread ++ (readBody text).rest = text := by
  fun_induction readBody text with
  | case1 => rfl
  | case2 => rfl
  | case3 e rest c found ih =>
    simp only [Body.cons, List.cons_append, List.nil_append]
    rw [ih]
  | case4 => rfl
  | case5 => rfl
  | case6 => rfl
  | case7 => rfl
  | case8 c rest _ _ _ _ ih =>
    simp only [Body.cons, List.cons_append, List.nil_append]
    rw [ih]

end SyntaxCheck
