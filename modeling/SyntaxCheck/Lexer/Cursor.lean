import SyntaxCheck.Lexeme.Reading
import SyntaxCheck.Lexeme.Trivia

/-!
# Scanning a text

* `Cursor` - the text not yet scanned, and the place where it starts;
* `Cursor.scan` - the next token or lexical fault, and the cursor behind it;
* `Cursor.length_rest_scan_lt` - every scan but one at the end of the text uses up a character.

A fault may leave the cursor inside the bad lexeme: behind the backslash of a bad escape, or on the
second character of a character literal.
-/

namespace SyntaxCheck

/-- The text not yet scanned, and the place where it starts. -/
structure Cursor where
  rest : List Char
  position : Position

namespace Cursor

/-- The cursor at the start of a text. -/
def start (text : List Char) : Cursor := ⟨text, Position.first⟩

instance : Inhabited Cursor := ⟨start []⟩

/-- What the text `c :: text` at a place starts with. -/
def scanLexeme (p : Position) (c : Char) (text : List Char) : Except LexicalFault Token × Cursor :=
  match readLexeme c text with
  | .token kind lexeme rest =>
    (.ok ⟨kind, String.ofList lexeme, p.span lexeme.length⟩, ⟨rest, p.after lexeme⟩)
  | .fault cause ahead reported rest =>
    (.error ⟨cause, (p.after ahead).span reported.length⟩, ⟨rest, p.after (ahead ++ reported)⟩)

/-- The next token or fault behind blanks and comments. -/
def scan (cursor : Cursor) : Except LexicalFault Token × Cursor :=
  let (skipped, text) := splitTrivia false cursor.rest
  let p := cursor.position.after skipped
  match text with
  | [] => (.ok (.endOfInput p), ⟨[], p⟩)
  | c :: text => scanLexeme p c text

theorem rest_scanLexeme (p : Position) (c : Char) (text : List Char) :
    (scanLexeme p c text).2.rest = (readLexeme c text).rest := by
  unfold scanLexeme
  split <;> rename_i read <;> rw [read] <;> rfl

theorem length_rest_scanLexeme_le (p : Position) (c : Char) (text : List Char) :
    (scanLexeme p c text).2.rest.length ≤ text.length := by
  rw [rest_scanLexeme]
  exact length_rest_readLexeme_le c text

/-- A scan never lengthens the text that is left. -/
theorem length_rest_scan_le (cursor : Cursor) :
    cursor.scan.2.rest.length ≤ cursor.rest.length := by
  have lengths := length_splitTrivia false cursor.rest
  unfold scan
  split
  rename_i skipped text split_eq
  rw [split_eq] at lengths
  dsimp only at lengths ⊢
  split
  · exact Nat.zero_le _
  · rename_i c text
    have shorter := length_rest_scanLexeme_le (cursor.position.after skipped) c text
    rw [List.length_cons] at lengths
    omega

/-- A scan that does not find the end of the text uses up a character. -/
theorem length_rest_scan_lt {cursor : Cursor} {token : Token} {cursor' : Cursor}
    (h : cursor.scan = (.ok token, cursor')) (more : token.isEndOfInput = false) :
    cursor'.rest.length < cursor.rest.length := by
  have lengths := length_splitTrivia false cursor.rest
  unfold scan at h
  split at h
  rename_i skipped text split_eq
  rw [split_eq] at lengths
  dsimp only at lengths h
  split at h
  · injection h with found
    injection found with found
    subst found
    exact absurd (show true = false from more) (by decide)
  · rename_i c text
    have shorter := length_rest_scanLexeme_le (cursor.position.after skipped) c text
    rw [h] at shorter
    rw [List.length_cons] at lengths
    dsimp only at shorter
    omega

end Cursor

end SyntaxCheck
