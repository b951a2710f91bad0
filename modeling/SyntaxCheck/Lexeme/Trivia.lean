/-!
# Blanks and comments

Between lexemes stand blanks (space, tab, carriage return, newline) and comments, which run from `#` to
the end of the line.

* `splitTrivia` - the blanks and comments at the head of a text, and the text after them;
* `afterTrivia` - only the text after them.
-/

namespace SyntaxCheck

/-- A character that separates lexemes. -/
def isBlank (c : Char) : Bool :=
  c == ' ' || c == '\t' || c == '\r' || c == '\n'

/-- The blanks and comments at the head of a text, and the text after them. Inside a comment every
character belongs to it, and the newline that ends it is a blank. -/
def splitTrivia : (inComment : Bool) → List Char → List Char × List Char
  | _, [] => ([], [])
  | inComment, c :: text =>
    if inComment || isBlank c || c == '#' then
      let (skipped, rest) := splitTrivia (if inComment then c != '\n' else c == '#') text
      (c :: skipped, rest)
    else ([], c :: text)

/-- Skipping loses no character. -/
theorem splitTrivia_append (inComment : Bool) (text : List Char) :
    (splitTrivia inComment text).1 ++ (splitTrivia inComment text).2 = text := by
  induction text generalizing inComment with
  | nil => rfl
  | cons c text ih =>
    unfold splitTrivia
    split
    · exact congrArg (c :: ·) (ih _)
    · rfl

theorem length_splitTrivia (inComment : Bool) (text : List Char) :
    (splitTrivia inComment text).1.length + (splitTrivia inComment text).2.length = text.length := by
  rw [← List.length_append, splitTrivia_append]

end SyntaxCheck
