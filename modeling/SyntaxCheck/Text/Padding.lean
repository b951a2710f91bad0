/-!
# Columns of a table

* `padStart`, `padEnd` - a text filled up with blanks to a width, at either end.
-/

namespace SyntaxCheck

/-- A text filled up with blanks in front. -/
def padStart (width : Nat) (text : List Char) : List Char :=
  List.replicate (width - text.length) ' ' ++ text

/-- A text filled up with blanks behind. -/
def padEnd (width : Nat) (text : List Char) : List Char :=
  text ++ List.replicate (width - text.length) ' '

end SyntaxCheck
