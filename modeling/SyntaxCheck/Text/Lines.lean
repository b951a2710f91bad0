/-!
# The lines of a text

* `lineCount` - how many lines a text has: each newline ends one, and what follows the last newline is
  one more unless it is empty.
-/

namespace SyntaxCheck

/-- The number of lines. -/
def lineCount (text : List Char) : Nat :=
  text.count '\n' + (if text.getLast?.all (· == '\n') then 0 else 1)

end SyntaxCheck
