/-!
# Ranges of code points

A character property is stored as ascending ranges of code points.

* `CodeRange` - the code points from `first` to `last`, both included;
* `CodeRange.holds` - a code point lies in one of some ranges.
-/

namespace SyntaxCheck

/-- The code points from `first` to `last`, both included. -/
structure CodeRange where
  first : Nat
  last : Nat

namespace CodeRange

/-- Some range holds the code point. -/
def holds (ranges : List CodeRange) (code : Nat) : Bool :=
  ranges.any fun range => range.first ≤ code && code ≤ range.last

end CodeRange

end SyntaxCheck
