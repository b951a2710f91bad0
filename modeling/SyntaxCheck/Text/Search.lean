/-!
# Parts of a text

* `startsWith`, `holdsPart` - a text starts with another, and holds another somewhere.
-/

namespace SyntaxCheck

/-- The text starts with the part. -/
def startsWith (part text : List Char) : Bool := part.isPrefixOf text

/-- The part stands somewhere in the text. -/
def holdsPart (part : List Char) : List Char → Bool
  | [] => part.isEmpty
  | c :: text => startsWith part (c :: text) || holdsPart part text

end SyntaxCheck
