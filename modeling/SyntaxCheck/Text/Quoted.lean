import SyntaxCheck.Text.CharClass

/-!
# Quoted texts

A text between two delimiters in which every character can be told apart on sight: the delimiter and
the backslash follow a backslash, the common controls have a letter, and characters that would not
show, or that would be drawn onto their neighbour, are spelled by their code points.

* `Quoted.spell` - one character inside a quoted text;
* `quotedString`, `quotedChar` - the whole text.
-/

namespace SyntaxCheck

namespace Quoted

/-- A character by its code point, in lower-case hexadecimal. -/
def spellCode (c : Char) : List Char :=
  ['\\', 'u', '\x7b'] ++ Nat.toDigits 16 c.toNat ++ ['\x7d']

/-- One character between two delimiters. -/
def spell (delimiter c : Char) : List Char :=
  if c = '\x00' then ['\\', '0']
  else if c = '\t' then ['\\', 't']
  else if c = '\r' then ['\\', 'r']
  else if c = '\n' then ['\\', 'n']
  else if c = '\\' ∨ c = delimiter then ['\\', c]
  else if isCombining c || isUnprintable c then spellCode c
  else [c]

/-- Some characters between two delimiters. -/
def enclose (delimiter : Char) (text : List Char) : String :=
  String.ofList (delimiter :: (text.flatMap (spell delimiter) ++ [delimiter]))

end Quoted

/-- A text between double quotes. -/
def quotedString (text : String) : String :=
  Quoted.enclose '"' text.toList

/-- A character between single quotes. -/
def quotedChar (c : Char) : String :=
  Quoted.enclose '\'' [c]

end SyntaxCheck
