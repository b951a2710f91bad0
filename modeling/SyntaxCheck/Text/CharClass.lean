import SyntaxCheck.Text.Alphabetic
import SyntaxCheck.Text.Numeric
import SyntaxCheck.Text.Combining
import SyntaxCheck.Text.Unprintable

/-!
# Classes of characters

* `isAlphabetic`, `isAlphanumeric` - what a word starts with, and what it may hold besides `_`;
* `isWordPart` - a character that continues a word;
* `isCombining`, `isUnprintable` - characters that a quoted text spells by their code points.

Each class is decided on ASCII characters by arithmetic, and beyond them by a table.
-/

namespace SyntaxCheck

/-- The character has the Unicode property Alphabetic. -/
def isAlphabetic (c : Char) : Bool :=
  if c.toNat < 128 then c.isAlpha else CodeRange.holds alphabeticRanges c.toNat

/-- The character is alphabetic or a number of any kind. -/
def isAlphanumeric (c : Char) : Bool :=
  if c.toNat < 128 then c.isAlphanum
  else CodeRange.holds alphabeticRanges c.toNat || CodeRange.holds numericRanges c.toNat

/-- The character may follow the first one of a word. -/
def isWordPart (c : Char) : Bool :=
  isAlphanumeric c || c == '_'

/-- The character is drawn onto the one before it. -/
def isCombining (c : Char) : Bool :=
  128 ≤ c.toNat && CodeRange.holds combiningRanges c.toNat

/-- The character shows nothing when written; the blank U+0020 counts as showing. -/
def isUnprintable (c : Char) : Bool :=
  if c.toNat < 128 then c.toNat < 32 || c.toNat == 127
  else CodeRange.holds unprintableRanges c.toNat

/-! ### How the classes relate -/

theorem isWordPart_of_isAlphanumeric {c : Char} (h : isAlphanumeric c = true) :
    isWordPart c = true := by
  unfold isWordPart
  rw [h, Bool.true_or]

theorem toNat_lt_of_isDigit {c : Char} (h : c.isDigit = true) : 48 ≤ c.toNat ∧ c.toNat ≤ 57 := by
  unfold Char.isDigit at h
  rw [Bool.and_eq_true, decide_eq_true_eq, decide_eq_true_eq] at h
  exact ⟨UInt32.le_iff_toNat_le.1 h.1, UInt32.le_iff_toNat_le.1 h.2⟩

theorem isAlphanumeric_of_isDigit {c : Char} (h : c.isDigit = true) :
    isAlphanumeric c = true := by
  have bound := toNat_lt_of_isDigit h
  unfold isAlphanumeric
  rw [if_pos (by omega)]
  unfold Char.isAlphanum
  rw [h, Bool.or_true]

theorem isWordPart_of_isDigit {c : Char} (h : c.isDigit = true) : isWordPart c = true :=
  isWordPart_of_isAlphanumeric (isAlphanumeric_of_isDigit h)

end SyntaxCheck
