import SyntaxCheck.Binary64.Shortest

/-!
# Doubles as text

* `DecimalStyle` - which numbers are written by position, and the ending of a whole one;
* `Decimal.render` - a decimal in a style;
* `Binary64.render` - a double in the style of the journal.
-/

namespace SyntaxCheck

/-- How a decimal is laid out. The exponents are those of the leading digit. -/
structure DecimalStyle where
  /-- From this exponent on a number is written with an exponent. -/
  positionalBelow : Int
  /-- Below this exponent a number is written with an exponent. -/
  positionalFrom : Int
  /-- What follows a whole number written by position. -/
  wholeEnding : List Char

namespace Decimal

/-- The digits without the zeros at their end. -/
def significantDigits (d : Decimal) : List Char :=
  ((Nat.toDigits 10 d.digits).reverse.dropWhile (· == '0')).reverse

/-- The exponent of the leading digit. -/
def leading (d : Decimal) : Int :=
  d.exponent + ((Nat.toDigits 10 d.digits).length - 1 : Nat)

/-- One digit, the point and the others, and the exponent. -/
def renderScientific (digits : List Char) (leading : Int) : List Char :=
  let fraction := digits.tail
  digits.take 1 ++ (if fraction.isEmpty then [] else '.' :: fraction) ++ ['e'] ++
    (if leading < 0 then ['-'] else []) ++ Nat.toDigits 10 leading.natAbs

/-- The digits around a point at their place. -/
def renderPositional (style : DecimalStyle) (digits : List Char) (leading : Int) : List Char :=
  if leading < 0 then
    ['0', '.'] ++ List.replicate (leading.natAbs - 1) '0' ++ digits
  else
    let wholeLength := leading.toNat + 1
    let whole := digits.take wholeLength
    let fraction := digits.drop wholeLength
    whole ++ List.replicate (wholeLength - whole.length) '0' ++
      (if fraction.isEmpty then style.wholeEnding else '.' :: fraction)

/-- A decimal in a style. -/
def render (style : DecimalStyle) (d : Decimal) : List Char :=
  if style.positionalFrom ≤ d.leading ∧ d.leading < style.positionalBelow then
    renderPositional style d.significantDigits d.leading
  else renderScientific d.significantDigits d.leading

end Decimal

namespace Binary64

/-- Numbers from `0.0001` to below `10 ^ 16` are written by position, and a whole one ends in `.0`. -/
def style : DecimalStyle := ⟨16, -4, ['.', '0']⟩

/-- A double with the sign left out. -/
def renderMagnitude (magnitude : Nat) : List Char :=
  if magnitude = 0 then ['0'] ++ style.wholeEnding
  else if magnitude < infinityBits then (shortest magnitude).render style
  else ['i', 'n', 'f']

/-- The bit that holds the sign. -/
def signBit : Nat := Nat.pow 2 63

/-- A double as text. -/
def render (x : Binary64) : String :=
  let magnitude := x.bits.toNat % signBit
  let sign := if x.bits.toNat < signBit then [] else ['-']
  if infinityBits < magnitude then "NaN"
  else String.ofList (sign ++ renderMagnitude magnitude)

end Binary64

end SyntaxCheck
