import SyntaxCheck.Binary64.Basic

/-!
# The shortest decimal that reads back

A decimal reads back as a positive double when it lies in the interval of the numbers that round to it.
Among the decimals of that interval the ones with the fewest digits are taken, and of those the nearest;
of two equally near ones the upper. On the grid of the decimals with a given digit count only the
two neighbours of the double need to be looked at.

* `Decimal` - a number `digits * 10 ^ exponent`;
* `Interval`, `Interval.contains` - the numbers that round to a double;
* `Interval.onGrid` - the better neighbour on a grid, if one lies in the interval;
* `Binary64.shortest` - the decimal of a positive finite double.

All ends are counted in quarters of the unit `2 ^ (-1074)`.
-/

namespace SyntaxCheck

/-- The number `digits * 10 ^ exponent`. -/
structure Decimal where
  digits : Nat
  exponent : Int
  deriving DecidableEq

/-- The numbers that round to a double; the ends belong to it when `closed`. -/
structure Interval where
  lower : Nat
  value : Nat
  upper : Nat
  closed : Bool

namespace Interval

/-- How many quarter units make one. -/
def quartersPerOne : Nat := 4 * Binary64.unitsPerOne

/-- The numbers that round to `m * 2 ^ k` units. Below a power of two the doubles lie twice as dense,
and a tie goes to the even significand. -/
def around (m k : Nat) : Interval where
  lower := (4 * m - (if m = Binary64.fractionSize ∧ 0 < k then 1 else 2)) * Nat.pow 2 k
  value := 4 * m * Nat.pow 2 k
  upper := (4 * m + 2) * Nat.pow 2 k
  closed := m % 2 == 0

/-- The number `num / den` quarter units lies in the interval. -/
def contains (i : Interval) (num den : Nat) : Bool :=
  if i.closed then i.lower * den ≤ num && num ≤ i.upper * den
  else i.lower * den < num && num < i.upper * den

/-- The better neighbour of the double among the multiples of `10 ^ exponent`. -/
def onGrid (i : Interval) (exponent : Int) : Option Decimal :=
  let stretch := Nat.pow 10 (-exponent).toNat
  let step := quartersPerOne * Nat.pow 10 exponent.toNat
  let below := i.value * stretch / step
  let belowFits := i.contains (below * step) stretch
  let aboveFits := i.contains ((below + 1) * step) stretch
  let belowNearer := 2 * (i.value * stretch % step) < step
  if belowFits && (belowNearer || !aboveFits) then some ⟨below, exponent⟩
  else if aboveFits then some ⟨below + 1, exponent⟩
  else none

/-- The exponent of the leading decimal digit of the double. -/
def leadingExponent (i : Interval) : Int :=
  if quartersPerOne ≤ i.value then
    ((Nat.toDigits 10 (i.value / quartersPerOne)).length - 1 : Nat)
  else
    let length := (Nat.toDigits 10 (quartersPerOne / i.value)).length
    if quartersPerOne ≤ i.value * Nat.pow 10 (length - 1) then -((length - 1 : Nat) : Int)
    else -length

/-- The first hit on the grids with so many digits and more; seventeen always suffice. -/
def search (i : Interval) (leading : Int) : (grids digits : Nat) → Decimal
  | 0, digits => ⟨i.value / quartersPerOne, leading + 1 - digits⟩
  | grids + 1, digits =>
    (i.onGrid (leading + 1 - digits)).getD (search i leading grids (digits + 1))

/-- The shortest decimal in the interval. -/
def shortest (i : Interval) : Decimal :=
  i.search i.leadingExponent 17 1

end Interval

namespace Binary64

/-- The power of two that scales the significand, from the bits without the sign. -/
def power (magnitude : Nat) : Nat := magnitude / fractionSize - 1

/-- The significand, from the bits without the sign. -/
def significand (magnitude : Nat) : Nat := magnitude - power magnitude * fractionSize

/-- The shortest decimal of a positive finite double, from its bits. -/
def shortest (magnitude : Nat) : Decimal :=
  (Interval.around (significand magnitude) (power magnitude)).shortest

end Binary64

end SyntaxCheck
