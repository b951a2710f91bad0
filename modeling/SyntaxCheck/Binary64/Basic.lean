/-!
# Doubles

A double is kept as its 64 bits. Below the infinity, the bits of the non-negative doubles count them in
ascending order: with the fraction field of `2 ^ 52` steps, the bits `k * 2 ^ 52 + m` for
`m < 2 ^ 53`, where `2 ^ 52 ≤ m` unless `k = 0`, stand for `m * 2 ^ k` units of `2 ^ (-1074)`.

* `roundHalfEven` - the integer nearest to a ratio, a half going to the even neighbour;
* `Binary64.nearestBits`, `Binary64.nearest` - the double nearest to a ratio;
* `Binary64.ofDecimal` - the double nearest to a number written with a decimal point.
-/

namespace SyntaxCheck

/-- The integer nearest to `num / den`; a half goes to the even neighbour. -/
def roundHalfEven (num den : Nat) : Nat :=
  if 2 * (num % den) < den then num / den
  else if den < 2 * (num % den) then num / den + 1
  else num / den + num / den % 2

/-- A double, by its bits in the interchange format. -/
structure Binary64 where
  bits : UInt64
  deriving DecidableEq

namespace Binary64

/-- How many doubles a fraction field tells apart. -/
def fractionSize : Nat := Nat.pow 2 52

/-- The bits of the positive infinity. -/
def infinityBits : Nat := 2047 * fractionSize

/-- One over the smallest positive double. -/
def unitsPerOne : Nat := Nat.pow 2 1074

/-- The power of two that scales the significand of a number of so many units. -/
def scale (units : Nat) : Nat := units.log2 - 52

/-- The bits of the double nearest to `num / den`. A significand rounded up to `2 ^ 53` carries into
the exponent by the addition, and what would lie beyond the largest double is the infinity. -/
def nearestBits (num den : Nat) : Nat :=
  let k := scale (num * unitsPerOne / den)
  min (k * fractionSize + roundHalfEven (num * unitsPerOne) (den * Nat.pow 2 k)) infinityBits

/-- The double nearest to `num / den`. -/
def nearest (num den : Nat) : Binary64 :=
  ⟨UInt64.ofNat (nearestBits num den)⟩

/-- The double nearest to `whole.fraction`, both runs of decimal digits. -/
def ofDecimal (whole fraction : List Char) : Binary64 :=
  nearest (Nat.ofDigitChars 10 (whole ++ fraction) 0) (Nat.pow 10 fraction.length)

theorem nearestBits_le (num den : Nat) : nearestBits num den ≤ infinityBits :=
  Nat.min_le_right _ _

@[simp] theorem toNat_bits_nearest (num den : Nat) :
    (nearest num den).bits.toNat = nearestBits num den := by
  have bound : nearestBits num den < UInt64.size :=
    Nat.lt_of_le_of_lt (nearestBits_le num den) (by decide)
  exact UInt64.toNat_ofNat_of_lt' bound

end Binary64

end SyntaxCheck
