import Mathlib
import SyntaxCheck.Binary64.Shortest

/-!
# The numbers that doubles stand for

The sign, the exponent and the fraction of a double are fields of its bits. Without the sign, the bits of the
finite doubles count them in ascending order.

* `Binary64.exponentField`, `Binary64.fractionField`, `Binary64.IsFinite` - the fields of the interchange
  format;
* `Binary64.value` - the number that a finite double stands for;
* `Binary64.units`, `Binary64.value_eq` - the same, counted in the smallest positive double;
* `Binary64.units_add`, `Binary64.units_strictMono` - the units of the doubles of one exponent, and the order
  of all of them;
* `Binary64.units_cases` - the doubles on a grid, and those below it.
-/

namespace SyntaxCheck

namespace Binary64

/-! ### Fields -/

/-- The bits without the sign. -/
def magnitude (x : Binary64) : Nat := x.bits.toNat % 2 ^ 63

/-- The eleven bits that hold the exponent. -/
def exponentField (x : Binary64) : Nat := x.magnitude / 2 ^ 52

/-- The lowest bits hold the fraction. -/
def fractionField (x : Binary64) : Nat := x.magnitude % 2 ^ 52

/-- The highest bit is clear. -/
def IsPositive (x : Binary64) : Prop := x.bits.toNat < 2 ^ 63

/-- Only the largest exponent is taken for infinities and for what is no number. -/
def IsFinite (x : Binary64) : Prop := x.exponentField < 2047

instance (x : Binary64) : Decidable x.IsPositive := Nat.decLt _ _

instance (x : Binary64) : Decidable x.IsFinite := Nat.decLt _ _

/-- The number that a finite double stands for. The smallest exponent is that of the subnormal numbers; for
the others a one stands before the fraction. -/
def value (x : Binary64) : ℚ :=
  (if x.IsPositive then 1 else -1) *
    if x.exponentField = 0 then (x.fractionField : ℚ) * 2 ^ (-1074 : ℤ)
    else (2 ^ 52 + x.fractionField : ℚ) * 2 ^ ((x.exponentField : ℤ) - 1075)

theorem fractionSize_eq : fractionSize = 4503599627370496 := rfl

theorem cast_fractionSize : (fractionSize : ℚ) = 4503599627370496 := by
  rw [fractionSize_eq, Nat.cast_ofNat]

theorem infinityBits_eq : infinityBits = 2047 * fractionSize := rfl

theorem magnitude_eq_of_isPositive {x : Binary64} (positive : x.IsPositive) :
    x.magnitude = x.bits.toNat :=
  Nat.mod_eq_of_lt positive

theorem isFinite_iff {x : Binary64} : x.IsFinite ↔ x.magnitude < infinityBits := by
  have literal : 2 ^ 52 = 4503599627370496 := rfl
  unfold IsFinite exponentField
  rw [infinityBits_eq, fractionSize_eq, literal]
  omega

theorem eq_of_magnitude_eq {x y : Binary64} (positive : x.IsPositive) (positive' : y.IsPositive)
    (same : x.magnitude = y.magnitude) : x = y := by
  rw [magnitude_eq_of_isPositive positive, magnitude_eq_of_isPositive positive'] at same
  cases x
  cases y
  exact congrArg mk (UInt64.toNat_inj.1 same)

/-! ### Units -/

/-- How often the smallest positive double goes into the double with these bits. -/
def units (magnitude : Nat) : Nat := significand magnitude * 2 ^ power magnitude

/-- The significand fills its 53 bits, unless the exponent is the smallest. -/
theorem significand_spec (magnitude : Nat) :
    power magnitude * fractionSize + significand magnitude = magnitude ∧
      (fractionSize ≤ significand magnitude ∨ power magnitude = 0) ∧
      significand magnitude < 2 * fractionSize := by
  unfold significand power
  rw [fractionSize_eq]
  omega

/-- The units of the doubles that have an exponent, and of the one behind them. -/
theorem units_add {k m : Nat} (normal : fractionSize ≤ m ∨ k = 0) (le : m ≤ 2 * fractionSize) :
    units (k * fractionSize + m) = m * 2 ^ k := by
  rcases Nat.lt_or_eq_of_le le with less | rfl
  · have exponent : power (k * fractionSize + m) = k := by
      unfold power
      rw [fractionSize_eq] at *
      omega
    rw [units, significand, exponent, Nat.add_sub_cancel_left]
  · -- the first double of the next exponent
    have exponent : power (k * fractionSize + 2 * fractionSize) = k + 1 := by
      unfold power
      rw [fractionSize_eq]
      omega
    have rest : k * fractionSize + 2 * fractionSize - (k + 1) * fractionSize = fractionSize := by
      rw [fractionSize_eq]
      omega
    rw [units, significand, exponent, rest, Nat.pow_succ]
    ring

theorem units_lt_succ (magnitude : Nat) : units magnitude < units (magnitude + 1) := by
  obtain ⟨split, normal, less⟩ := significand_spec magnitude
  have next := units_add (k := power magnitude) (m := significand magnitude + 1) (by omega) (by omega)
  rw [← Nat.add_assoc, split] at next
  rw [next, units]
  exact Nat.mul_lt_mul_of_pos_right (Nat.lt_succ_self _) (Nat.two_pow_pos _)

theorem units_strictMono : StrictMono units := strictMono_nat_of_lt_succ units_lt_succ

@[simp] theorem units_zero : units 0 = 0 := Nat.zero_mul _

/-- Every double is a multiple of a power of two, or it lies below the exponent of that. -/
theorem units_cases (magnitude k : Nat) :
    (∃ j, units magnitude = j * 2 ^ k) ∨ units magnitude < fractionSize * 2 ^ k := by
  obtain ⟨-, -, less⟩ := significand_spec magnitude
  unfold units
  rcases Nat.lt_or_ge (power magnitude) k with below | above
  · right
    calc significand magnitude * 2 ^ power magnitude
        < 2 * fractionSize * 2 ^ power magnitude := Nat.mul_lt_mul_of_pos_right less (Nat.two_pow_pos _)
      _ = fractionSize * 2 ^ (power magnitude + 1) := by ring
      _ ≤ fractionSize * 2 ^ k := Nat.mul_le_mul_left _ (Nat.pow_le_pow_right (by decide) below)
  · left
    obtain ⟨d, same⟩ := Nat.exists_eq_add_of_le above
    exact ⟨significand magnitude * 2 ^ d, by rw [same]; ring⟩

theorem cast_unitsPerOne : (unitsPerOne : ℚ) = 2 ^ 1074 := by
  unfold unitsPerOne
  generalize 1074 = exponent
  exact Nat.cast_pow 2 exponent

theorem unitsPerOne_pos : (0 : ℚ) < unitsPerOne := by
  rw [cast_unitsPerOne]
  exact pow_pos two_pos 1074

/-- The number that a double stands for, counted in units. -/
theorem value_eq (x : Binary64) :
    x.value = (if x.IsPositive then 1 else -1) * (units x.magnitude / unitsPerOne : ℚ) := by
  have split : x.magnitude = x.exponentField * fractionSize + x.fractionField := by
    have literal : 2 ^ 52 = 4503599627370496 := rfl
    unfold exponentField fractionField
    rw [fractionSize_eq, literal]
    omega
  have less : x.fractionField < fractionSize := Nat.mod_lt _ (by decide)
  unfold value
  congr 1
  rw [cast_unitsPerOne, split]
  cases exponent : x.exponentField with
  | zero =>
    rw [if_pos rfl, units_add (.inr rfl) (by omega), pow_zero, mul_one, zpow_neg, zpow_ofNat,
      ← div_eq_mul_inv]
  | succ k =>
    have shifted : (k + 1) * fractionSize + x.fractionField =
        k * fractionSize + (fractionSize + x.fractionField) := by ring
    have power : ((k + 1 : ℕ) : ℤ) - 1075 = (k : ℤ) - (1074 : ℕ) := by push_cast; ring
    rw [if_neg (Nat.succ_ne_zero k), shifted, units_add (.inl (Nat.le_add_right _ _)) (by omega), power,
      zpow_sub₀ two_ne_zero, zpow_natCast, zpow_natCast, ← mul_div_assoc]
    push_cast
    rfl

example : (⟨0x3FE0000000000000⟩ : Binary64).value = 1 / 2 := by decide +kernel

example : (⟨0x8000000000000001⟩ : Binary64).value = -1 / 2 ^ 1074 := by decide +kernel

theorem value_of_isPositive {x : Binary64} (positive : x.IsPositive) :
    x.value = units x.magnitude / unitsPerOne := by
  rw [value_eq, if_pos positive, one_mul]

/-- Finite doubles without a sign have the order of their bits. -/
theorem value_le_iff {x y : Binary64} (positive : x.IsPositive) (positive' : y.IsPositive) :
    x.value ≤ y.value ↔ x.magnitude ≤ y.magnitude := by
  rw [value_of_isPositive positive, value_of_isPositive positive',
    div_le_div_iff_of_pos_right unitsPerOne_pos, Nat.cast_le, units_strictMono.le_iff_le]

end Binary64

end SyntaxCheck
