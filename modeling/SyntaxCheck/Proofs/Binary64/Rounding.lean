import SyntaxCheck.Proofs.Binary64.Value

/-!
# Rounding to the nearest double

The double nearest to a ratio is found by rounding a significand once. The doubles with the exponent of the
ratio are a grid; those with smaller exponents all lie below it, and so no nearer.

* `Binary64.IsNearest` - rounding to the nearest, with ties to even, without a word about how it is done;
* `Binary64.IsNearest.unique`, `Binary64.IsNearest.mono` - a number has one nearest double, and a larger number
  has no smaller one;
* `Binary64.RoundsTo`, `Binary64.roundsTo_roundHalfEven` - a significand on the grid of the exponent;
* `Binary64.RoundsTo.nearest_units` - no double is nearer than the one of that significand;
* `Binary64.RoundsTo.lt_iff` - which numbers overflow;
* `Binary64.isNearest_nearest` - the double that is found is the nearest one.
-/

namespace SyntaxCheck

namespace Binary64

/-! ### The nearest double -/

/-- From half a step behind the largest double on, numbers are rounded to the infinity. -/
def overflowThreshold : ℚ := 2 ^ 1024 - 2 ^ 970

/-- The double nearest to a number that is not negative, by the rule of the standard: among two that are
equally near, it is the one whose last bit is zero. -/
structure IsNearest (q : ℚ) (x : Binary64) : Prop where
  positive : x.IsPositive
  overflow : overflowThreshold ≤ q → x.bits = 0x7FF0000000000000
  finite : q < overflowThreshold → x.IsFinite
  nearest : q < overflowThreshold → ∀ y : Binary64, y.IsFinite → |x.value - q| ≤ |y.value - q|
  even : q < overflowThreshold → ∀ y : Binary64, y.IsFinite → y.value ≠ x.value →
    |y.value - q| = |x.value - q| → x.fractionField % 2 = 0

/-- The double without a sign that has these other bits. -/
def ofMagnitude (magnitude : Nat) : Binary64 := ⟨UInt64.ofNat magnitude⟩

section Magnitude

variable {n : Nat}

theorem toNat_bits_ofMagnitude (le : n ≤ infinityBits) : (ofMagnitude n).bits.toNat = n :=
  UInt64.toNat_ofNat_of_lt' (Nat.lt_of_le_of_lt le (by decide))

theorem isPositive_ofMagnitude (le : n ≤ infinityBits) : (ofMagnitude n).IsPositive := by
  unfold IsPositive
  rw [toNat_bits_ofMagnitude le]
  exact Nat.lt_of_le_of_lt le (by decide)

theorem magnitude_ofMagnitude (le : n ≤ infinityBits) : (ofMagnitude n).magnitude = n := by
  rw [magnitude_eq_of_isPositive (isPositive_ofMagnitude le), toNat_bits_ofMagnitude le]

theorem isFinite_ofMagnitude (less : n < infinityBits) : (ofMagnitude n).IsFinite := by
  rw [isFinite_iff, magnitude_ofMagnitude (Nat.le_of_lt less)]
  exact less

theorem value_ofMagnitude (le : n ≤ infinityBits) : (ofMagnitude n).value = units n / unitsPerOne := by
  rw [value_of_isPositive (isPositive_ofMagnitude le), magnitude_ofMagnitude le]

end Magnitude

theorem fractionField_mod_two (x : Binary64) : x.fractionField % 2 = x.magnitude % 2 := by
  have literal : 2 ^ 52 = 4503599627370496 := rfl
  unfold fractionField
  rw [literal]
  omega

/-- The nearer one of two numbers tells on which side of their midpoint a number lies. -/
theorem le_two_mul_of_nearer {a b q : ℚ} (less : b < a) (nearer : |a - q| ≤ |b - q|) : a + b ≤ 2 * q := by
  rcases abs_cases (a - q) with ⟨h, _⟩ | ⟨h, _⟩ <;> rcases abs_cases (b - q) with ⟨h', _⟩ | ⟨h', _⟩ <;>
    linarith

theorem two_mul_le_of_nearer {a b q : ℚ} (less : b < a) (nearer : |b - q| ≤ |a - q|) : 2 * q ≤ a + b := by
  rcases abs_cases (a - q) with ⟨h, _⟩ | ⟨h, _⟩ <;> rcases abs_cases (b - q) with ⟨h', _⟩ | ⟨h', _⟩ <;>
    linarith

namespace IsNearest

variable {q q' : ℚ} {x y : Binary64}

theorem value_lt (hx : IsNearest q x) (hy : IsNearest q y) (less : x.magnitude < y.magnitude) :
    x.value < y.value :=
  lt_of_not_ge fun le =>
    Nat.not_le_of_lt less ((value_le_iff hy.positive hx.positive).1 le)

/-- Of two doubles that are equally near and both even, the larger one is not the next one. So a double
between them would be nearer. -/
theorem not_magnitude_lt (hx : IsNearest q x) (hy : IsNearest q y) : ¬x.magnitude < y.magnitude := by
  intro less
  rcases le_or_gt overflowThreshold q with above | below
  · have same : x = y := by
      cases x
      cases y
      exact congrArg Binary64.mk ((hx.overflow above).trans (hy.overflow above).symm)
    exact Nat.lt_irrefl _ (same ▸ less)
  have ascending := hx.value_lt hy less
  have tie : |x.value - q| = |y.value - q| :=
    le_antisymm (hx.nearest below y (hy.finite below)) (hy.nearest below x (hx.finite below))
  have evenX := hx.even below y (hy.finite below) ascending.ne' tie.symm
  have evenY := hy.even below x (hx.finite below) ascending.ne tie
  rw [fractionField_mod_two] at evenX evenY
  have finite := isFinite_iff.1 (hy.finite below)
  have between : x.magnitude + 1 < y.magnitude := by omega
  have value := value_ofMagnitude (n := x.magnitude + 1) (by omega)
  have near := hx.nearest below _ (isFinite_ofMagnitude (n := x.magnitude + 1) (by omega))
  have left : x.value < (ofMagnitude (x.magnitude + 1)).value := by
    rw [value, value_of_isPositive hx.positive, div_lt_div_iff_of_pos_right unitsPerOne_pos, Nat.cast_lt]
    exact units_lt_succ _
  have right : (ofMagnitude (x.magnitude + 1)).value < y.value := by
    rw [value, value_of_isPositive hy.positive, div_lt_div_iff_of_pos_right unitsPerOne_pos, Nat.cast_lt]
    exact units_strictMono between
  have lower := two_mul_le_of_nearer left near
  have upper := le_two_mul_of_nearer ascending tie.ge
  linarith

/-- A number has one nearest double. -/
theorem unique (hx : IsNearest q x) (hy : IsNearest q y) : x = y :=
  eq_of_magnitude_eq hx.positive hy.positive
    (Nat.le_antisymm (Nat.le_of_not_lt (hy.not_magnitude_lt hx)) (Nat.le_of_not_lt (hx.not_magnitude_lt hy)))

/-- The double nearest to a larger number is no smaller, and an infinity only behind one. -/
theorem mono (hx : IsNearest q x) (hy : IsNearest q' y) (le : q ≤ q') (finite : y.IsFinite) :
    x.IsFinite ∧ x.value ≤ y.value := by
  have below' : q' < overflowThreshold := by
    refine lt_of_not_ge fun above => ?_
    rw [IsFinite, exponentField, magnitude, hy.overflow above] at finite
    exact absurd finite (by decide)
  have below := lt_of_le_of_lt le below'
  refine ⟨hx.finite below, le_of_not_gt fun descending => ?_⟩
  have lower := le_two_mul_of_nearer descending (hx.nearest below y finite)
  have upper := two_mul_le_of_nearer descending (hy.nearest below' x (hx.finite below))
  -- both numbers are the midpoint
  have same : q = q' := by linarith
  exact absurd (congrArg value (hx.unique (same ▸ hy))) descending.ne'

end IsNearest

/-! ### Rounding a significand -/

/-- The nearest integer is off by a half at most, and even if it is. -/
theorem roundHalfEven_near (num : Nat) {den : Nat} (pos : 0 < den) :
    |(roundHalfEven num den : ℚ) - num / den| ≤ 1 / 2 ∧
      (|(roundHalfEven num den : ℚ) - num / den| = 1 / 2 → roundHalfEven num den % 2 = 0) := by
  have positive : (0 : ℚ) < den := Nat.cast_pos.2 pos
  have whole : den * (num / den) + num % den = num := Nat.div_add_mod num den
  have less : num % den < den := Nat.mod_lt num pos
  unfold roundHalfEven
  generalize num / den = quotient at whole
  generalize num % den = rest at whole less
  have split : (num / den : ℚ) = quotient + rest / den := by
    rw [← whole]
    push_cast
    field_simp
  have nonneg : 0 ≤ (rest : ℚ) / den := by positivity
  have lt_one : (rest : ℚ) / den < 1 := by
    rw [div_lt_one positive]
    exact_mod_cast less
  rw [split]
  split_ifs with below above
  · have half : (rest : ℚ) / den < 1 / 2 := by
      rw [div_lt_div_iff₀ positive two_pos]
      norm_cast
      omega
    have error : |(quotient : ℚ) - (quotient + rest / den)| < 1 / 2 := by
      rwa [sub_add_cancel_left, abs_neg, abs_of_nonneg nonneg]
    exact ⟨error.le, fun tie => absurd tie error.ne⟩
  · have half : 1 / 2 < (rest : ℚ) / den := by
      rw [div_lt_div_iff₀ two_pos positive]
      norm_cast
      omega
    have error : |((quotient + 1 : ℕ) : ℚ) - (quotient + rest / den)| < 1 / 2 := by
      push_cast
      rw [add_sub_add_left_eq_sub, abs_of_pos (by linarith)]
      linarith
    exact ⟨error.le, fun tie => absurd tie error.ne⟩
  · have half : (rest : ℚ) / den = 1 / 2 := by
      rw [div_eq_div_iff positive.ne' two_ne_zero]
      norm_cast
      omega
    have even : (quotient + quotient % 2) % 2 = 0 := by omega
    refine ⟨le_of_eq ?_, fun _ => even⟩
    rw [half]
    rcases Nat.mod_two_eq_zero_or_one quotient with same | next
    · rw [same, Nat.add_zero, sub_add_cancel_left, abs_neg, abs_of_pos one_half_pos]
    · rw [next]
      push_cast
      rw [add_sub_add_left_eq_sub]
      norm_num

/-- The number of units `r` is rounded to `m` steps of `2 ^ k` units, where `k` is the exponent of `r`. -/
structure RoundsTo (r : ℚ) (k m : Nat) : Prop where
  upper : r < 2 * fractionSize * 2 ^ k
  lower : fractionSize * 2 ^ k ≤ r ∨ k = 0
  near : |m - r / 2 ^ k| ≤ 1 / 2
  even : |m - r / 2 ^ k| = 1 / 2 → m % 2 = 0

/-- The exponent of a number leaves 53 bits of it, unless it is the smallest one. -/
theorem scale_spec (t : Nat) :
    t < 2 * fractionSize * 2 ^ scale t ∧ (fractionSize * 2 ^ scale t ≤ t ∨ scale t = 0) := by
  have size : fractionSize = 2 ^ 52 := rfl
  have upper : t < 2 ^ (t.log2 + 1) := Nat.lt_log2_self
  unfold scale
  rw [size, ← Nat.pow_succ', ← Nat.pow_add, ← Nat.pow_add]
  refine ⟨Nat.lt_of_lt_of_le upper (Nat.pow_le_pow_right two_pos (by omega)), ?_⟩
  rcases Nat.lt_or_ge 52 t.log2 with normal | small
  · left
    rw [Nat.add_sub_cancel' (Nat.le_of_lt normal)]
    exact Nat.log2_self_le fun none => absurd normal (by rw [none]; decide)
  · exact .inr (Nat.sub_eq_zero_of_le small)

/-- The exponent and the significand of the nearest double. -/
theorem roundsTo_roundHalfEven (num : Nat) {den : Nat} (pos : 0 < den) :
    RoundsTo (num / den) (scale (num / den)) (roundHalfEven num (den * 2 ^ scale (num / den))) := by
  have positive : (0 : ℚ) < den := Nat.cast_pos.2 pos
  obtain ⟨upper, lower⟩ := scale_spec (num / den)
  generalize scale (num / den) = k at upper lower
  obtain ⟨near, even⟩ := roundHalfEven_near num (Nat.mul_pos pos (Nat.two_pow_pos k))
  push_cast at near even
  rw [← div_div] at near even
  refine ⟨?_, lower.imp_left fun lower => ?_, near, even⟩
  · rw [div_lt_iff₀ positive]
    rw [Nat.div_lt_iff_lt_mul pos] at upper
    exact_mod_cast upper
  · rw [le_div_iff₀ positive]
    rw [Nat.le_div_iff_mul_le pos] at lower
    exact_mod_cast lower

namespace RoundsTo

variable {r : ℚ} {k m : Nat}

theorem le (h : RoundsTo r k m) : m ≤ 2 * fractionSize := by
  have part : r / 2 ^ k < 2 * fractionSize := by
    rw [div_lt_iff₀ (by positivity)]
    exact h.upper
  have near := (abs_le.1 h.near).2
  have less : (m : ℚ) < (2 * fractionSize + 1 : ℕ) := by
    push_cast
    linarith
  exact Nat.le_of_lt_succ (Nat.cast_lt.1 less)

theorem normal (h : RoundsTo r k m) : fractionSize ≤ m ∨ k = 0 := by
  refine h.lower.imp_left fun lower => ?_
  have part : fractionSize ≤ r / 2 ^ k := by
    rw [le_div_iff₀ (by positivity)]
    exact lower
  have near := (abs_le.1 h.near).1
  have less : (fractionSize : ℚ) < (m + 1 : ℕ) := by
    push_cast
    linarith
  exact Nat.le_of_lt_succ (Nat.cast_lt.1 less)

/-- The bits of the rounded number. -/
theorem units_eq (h : RoundsTo r k m) : units (k * fractionSize + m) = m * 2 ^ k :=
  units_add h.normal h.le

/-- No other integer is nearer. -/
theorem nearest_steps (h : RoundsTo r k m) (j : Nat) : |m - r / 2 ^ k| ≤ |j - r / 2 ^ k| ∧
    (j ≠ m → |j - r / 2 ^ k| = |m - r / 2 ^ k| → m % 2 = 0) := by
  rcases eq_or_ne j m with rfl | other
  · exact ⟨le_rfl, fun differs => absurd rfl differs⟩
  -- two integers lie at least one apart
  have apart : (1 : ℚ) ≤ |(j : ℚ) - m| := by
    have apart : 1 ≤ |(j : ℤ) - m| := Int.one_le_abs (by omega)
    exact_mod_cast apart
  have triangle := abs_sub_le (j : ℚ) (r / 2 ^ k) m
  rw [abs_sub_comm (r / 2 ^ k) (m : ℚ)] at triangle
  have near := h.near
  exact ⟨by linarith, fun _ tie => h.even (by linarith)⟩

/-- No double is nearer. -/
theorem nearest_units (h : RoundsTo r k m) (n : Nat) : |m * 2 ^ k - r| ≤ |units n - r| ∧
    ((units n : ℚ) ≠ m * 2 ^ k → |units n - r| = |m * 2 ^ k - r| → m % 2 = 0) := by
  have pos : (0 : ℚ) < 2 ^ k := by positivity
  have scaled : ∀ j : Nat, |(j * 2 ^ k - r : ℚ)| = |j - r / 2 ^ k| * 2 ^ k := by
    intro j
    rw [← abs_of_pos pos, ← abs_mul, abs_of_pos pos, sub_mul, div_mul_cancel₀ _ pos.ne']
  -- on the grid it is a matter of integers, and below it the grid is nearer
  have grid : (∃ j, units n = j * 2 ^ k) ∨ (units n : ℚ) < fractionSize * 2 ^ k ∧ fractionSize * 2 ^ k ≤ r := by
    rcases h.lower with lower | rfl
    · refine (units_cases n k).imp_right fun below => ⟨?_, lower⟩
      exact_mod_cast below
    · exact .inl ⟨units n, by rw [pow_zero, mul_one]⟩
  rcases grid with ⟨j, on⟩ | ⟨below, lower⟩
  · obtain ⟨nearest, even⟩ := h.nearest_steps j
    rw [on]
    push_cast
    rw [scaled, scaled, mul_le_mul_iff_of_pos_right pos, mul_left_inj' pos.ne']
    exact ⟨nearest, fun differs => even fun same => differs (by rw [same])⟩
  · have nearest := (h.nearest_steps fractionSize).1
    rw [← mul_le_mul_iff_of_pos_right pos, ← scaled, ← scaled,
      abs_of_nonpos (a := (fractionSize * 2 ^ k - r : ℚ)) (by linarith)] at nearest
    have farther : |m * 2 ^ k - r| < |units n - r| := by
      rw [abs_of_neg (a := (units n - r : ℚ)) (by linarith)]
      linarith
    exact ⟨farther.le, fun _ tie => absurd tie farther.ne'⟩

/-- No double is nearer, with a sign or without. -/
theorem nearest_value (h : RoundsTo r k m) (nonneg : 0 ≤ r) (y : Binary64) :
    |m * 2 ^ k - r| ≤ |y.value * unitsPerOne - r| ∧ (y.value * unitsPerOne ≠ m * 2 ^ k →
      |y.value * unitsPerOne - r| = |m * 2 ^ k - r| → m % 2 = 0) := by
  have scaled : y.value * unitsPerOne = (if y.IsPositive then 1 else -1) * units y.magnitude := by
    rw [value_eq, mul_assoc, div_mul_cancel₀ _ unitsPerOne_pos.ne']
  rw [scaled]
  by_cases positive : y.IsPositive
  · rw [if_pos positive, one_mul]
    exact h.nearest_units y.magnitude
  rw [if_neg positive, neg_one_mul]
  -- the zero is nearer than a number with a sign
  obtain ⟨nearest, even⟩ := h.nearest_units 0
  rw [units_zero, Nat.cast_zero] at nearest even
  rcases Nat.eq_zero_or_pos (units y.magnitude) with zero | pos
  · rw [zero, Nat.cast_zero, neg_zero]
    exact ⟨nearest, even⟩
  · have pos : (0 : ℚ) < units y.magnitude := Nat.cast_pos.2 pos
    have farther : |0 - r| < |-(units y.magnitude : ℚ) - r| := by
      rw [abs_of_nonpos (by linarith), abs_of_neg (by linarith)]
      linarith
    exact ⟨(nearest.trans_lt farther).le, fun _ tie => absurd tie (nearest.trans_lt farther).ne'⟩

/-- Below half a step behind the last double of an exponent, a number is not rounded beyond that one. -/
theorem lt_of_two_mul_lt (h : RoundsTo r k m) {e : Nat} (pos : 0 < e)
    (below : 2 * r < (4 * fractionSize - 1) * 2 ^ e) :
    k * fractionSize + m < (e + 2) * fractionSize := by
  have le := h.le
  rw [cast_fractionSize] at below
  have exponent : k ≤ e := by
    rcases h.lower with lower | rfl
    · rw [cast_fractionSize] at lower
      have less : (2 : ℚ) ^ k < 2 ^ (e + 1) := by
        rw [pow_succ]
        linarith [pow_pos (two_pos : (0 : ℚ) < 2) e]
      exact Nat.le_of_lt_succ ((pow_lt_pow_iff_right₀ one_lt_two).1 less)
    · exact Nat.zero_le e
  rcases Nat.lt_or_eq_of_le exponent with less | rfl
  · rw [fractionSize_eq] at *
    omega
  · have part : 2 * (r / 2 ^ k) < 4 * 4503599627370496 - 1 := by
      rw [← mul_div_assoc, div_lt_iff₀ (by positivity)]
      exact below
    have near := (abs_le.1 h.near).2
    have less : (m : ℚ) < (2 * 4503599627370496 : ℕ) := by
      push_cast
      linarith
    have less := Nat.cast_lt.1 less
    rw [fractionSize_eq]
    omega

/-- From there on it is: the significand of that double is odd. -/
theorem le_of_le_two_mul (h : RoundsTo r k m) {e : Nat}
    (above : (4 * fractionSize - 1) * 2 ^ e ≤ 2 * r) :
    (e + 2) * fractionSize ≤ k * fractionSize + m := by
  have upper := h.upper
  have normal := h.normal
  rw [cast_fractionSize] at above upper
  have exponent : e ≤ k := by
    have less : (2 : ℚ) ^ e < 2 ^ (k + 1) := by
      rw [pow_succ]
      linarith [pow_pos (two_pos : (0 : ℚ) < 2) e, pow_pos (two_pos : (0 : ℚ) < 2) k]
    exact Nat.le_of_lt_succ ((pow_lt_pow_iff_right₀ one_lt_two).1 less)
  rcases Nat.lt_or_eq_of_le exponent with less | rfl
  · rw [fractionSize_eq] at *
    omega
  · have part : 4 * 4503599627370496 - 1 ≤ 2 * (r / 2 ^ e) := by
      rw [← mul_div_assoc, le_div_iff₀ (by positivity)]
      exact above
    have near := abs_le.1 h.near
    have less : ((2 * 4503599627370496 : ℕ) : ℚ) < (m + 2 : ℕ) := by
      push_cast
      linarith
    have less := Nat.cast_lt.1 less
    have odd : m ≠ 2 * 4503599627370496 - 1 := by
      rintro rfl
      have tie : |((2 * 4503599627370496 - 1 : ℕ) : ℚ) - r / 2 ^ e| = 1 / 2 := by
        have cast : ((2 * 4503599627370496 - 1 : ℕ) : ℚ) = 9007199254740991 := Nat.cast_ofNat
        rw [cast] at near ⊢
        rw [abs_of_neg (by linarith)]
        linarith
      exact absurd (h.even tie) (by decide)
    rw [fractionSize_eq]
    omega

end RoundsTo

/-! ### The double that is found -/

theorem overflowThreshold_units :
    2 * (overflowThreshold * unitsPerOne) = (4 * fractionSize - 1) * 2 ^ 2045 := by
  have high : (2 : ℚ) ^ 1024 = 2 ^ 970 * 2 ^ 54 := pow_add 2 970 54
  have low : (2 : ℚ) ^ 2045 = 2 ^ 970 * 2 ^ 1074 * 2 := by rw [← pow_add, ← pow_succ]
  rw [overflowThreshold, cast_unitsPerOne, cast_fractionSize, high, low]
  generalize (2 : ℚ) ^ 970 = half
  generalize (2 : ℚ) ^ 1074 = one
  ring

/-- A number overflows if the bits of its rounding do. -/
theorem RoundsTo.lt_infinityBits_iff {q : ℚ} {k m : Nat} (h : RoundsTo (q * unitsPerOne) k m) :
    k * fractionSize + m < infinityBits ↔ q < overflowThreshold := by
  have threshold : (4 * fractionSize - 1) * 2 ^ 2045 ≤ 2 * (q * unitsPerOne) ↔ overflowThreshold ≤ q := by
    rw [← overflowThreshold_units, mul_le_mul_iff_of_pos_left two_pos,
      mul_le_mul_iff_of_pos_right unitsPerOne_pos]
  constructor
  · intro less
    exact lt_of_not_ge fun above =>
      Nat.not_le_of_lt less (h.le_of_le_two_mul (threshold.2 above))
  · intro below
    exact h.lt_of_two_mul_lt (by decide) (lt_of_not_ge (threshold.not.2 below.not_ge))

/-- The double that is found is the nearest one. -/
theorem isNearest_nearest (num : Nat) {den : Nat} (pos : 0 < den) :
    IsNearest (num / den) (nearest num den) := by
  have rounds := roundsTo_roundHalfEven (num * unitsPerOne) pos
  have counted : ((num * unitsPerOne : ℕ) / den : ℚ) = num / den * unitsPerOne := by
    push_cast
    ring
  have nonneg : (0 : ℚ) ≤ num / den * unitsPerOne :=
    mul_nonneg (div_nonneg num.cast_nonneg den.cast_nonneg) unitsPerOne_pos.le
  rw [counted] at rounds
  have found : nearest num den = ofMagnitude (min (scale (num * unitsPerOne / den) * fractionSize +
    roundHalfEven (num * unitsPerOne) (den * 2 ^ scale (num * unitsPerOne / den))) infinityBits) := rfl
  rw [found]
  generalize scale (num * unitsPerOne / den) = k at rounds
  generalize roundHalfEven (num * unitsPerOne) (den * 2 ^ k) = m at rounds
  generalize (num / den : ℚ) = q at rounds nonneg
  have le := Nat.min_le_right (k * fractionSize + m) infinityBits
  have overflow := rounds.lt_infinityBits_iff
  -- below the threshold, the bits are those of the significand
  have value : q < overflowThreshold →
      (ofMagnitude (min (k * fractionSize + m) infinityBits)).value * unitsPerOne = m * 2 ^ k := by
    intro below
    rw [value_ofMagnitude le, Nat.min_eq_left (Nat.le_of_lt (overflow.2 below)), rounds.units_eq,
      div_mul_cancel₀ _ unitsPerOne_pos.ne']
    push_cast
    rfl
  have distance : ∀ v : ℚ, |v - q| * unitsPerOne = |v * unitsPerOne - q * unitsPerOne| := by
    intro v
    rw [← sub_mul, abs_mul, abs_of_pos unitsPerOne_pos]
  refine ⟨isPositive_ofMagnitude le, fun above => ?_, fun below => ?_, fun below y _ => ?_,
    fun below y _ differs tie => ?_⟩
  · rw [Nat.min_eq_right (Nat.le_of_not_lt (overflow.not.2 above.not_gt))]
    rfl
  · rw [Nat.min_eq_left (Nat.le_of_lt (overflow.2 below))]
    exact isFinite_ofMagnitude (overflow.2 below)
  · rw [← mul_le_mul_iff_of_pos_right unitsPerOne_pos, distance, distance, value below]
    exact (rounds.nearest_value nonneg y).1
  · rw [← mul_left_inj' unitsPerOne_pos.ne', distance, distance, value below] at tie
    have differs : y.value * unitsPerOne ≠ m * 2 ^ k := by
      rw [← value below]
      exact fun same => differs ((mul_left_inj' unitsPerOne_pos.ne').1 same)
    have even := (rounds.nearest_value nonneg y).2 differs tie
    rw [fractionField_mod_two, magnitude_ofMagnitude le, Nat.min_eq_left (Nat.le_of_lt (overflow.2 below)),
      fractionSize_eq]
    omega

end Binary64

end SyntaxCheck
