import SyntaxCheck.Proofs.Binary64.Rounding

/-!
# The shortest decimal reads back

The interval of a double ends in the middle between it and its neighbours, so the double is the nearest one to
every number of the interval. On a grid that is finer than the interval is wide, one of the two neighbours of the
double lies inside; and seventeen digits always make such a grid.

* `Decimal.value`, `Interval.Holds` - the number that a decimal stands for, and the numbers of an interval;
* `Interval.holds_of_onGrid`, `Interval.isSome_onGrid` - what is found on a grid;
* `Interval.holds_shortest` - the shortest decimal lies in the interval;
* `Binary64.isNearest_of_holds` - the double is the nearest one to the numbers of its interval;
* `Binary64.isNearest_shortest` - so it is read back from its shortest decimal.
-/

namespace SyntaxCheck

/-- The number that a decimal stands for. -/
def Decimal.value (d : Decimal) : ℚ := d.digits * 10 ^ d.exponent

namespace Interval

open Binary64

variable {i : Interval} {num den : Nat} {e : Int}

/-- The number, counted in quarter units, lies in the interval. -/
def Holds (i : Interval) (q : ℚ) : Prop :=
  i.lower ≤ q ∧ q ≤ i.upper ∧ (q = i.lower ∨ q = i.upper → i.closed = true)

theorem contains_iff (pos : 0 < den) : i.contains num den = true ↔ i.Holds (num / den) := by
  have positive : (0 : ℚ) < den := Nat.cast_pos.2 pos
  unfold contains Holds
  rw [le_div_iff₀ positive, div_le_iff₀ positive, div_eq_iff positive.ne', div_eq_iff positive.ne']
  norm_cast
  cases i.closed
  · simp
    omega
  · simp

/-! ### One grid -/

/-- The grid of the multiples of a power of ten, as a ratio. -/
theorem step_div_stretch (one : Nat) (e : Int) :
    ((one * Nat.pow 10 e.toNat : ℕ) : ℚ) / (Nat.pow 10 (-e).toNat : ℕ) = one * 10 ^ e := by
  obtain ⟨n, rfl | rfl⟩ := e.eq_nat_or_neg
  · simp
  · simp [div_eq_mul_inv]

theorem quartersPerOne_pos : 0 < quartersPerOne := Nat.mul_pos (by decide) (Nat.cast_pos.1 unitsPerOne_pos)

theorem stretch_pos (e : Int) : 0 < Nat.pow 10 (-e).toNat := Nat.pow_pos (by decide)

/-- What is found on a grid lies in the interval. -/
theorem holds_of_onGrid {d : Decimal} (h : i.onGrid e = some d) : i.Holds (d.value * quartersPerOne) := by
  have multiple (digits : Nat) (fits : i.contains (digits * (quartersPerOne * Nat.pow 10 e.toNat))
      (Nat.pow 10 (-e).toNat) = true) : i.Holds (Decimal.value ⟨digits, e⟩ * quartersPerOne) := by
    have holds := (contains_iff (stretch_pos e)).1 fits
    rw [Nat.cast_mul, mul_div_assoc, step_div_stretch] at holds
    rwa [Decimal.value, mul_assoc, mul_comm ((10 : ℚ) ^ e)]
  unfold onGrid at h
  dsimp only at h
  split_ifs at h with below above
  · cases h
    exact multiple _ (Bool.and_eq_true_iff.1 below).1
  · cases h
    exact multiple _ above

/-- On a grid that is finer than the interval is wide, a decimal is found. -/
theorem isSome_onGrid (inside : i.lower < i.value ∧ i.value < i.upper)
    (fine : (quartersPerOne * 10 ^ e : ℚ) < i.upper - i.lower) : (i.onGrid e).isSome = true := by
  have positive : (0 : ℚ) < (Nat.pow 10 (-e).toNat : ℕ) := Nat.cast_pos.2 (stretch_pos e)
  rw [← step_div_stretch, div_lt_iff₀ positive] at fine
  have fine : quartersPerOne * Nat.pow 10 e.toNat + i.lower * Nat.pow 10 (-e).toNat <
      i.upper * Nat.pow 10 (-e).toNat := by
    rw [sub_mul, lt_sub_iff_add_lt] at fine
    exact_mod_cast fine
  have pos := stretch_pos e
  have step_pos : 0 < quartersPerOne * Nat.pow 10 e.toNat :=
    Nat.mul_pos quartersPerOne_pos (Nat.pow_pos (by decide))
  unfold onGrid
  dsimp only
  generalize Nat.pow 10 (-e).toNat = stretch at fine pos
  generalize quartersPerOne * Nat.pow 10 e.toNat = step at fine step_pos
  have split := Nat.div_add_mod' (i.value * stretch) step
  have rest := Nat.mod_lt (i.value * stretch) step_pos
  have lower := Nat.mul_lt_mul_of_pos_right inside.1 pos
  have upper := Nat.mul_lt_mul_of_pos_right inside.2 pos
  -- the neighbours are one step apart, and the interval is wider than that
  have one : i.contains (i.value * stretch / step * step) stretch = true ∨
      i.contains ((i.value * stretch / step + 1) * step) stretch = true := by
    rw [Nat.succ_mul]
    generalize i.value * stretch / step * step = below at split
    unfold contains
    cases i.closed <;> simp <;> omega
  split_ifs with below above
  · rfl
  · rfl
  · rw [Bool.not_eq_true] at above
    have fits := one.resolve_right (by rw [above]; decide)
    rw [fits, above, Bool.not_false, Bool.or_true] at below
    exact absurd rfl below

/-! ### The first grid -/

/-- If the last grid of a search has a hit, one is found. -/
theorem onGrid_search {leading : Int} {grids digits last : Nat} (same : digits + grids = last)
    (hit : (i.onGrid (leading + 1 - last)).isSome = true) :
    ∃ e, i.onGrid e = some (i.search leading (grids + 1) digits) := by
  induction grids generalizing digits with
  | zero =>
    obtain ⟨d, found⟩ := Option.isSome_iff_exists.1 hit
    obtain rfl : digits = last := same
    exact ⟨_, by rw [search, found, Option.getD_some]⟩
  | succ grids ih =>
    rw [search]
    cases found : i.onGrid (leading + 1 - digits) with
    | some d => exact ⟨_, found⟩
    | none =>
      rw [Option.getD_none]
      exact ih (by omega)

theorem pow_length_toDigits_le {n : Nat} (pos : 0 < n) : 10 ^ ((Nat.toDigits 10 n).length - 1) ≤ n := by
  rcases Nat.eq_zero_or_pos ((Nat.toDigits 10 n).length - 1) with none | more
  · rw [none]
    exact pos
  · refine Nat.le_of_not_lt fun less => ?_
    have short := (Nat.length_toDigits_le_iff (by decide) more).2 less
    omega

/-- A positive number reaches the power of ten of its leading digit. -/
theorem pow_leadingExponent_le (pos : 0 < i.value) :
    (quartersPerOne * 10 ^ i.leadingExponent : ℚ) ≤ i.value := by
  have one_pos := quartersPerOne_pos
  unfold leadingExponent
  generalize quartersPerOne = one at one_pos
  generalize i.value = value at pos
  have negative (n : Nat) (reached : one ≤ value * 10 ^ n) : (one * 10 ^ (-(n : Int)) : ℚ) ≤ value := by
    rw [zpow_neg, zpow_natCast, mul_inv_le_iff₀ (by positivity)]
    exact_mod_cast reached
  dsimp only
  split_ifs with whole reached
  · have le := Nat.mul_le_of_le_div _ _ _ (pow_length_toDigits_le (Nat.div_pos whole one_pos))
    rw [zpow_natCast, mul_comm]
    exact_mod_cast le
  · exact negative _ reached
  · refine negative _ (Nat.le_of_lt ?_)
    have less : one / value < 10 ^ (Nat.toDigits 10 (one / value)).length :=
      (Nat.length_toDigits_le_iff (by decide) Nat.length_toDigits_pos).1 (le_refl _)
    rw [mul_comm]
    exact (Nat.div_lt_iff_lt_mul pos).1 less

/-- A grid of seventeen digits is finer than an interval that is not too narrow for its number. -/
theorem finer {one : ℚ} {leading : Int} {lower value upper : Nat} (reached : one * 10 ^ leading ≤ value)
    (ascending : lower ≤ upper) (wide : value < 10 ^ 16 * (upper - lower)) :
    one * 10 ^ (leading + 1 - (17 : ℕ)) < upper - lower := by
  have power : (10 : ℚ) ^ leading = 10 ^ (leading + 1 - (17 : ℕ)) * 10 ^ 16 := by
    rw [← zpow_natCast, ← zpow_add₀ (by norm_num)]
    congr 1
    push_cast
    ring
  have wide : (value : ℚ) < 10 ^ 16 * (upper - lower) := by
    rw [← Nat.cast_sub ascending]
    exact_mod_cast wide
  rw [power] at reached
  linarith

/-- Seventeen digits always suffice. -/
theorem holds_shortest (inside : i.lower < i.value ∧ i.value < i.upper)
    (wide : i.value < 10 ^ 16 * (i.upper - i.lower)) : i.Holds (i.shortest.value * quartersPerOne) := by
  have reached := pow_leadingExponent_le (Nat.zero_lt_of_lt inside.1)
  have fine := finer reached (Nat.le_of_lt (inside.1.trans inside.2)) wide
  obtain ⟨e, found⟩ := onGrid_search (show 1 + 16 = 17 from rfl) (isSome_onGrid inside fine)
  exact holds_of_onGrid found

end Interval

namespace Binary64

variable {n : Nat}

/-! ### The interval of a double -/

/-- The numbers that round to the double with these bits. -/
def interval (magnitude : Nat) : Interval := .around (significand magnitude) (power magnitude)

theorem closed_interval (n : Nat) : (interval n).closed = (n % 2 == 0) := by
  show (significand n % 2 == 0) = _
  have split := (significand_spec n).1
  rw [fractionSize_eq] at split
  have same : significand n % 2 = n % 2 := by omega
  rw [same]

/-- The interval ends in the middle between the double and the next one. -/
theorem upper_interval (n : Nat) : (interval n).upper = 2 * (units n + units (n + 1)) := by
  obtain ⟨split, normal, less⟩ := significand_spec n
  have next := units_add (k := power n) (m := significand n + 1) (by omega) (by omega)
  rw [← Nat.add_assoc, split] at next
  show (4 * significand n + 2) * 2 ^ power n = _
  rw [next, units]
  ring

/-- It starts in the middle between the one before and the double. -/
theorem lower_interval (pos : 0 < n) : (interval n).lower = 2 * (units (n - 1) + units n) := by
  obtain ⟨split, normal, less⟩ := significand_spec n
  show (4 * significand n - (if significand n = fractionSize ∧ 0 < power n then 1 else 2)) * 2 ^ power n = _
  have here : units n = significand n * 2 ^ power n := rfl
  rw [here]
  generalize power n = k at *
  generalize significand n = m at *
  split_ifs with edge
  · -- the one before has half the steps
    obtain ⟨rfl, some⟩ := edge
    obtain ⟨j, rfl⟩ := Nat.exists_eq_add_of_lt some
    have before := units_add (k := j) (m := 2 * fractionSize - 1) (by rw [fractionSize_eq]; omega) (by omega)
    have shifted : j * fractionSize + (2 * fractionSize - 1) = n - 1 := by
      rw [← split, fractionSize_eq]
      omega
    rw [shifted] at before
    rw [before, fractionSize_eq, Nat.zero_add, pow_succ]
    ring
  · have some : 0 < m := by
      rw [fractionSize_eq] at *
      omega
    obtain ⟨m, rfl⟩ := Nat.exists_eq_add_of_lt some
    have before := units_add (k := k) (m := m) (by omega) (by omega)
    have shifted : k * fractionSize + m = n - 1 := by omega
    rw [shifted] at before
    have part : 4 * (0 + m + 1) - 2 = 4 * m + 2 := by omega
    rw [before, part]
    ring

/-- The shortest decimal lies in the interval. -/
theorem holds_shortest (pos : 0 < n) : (interval n).Holds ((shortest n).value * Interval.quartersPerOne) := by
  have some : 0 < significand n := by
    obtain ⟨split, normal, -⟩ := significand_spec n
    rw [fractionSize_eq] at *
    omega
  have less := (significand_spec n).2.2
  have size : fractionSize = 4503599627370496 := rfl
  -- the ends of the interval in steps of its exponent
  obtain ⟨start, lower, near, wide⟩ : ∃ start, (interval n).lower = start * 2 ^ power n ∧
      start < 4 * significand n ∧ 4 * significand n < 10 ^ 16 * (4 * significand n + 2 - start) := by
    refine ⟨_, rfl, ?_⟩
    split_ifs <;> omega
  have value : (interval n).value = 4 * significand n * 2 ^ power n := rfl
  have upper : (interval n).upper = (4 * significand n + 2) * 2 ^ power n := rfl
  have steps := Nat.two_pow_pos (power n)
  refine Interval.holds_shortest ?_ ?_
  · rw [lower, value, upper, Nat.mul_lt_mul_right steps, Nat.mul_lt_mul_right steps]
    exact ⟨near, Nat.lt_add_of_pos_right two_pos⟩
  · rw [lower, value, upper, ← Nat.sub_mul, ← Nat.mul_assoc, Nat.mul_lt_mul_right steps]
    exact wide

/-! ### The nearest double -/

/-- Between the midpoints to its neighbours `a` and `c`, the number `b` is the nearest. -/
theorem nearest_between {a b c r v : ℚ} (less : a < b) (less' : b < c) (lower : a + b ≤ 2 * r)
    (upper : 2 * r ≤ b + c) (apart : v ≤ a ∨ v = b ∨ c ≤ v) :
    |b - r| ≤ |v - r| ∧ (v ≠ b → |v - r| = |b - r| → 2 * r = a + b ∨ 2 * r = b + c) := by
  rcases apart with below | rfl | above
  · rw [abs_of_nonpos (a := v - r) (by linarith)]
    refine ⟨abs_le.2 ⟨by linarith, by linarith⟩, fun _ tie => .inl (le_antisymm ?_ lower)⟩
    have far := neg_le_abs (b - r)
    rcases abs_cases (b - r) with ⟨same, -⟩ | ⟨same, -⟩ <;> linarith
  · exact ⟨le_rfl, fun differs => absurd rfl differs⟩
  · rw [abs_of_nonneg (a := v - r) (by linarith)]
    refine ⟨abs_le.2 ⟨by linarith, by linarith⟩, fun _ tie => .inr (le_antisymm upper ?_)⟩
    rcases abs_cases (b - r) with ⟨same, -⟩ | ⟨same, -⟩ <;> linarith

/-- No double lies between one and its neighbours. -/
theorem value_apart (y : Binary64) (n : Nat) : y.value * unitsPerOne ≤ units (n - 1) ∨
    y.value * unitsPerOne = units n ∨ units (n + 1) ≤ y.value * unitsPerOne := by
  have counted : y.value * unitsPerOne = (if y.IsPositive then 1 else -1) * units y.magnitude := by
    rw [value_eq, mul_assoc, div_mul_cancel₀ _ unitsPerOne_pos.ne']
  rw [counted]
  by_cases positive : y.IsPositive
  · rw [if_pos positive, one_mul]
    norm_cast
    rw [units_strictMono.le_iff_le, units_strictMono.le_iff_le, units_strictMono.injective.eq_iff]
    omega
  · rw [if_neg positive, neg_one_mul]
    exact .inl ((neg_nonpos.2 (Nat.cast_nonneg _)).trans (Nat.cast_nonneg _))

/-- The interval of the last finite double ends at the threshold, and is open. -/
theorem units_last :
    (units (infinityBits - 1) + units infinityBits : ℚ) = 2 * (overflowThreshold * unitsPerOne) := by
  have last := units_add (k := 2045) (m := 2 * fractionSize - 1) (by rw [fractionSize_eq]; omega) (by omega)
  have next := units_add (k := 2045) (m := 2 * fractionSize) (by omega) (by omega)
  have last_eq : 2045 * fractionSize + (2 * fractionSize - 1) = infinityBits - 1 := by decide
  have next_eq : 2045 * fractionSize + 2 * fractionSize = infinityBits := by decide
  rw [last_eq] at last
  rw [next_eq] at next
  rw [last, next, overflowThreshold_units]
  have odd : ((2 * fractionSize - 1 : ℕ) : ℚ) = 2 * fractionSize - 1 := by
    rw [Nat.cast_sub (by decide)]
    push_cast
    rfl
  generalize 2045 = exponent
  rw [Nat.cast_mul, Nat.cast_mul, odd]
  push_cast
  ring

/-- In units, the interval reaches from one midpoint to the other, both included if the double is even. -/
theorem between_of_holds {q : ℚ} (pos : 0 < n) (holds : (interval n).Holds (q * Interval.quartersPerOne)) :
    units (n - 1) + units n ≤ 2 * (q * unitsPerOne) ∧ 2 * (q * unitsPerOne) ≤ units n + units (n + 1) ∧
      (2 * (q * unitsPerOne) = units (n - 1) + units n ∨ 2 * (q * unitsPerOne) = units n + units (n + 1) →
        n % 2 = 0) := by
  obtain ⟨lower, upper, closed⟩ := holds
  have quarters : q * Interval.quartersPerOne = 2 * (2 * (q * unitsPerOne)) := by
    have four : (Interval.quartersPerOne : ℚ) = 4 * unitsPerOne := Nat.cast_mul 4 unitsPerOne
    rw [four]
    ring
  rw [closed_interval, beq_iff_eq] at closed
  rw [lower_interval pos, quarters] at lower
  rw [upper_interval, quarters] at upper
  rw [lower_interval pos, upper_interval, quarters] at closed
  push_cast at lower upper closed
  rw [mul_le_mul_iff_of_pos_left two_pos] at lower upper
  rw [mul_right_inj' two_ne_zero, mul_right_inj' two_ne_zero] at closed
  exact ⟨lower, upper, closed⟩

/-- What is rounded to a finite double is below the threshold: the last double is odd. -/
theorem lt_overflowThreshold {q : ℚ} (less : n < infinityBits)
    (upper : 2 * (q * unitsPerOne) ≤ units n + units (n + 1))
    (closed : 2 * (q * unitsPerOne) = units n + units (n + 1) → n % 2 = 0) : q < overflowThreshold := by
  refine lt_of_not_ge fun above => ?_
  have above := mul_le_mul_of_nonneg_left (mul_le_mul_of_nonneg_right above unitsPerOne_pos.le) zero_le_two
  rw [← units_last] at above
  have last : ¬n < infinityBits - 1 := fun before => by
    have here : (units n : ℚ) < units (infinityBits - 1) := Nat.cast_lt.2 (units_strictMono before)
    have next : (units (n + 1) : ℚ) ≤ units infinityBits := Nat.cast_le.2 (units_strictMono.monotone less)
    linarith
  obtain rfl : n = infinityBits - 1 := by omega
  exact absurd (closed (le_antisymm upper above)) (by decide)

/-- A double is the nearest one to the numbers of its interval. -/
theorem isNearest_of_holds {q : ℚ} (pos : 0 < n) (less : n < infinityBits)
    (holds : (interval n).Holds (q * Interval.quartersPerOne)) : IsNearest q (ofMagnitude n) := by
  obtain ⟨lower, upper, closed⟩ := between_of_holds pos holds
  have below := lt_overflowThreshold less upper fun same => closed (.inr same)
  have counted : (ofMagnitude n).value * unitsPerOne = units n := by
    rw [value_ofMagnitude (Nat.le_of_lt less), div_mul_cancel₀ _ unitsPerOne_pos.ne']
  have distance (v : ℚ) : |v - q| * unitsPerOne = |v * unitsPerOne - q * unitsPerOne| := by
    rw [← sub_mul, abs_mul, abs_of_pos unitsPerOne_pos]
  have ascending : (units (n - 1) : ℚ) < units n := Nat.cast_lt.2 (units_strictMono (Nat.sub_lt pos one_pos))
  have ascending' : (units n : ℚ) < units (n + 1) := Nat.cast_lt.2 (units_lt_succ n)
  have nearest (y : Binary64) := nearest_between ascending ascending' lower upper (value_apart y n)
  refine ⟨isPositive_ofMagnitude (Nat.le_of_lt less), fun above => absurd below above.not_gt,
    fun _ => isFinite_ofMagnitude less, fun _ y _ => ?_, fun _ y _ differs tie => ?_⟩
  · rw [← mul_le_mul_iff_of_pos_right unitsPerOne_pos, distance, distance, counted]
    exact (nearest y).1
  · rw [← mul_left_inj' unitsPerOne_pos.ne', distance, distance, counted] at tie
    have differs : y.value * unitsPerOne ≠ units n := by
      rw [← counted]
      exact fun same => differs ((mul_left_inj' unitsPerOne_pos.ne').1 same)
    rw [fractionField_mod_two, magnitude_ofMagnitude (Nat.le_of_lt less)]
    exact closed ((nearest y).2 differs tie)

/-- A double is read back from its shortest decimal. -/
theorem isNearest_shortest (pos : 0 < n) (less : n < infinityBits) :
    IsNearest (shortest n).value (ofMagnitude n) :=
  isNearest_of_holds pos less (holds_shortest pos)

theorem digits_shortest_pos (pos : 0 < n) : 0 < (shortest n).digits := by
  refine Nat.pos_of_ne_zero fun none => ?_
  have lower := (holds_shortest pos).1
  have zero : (shortest n).value = 0 := by
    rw [Decimal.value, none, Nat.cast_zero, zero_mul]
  have some : 0 < units n := Nat.lt_of_le_of_lt (Nat.zero_le _) (units_strictMono pos)
  rw [zero, zero_mul, lower_interval pos] at lower
  have lower : 2 * (units (n - 1) + units n) ≤ 0 := by exact_mod_cast lower
  omega

end Binary64

end SyntaxCheck
