import SyntaxCheck.Binary64.Text
import SyntaxCheck.Proofs.Binary64.Shortest
import SyntaxCheck.Proofs.Lexer.Doubles

/-!
# Doubles are read back from their texts

Whether a decimal is written by position or with an exponent, the text denotes it. So a double is the nearest
one to the number that its text denotes, and no two numbers have the same text.

* `textValue` - the number that a text with a point and an exponent denotes;
* `Decimal.textValue_render` - the text of a decimal denotes it;
* `Binary64.isNearest_textValue` - the text of a finite double denotes a number that is rounded to it;
* `Binary64.render_injective` - the texts tell all doubles apart that are numbers or infinite.
-/

namespace SyntaxCheck

/-! ### Texts with an exponent -/

/-- The number that digits with a sign in front denote. -/
def exponentValue : List Char → ℤ
  | '-' :: digits => -wholeValue digits
  | digits => wholeValue digits

/-- The number that a text denotes: digits with a point among them, and an exponent behind an `e`. -/
def textValue (text : List Char) : ℚ :=
  decimalValue (text.takeWhile (· ≠ 'e')) * 10 ^ exponentValue (text.dropWhile (· ≠ 'e')).tail

theorem wholeValue_toDigits (n : Nat) : wholeValue (Nat.toDigits 10 n) = n := by
  rw [← ofDigitChars_eq_wholeValue, Nat.ofDigitChars_ten_toDigits]

theorem decimalValue_of_free {digits : List Char} (free : '.' ∉ digits) :
    decimalValue digits = wholeValue digits := by
  have before := ne_of_free free
  unfold decimalValue
  rw [List.takeWhile_eq_self_iff.2 before, List.dropWhile_eq_nil_iff.2 before]
  simp [fractionValue]

theorem textValue_of_free {text : List Char} (free : 'e' ∉ text) : textValue text = decimalValue text := by
  have before := ne_of_free free
  unfold textValue
  rw [List.takeWhile_eq_self_iff.2 before, List.dropWhile_eq_nil_iff.2 before]
  simp [exponentValue, wholeValue]

theorem textValue_append {text : List Char} (free : 'e' ∉ text) (exponent : List Char) :
    textValue (text ++ 'e' :: exponent) = decimalValue text * 10 ^ exponentValue exponent := by
  have before := ne_of_free free
  unfold textValue
  rw [List.takeWhile_append_of_pos before, List.dropWhile_append_of_pos before]
  simp

theorem exponentValue_sign (n : ℤ) :
    exponentValue ((if n < 0 then ['-'] else []) ++ Nat.toDigits 10 n.natAbs) = n := by
  have magnitude := wholeValue_toDigits n.natAbs
  split_ifs with negative
  · rw [List.singleton_append, exponentValue, magnitude]
    omega
  · rw [List.nil_append]
    unfold exponentValue
    split
    · rename_i digits same
      have digit := Nat.isDigit_of_mem_toDigits (c := '-') (b := 10) (n := n.natAbs) (by decide) (by decide)
        (by rw [same]; exact List.mem_cons_self)
      exact absurd digit (by decide)
    · rw [magnitude]
      omega

/-! ### Decimals -/

namespace Decimal

variable {digits : List Char} {leading : ℤ}

/-- The digits without the zeros at the end. -/
theorem exists_zeros (d : Decimal) :
    ∃ zeros, Nat.toDigits 10 d.digits = d.significantDigits ++ List.replicate zeros '0' := by
  have zeros : (Nat.toDigits 10 d.digits).reverse.takeWhile (· == '0') = List.replicate _ '0' :=
    List.eq_replicate_of_mem fun c found => beq_iff_eq.1 (List.mem_takeWhile_imp (p := (· == '0')) found)
  have split := List.takeWhile_append_dropWhile (p := (· == '0')) (l := (Nat.toDigits 10 d.digits).reverse)
  refine ⟨((Nat.toDigits 10 d.digits).reverse.takeWhile (· == '0')).length, ?_⟩
  rw [zeros] at split
  rw [significantDigits, ← List.reverse_replicate, ← List.reverse_append, split, List.reverse_reverse]

theorem isDigit_significantDigits (d : Decimal) : ∀ c ∈ d.significantDigits, c.isDigit = true := by
  obtain ⟨zeros, split⟩ := d.exists_zeros
  intro c found
  have among : c ∈ Nat.toDigits 10 d.digits := split ▸ List.mem_append_left _ found
  exact Nat.isDigit_of_mem_toDigits (by decide) (by decide) among

/-- The digits and the exponent of the first one tell the decimal. -/
theorem value_eq (d : Decimal) :
    d.value = wholeValue d.significantDigits * 10 ^ (d.leading + 1 - d.significantDigits.length) := by
  obtain ⟨zeros, split⟩ := d.exists_zeros
  have digits := wholeValue_toDigits d.digits
  have some : 0 < (Nat.toDigits 10 d.digits).length := Nat.length_toDigits_pos
  have leading : d.leading = d.exponent + ((Nat.toDigits 10 d.digits).length - 1 : Nat) := rfl
  rw [split, List.length_append, List.length_replicate] at leading some
  rw [split, wholeValue_append, wholeValue_replicate, List.length_replicate, Nat.add_zero] at digits
  have exponent : d.leading + 1 - d.significantDigits.length = zeros + d.exponent := by
    omega
  rw [value, ← digits, exponent, zpow_add₀ (by norm_num), zpow_natCast]
  push_cast
  ring

theorem free_of_isDigit {c : Char} (all : ∀ d ∈ digits, d.isDigit = true) (other : c.isDigit = false) :
    c ∉ digits :=
  fun found => absurd (all c found) (by rw [other]; decide)

theorem textValue_renderScientific (all : ∀ c ∈ digits, c.isDigit = true) :
    textValue (renderScientific digits leading) = wholeValue digits * 10 ^ (leading + 1 - digits.length) := by
  have letter := free_of_isDigit all (c := 'e') (by decide)
  have point := free_of_isDigit all (c := '.') (by decide)
  have ten : (10 : ℚ) ≠ 0 := by norm_num
  unfold renderScientific
  dsimp only
  rw [List.append_assoc, List.append_assoc _ ['e'], List.singleton_append]
  match digits with
  | [] => simp [textValue, decimalValue, wholeValue, fractionValue]
  | [c] =>
    show textValue ([c] ++ 'e' :: _) = _
    rw [textValue_append letter, decimalValue_of_free point, exponentValue_sign, List.length_singleton,
      Nat.cast_one, add_sub_cancel_right]
  | c :: d :: digits =>
    show textValue (([c] ++ '.' :: d :: digits) ++ 'e' :: _) = _
    have letter : 'e' ∉ [c] ++ '.' :: d :: digits := by simpa using letter
    have point : '.' ∉ [c] := fun found => point (List.mem_cons.2 (.inl (List.mem_singleton.1 found)))
    have places : leading + 1 - ((c :: d :: digits).length : ℕ) = leading - ((d :: digits).length : ℕ) := by
      rw [List.length_cons]
      push_cast
      ring
    rw [textValue_append letter, decimalValue_eq point, exponentValue_sign, places, zpow_sub₀ ten, zpow_natCast]
    exact div_mul_comm .. |>.trans (mul_comm _ _)

theorem textValue_renderPositional (all : ∀ c ∈ digits, c.isDigit = true) :
    textValue (renderPositional Binary64.style digits leading) =
      wholeValue digits * 10 ^ (leading + 1 - digits.length) := by
  have letter := free_of_isDigit all (c := 'e') (by decide)
  have point := free_of_isDigit all (c := '.') (by decide)
  have ten : (10 : ℚ) ≠ 0 := by norm_num
  have letter_take (n : Nat) : 'e' ∉ digits.take n := fun found => letter (List.mem_of_mem_take found)
  have letter_drop (n : Nat) : 'e' ∉ digits.drop n := fun found => letter (List.mem_of_mem_drop found)
  have point_take (n : Nat) : '.' ∉ digits.take n := fun found => point (List.mem_of_mem_take found)
  unfold renderPositional
  dsimp only
  split_ifs with below short
  · show textValue (['0'] ++ '.' :: (List.replicate (leading.natAbs - 1) '0' ++ digits)) = _
    have places : leading + 1 - (digits.length : ℕ) = -((leading.natAbs - 1 + digits.length : ℕ) : ℤ) := by
      omega
    rw [textValue_of_free (by simp [letter]), decimalValue_eq (by decide), List.singleton_append, wholeValue,
      wholeValue_append, wholeValue_replicate, places, zpow_neg, zpow_natCast, List.length_append,
      List.length_replicate, digitValue_zero]
    simp [div_eq_mul_inv]
  · -- all the digits stand in front of the point
    rw [List.isEmpty_iff, List.drop_eq_nil_iff] at short
    have places : leading + 1 - (digits.length : ℕ) = (leading.toNat + 1 - digits.length : ℕ) := by omega
    rw [List.take_of_length_le short]
    show textValue (digits ++ List.replicate _ '0' ++ '.' :: ['0']) = _
    rw [textValue_of_free (by simp [letter]), decimalValue_append (by simp [point]), wholeValue_append,
      wholeValue_replicate, List.length_replicate, places, zpow_natCast]
    simp [fractionValue, digitValue_zero]
  · rw [List.isEmpty_iff, List.drop_eq_nil_iff, not_le] at short
    have full : leading.toNat + 1 - (digits.take (leading.toNat + 1)).length = 0 := by
      rw [List.length_take]
      omega
    have places : leading + 1 - (digits.length : ℕ) = -((digits.length - (leading.toNat + 1) : ℕ) : ℤ) := by omega
    rw [full, List.replicate_zero, List.append_nil,
      textValue_of_free (by simp [letter_take, letter_drop]), decimalValue_eq (point_take _),
      List.take_append_drop, List.length_drop, places, zpow_neg, zpow_natCast, div_eq_mul_inv]

/-- The text of a decimal denotes it. -/
theorem textValue_render (d : Decimal) : textValue (d.render Binary64.style) = d.value := by
  rw [value_eq, render]
  split
  · exact textValue_renderPositional d.isDigit_significantDigits
  · exact textValue_renderScientific d.isDigit_significantDigits

theorem significantDigits_ne_nil {d : Decimal} (pos : 0 < d.digits) : d.significantDigits ≠ [] := by
  intro none
  obtain ⟨zeros, split⟩ := d.exists_zeros
  have digits := wholeValue_toDigits d.digits
  rw [split, none, List.nil_append, wholeValue_replicate] at digits
  exact absurd digits.symm pos.ne'

theorem startsWithDigit_render {d : Decimal} (pos : 0 < d.digits) (style : DecimalStyle) :
    startsWithDigit (d.render style) = true := by
  obtain ⟨c, digits, some⟩ := List.exists_cons_of_ne_nil (significantDigits_ne_nil pos)
  have digit : c.isDigit = true := d.isDigit_significantDigits c (by rw [some]; exact List.mem_cons_self)
  rw [render, some]
  split_ifs
  · unfold renderPositional
    split_ifs
    · rfl
    · exact digit
  · exact digit

end Decimal

/-! ### Doubles -/

namespace Binary64

variable {n n' : Nat} {x y : Binary64}

/-- The text of a finite double denotes a number that is rounded to it. -/
theorem isNearest_textValue (less : n < infinityBits) :
    IsNearest (textValue (renderMagnitude n)) (ofMagnitude n) := by
  unfold renderMagnitude
  split_ifs with zero
  · have none : textValue (['0'] ++ style.wholeEnding) = (0 : ℕ) / (1 : ℕ) := by decide +kernel
    have found : nearest 0 1 = ofMagnitude 0 := by decide +kernel
    rw [none, zero, ← found]
    exact isNearest_nearest 0 one_pos
  · rw [Decimal.textValue_render]
    exact isNearest_shortest (Nat.pos_of_ne_zero zero) less

theorem startsWithDigit_renderMagnitude (less : n < infinityBits) :
    startsWithDigit (renderMagnitude n) = true := by
  unfold renderMagnitude
  split_ifs with zero
  · rfl
  · exact Decimal.startsWithDigit_render (digits_shortest_pos (Nat.pos_of_ne_zero zero)) style

theorem renderMagnitude_infinityBits : renderMagnitude infinityBits = ['i', 'n', 'f'] := by
  rw [renderMagnitude, if_neg (by decide), if_neg (Nat.lt_irrefl _)]

/-- The texts of magnitudes tell them apart. -/
theorem renderMagnitude_injective (le : n ≤ infinityBits) (le' : n' ≤ infinityBits)
    (same : renderMagnitude n = renderMagnitude n') : n = n' := by
  rcases Nat.lt_or_eq_of_le le with less | rfl <;> rcases Nat.lt_or_eq_of_le le' with less' | rfl
  · have nearest := isNearest_textValue less
    rw [same] at nearest
    have found := congrArg magnitude (nearest.unique (isNearest_textValue less'))
    rwa [magnitude_ofMagnitude le, magnitude_ofMagnitude le'] at found
  · have digit := startsWithDigit_renderMagnitude less
    rw [same, renderMagnitude_infinityBits] at digit
    cases digit
  · have digit := startsWithDigit_renderMagnitude less'
    rw [← same, renderMagnitude_infinityBits] at digit
    cases digit
  · rfl

/-- The double is a number or infinite. -/
def IsNumber (x : Binary64) : Prop := x.magnitude ≤ infinityBits

theorem isNumber_nearest (num den : Nat) : (nearest num den).IsNumber := by
  unfold IsNumber magnitude
  rw [toNat_bits_nearest]
  exact (Nat.mod_le _ _).trans (nearestBits_le num den)

/-- The sign in the text of a double. -/
def sign (x : Binary64) : List Char := if x.bits.toNat < signBit then [] else ['-']

theorem render_of_isNumber (number : x.IsNumber) :
    x.render = String.ofList (x.sign ++ renderMagnitude x.magnitude) :=
  if_neg (Nat.not_lt.2 number)

theorem render_of_not_isNumber (other : ¬x.IsNumber) : x.render = "NaN" :=
  if_pos (Nat.lt_of_not_le other)

/-- The text of a magnitude starts neither with a sign nor with a capital letter. -/
theorem head_renderMagnitude (le : n ≤ infinityBits) : ∀ c ∈ (renderMagnitude n).head?, c ≠ '-' ∧ c ≠ 'N' := by
  rcases Nat.lt_or_eq_of_le le with less | rfl
  · have digit := startsWithDigit_renderMagnitude less
    cases shown : renderMagnitude n with
    | nil => exact nofun
    | cons d text =>
      rw [shown] at digit
      rintro c ⟨⟩
      constructor <;> rintro rfl <;> cases digit
  · rw [renderMagnitude_infinityBits]
    rintro c ⟨⟩
    decide

/-- The sign and the other bits make up a double. -/
theorem eq_of_sign_eq (sign : x.sign = y.sign) (magnitude : x.magnitude = y.magnitude) : x = y := by
  have literal : signBit = 9223372036854775808 := rfl
  have power : 2 ^ 63 = 9223372036854775808 := rfl
  have less := x.bits.toNat_lt
  have less' := y.bits.toNat_lt
  have same : x.bits.toNat = y.bits.toNat := by
    unfold Binary64.sign at sign
    unfold Binary64.magnitude at magnitude
    rw [literal] at sign
    rw [power] at magnitude
    split_ifs at sign <;> omega
  cases x
  cases y
  exact congrArg mk (UInt64.toNat_inj.1 same)

/-- Different texts stand for different doubles, but for those that are no numbers. -/
theorem render_injective (number : x.IsNumber) (same : x.render = y.render) : x = y := by
  have head := head_renderMagnitude number
  rw [render_of_isNumber number] at same
  by_cases number' : y.IsNumber
  · have other := head_renderMagnitude number'
    rw [render_of_isNumber number'] at same
    have same := String.ofList_injective same
    -- a sign is told by the first character
    have sign : x.sign = y.sign := by
      unfold Binary64.sign at same ⊢
      split_ifs at same ⊢
      · rfl
      · rw [List.nil_append] at same
        rw [same] at head
        exact absurd rfl (head '-' rfl).1
      · rw [List.nil_append] at same
        rw [← same] at other
        exact absurd rfl (other '-' rfl).1
      · rfl
    rw [sign] at same
    exact eq_of_sign_eq sign (renderMagnitude_injective number number' (List.append_cancel_left same))
  · rw [render_of_not_isNumber number'] at same
    have same : x.sign ++ renderMagnitude x.magnitude = "NaN".toList := by rw [← same, String.toList_ofList]
    unfold Binary64.sign at same
    split_ifs at same
    · rw [List.nil_append] at same
      rw [same] at head
      exact absurd rfl (head 'N' rfl).2
    · cases same

end Binary64

end SyntaxCheck
