import SyntaxCheck.Proofs.Binary64.Rounding
import SyntaxCheck.Proofs.Lexer.Separation

/-!
# The doubles of a text

A double literal is some digits, a point and more digits, however many. Its value is the double nearest to the
number that it denotes by the places of its digits.

* `wholeValue`, `fractionValue`, `decimalValue` - the number that a literal denotes;
* `decimalValue_zeros` - zeros before and behind leave it as it is;
* `isNearest_ofDecimal` - its value is nearest to that;
* `readNumberWith`, `readNumberWith_convertDouble` - it does not matter how the nearest double is found;
* `Lexer.FindsDouble`, `Lexer.findsDouble_ofDecimal` - the doubles that answer any calls, and all that do;
* `doubles_nearest` - what is found.
-/

namespace SyntaxCheck

/-! ### The number that a literal denotes -/

/-- The number that a decimal digit stands for. -/
def digitValue (c : Char) : Nat := c.toNat - '0'.toNat

/-- Digits in front of the point: the last one counts ones. -/
def wholeValue : List Char → Nat
  | [] => 0
  | c :: digits => digitValue c * 10 ^ digits.length + wholeValue digits

/-- Digits behind the point: the first one counts tenths. -/
def fractionValue : List Char → ℚ
  | [] => 0
  | c :: digits => (digitValue c + fractionValue digits) / 10

/-- The number that digits with a point between them denote. -/
def decimalValue (lexeme : List Char) : ℚ :=
  wholeValue (lexeme.takeWhile (· ≠ '.')) + fractionValue (lexeme.dropWhile (· ≠ '.')).tail

theorem digitValue_zero : digitValue '0' = 0 := rfl

theorem wholeValue_append (digits digits' : List Char) :
    wholeValue (digits ++ digits') = wholeValue digits * 10 ^ digits'.length + wholeValue digits' := by
  induction digits with
  | nil => simp [wholeValue]
  | cons c digits ih =>
    rw [List.cons_append, wholeValue, wholeValue, ih, List.length_append]
    ring

theorem wholeValue_replicate (i : Nat) : wholeValue (List.replicate i '0') = 0 := by
  induction i with
  | zero => rfl
  | succ i ih => rw [List.replicate_succ, wholeValue, ih, digitValue_zero, Nat.zero_mul]

theorem fractionValue_append_replicate (digits : List Char) (j : Nat) :
    fractionValue (digits ++ List.replicate j '0') = fractionValue digits := by
  induction digits with
  | nil =>
    rw [List.nil_append]
    induction j with
    | zero => rfl
    | succ j ih => simp [List.replicate_succ, fractionValue, ih, digitValue_zero]
  | cons c digits ih => rw [List.cons_append, fractionValue, fractionValue, ih]

/-- Digits behind the point count as many of the smallest place. -/
theorem fractionValue_eq (digits : List Char) :
    fractionValue digits = wholeValue digits / 10 ^ digits.length := by
  induction digits with
  | nil => simp [fractionValue, wholeValue]
  | cons c digits ih =>
    rw [fractionValue, wholeValue, ih, List.length_cons, pow_succ]
    push_cast
    field_simp

/-- The digits are read from the first one on. -/
theorem ofDigitChars_eq_wholeValue (digits : List Char) :
    Nat.ofDigitChars 10 digits 0 = wholeValue digits := by
  induction digits with
  | nil => rfl
  | cons c digits ih =>
    rw [Nat.ofDigitChars_cons, Nat.ofDigitChars_eq_ofDigitChars_zero, ih, wholeValue, digitValue]
    ring

theorem IsDigits.point_notMem {digits : List Char} (some : IsDigits digits) : '.' ∉ digits := by
  intro found
  exact absurd (some.digit _ found) (by decide)

theorem ne_of_free {c : Char} {text : List Char} (free : c ∉ text) : ∀ d ∈ text, decide (d ≠ c) = true :=
  fun d among => decide_eq_true fun same : d = c => free (same ▸ among)

theorem decimalValue_append {whole : List Char} (free : '.' ∉ whole) (fraction : List Char) :
    decimalValue (whole ++ '.' :: fraction) = wholeValue whole + fractionValue fraction := by
  have before := ne_of_free free
  unfold decimalValue
  rw [List.takeWhile_append_of_pos before, List.dropWhile_append_of_pos before]
  simp

/-- Wherever the point stands, all the digits count as many of the last place. -/
theorem decimalValue_eq {whole : List Char} (free : '.' ∉ whole) (fraction : List Char) :
    decimalValue (whole ++ '.' :: fraction) = wholeValue (whole ++ fraction) / 10 ^ fraction.length := by
  rw [decimalValue_append free, wholeValue_append, fractionValue_eq]
  push_cast
  field_simp

/-- Zeros in front of a literal and behind it leave the number as it is. -/
theorem decimalValue_zeros {whole fraction : List Char} (free : '.' ∉ whole) (i j : Nat) :
    decimalValue (List.replicate i '0' ++ (whole ++ '.' :: fraction) ++ List.replicate j '0') =
      decimalValue (whole ++ '.' :: fraction) := by
  have free' : '.' ∉ List.replicate i '0' ++ whole := by simp [free]
  have moved : List.replicate i '0' ++ (whole ++ '.' :: fraction) ++ List.replicate j '0' =
      (List.replicate i '0' ++ whole) ++ '.' :: (fraction ++ List.replicate j '0') := by simp
  rw [moved, decimalValue_append free', decimalValue_append free, wholeValue_append, wholeValue_replicate,
    Nat.zero_mul, Nat.zero_add, fractionValue_append_replicate]

/-- The value of a literal is the double nearest to the number that it denotes. -/
theorem isNearest_ofDecimal {whole fraction : List Char} (some : IsDigits whole) :
    Binary64.IsNearest (decimalValue (whole ++ '.' :: fraction)) (.ofDecimal whole fraction) := by
  have nearest := Binary64.isNearest_nearest (wholeValue (whole ++ fraction))
    (Nat.pow_pos (n := fraction.length) (show 0 < 10 by decide))
  rw [Nat.cast_pow, Nat.cast_ofNat] at nearest
  rwa [decimalValue_eq some.point_notMem, Binary64.ofDecimal, ofDigitChars_eq_wholeValue]

/-! ### Other ways to the nearest double -/

/-- Like `readNumber`, with any way to read a double from its digits and the text behind them. -/
def readNumberWith (double : (whole fraction after : List Char) → Reading) (text : List Char) : Reading :=
  let whole := text.takeWhile Char.isDigit
  match text.dropWhile Char.isDigit with
  | '.' :: rest =>
    if startsWithDigit rest && !isGlued (rest.dropWhile Char.isDigit) then
      double whole (rest.takeWhile Char.isDigit) (rest.dropWhile Char.isDigit)
    else malformedNumber text
  | rest =>
    if isGlued rest then malformedNumber text
    else .token (.integer (String.ofList whole)) whole rest

/-- Only some digits are read in front of the point and behind it. -/
theorem readNumberWith_congr {double double' : List Char → List Char → List Char → Reading}
    (same : ∀ whole fraction after, IsDigits whole → IsDigits fraction →
      double whole fraction after = double' whole fraction after)
    {text : List Char} (starts : startsWithDigit text = true) :
    readNumberWith double text = readNumberWith double' text := by
  have whole := isDigits_takeWhile starts
  unfold readNumberWith
  generalize text.takeWhile Char.isDigit = digits at whole
  generalize text.dropWhile Char.isDigit = behind
  dsimp only
  split
  · rename_i rest
    split
    · rename_i fits
      rw [Bool.and_eq_true] at fits
      exact same _ _ _ whole (isDigits_takeWhile fits.1)
    · rfl
  · simp only

/-- A double is converted from its lexeme, and the number is malformed if the conversion gives none. -/
def convertDouble (convert : List Char → Option Binary64) (whole fraction after : List Char) : Reading :=
  let lexeme := whole ++ '.' :: fraction
  match convert lexeme with
  | some x => .token (.double x) lexeme after
  | none => .fault (.malformedNumber (String.ofList lexeme)) [] lexeme after

/-- The conversion rounds the literals to the nearest. -/
def RoundsLiterals (convert : List Char → Option Binary64) : Prop :=
  ∀ whole fraction, IsDigits whole → IsDigits fraction → ∃ x,
    convert (whole ++ '.' :: fraction) = some x ∧
      Binary64.IsNearest (decimalValue (whole ++ '.' :: fraction)) x

/-- A conversion that rounds the literals to the nearest never fails, and it does not matter which one it is. -/
theorem readNumberWith_convertDouble {convert : List Char → Option Binary64} (rounds : RoundsLiterals convert)
    {text : List Char} (starts : startsWithDigit text = true) :
    readNumberWith (convertDouble convert) text = readNumber text := by
  show _ = readNumberWith (fun whole fraction after =>
    .token (.double (.ofDecimal whole fraction)) (whole ++ '.' :: fraction) after) text
  refine readNumberWith_congr (fun whole fraction after some more => ?_) starts
  obtain ⟨x, converted, nearest⟩ := rounds whole fraction some more
  rw [convertDouble, converted, nearest.unique (isNearest_ofDecimal some)]

/-! ### The doubles that are found -/

/-- A lexer of some text answers some calls with a double, and this is its lexeme. -/
def Lexer.FindsDouble (lexeme : List Char) (x : Binary64) : Prop :=
  ∃ text cs, ∃ answer ∈ ((ofString text).calls cs).1, ∃ token ∈ answer.tokens,
    token.kind = .double x ∧ token.lexeme.toList = lexeme

/-- A double that is found has the form of a literal, and it is nearest to the number that this denotes. -/
theorem Lexer.FindsDouble.nearest {lexeme : List Char} {x : Binary64} (h : FindsDouble lexeme x) :
    (∃ whole fraction, IsDigits whole ∧ IsDigits fraction ∧ lexeme = whole ++ '.' :: fraction) ∧
      Binary64.IsNearest (decimalValue lexeme) x := by
  obtain ⟨text, cs, answer, among, token, found, kind_eq, rfl⟩ := h
  have isLexeme := lexeme_of_calls among found (by simp [kind_eq])
  rw [kind_eq] at isLexeme
  generalize token.lexeme.toList = lexeme at isLexeme
  cases isLexeme with
  | @double whole fraction some more =>
    exact ⟨⟨whole, fraction, some, more, rfl⟩, isNearest_ofDecimal some⟩

/-- Whatever has the form of a literal is found, with its value. -/
theorem Lexer.findsDouble_ofDecimal {whole fraction : List Char} (some : IsDigits whole)
    (more : IsDigits fraction) : FindsDouble (whole ++ '.' :: fraction) (.ofDecimal whole fraction) := by
  let lexeme := String.ofList (whole ++ '.' :: fraction)
  let token : Token := ⟨.double (.ofDecimal whole fraction), lexeme, Position.first.span lexeme.length⟩
  have isLexeme : Lexeme token.kind lexeme.toList := by
    rw [String.toList_ofList]
    exact .double some more
  obtain ⟨last, found, -⟩ : ReadsAlone lexeme token := readsAlone_iff.2 ⟨isLexeme, rfl, rfl⟩
  have among : .ok [token, last] ∈ ((ofString lexeme).calls [.tokenize]).1 :=
    List.mem_singleton.2 found.symm
  exact ⟨lexeme, _, _, among, token, List.mem_cons_self, rfl, String.toList_ofList⟩

/-- Every double in a text is the nearest to the number that its digits denote, with ties to even, and there is
only one such double. One is found for all that has the form of a literal. So zeros in front of the digits and
behind them do not matter, and a larger number has no smaller double. Whatever conversion is used for the
literals, if it rounds them to the nearest, numbers are read the same way and none is malformed because the
conversion fails. -/
theorem doubles_nearest :
    (∀ lexeme x, Lexer.FindsDouble lexeme x →
      (∃ whole fraction, IsDigits whole ∧ IsDigits fraction ∧ lexeme = whole ++ '.' :: fraction) ∧
        Binary64.IsNearest (decimalValue lexeme) x) ∧
    (∀ whole fraction, IsDigits whole → IsDigits fraction →
      ∃ x, Lexer.FindsDouble (whole ++ '.' :: fraction) x) ∧
    (∀ q x y, Binary64.IsNearest q x → Binary64.IsNearest q y → x = y) ∧
    (∀ lexeme x y i j, Lexer.FindsDouble lexeme x →
      Lexer.FindsDouble (List.replicate i '0' ++ lexeme ++ List.replicate j '0') y → y = x) ∧
    (∀ lexeme lexeme' x y, Lexer.FindsDouble lexeme x → Lexer.FindsDouble lexeme' y →
      decimalValue lexeme ≤ decimalValue lexeme' → y.IsFinite → x.IsFinite ∧ x.value ≤ y.value) ∧
    ∀ convert, RoundsLiterals convert → ∀ text, startsWithDigit text = true →
      readNumberWith (convertDouble convert) text = readNumber text := by
  refine ⟨fun _ _ h => h.nearest, fun _ _ some more => ⟨_, Lexer.findsDouble_ofDecimal some more⟩,
    fun _ _ _ hx hy => hx.unique hy, ?_, ?_,
    fun _ rounds _ starts => readNumberWith_convertDouble rounds starts⟩
  · intro lexeme x y i j hx hy
    obtain ⟨⟨whole, fraction, some, -, rfl⟩, nearest⟩ := hx.nearest
    have nearest' := hy.nearest.2
    rw [decimalValue_zeros some.point_notMem] at nearest'
    exact nearest'.unique nearest
  · intro lexeme lexeme' x y hx hy le finite
    exact hx.nearest.2.mono hy.nearest.2 le finite

/-- The conversion of a literal that is split behind its first digits. -/
def convertLiteral (lexeme : List Char) : Option Binary64 :=
  some (.ofDecimal (lexeme.takeWhile Char.isDigit) (lexeme.dropWhile Char.isDigit).tail)

theorem roundsLiterals_convertLiteral : RoundsLiterals convertLiteral := by
  intro whole fraction some more
  refine ⟨_, rfl, ?_⟩
  rw [takeWhile_run some.digit (by simp), dropWhile_run some.digit (by simp)]
  exact isNearest_ofDecimal some

/-- A number in the middle between two doubles is rounded to the even one, with zeros around it and without. -/
theorem doubles_nearest_midpoint :
    let even : Binary64 := ⟨0x4340000000000000⟩
    Lexer.FindsDouble "9007199254740993.0".toList even ∧
    Lexer.FindsDouble "009007199254740993.00".toList even ∧
    Lexer.FindsDouble "0.5".toList ⟨0x3FE0000000000000⟩ ∧
    decimalValue "9007199254740993.0".toList = 9007199254740993 ∧
    Binary64.IsNearest 9007199254740993 even ∧
    (∀ x, Binary64.IsNearest 9007199254740993 x → x = even) ∧
    (∀ y, Lexer.FindsDouble "009007199254740993.00".toList y → y = even) ∧
    (∀ x, Lexer.FindsDouble "0.5".toList x → x.value ≤ even.value) ∧
    readNumberWith (convertDouble convertLiteral) "0.5 ".toList = readNumber "0.5 ".toList := by
  intro even
  have found : Lexer.FindsDouble "9007199254740993.0".toList even := by
    let token : Token := ⟨.double even, "9007199254740993.0", ⟨0, 18, 1, 1⟩⟩
    have answered : ((Lexer.ofString "9007199254740993.0").calls [.advance]).1 = [.ok [token]] := by
      decide +kernel
    have among : .ok [token] ∈ ((Lexer.ofString "9007199254740993.0").calls [.advance]).1 := by
      rw [answered]
      exact List.mem_singleton_self _
    exact ⟨_, _, _, among, token, List.mem_singleton_self token, rfl, rfl⟩
  have denoted : decimalValue "9007199254740993.0".toList = 9007199254740993 := by decide +kernel
  obtain ⟨nearest, finds, unique, zeros, mono, converted⟩ := doubles_nearest
  have midpoint := (nearest _ _ found).2
  rw [denoted] at midpoint
  obtain ⟨padded, found'⟩ := finds "009007199254740993".toList ['0', '0']
    ⟨by simp, by simp⟩ ⟨by simp, by simp⟩
  obtain rfl : padded = even := zeros _ _ padded 2 1 found found'
  have half : Lexer.FindsDouble "0.5".toList ⟨0x3FE0000000000000⟩ := by
    have bits : Binary64.ofDecimal ['0'] ['5'] = ⟨0x3FE0000000000000⟩ := by decide +kernel
    rw [← bits]
    exact Lexer.findsDouble_ofDecimal ⟨by simp, by simp⟩ ⟨by simp, by simp⟩
  refine ⟨found, found', half, denoted, midpoint, fun x other => unique _ _ _ other midpoint,
    fun y => zeros _ _ y 2 1 found, fun x half' => ?_,
    converted _ roundsLiterals_convertLiteral _ (by decide)⟩
  have less : decimalValue "0.5".toList ≤ decimalValue "9007199254740993.0".toList := by decide +kernel
  exact (mono _ _ _ _ half' found less (by decide)).2

end SyntaxCheck
