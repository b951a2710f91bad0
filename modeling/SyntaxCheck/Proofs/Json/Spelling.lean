import Mathlib.Tactic.SplitIfs
import SyntaxCheck.Json.Printer
import SyntaxCheck.Json.Token
import SyntaxCheck.Proofs.Lexeme.Grammar

/-!
# Spellings of JSON tokens

A character of a string may be written as it is, by a letter behind a backslash, by its code, or by the
codes of two surrogates; and blanks may stand around every token. What is read does not depend on that.

* `SpellsChar`, `SpellsText` - the ways to write a character and a text inside a string;
* `readJsonText_of_spells` - they are read as that text;
* `spellsText_write` - what is printed is one of them;
* `JsonCut` - a text is cut into tokens;
* `jsonTokens_append_of_cut` - so these tokens are read first, whatever follows;
* `jsonTokens_of_cut` - where nothing follows, they are its tokens.
-/

namespace SyntaxCheck

/-! ### Strings -/

/-- The ways to write a character inside a string. -/
inductive SpellsChar : Char → List Char → Prop
  /-- As it is, unless it would end the string, start an escape or is a control. -/
  | raw {c : Char} (printable : 32 ≤ c.toNat) (quote : c ≠ '"') (backslash : c ≠ '\\') :
      SpellsChar c [c]
  /-- By the letter that stands for it. -/
  | letter {c e : Char} (stands : jsonEscape? e = some c) : SpellsChar c ['\\', e]
  /-- By its code. -/
  | code {c h₁ h₂ h₃ h₄ : Char} (stands : hexCode? h₁ h₂ h₃ h₄ = some c.toNat) :
      SpellsChar c ['\\', 'u', h₁, h₂, h₃, h₄]
  /-- By the codes of two surrogates. -/
  | pair {high low : Nat} {h₁ h₂ h₃ h₄ l₁ l₂ l₃ l₄ : Char}
      (opens : hexCode? h₁ h₂ h₃ h₄ = some high) (isHigh : isHighSurrogate high = true)
      (closes : hexCode? l₁ l₂ l₃ l₄ = some low) (isLow : isLowSurrogate low = true) :
      SpellsChar (pairedChar high low)
        ['\\', 'u', h₁, h₂, h₃, h₄, '\\', 'u', l₁, l₂, l₃, l₄]

/-- The code is a surrogate, and makes no pair with what comes right behind it. -/
def Unpaired (code : Nat) (behind : JsonText) : Prop :=
  isLowSurrogate code = true ∨
    isHighSurrogate code = true ∧ ∀ low, behind.head? = some (.unpaired low) → isLowSurrogate low = false

/-- The ways to write a string between its quotes. A surrogate can only be written by its code. -/
inductive SpellsText : JsonText → List Char → Prop
  | nil : SpellsText [] []
  | cons {c : Char} {text : JsonText} {spelling others : List Char} (first : SpellsChar c spelling)
      (later : SpellsText text others) : SpellsText (.scalar c :: text) (spelling ++ others)
  | unpaired {code : Nat} {h₁ h₂ h₃ h₄ : Char} {text : JsonText} {others : List Char}
      (stands : hexCode? h₁ h₂ h₃ h₄ = some code) (unpaired : Unpaired code text)
      (later : SpellsText text others) :
      SpellsText (.unpaired code :: text) ('\\' :: 'u' :: h₁ :: h₂ :: h₃ :: h₄ :: others)

section Strings

variable {c : Char} {text : JsonText} {spelling : List Char} {code : Nat}

/-- The code of a character is no surrogate. -/
theorem not_surrogate (c : Char) :
    isHighSurrogate c.toNat = false ∧ isLowSurrogate c.toNat = false := by
  have valid := c.valid
  have same : c.val.toNat = c.toNat := rfl
  unfold UInt32.isValidChar Nat.isValidChar at valid
  rw [same] at valid
  simp only [isHighSurrogate, isLowSurrogate, Bool.and_eq_false_iff, decide_eq_false_iff_not]
  omega

theorem consCode_toNat (c : Char) (text : JsonText) :
    consCode c.toNat text = .scalar c :: text := by
  obtain ⟨high, low⟩ := not_surrogate c
  unfold consCode
  rw [high, low, Char.ofNat_toNat]
  rfl

/-- A surrogate that closes a pair opens none. -/
theorem not_isHighSurrogate (isLow : isLowSurrogate code = true) : isHighSurrogate code = false := by
  simp only [isHighSurrogate, isLowSurrogate, Bool.and_eq_true, decide_eq_true_eq,
    Bool.and_eq_false_iff, decide_eq_false_iff_not] at isLow ⊢
  omega

/-- Two surrogates make one character. -/
theorem consCode_pair {high low : Nat} (isHigh : isHighSurrogate high = true)
    (isLow : isLowSurrogate low = true) (text : JsonText) :
    consCode high (consCode low text) = .scalar (pairedChar high low) :: text := by
  simp only [consCode, isHigh, isLow, not_isHighSurrogate isLow, if_true, Bool.false_eq_true, if_false]

theorem readJsonText_code {h₁ h₂ h₃ h₄ : Char} (stands : hexCode? h₁ h₂ h₃ h₄ = some code)
    (rest : List Char) : readJsonText ('\\' :: 'u' :: h₁ :: h₂ :: h₃ :: h₄ :: rest) =
      (readJsonText rest).map fun r => (consCode code r.1, r.2) := by
  rw [readJsonText, stands]

/-- Any spelling of a character is read as that character. -/
theorem readJsonText_of_spellsChar (h : SpellsChar c spelling) (rest : List Char) :
    readJsonText (spelling ++ rest) =
      (readJsonText rest).map fun r => (.scalar c :: r.1, r.2) := by
  cases h with
  | raw printable quote backslash =>
    have control : (decide (c.toNat < 32) || c == '\\') = false := by
      simp [backslash, Nat.not_lt.2 printable]
    rw [List.singleton_append, readJsonText, control]
    · rfl
    · exact quote
    · exact fun _ _ _ _ _ same => absurd same backslash
    · exact fun _ _ same => absurd same backslash
  | @letter e _ stands =>
    unfold jsonEscape? at stands
    split at stands <;> cases stands <;> rfl
  | code stands =>
    simp only [List.cons_append, List.nil_append]
    rw [readJsonText_code stands]
    simp only [consCode_toNat]
  | pair opens isHigh closes isLow =>
    simp only [List.cons_append, List.nil_append]
    rw [readJsonText_code opens, readJsonText_code closes, Option.map_map]
    simp only [Function.comp_def, consCode_pair isHigh isLow]

/-- A surrogate stays unpaired before what does not pair with it. -/
theorem consCode_unpaired (h : Unpaired code text) : consCode code text = .unpaired code :: text := by
  unfold consCode
  rcases h with low | ⟨high, behind⟩
  · simp only [not_isHighSurrogate low, low, Bool.false_eq_true, if_false, if_true]
  · rw [if_pos high]
    split
    · rename_i low rest
      rw [behind low rfl]
      rfl
    · rfl

/-- Any spelling of a string is read as that string, up to the quote behind it. -/
theorem readJsonText_of_spells (h : SpellsText text spelling) (rest : List Char) :
    readJsonText (spelling ++ '"' :: rest) = some (text, rest) := by
  induction h with
  | nil => rw [List.nil_append, readJsonText]
  | cons first later ih =>
    rw [List.append_assoc, readJsonText_of_spellsChar first, ih]
    rfl
  | unpaired stands unpaired later ih =>
    simp only [List.cons_append]
    rw [readJsonText_code stands, ih, Option.map_some, consCode_unpaired unpaired]

/-! ### What is printed inside a string -/

theorem hexDigit?_digitChar {n : Nat} (lt : n < 16) : hexDigit? (Nat.digitChar n) = some n := by
  decide +revert

/-- The four digits of a code are read as the code. -/
theorem hexCode?_hexDigits (lt : code < 0x10000) :
    hexCode? (Nat.digitChar (code / 4096 % 16)) (Nat.digitChar (code / 256 % 16))
      (Nat.digitChar (code / 16 % 16)) (Nat.digitChar (code % 16)) = some code := by
  have digit (n : Nat) : hexDigit? (Nat.digitChar (n % 16)) = some (n % 16) :=
    hexDigit?_digitChar (Nat.mod_lt n (by decide))
  have sum : ((code / 4096 % 16 * 16 + code / 256 % 16) * 16 + code / 16 % 16) * 16 + code % 16 =
      code := by omega
  simp only [hexCode?, digit, Option.bind_eq_bind, Option.bind_some, Option.pure_def, sum]

theorem spellsChar_write (c : Char) : SpellsChar c (writeJsonChar (.scalar c)) := by
  simp only [writeJsonChar]
  split_ifs with special _ _ _ _ _ control
  · refine .letter ?_
    rcases special with rfl | rfl <;> rfl
  · subst c; exact .letter rfl
  · subst c; exact .letter rfl
  · subst c; exact .letter rfl
  · subst c; exact .letter rfl
  · subst c; exact .letter rfl
  · exact .code (hexCode?_hexDigits (by omega))
  · rw [not_or] at special
    exact .raw (by omega) special.1 special.2

theorem spellsText_write (cs : List Char) :
    SpellsText (cs.map .scalar) ((cs.map JsonChar.scalar).flatMap writeJsonChar) := by
  induction cs with
  | nil => exact .nil
  | cons c cs ih => exact .cons (spellsChar_write c) ih

end Strings

/-! ### Numbers -/

section Numbers

variable {text : List Char}

theorem isJsonNumberPart_of_isDigit {c : Char} (h : c.isDigit = true) : isJsonNumberPart c = true := by
  simp [isJsonNumberPart, h]

theorem numberParts_of_digits (h : text.all Char.isDigit = true) :
    text.all isJsonNumberPart = true := by
  rw [List.all_eq_true] at h ⊢
  exact fun c mem => isJsonNumberPart_of_isDigit (h c mem)

theorem numberParts_of_isDigits (h : isDigits text = true) : text.all isJsonNumberPart = true :=
  numberParts_of_digits (Bool.and_eq_true _ _ ▸ h).2

theorem numberParts_of_isExponent (h : isExponent text = true) :
    text.all isJsonNumberPart = true := by
  have mark {e : Char} (h : (e == 'e' || e == 'E') = true) : isJsonNumberPart e = true := by
    unfold isJsonNumberPart
    rw [Bool.or_assoc, h, Bool.or_true]
  unfold isExponent at h
  split at h
  · rfl
  all_goals
    obtain ⟨first, digits⟩ := Bool.and_eq_true_iff.1 h
    simp only [List.all_cons, mark first, numberParts_of_isDigits digits]
    rfl

/-- The digits at the head of a text, and what is behind them. -/
theorem numberParts_of_split (h : (text.dropWhile Char.isDigit).all isJsonNumberPart = true) :
    text.all isJsonNumberPart = true := by
  have digits : (text.takeWhile Char.isDigit).all isJsonNumberPart = true :=
    numberParts_of_digits List.all_takeWhile
  have whole := (text.takeWhile_append_dropWhile (p := Char.isDigit)).symm
  rw [whole, List.all_append, digits, h]
  rfl

theorem numberParts_of_isFraction (h : isFraction text = true) :
    text.all isJsonNumberPart = true := by
  unfold isFraction at h
  split at h
  · rw [List.all_cons]
    exact numberParts_of_split (numberParts_of_isExponent (Bool.and_eq_true_iff.1 h).2)
  · exact numberParts_of_isExponent h

theorem numberParts_of_isUnsigned (h : isUnsigned text = true) :
    text.all isJsonNumberPart = true :=
  numberParts_of_split (numberParts_of_isFraction (Bool.and_eq_true_iff.1 h).2)

/-- A number starts with a digit or a sign, and holds nothing but parts of numbers. -/
theorem parts_of_isJsonNumber (h : isJsonNumber text = true) :
    ∃ c others, text = c :: others ∧ (c.isDigit || c == '-') = true ∧
      others.all isJsonNumberPart = true := by
  unfold isJsonNumber at h
  split at h
  · exact ⟨_, _, rfl, rfl, numberParts_of_isUnsigned h⟩
  · have parts := numberParts_of_isUnsigned h
    cases text with
    | nil => cases h
    | cons c others =>
      rw [List.all_cons, Bool.and_eq_true] at parts
      refine ⟨c, others, rfl, ?_, parts.2⟩
      cases digit : c.isDigit with
      | true => rfl
      | false =>
        unfold isUnsigned at h
        rw [List.takeWhile_cons, digit] at h
        cases h

end Numbers

/-! ### Cutting a text -/

/-- A text is cut into tokens. Blanks stand anywhere between them; a word or number must not run into
more of its kind. -/
inductive JsonCut : List Char → List JsonToken → Prop
  | nil : JsonCut [] []
  | blank {c : Char} {rest : List Char} {tokens : List JsonToken} (blank : isJsonBlank c = true)
      (others : JsonCut rest tokens) : JsonCut (c :: rest) tokens
  | mark {c : Char} {token : JsonToken} {rest : List Char} {tokens : List JsonToken}
      (stands : jsonMark? c = some token) (others : JsonCut rest tokens) :
      JsonCut (c :: rest) (token :: tokens)
  | text {text : JsonText} {spelling rest : List Char} {tokens : List JsonToken}
      (spells : SpellsText text spelling) (others : JsonCut rest tokens) :
      JsonCut ('"' :: (spelling ++ '"' :: rest)) (.text text :: tokens)
  | word {word rest : List Char} {token : JsonToken} {tokens : List JsonToken}
      (stands : jsonWord? word = some token) (delimited : ∀ c ∈ rest.head?, c.isAlpha = false)
      (others : JsonCut rest tokens) : JsonCut (word ++ rest) (token :: tokens)
  | number {literal rest : List Char} {tokens : List JsonToken}
      (form : isJsonNumber literal = true)
      (delimited : ∀ c ∈ rest.head?, isJsonNumberPart c = false) (others : JsonCut rest tokens) :
      JsonCut (literal ++ rest) (.number literal :: tokens)

section Cuts

variable {c : Char} {text rest : List Char} {token : JsonToken} {tokens : List JsonToken}

theorem jsonTokens_blank (blank : isJsonBlank c = true) (text : List Char) :
    jsonTokens (c :: text) = jsonTokens text := by
  rw [jsonTokens, if_pos blank]

theorem jsonTokens_of_read (solid : isJsonBlank c = false)
    (read : readJsonToken c text = some (token, rest)) :
    jsonTokens (c :: text) = (jsonTokens rest).map (token :: ·) := by
  rw [jsonTokens, if_neg (Bool.eq_false_iff.1 solid)]
  split
  · rename_i missing
    cases read.symm.trans missing
  · rename_i found
    cases read.symm.trans found
    rfl

theorem isJsonBlank_of_jsonMark? (stands : jsonMark? c = some token) : isJsonBlank c = false := by
  unfold jsonMark? at stands
  split at stands <;> cases stands <;> rfl

/-- A word is read as the longest part that is all letters. -/
theorem readJsonToken_word {word : List Char} (stands : jsonWord? word = some token) :
    ∃ c others, word = c :: others ∧ others.all Char.isAlpha = true ∧ isJsonBlank c = false ∧
      ∀ text, readJsonToken c text = (jsonWord? (c :: text.takeWhile Char.isAlpha)).map
        fun token => (token, text.dropWhile Char.isAlpha) := by
  unfold jsonWord? at stands
  split_ifs at stands with same same same
  all_goals
    subst same
    exact ⟨_, _, rfl, rfl, rfl, fun _ => rfl⟩

/-- A number is read as the longest part that is all parts of numbers. -/
theorem readJsonToken_number (first : (c.isDigit || c == '-') = true) (text : List Char) :
    isJsonBlank c = false ∧ readJsonToken c text =
      if isJsonNumber (c :: text.takeWhile isJsonNumberPart) then
        some (.number (c :: text.takeWhile isJsonNumberPart), text.dropWhile isJsonNumberPart)
      else none := by
  have other {d : Char} (h : (d.isDigit || d == '-') = false) : c ≠ d := by
    rintro rfl
    cases first.symm.trans h
  have noMark : jsonMark? c = none := by
    unfold jsonMark?
    split
    all_goals first | rfl | exact absurd rfl (other (by decide))
  have solid : isJsonBlank c = false := by
    simp only [isJsonBlank, Bool.or_eq_false_iff, beq_eq_false_iff_ne]
    exact ⟨⟨⟨other (by decide), other (by decide)⟩, other (by decide)⟩, other (by decide)⟩
  have quote : c ≠ '"' := other (by decide)
  refine ⟨solid, ?_⟩
  unfold readJsonToken
  rw [noMark]
  simp only [quote, if_false, first, if_true]

/-- The token ends with its last character, whatever follows: it is no word and no number. -/
def JsonToken.isClosed : JsonToken → Bool
  | .null | .bool _ | .number _ => false
  | _ => true

theorem JsonCut.tokens_eq_nil (h : JsonCut [] tokens) : tokens = [] := by
  generalize none : [] = text at h
  cases h with
  | nil => rfl
  | word stands =>
    obtain ⟨c, others, rfl, -⟩ := readJsonToken_word stands
    cases none
  | number form =>
    obtain ⟨c, others, rfl, -⟩ := parts_of_isJsonNumber form
    cases none
  | blank | mark | text => cases none

/-- A word or number does not run into what follows the text, unless it is the last token. -/
theorem JsonCut.delimited {p : Char → Bool} {after : List Char} (h : JsonCut rest tokens)
    (delimited : ∀ c ∈ rest.head?, p c = false) (isOpen : token.isClosed = false)
    (apart : after ≠ [] → ∀ last ∈ (token :: tokens).getLast?, last.isClosed = true) :
    ∀ c ∈ (rest ++ after).head?, p c = false := by
  cases rest with
  | cons c rest => exact delimited
  | nil =>
    obtain rfl := h.tokens_eq_nil
    cases after with
    | nil => exact delimited
    | cons c after =>
      cases isOpen.symm.trans (apart nofun token rfl)

/-- The tokens that a text is cut into come first, whatever follows that a word or number at its end does not
run into. -/
theorem jsonTokens_append_of_cut {after : List Char} (h : JsonCut text tokens)
    (apart : after ≠ [] → ∀ last ∈ tokens.getLast?, last.isClosed = true) :
    jsonTokens (text ++ after) = (jsonTokens after).map (tokens ++ ·) := by
  have later {token : JsonToken} {tokens : List JsonToken}
      (apart : after ≠ [] → ∀ last ∈ (token :: tokens).getLast?, last.isClosed = true) :
      after ≠ [] → ∀ last ∈ tokens.getLast?, last.isClosed = true := by
    intro more last found
    refine apart more last ?_
    rw [List.getLast?_cons, Option.mem_def.1 found]
    rfl
  have cons {found : Option (List JsonToken)} {token : JsonToken} {tokens : List JsonToken} :
      (found.map (tokens ++ ·)).map (token :: ·) = found.map (token :: tokens ++ ·) := by
    rw [Option.map_map]
    rfl
  induction h with
  | nil => exact Option.map_id'.symm
  | blank blank _ ih => rw [List.cons_append, jsonTokens_blank blank, ih apart]
  | @mark c token rest _ stands _ ih =>
    have read : readJsonToken c (rest ++ after) = some (token, rest ++ after) := by
      unfold readJsonToken
      rw [stands]
    rw [List.cons_append, jsonTokens_of_read (isJsonBlank_of_jsonMark? stands) read, ih (later apart), cons]
  | @text value spelling rest _ spells _ ih =>
    have read : readJsonToken '"' (spelling ++ '"' :: (rest ++ after)) = some (.text value, rest ++ after) := by
      show (readJsonText (spelling ++ '"' :: (rest ++ after))).map _ = _
      rw [readJsonText_of_spells spells]
      rfl
    simp only [List.cons_append, List.append_assoc]
    rw [jsonTokens_of_read rfl read, ih (later apart), cons]
    rfl
  | @word word rest token _ stands delimited others ih =>
    have isOpen : token.isClosed = false := by
      unfold jsonWord? at stands
      split_ifs at stands <;> cases stands <;> rfl
    obtain ⟨c, letters, rfl, all, solid, read⟩ := readJsonToken_word stands
    have all := List.all_eq_true.1 all
    have delimited := others.delimited delimited isOpen apart
    have read := read (letters ++ (rest ++ after))
    rw [takeWhile_run all delimited, dropWhile_run all delimited, stands] at read
    rw [List.append_assoc, List.cons_append, jsonTokens_of_read solid read, ih (later apart), cons]
  | @number literal rest _ form delimited others ih =>
    obtain ⟨c, parts, rfl, first, all⟩ := parts_of_isJsonNumber form
    have all := List.all_eq_true.1 all
    have delimited := others.delimited delimited rfl apart
    obtain ⟨solid, read⟩ := readJsonToken_number first (parts ++ (rest ++ after))
    rw [takeWhile_run all delimited, dropWhile_run all delimited, if_pos form] at read
    rw [List.append_assoc, List.cons_append, jsonTokens_of_read solid read, ih (later apart), cons]

/-- The tokens that a text is cut into are all of its tokens. -/
theorem jsonTokens_of_cut (h : JsonCut text tokens) : jsonTokens text = some tokens := by
  have whole : jsonTokens (text ++ []) = _ := jsonTokens_append_of_cut h (absurd rfl)
  rw [List.append_nil, jsonTokens, Option.map_some, List.append_nil] at whole
  exact whole

end Cuts

end SyntaxCheck
