import SyntaxCheck.Proofs.Json.Spelling

/-!
# The tokens of a text are those that it is cut into

What is read inside of a string is spelled there, and what is read of a text is cut out of it. So the ways to
cut a text are all that there are.

* `spells_of_readJsonText` - the string that is read is spelled up to its closing quote;
* `cut_of_jsonTokens` - the tokens that are read are those that the text is cut into.
-/

namespace SyntaxCheck

/-! ### Strings -/

section Strings

variable {text rest spelling : List Char} {value : JsonText} {code : Nat} {h₁ h₂ h₃ h₄ : Char}

theorem hexDigit?_lt {c : Char} {n : Nat} (h : hexDigit? c = some n) : n < 16 := by
  unfold hexDigit? at h
  split_ifs at h with digit lower upper
  · have bound : c.toNat ≤ 57 := by
      simp only [Char.isDigit, Bool.and_eq_true, decide_eq_true_eq] at digit
      exact digit.2
    cases h
    omega
  · have bound : c.toNat ≤ 102 := lower.2
    cases h
    omega
  · have bound : c.toNat ≤ 70 := upper.2
    cases h
    omega

/-- Four digits write a code of sixteen bits. -/
theorem hexCode?_lt (h : hexCode? h₁ h₂ h₃ h₄ = some code) : code < 0x10000 := by
  unfold hexCode? at h
  obtain ⟨a, first, h⟩ := Option.bind_eq_some_iff.1 h
  obtain ⟨b, second, h⟩ := Option.bind_eq_some_iff.1 h
  obtain ⟨c, third, h⟩ := Option.bind_eq_some_iff.1 h
  obtain ⟨d, fourth, h⟩ := Option.bind_eq_some_iff.1 h
  have a_lt := hexDigit?_lt first
  have b_lt := hexDigit?_lt second
  have c_lt := hexDigit?_lt third
  have d_lt := hexDigit?_lt fourth
  cases h
  omega

/-- A code that is no surrogate is that of a character. -/
theorem toNat_ofNat_of_code (lt : code < 0x10000) (high : isHighSurrogate code = false)
    (low : isLowSurrogate code = false) : (Char.ofNat code).toNat = code := by
  have valid : code.isValidChar := by
    simp only [isHighSurrogate, isLowSurrogate, Bool.and_eq_false_iff, decide_eq_false_iff_not] at high low
    unfold Nat.isValidChar
    omega
  rw [Char.ofNat, dif_pos valid]
  rfl

/-- A code in front of a string spells a character, half of one, or a surrogate. -/
theorem spells_consCode (stands : hexCode? h₁ h₂ h₃ h₄ = some code) (later : SpellsText value spelling) :
    SpellsText (consCode code value) ('\\' :: 'u' :: h₁ :: h₂ :: h₃ :: h₄ :: spelling) := by
  unfold consCode
  split_ifs with high low
  · split
    · rename_i low others
      split_ifs with closes
      · -- the code of the other half comes first in what follows
        cases later with
        | unpaired stands' _ later =>
          exact .cons (.pair stands high stands' closes) later
      · refine .unpaired stands (.inr ⟨high, ?_⟩) later
        rintro other ⟨⟩
        exact Bool.eq_false_iff.2 closes
    · rename_i other
      refine .unpaired stands (.inr ⟨high, fun low first => ?_⟩) later
      cases value with
      | nil => cases first
      | cons first others =>
        cases first
        exact absurd rfl (other low others)
  · exact .unpaired stands (.inl low) later
  · refine .cons (.code ?_) later
    rw [stands, toNat_ofNat_of_code (hexCode?_lt stands) (Bool.eq_false_iff.2 high) (Bool.eq_false_iff.2 low)]

/-- The string that is read is spelled up to its closing quote. -/
theorem spells_of_readJsonText (h : readJsonText text = some (value, rest)) :
    ∃ spelling, SpellsText value spelling ∧ text = spelling ++ '"' :: rest := by
  fun_induction readJsonText text generalizing value with
  | case1 => cases h
  | case2 => cases h; exact ⟨[], .nil, rfl⟩
  | case3 => cases h
  | case4 a b c d behind code found ih =>
    obtain ⟨⟨value, left⟩, read, eq⟩ := Option.map_eq_some_iff.1 h
    cases eq
    obtain ⟨spelling, spells, rfl⟩ := ih read
    exact ⟨_, spells_consCode found spells, rfl⟩
  | case5 => cases h
  | case6 e behind _ c found ih =>
    obtain ⟨⟨value, left⟩, read, eq⟩ := Option.map_eq_some_iff.1 h
    cases eq
    obtain ⟨spelling, spells, rfl⟩ := ih read
    exact ⟨_, .cons (.letter found) spells, rfl⟩
  | case7 => cases h
  | case8 c behind notQuote _ _ plain ih =>
    obtain ⟨⟨value, left⟩, read, eq⟩ := Option.map_eq_some_iff.1 h
    cases eq
    obtain ⟨spelling, spells, rfl⟩ := ih read
    simp only [Bool.or_eq_true, decide_eq_true_eq, beq_iff_eq, not_or, Nat.not_lt] at plain
    exact ⟨_, .cons (.raw plain.1 notQuote plain.2) spells, rfl⟩

end Strings

/-! ### Tokens -/

/-- What is read of a text is cut out of it. -/
theorem cut_of_jsonTokens {text : List Char} {tokens : List JsonToken} (h : jsonTokens text = some tokens) :
    JsonCut text tokens := by
  fun_induction jsonTokens text generalizing tokens with
  | case1 => cases h; exact .nil
  | case2 c text blank ih => exact .blank blank (ih h)
  | case3 => cases h
  | case4 c text solid token rest read ih =>
    obtain ⟨tokens, others, rfl⟩ := Option.map_eq_some_iff.1 h
    have others := ih others
    unfold readJsonToken at read
    split at read
    · rename_i stands
      cases read
      exact .mark stands others
    split at read
    · rename_i quote
      subst quote
      obtain ⟨⟨value, left⟩, inside, eq⟩ := Option.map_eq_some_iff.1 read
      cases eq
      obtain ⟨spelling, spells, rfl⟩ := spells_of_readJsonText inside
      exact .text spells others
    split at read
    · dsimp only at read
      split at read
      · rename_i form
        cases read
        have cut := JsonCut.number form (stops_dropWhile isJsonNumberPart text) others
        rwa [List.cons_append, List.takeWhile_append_dropWhile] at cut
      · cases read
    · obtain ⟨token, stands, eq⟩ := Option.map_eq_some_iff.1 read
      cases eq
      have cut := JsonCut.word stands (stops_dropWhile Char.isAlpha text) others
      rwa [List.cons_append, List.takeWhile_append_dropWhile] at cut

end SyntaxCheck
