import Mathlib.Data.Nat.Basic
import SyntaxCheck.Text.Quoted
import SyntaxCheck.Proofs.Lexeme.Grammar

/-!
# Quoted texts are read back

Whatever is in a text, it can be told from the quoted one. Its characters are read one by one, and a delimiter that
stands for itself is the end.

* `Quoted.readChar`, `Quoted.readChar_spell` - one character is read back;
* `Quoted.enclose_injective` - so different texts are quoted differently.
-/

namespace SyntaxCheck

namespace Quoted

/-! ### Codes -/

/-- The number that lower-case hexadecimal digits write. -/
def hexValue (digits : List Char) : Nat :=
  digits.foldl (fun n c => 16 * n + if c.isDigit then c.toNat - '0'.toNat else c.toNat - 'a'.toNat + 10) 0

theorem digitChar_spec {n : Nat} (less : n < 16) :
    (Nat.digitChar n ≠ '\x7d') ∧ (if (Nat.digitChar n).isDigit then (Nat.digitChar n).toNat - '0'.toNat
      else (Nat.digitChar n).toNat - 'a'.toNat + 10) = n := by
  decide +revert

theorem hexValue_toDigits (n : Nat) :
    (∀ c ∈ Nat.toDigits 16 n, c ≠ '\x7d') ∧ hexValue (Nat.toDigits 16 n) = n := by
  induction n using Nat.strongRecOn with
  | ind n ih =>
    rcases Nat.lt_or_ge n 16 with less | more
    · obtain ⟨other, value⟩ := digitChar_spec less
      rw [Nat.toDigits_of_lt_base less]
      refine ⟨List.forall_mem_singleton.2 other, ?_⟩
      rw [hexValue, List.foldl_cons, value]
      exact Nat.zero_add n
    · obtain ⟨others, value⟩ := ih (n / 16) (by omega)
      obtain ⟨other, last⟩ := digitChar_spec (Nat.mod_lt n (show 0 < 16 by decide))
      rw [Nat.toDigits_of_base_le (by decide) more]
      refine ⟨List.forall_mem_append.2 ⟨others, List.forall_mem_singleton.2 other⟩, ?_⟩
      rw [hexValue] at value ⊢
      rw [List.foldl_append, value, List.foldl_cons, last]
      exact Nat.div_add_mod n 16

/-! ### Characters -/

/-- The character that a letter behind a backslash stands for. -/
def unescape : Char → Char
  | '0' => '\x00'
  | 't' => '\t'
  | 'r' => '\r'
  | 'n' => '\n'
  | c => c

/-- Reads the character at the head of a quoted text, and what follows it. -/
def readChar : List Char → Option (Char × List Char)
  | '\\' :: 'u' :: '\x7b' :: code =>
    some (Char.ofNat (hexValue (code.takeWhile (· ≠ '\x7d'))), (code.dropWhile (· ≠ '\x7d')).tail)
  | '\\' :: c :: rest => some (unescape c, rest)
  | c :: rest => some (c, rest)
  | [] => none

/-- The delimiter is one of the two quotes. -/
def IsQuote (c : Char) : Prop := c = '"' ∨ c = '\''

theorem readChar_plain {c : Char} (plain : c ≠ '\\') (rest : List Char) :
    readChar (c :: rest) = some (c, rest) := by
  unfold readChar
  split
  · rename_i same
    exact absurd (List.cons.inj same).1 plain
  · rename_i same
    exact absurd (List.cons.inj same).1 plain
  · rename_i same
    cases same
    rfl
  · contradiction

variable {delimiter : Char}

/-- A character is read back, and what follows it is left. -/
theorem readChar_spell (quote : IsQuote delimiter) (c : Char) (rest : List Char) :
    readChar (spell delimiter c ++ rest) = some (c, rest) := by
  unfold spell
  split_ifs with null tab ret newline escaped hidden
  · rw [null]; rfl
  · rw [tab]; rfl
  · rw [ret]; rfl
  · rw [newline]; rfl
  · obtain rfl | rfl := escaped
    · rfl
    · obtain rfl | rfl := quote <;> rfl
  · obtain ⟨others, value⟩ := hexValue_toDigits c.toNat
    have inside : ∀ d ∈ Nat.toDigits 16 c.toNat, decide (d ≠ '\x7d') = true :=
      fun d found => decide_eq_true (others d found)
    have spelled : spellCode c ++ rest = '\\' :: 'u' :: '\x7b' :: (Nat.toDigits 16 c.toNat ++ '\x7d' :: rest) := by
      simp [spellCode]
    rw [spelled, readChar, takeWhile_run inside (by simp), dropWhile_run inside (by simp), value, Char.ofNat_toNat]
    rfl
  · rw [not_or] at escaped
    exact readChar_plain escaped.1 rest

/-! ### Texts -/

/-- No character of a text is taken for the delimiter behind it. -/
theorem spell_append_ne (quote : IsQuote delimiter) (c : Char) (rest rest' : List Char) :
    spell delimiter c ++ rest ≠ delimiter :: rest' := by
  intro same
  have plain : delimiter ≠ '\\' := by obtain rfl | rfl := quote <;> decide
  have read := readChar_spell quote c rest
  rw [same, readChar_plain plain] at read
  cases read
  -- the delimiter itself follows a backslash
  have spelled : spell delimiter delimiter = ['\\', delimiter] := by obtain rfl | rfl := quote <;> rfl
  rw [spelled] at same
  exact plain (List.cons.inj same).1.symm

theorem flatMap_spell_cancel (quote : IsQuote delimiter) {text text' : List Char}
    (same : text.flatMap (spell delimiter) ++ [delimiter] = text'.flatMap (spell delimiter) ++ [delimiter]) :
    text = text' := by
  induction text generalizing text' with
  | nil =>
    cases text' with
    | nil => rfl
    | cons c' text' =>
      rw [List.flatMap_cons, List.append_assoc] at same
      exact absurd same.symm (spell_append_ne quote c' _ _)
  | cons c text ih =>
    rw [List.flatMap_cons, List.append_assoc] at same
    cases text' with
    | nil => exact absurd same (spell_append_ne quote c _ _)
    | cons c' text' =>
      rw [List.flatMap_cons, List.append_assoc] at same
      have first := readChar_spell quote c (text.flatMap (spell delimiter) ++ [delimiter])
      rw [same, readChar_spell quote, Option.some.injEq, Prod.mk.injEq] at first
      rw [first.1, ih first.2.symm]

/-- Different texts are quoted differently. -/
theorem enclose_injective (quote : IsQuote delimiter) : Function.Injective (enclose delimiter) := by
  intro text text' same
  exact flatMap_spell_cancel quote (List.cons.inj (String.ofList_injective same)).2

end Quoted

theorem quotedString_injective : Function.Injective quotedString := by
  intro text text' same
  exact String.toList_inj.1 (Quoted.enclose_injective (.inl rfl) same)

theorem quotedChar_injective : Function.Injective quotedChar := by
  intro c c' same
  exact (List.cons.inj (Quoted.enclose_injective (.inr rfl) same)).1

end SyntaxCheck
