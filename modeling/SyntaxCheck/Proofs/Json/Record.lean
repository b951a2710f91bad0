import Mathlib.Data.List.TakeWhile
import SyntaxCheck.Proofs.Json.Roundtrip

/-!
# Values that stand for data

Numbers, texts, lists and records of them are written as JSON values, and are found in these again.

* `Json.plain_ofNat`, `Json.toNat?_ofNat` - natural numbers;
* `Json.plain_record`, `Json.fields?_record` - objects with some keys;
* `Json.toList?_map` - lists.
-/

namespace SyntaxCheck

namespace Json

/-! ### Numbers -/

variable {n : Nat}

theorem all_toDigits (n : Nat) : (Nat.toDigits 10 n).all Char.isDigit = true :=
  List.all_eq_true.2 fun _ mem => Nat.isDigit_of_mem_toDigits (by decide) (by decide) mem

/-- The first of several digits is not zero. -/
theorem head?_toDigits_ne (pos : 0 < n) : (Nat.toDigits 10 n).head? ≠ some '0' := by
  induction n using Nat.strongRecOn with
  | ind n ih =>
    rw [Nat.toDigits_eq_if (by decide)]
    split
    · simpa using Nat.ne_of_gt pos
    · have first := ih (n / 10) (by omega) (by omega)
      have nonempty : Nat.toDigits 10 (n / 10) ≠ [] := Nat.toDigits_ne_nil
      rwa [List.head?_append, Option.or_of_isSome (List.isSome_head?.2 nonempty)]

theorem isWhole_toDigits (n : Nat) : isWhole (Nat.toDigits 10 n) = true := by
  rcases Nat.eq_zero_or_pos n with rfl | pos
  · rw [Nat.toDigits_zero]
    rfl
  · have digits := all_toDigits n
    have first := head?_toDigits_ne pos
    have nonempty : Nat.toDigits 10 n ≠ [] := Nat.toDigits_ne_nil
    unfold isWhole
    split
    · contradiction
    · rename_i found
      rw [found] at first
      exact absurd rfl first
    · exact digits

theorem isJsonNumber_toDigits (n : Nat) : isJsonNumber (Nat.toDigits 10 n) = true := by
  have digits := all_toDigits n
  have unsigned : isUnsigned (Nat.toDigits 10 n) = true := by
    have each := List.all_eq_true.1 digits
    rw [isUnsigned, List.takeWhile_eq_self_iff.2 each, List.dropWhile_eq_nil_iff.2 each,
      isWhole_toDigits]
    rfl
  unfold isJsonNumber
  split
  · rename_i found
    rw [found] at digits
    cases digits
  · exact unsigned

theorem plain_ofNat (n : Nat) : (ofNat n).Plain := .number (isJsonNumber_toDigits n)

/-- A number that fits into a word is read back. -/
theorem toNat?_ofNat (fits : n ≤ wordMax) : (ofNat n).toNat? = some n := by
  have value : Nat.ofDigitChars 10 (Nat.toDigits 10 n) 0 = n := Nat.ofDigitChars_ten_toDigits
  simp only [ofNat, toNat?, all_toDigits, value, fits, decide_true, Bool.and_self, if_true]

/-! ### Records -/

variable {members : List (String × Json)} {keys : List String}

theorem plain_record (plain : ∀ m ∈ members, m.2.Plain) : (record members).Plain := by
  refine .object (fun m mem => ?_) (fun m mem => ?_)
  · obtain ⟨member, -, rfl⟩ := List.mem_map.1 mem
    exact ⟨member.1, rfl⟩
  · obtain ⟨member, mem', rfl⟩ := List.mem_map.1 mem
    exact plain member mem'

/-- Where each item has a value, all of them have their values in order. -/
theorem mapM_some {α β : Type} {f : α → Option β} {g : α → β} {items : List α}
    (each : ∀ item ∈ items, f item = some (g item)) : items.mapM f = some (items.map g) := by
  induction items with
  | nil => rfl
  | cons item items ih =>
    rw [List.forall_mem_cons] at each
    rw [List.mapM_cons, each.1, ih each.2]
    rfl

theorem textMembers?_record (members : List (String × Json)) :
    textMembers? (members.map fun m => (JsonText.ofString m.1, m.2)) = some members := by
  unfold textMembers?
  rw [List.mapM_map]
  refine (mapM_some fun m _ => ?_).trans (congrArg some (List.map_id members))
  rw [Function.comp_apply, JsonText.toString?_ofString]
  rfl

/-- A key that stands once has its value. -/
theorem member?_of_nodup (distinct : (members.map Prod.fst).Nodup) {m : String × Json}
    (mem : m ∈ members) : member? members m.1 = some (some m.2) := by
  have alone : members.filter (fun other => other.1 == m.1) = [m] := by
    induction members with
    | nil => cases mem
    | cons first members ih =>
      rw [List.map_cons, List.nodup_cons] at distinct
      obtain ⟨fresh, distinct⟩ := distinct
      rcases List.mem_cons.1 mem with rfl | mem
      · -- none of the others has the key
        have none : members.filter (fun other => other.1 == m.1) = [] := by
          refine List.filter_eq_nil_iff.2 fun other mem' same => fresh ?_
          exact beq_iff_eq.1 same ▸ List.mem_map_of_mem mem'
        rw [List.filter_cons, if_pos (beq_self_eq_true m.1), none]
      · have other : ¬(first.1 == m.1) = true := fun same =>
          fresh (beq_iff_eq.1 same ▸ List.mem_map_of_mem mem)
        rw [List.filter_cons, if_neg other, ih distinct mem]
  rw [member?, alone]

/-- A record has the value of each of its keys. -/
theorem fields?_record (same : members.map Prod.fst = keys) (distinct : keys.Nodup) :
    (record members).fields? keys = some (members.map fun m => some m.2) := by
  subst same
  have each : ∀ m ∈ members, member? members m.1 = some (some m.2) :=
    fun _ => member?_of_nodup distinct
  rw [record, fields?, textMembers?_record]
  show (members.map Prod.fst).mapM (member? members) = _
  rw [List.mapM_map]
  exact mapM_some each

end Json

end SyntaxCheck
