import Mathlib.Data.List.TakeWhile
import SyntaxCheck.CommandLine.Output
import SyntaxCheck.Proofs.Lexeme.Grammar

/-!
# Texts on one line

* `IsLine` - a text without a newline, and what such texts are made of;
* `notMem_toDigits`, `isLine_toString` - numbers;
* `append_mark_cancel` - the first mark in a text tells what stands in front of it and behind;
* `lineCount_linesOf`, `linesOf_injective` - printed one below the other, lines can be counted and told
  apart.
-/

namespace SyntaxCheck

/-- The text has no newline. -/
def IsLine (text : String) : Prop := '\n' ∉ text.toList

instance (text : String) : Decidable (IsLine text) := inferInstanceAs (Decidable ('\n' ∉ text.toList))

section Texts

variable {a b : String} {text : List Char}

@[simp] theorem isLine_append : IsLine (a ++ b) ↔ IsLine a ∧ IsLine b := by
  simp [IsLine]

@[simp] theorem isLine_ofList : IsLine (String.ofList text) ↔ '\n' ∉ text := by
  simp [IsLine]

/-- A number has digits only. -/
theorem notMem_toDigits {c : Char} (other : c.isDigit = false) (n : Nat) : c ∉ Nat.toDigits 10 n := by
  intro found
  have digit := Nat.isDigit_of_mem_toDigits (by decide) (by decide) found
  cases other.symm.trans digit

/-- A number is on one line. -/
@[simp] theorem isLine_toString (n : Nat) : IsLine (toString n) := by
  have same : (toString n).toList = Nat.toDigits 10 n := Nat.toList_repr
  rw [IsLine, same]
  exact notMem_toDigits rfl n

end Texts

/-- Lines with a mark between them are a line. -/
theorem isLine_intercalate {mark : String} {texts : List String} (single : IsLine mark)
    (each : ∀ text ∈ texts, IsLine text) : IsLine (String.intercalate mark texts) := by
  induction texts with
  | nil => simp [IsLine]
  | cons text texts ih =>
    obtain ⟨first, others⟩ := List.forall_mem_cons.1 each
    cases texts with
    | nil => rwa [String.intercalate_singleton]
    | cons next texts =>
      rw [String.intercalate_cons_cons, isLine_append, isLine_append]
      exact ⟨⟨first, single⟩, ih others⟩

/-! ### Lines one below the other -/

section Lines

variable {line : String} {lines lines' : List String}

@[simp] theorem linesOf_nil : linesOf [] = "" := rfl

theorem linesOf_cons (line : String) (lines : List String) :
    linesOf (line :: lines) = line ++ "\n" ++ linesOf lines := by
  simp [linesOf, String.join_cons]

theorem toList_linesOf_cons (line : String) (lines : List String) :
    (linesOf (line :: lines)).toList = line.toList ++ '\n' :: (linesOf lines).toList := by
  simp [linesOf_cons]

/-- As many lines are printed as there are texts. -/
theorem lineCount_linesOf (each : ∀ line ∈ lines, IsLine line) :
    lineCount (linesOf lines).toList = lines.length := by
  have ends : ∀ lines, (linesOf lines).toList.getLast?.all (· == '\n') = true := by
    intro lines
    induction lines with
    | nil => rfl
    | cons line lines ih =>
      rw [toList_linesOf_cons, List.getLast?_append, List.getLast?_cons]
      cases last : (linesOf lines).toList.getLast? with
      | none => rfl
      | some c =>
        rw [last] at ih
        exact ih
  rw [lineCount, ends, if_pos rfl, Nat.add_zero]
  induction lines with
  | nil => rfl
  | cons line lines ih =>
    obtain ⟨first, others⟩ := List.forall_mem_cons.1 each
    rw [toList_linesOf_cons, List.count_append, List.count_cons_self, List.count_eq_zero.2 first,
      ih others, List.length_cons, Nat.zero_add]

/-- A run without the mark ends with the first mark. -/
theorem append_mark_cancel {mark : Char} {a b x y : List Char} (free : mark ∉ a) (free' : mark ∉ b)
    (same : a ++ mark :: x = b ++ mark :: y) : a = b ∧ x = y := by
  have inside : ∀ {run : List Char}, mark ∉ run → ∀ c ∈ run, (c != mark) = true := by
    intro run free c found
    refine bne_iff_ne.2 ?_
    rintro rfl
    exact free found
  have stops : ∀ {rest : List Char}, ∀ c ∈ (mark :: rest).head?, (c != mark) = false := by
    intro rest c found
    cases found
    exact bne_self_eq_false mark
  have first := congrArg (List.takeWhile (· != mark)) same
  rw [takeWhile_run (inside free) stops, takeWhile_run (inside free') stops] at first
  subst first
  exact ⟨rfl, List.tail_eq_of_cons_eq (List.append_cancel_left same)⟩

/-- The lines are found again in what is printed. -/
theorem linesOf_injective (each : ∀ line ∈ lines, IsLine line) (each' : ∀ line ∈ lines', IsLine line)
    (same : linesOf lines = linesOf lines') : lines = lines' := by
  rw [← String.toList_inj] at same
  induction lines generalizing lines' with
  | nil =>
    cases lines' with
    | nil => rfl
    | cons line' lines' =>
      rw [toList_linesOf_cons] at same
      exact absurd same.symm (by simp)
  | cons line lines ih =>
    cases lines' with
    | nil =>
      rw [toList_linesOf_cons] at same
      exact absurd same (by simp)
    | cons line' lines' =>
      obtain ⟨first, others⟩ := List.forall_mem_cons.1 each
      obtain ⟨first', others'⟩ := List.forall_mem_cons.1 each'
      rw [toList_linesOf_cons, toList_linesOf_cons] at same
      obtain ⟨line_eq, later⟩ := append_mark_cancel first first' same
      rw [String.toList_inj.1 line_eq, ih others others' later]

end Lines

end SyntaxCheck
