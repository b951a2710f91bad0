/-!
# Places in a text

* `Position` - how many characters precede a place, and its line and column;
* `Position.next`, `Position.after` - the place behind one character, and behind a run of them;
* `Span` - a part of a text, with the line and column of its first character;
* `Position.span` - the part that starts at a place and has a given length.
-/

namespace SyntaxCheck

/-- A place between two characters. Lines and columns count from one, the offset from zero. -/
structure Position where
  offset : Nat
  line : Nat
  column : Nat
  deriving DecidableEq

/-- The characters from offset `start` up to but not including offset `stop`. -/
structure Span where
  start : Nat
  stop : Nat
  line : Nat
  column : Nat
  deriving DecidableEq

namespace Position

/-- The place before the first character of a text. -/
def first : Position := ⟨0, 1, 1⟩

instance : Inhabited Position := ⟨first⟩

/-- The place behind one character; a newline opens the next line. -/
def next (p : Position) (c : Char) : Position :=
  if c = '\n' then ⟨p.offset + 1, p.line + 1, 1⟩ else ⟨p.offset + 1, p.line, p.column + 1⟩

/-- The place behind a run of characters. -/
def after (p : Position) (text : List Char) : Position :=
  text.foldl next p

/-- The part of the text that starts here and has the given length. -/
def span (p : Position) (length : Nat) : Span :=
  ⟨p.offset, p.offset + length, p.line, p.column⟩

@[simp] theorem after_nil (p : Position) : p.after [] = p := rfl

@[simp] theorem after_cons (p : Position) (c : Char) (text : List Char) :
    p.after (c :: text) = (p.next c).after text := rfl

@[simp] theorem after_append (p : Position) (s t : List Char) :
    p.after (s ++ t) = (p.after s).after t :=
  List.foldl_append

theorem next_newline (p : Position) : p.next '\n' = ⟨p.offset + 1, p.line + 1, 1⟩ := rfl

theorem next_of_ne {c : Char} (p : Position) (h : c ≠ '\n') :
    p.next c = ⟨p.offset + 1, p.line, p.column + 1⟩ :=
  if_neg h

@[simp] theorem offset_next (p : Position) (c : Char) : (p.next c).offset = p.offset + 1 := by
  unfold next
  split <;> rfl

@[simp] theorem offset_after (p : Position) (text : List Char) :
    (p.after text).offset = p.offset + text.length := by
  induction text generalizing p with
  | nil => rfl
  | cons c text ih => rw [after_cons, ih, offset_next, List.length_cons]; omega

/-- Each newline opens one line. -/
theorem line_after (p : Position) (text : List Char) :
    (p.after text).line = p.line + text.count '\n' := by
  induction text generalizing p with
  | nil => rfl
  | cons c text ih =>
    rw [after_cons, ih]
    by_cases h : c = '\n'
    · subst h
      rw [next_newline, List.count_cons_self]
      dsimp only
      omega
    · rw [next_of_ne p h, List.count_cons_of_ne h]

end Position

namespace Span

/-- The empty part at the start of a text. -/
def initial : Span := ⟨0, 0, 1, 1⟩

instance : Inhabited Span := ⟨initial⟩

/-- Line and column, as messages show them. -/
def place (s : Span) : String :=
  toString s.line ++ ":" ++ toString s.column

end Span

end SyntaxCheck
