import SyntaxCheck.Lexer.Cursor

/-!
# The lexer

A lexer hands out the tokens of a text one at a time, and shows the next one on request.

* `Lexer` - a cursor, and the token behind which it stands if that was shown but not yet handed out;
* `Lexer.peek`, `Lexer.advance` - show and hand out the next token;
* `Lexer.drain`, `Lexer.tokenize` - hand out everything up to the end of the input or the first fault;
* `Lexer.remaining` - a bound on the tokens left before the end of the input.

A fault is answered in place of a token. The scan is not repeated: the next call goes on behind it.
-/

namespace SyntaxCheck

/-- A cursor, with the token in front of it that was shown and not yet handed out. -/
structure Lexer where
  cursor : Cursor
  shown : Option Token

namespace Lexer

/-- The lexer at the start of a text. -/
def start (text : List Char) : Lexer := ⟨Cursor.start text, none⟩

/-- The lexer of a text. -/
def ofString (text : String) : Lexer := start text.toList

instance : Inhabited Lexer := ⟨start []⟩

/-- The next token, which stays next. A fault is not kept. -/
def peek (lexer : Lexer) : Except LexicalFault Token × Lexer :=
  match lexer.shown with
  | some token => (.ok token, lexer)
  | none =>
    match lexer.cursor.scan with
    | (.ok token, cursor) => (.ok token, ⟨cursor, some token⟩)
    | (.error fault, cursor) => (.error fault, ⟨cursor, none⟩)

/-- The next token, handed out. -/
def advance (lexer : Lexer) : Except LexicalFault Token × Lexer :=
  match lexer.shown with
  | some token => (.ok token, ⟨lexer.cursor, none⟩)
  | none => (lexer.cursor.scan.1, ⟨lexer.cursor.scan.2, none⟩)

/-- How many tokens before the end of the input were shown and not yet handed out. -/
def shownCount (lexer : Lexer) : Nat :=
  match lexer.shown with
  | some token => if token.isEndOfInput then 0 else 1
  | none => 0

/-- No more tokens than this come before the end of the input. -/
def remaining (lexer : Lexer) : Nat :=
  lexer.cursor.rest.length + lexer.shownCount

/-- Handing out a token other than the end of the input leaves fewer. -/
theorem remaining_advance_lt {lexer lexer' : Lexer} {token : Token}
    (h : lexer.advance = (.ok token, lexer')) (more : token.isEndOfInput = false) :
    lexer'.remaining < lexer.remaining := by
  unfold advance at h
  split at h
  · rename_i handed shown
    injection h with found left
    injection found with found
    subst found left
    simp [remaining, shownCount, shown, more]
  · rename_i shown
    injection h with found left
    subst left
    have shorter := Cursor.length_rest_scan_lt (Prod.ext found rfl) more
    simpa [remaining, shownCount, shown] using shorter

/-- Showing a token leaves no more than before. -/
theorem remaining_peek_le {lexer lexer' : Lexer} {token : Token}
    (h : lexer.peek = (.ok token, lexer')) : lexer'.remaining ≤ lexer.remaining := by
  unfold peek at h
  split at h
  · injection h with _ h
    subst h
    exact Nat.le_refl _
  · rename_i shown
    split at h
    · rename_i scanned cursor scan_eq
      injection h with found left
      injection found with found
      subst found left
      cases more : scanned.isEndOfInput with
      | true =>
        have shorter := Cursor.length_rest_scan_le lexer.cursor
        rw [scan_eq] at shorter
        simpa [remaining, shownCount, shown, more] using shorter
      | false =>
        have shorter := Cursor.length_rest_scan_lt scan_eq more
        simp only [remaining, shownCount, shown, more]
        exact shorter
    · injection h with found
      cases found

/-- What a lexer hands out when asked again and again up to the end of the input or the first fault. -/
structure Drained where
  /-- The tokens handed out; the end of the input is the last one unless there is a fault. -/
  tokens : List Token
  /-- The fault that ended it. -/
  fault : Option LexicalFault
  /-- The lexer afterwards. -/
  lexer : Lexer

/-- Hands out everything up to the end of the input or the first fault. -/
def drain (lexer : Lexer) : Drained :=
  match _advanced : lexer.advance with
  | (.error fault, lexer') => ⟨[], some fault, lexer'⟩
  | (.ok token, lexer') =>
    if _more : token.isEndOfInput = false then
      let later := drain lexer'
      { later with tokens := token :: later.tokens }
    else ⟨[token], none, lexer'⟩
termination_by lexer.remaining
decreasing_by exact remaining_advance_lt _advanced _more

/-- The tokens up to and including the end of the input, or the first fault. -/
def tokenize (lexer : Lexer) : Except LexicalFault (List Token) × Lexer :=
  let drained := lexer.drain
  match drained.fault with
  | some fault => (.error fault, drained.lexer)
  | none => (.ok drained.tokens, drained.lexer)

end Lexer

end SyntaxCheck
