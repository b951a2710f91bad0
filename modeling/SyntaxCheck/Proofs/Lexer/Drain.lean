import SyntaxCheck.Lexer.Basic

/-!
# What a lexer still hands out

* `Lexer.drain_of_more`, `Lexer.drain_of_end`, `Lexer.drain_of_fault` - one token or fault less;
* `Lexer.peek_ok`, `Lexer.peek_error` - showing a token takes nothing away;
* `Lexer.drain_peek` - what is handed out is the same after a token was shown;
* `Lexer.exists_drain_eq_concat` - the end of the input comes last;
* `tokenize_ok_iff` - the tokens of a text are what a lexer hands out without a fault.
-/

namespace SyntaxCheck

namespace Lexer

variable {lexer lexer' : Lexer} {token : Token} {fault : LexicalFault}

theorem drain_of_fault (h : lexer.advance = (.error fault, lexer')) :
    lexer.drain = ⟨[], some fault, lexer'⟩ := by
  rw [drain]
  split
  · rename_i found
    rw [h] at found
    injection found with same left
    injection same with same
    rw [same, left]
  · rename_i found
    rw [h] at found
    cases found

theorem drain_of_more (h : lexer.advance = (.ok token, lexer')) (more : token.isEndOfInput = false) :
    lexer.drain = { lexer'.drain with tokens := token :: lexer'.drain.tokens } := by
  rw [drain]
  split
  · rename_i found
    rw [h] at found
    cases found
  · rename_i found
    rw [h] at found
    injection found with same left
    injection same with same
    subst same left
    rw [dif_pos more]

theorem drain_of_end (h : lexer.advance = (.ok token, lexer')) (ended : token.isEndOfInput = true) :
    lexer.drain = ⟨[token], none, lexer'⟩ := by
  rw [drain]
  split
  · rename_i found
    rw [h] at found
    cases found
  · rename_i found
    rw [h] at found
    injection found with same left
    injection same with same
    subst same left
    rw [dif_neg (Bool.not_eq_false _ ▸ ended)]

/-- The tokens handed out depend only on what comes next. -/
theorem drain_congr {a b : Lexer} (same : a.advance = b.advance) : a.drain = b.drain := by
  cases next : b.advance with
  | mk answer lexer =>
    have first := same.trans next
    cases answer with
    | error fault => rw [drain_of_fault first, drain_of_fault next]
    | ok token =>
      cases ended : token.isEndOfInput with
      | true => rw [drain_of_end first ended, drain_of_end next ended]
      | false => rw [drain_of_more first ended, drain_of_more next ended]

/-- A token that is shown is the next one, before and after. -/
theorem peek_ok (h : lexer.peek = (.ok token, lexer')) :
    lexer'.shown = some token ∧ lexer.advance.1 = .ok token ∧ lexer'.advance = lexer.advance := by
  unfold peek at h
  split at h
  · rename_i shown
    injection h with same left
    injection same with same
    subst same left
    exact ⟨shown, by rw [advance, shown], rfl⟩
  · rename_i shown
    split at h
    · rename_i scanned cursor scan_eq
      injection h with same left
      injection same with same
      subst same left
      refine ⟨rfl, ?_, ?_⟩
      · rw [advance, shown]
        simp only [scan_eq]
      · unfold advance
        simp only [shown, scan_eq]
    · injection h with same
      cases same

/-- A fault that is met instead of showing a token is met instead of handing it out. -/
theorem peek_error (h : lexer.peek = (.error fault, lexer')) :
    lexer.advance = (.error fault, lexer') := by
  unfold peek at h
  split at h
  · injection h with same
    cases same
  · rename_i shown
    split at h
    · injection h with same
      cases same
    · rename_i scan_eq
      injection h with same left
      injection same with same
      subst same left
      unfold advance
      simp only [shown, scan_eq]

theorem drain_peek (h : lexer.peek = (.ok token, lexer')) : lexer'.drain = lexer.drain :=
  drain_congr (peek_ok h).2.2

/-- The next token is the first one handed out. -/
theorem head?_drain (h : lexer.advance.1 = .ok token) : lexer.drain.tokens.head? = some token := by
  have next : lexer.advance = (.ok token, lexer.advance.2) := Prod.ext h rfl
  cases ended : token.isEndOfInput with
  | true =>
    rw [drain_of_end next ended]
    rfl
  | false =>
    rw [drain_of_more next ended]
    rfl

/-- A token that is shown is the first one handed out. -/
theorem head?_drain_of_shown (h : lexer.shown = some token) :
    lexer.drain.tokens.head? = some token := by
  apply head?_drain
  rw [advance, h]

/-- Handing out a token leaves none shown. -/
theorem shown_advance (lexer : Lexer) : lexer.advance.2.shown = none := by
  unfold advance
  split <;> rfl

/-- Without a fault, the end of the input is handed out last, and only then. -/
theorem exists_drain_eq_concat (clean : lexer.drain.fault = none) :
    ∃ before last, lexer.drain.tokens = before ++ [last] ∧ last.isEndOfInput = true ∧
      ∀ token ∈ before, token.isEndOfInput = false := by
  fun_induction drain lexer with
  | case1 lexer fault lexer' found => cases clean
  | case2 lexer token lexer' found more later ih =>
    obtain ⟨before, last, same, ended, others⟩ := ih clean
    refine ⟨token :: before, last, congrArg (token :: ·) same, ended, ?_⟩
    exact List.forall_mem_cons.2 ⟨more, others⟩
  | case3 lexer token lexer' found ended =>
    exact ⟨[], token, rfl, Bool.not_eq_false _ ▸ ended, nofun⟩

end Lexer

/-! ### All tokens -/

theorem tokenize_ok_iff {lexer : Lexer} {tokens : List Token} :
    lexer.tokenize.1 = .ok tokens ↔ lexer.drain.tokens = tokens ∧ lexer.drain.fault = none := by
  rw [Lexer.tokenize]
  generalize lexer.drain = drained
  rcases drained with ⟨handed, fault, left⟩
  cases fault with
  | none => simp
  | some fault => simp

theorem tokenize_error_iff {lexer : Lexer} {fault : LexicalFault} :
    lexer.tokenize.1 = .error fault ↔ lexer.drain.fault = some fault := by
  rw [Lexer.tokenize]
  generalize lexer.drain = drained
  rcases drained with ⟨handed, found, left⟩
  cases found with
  | none => simp
  | some other => simp

end SyntaxCheck
