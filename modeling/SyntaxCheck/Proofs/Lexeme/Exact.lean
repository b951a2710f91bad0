import SyntaxCheck.Proofs.Lexeme.Grammar

/-!
# What is read is a lexeme, and a lexeme is read

* `readLexeme_of_lexeme` - a lexeme is read back in front of any text where it ends;
* `lexeme_of_readLexeme` - what is read is a lexeme and ends there;
* `readLexeme_eq_token_iff` - both.
-/

namespace SyntaxCheck

/-! ### Escapes -/

theorem escaped?_eq_some_iff {e c : Char} : escaped? '\'' e = some c ↔ (e, c) ∈ escapes := by
  unfold escaped? escapes
  split <;> simp_all [eq_comm]

theorem escaped?_string_eq_some_iff {e c : Char} :
    escaped? '"' e = some c ↔ (e, c) ∈ stringEscapes := by
  unfold escaped? stringEscapes escapes
  split <;> simp_all [eq_comm]

/-- The inside of a string is read up to the quote behind it. -/
theorem readBody_of_stringBody {value body : List Char} (inside : StringBody value body)
    (rest : List Char) : readBody (body ++ '"' :: rest) = ⟨value, body ++ ['"'], .closed, rest⟩ := by
  induction inside with
  | nil => simp [readBody]
  | char plain _ ih =>
    obtain ⟨line, quote, backslash⟩ := plain
    simp [readBody, ih, Body.cons, line, quote, backslash]
  | escape known _ ih =>
    have found := escaped?_string_eq_some_iff.2 known
    simp [readBody, ih, Body.cons, found]

/-- What was read up to a closing quote is the inside of a string. -/
theorem stringBody_of_readBody (text : List Char) (closed : (readBody text).ending = .closed) :
    ∃ body, StringBody (readBody text).value body ∧ (readBody text).text = body ++ ['"'] := by
  fun_induction readBody text with
  | case1 => cases closed
  | case2 => cases closed
  | case3 e rest c found ih =>
    obtain ⟨body, inside, same⟩ := ih closed
    refine ⟨'\\' :: e :: body, .escape (escaped?_string_eq_some_iff.1 found) inside, ?_⟩
    simp [Body.cons, same]
  | case4 => cases closed
  | case5 => cases closed
  | case6 => exact ⟨[], .nil, rfl⟩
  | case7 => cases closed
  | case8 c rest alone escaped quote line ih =>
    obtain ⟨body, inside, same⟩ := ih closed
    -- a backslash has its own cases, alone and in front of a character
    have backslash : c ≠ '\\' := by
      intro found
      cases rest with
      | nil => exact alone found rfl
      | cons e rest => exact escaped e rest found rfl
    refine ⟨c :: body, .char ⟨line, quote, backslash⟩ inside, ?_⟩
    simp [Body.cons, same]

/-! ### One sort of lexeme at a time -/

section Word

variable {c : Char} {parts rest : List Char}

theorem readWord_of_isWord (word : IsWord c parts) (ends : ∀ d ∈ rest.head?, isWordPart d = false) :
    readLexeme c (parts ++ rest) =
      .token (.ofWord (String.ofList (c :: parts))) (c :: parts) rest := by
  rw [readLexeme, if_pos word.letter]
  simp only [readWord, takeWhile_run word.parts ends, dropWhile_run word.parts ends]

theorem ofWord_spelling (k : Keyword) : TokenKind.ofWord k.spelling = .keyword k := by
  rw [TokenKind.ofWord, Keyword.ofSpelling?_spelling]

theorem ofWord_of_free {word : String} (free : ∀ k : Keyword, k.spelling ≠ word) :
    TokenKind.ofWord word = .identifier word := by
  unfold TokenKind.ofWord
  split
  · rename_i k found
    exact absurd (Keyword.spelling_of_ofSpelling? found) (free k)
  · rfl

/-- A word is a lexeme of one kind. -/
theorem lexeme_ofWord (word : IsWord c parts) :
    Lexeme (.ofWord (String.ofList (c :: parts))) (c :: parts) := by
  unfold TokenKind.ofWord
  split
  · rename_i k found
    have same : k.spelling.toList = c :: parts := by
      rw [Keyword.spelling_of_ofSpelling? found, String.toList_ofList]
    exact same ▸ .keyword k
  · rename_i unknown
    refine .identifier word fun k found => ?_
    rw [← found, Keyword.ofSpelling?_spelling] at unknown
    cases unknown

end Word

section Number

variable {digits whole fraction rest : List Char}

theorem IsDigits.head {digits : List Char} (h : IsDigits digits) :
    ∃ c more, digits = c :: more ∧ c.isDigit = true := by
  cases digits with
  | nil => exact absurd rfl h.ne_nil
  | cons c more => exact ⟨c, more, rfl, h.digit c List.mem_cons_self⟩

theorem isAlphabetic_of_isDigit {c : Char} (digit : c.isDigit = true) : isAlphabetic c = false := by
  have bound := toNat_lt_of_isDigit digit
  have all : ∀ n < 58, 48 ≤ n → isAlphabetic (Char.ofNat n) = false := by decide
  have found := all c.toNat (by omega) bound.1
  rwa [Char.ofNat_toNat] at found

/-- What a double may not run on into is what a number is not read in front of. -/
theorem glued_double_iff {value : Binary64} : Glued (.double value) rest ↔ isGlued rest = true := by
  have point : isAlphabetic '.' = false := by decide
  cases rest with
  | nil => simp [Glued, isGlued]
  | cons c rest =>
    by_cases dot : c = '.'
    · subst dot
      cases rest with
      | nil => simp [Glued, isGlued, point, startsWithDigit]
      | cons d rest => simp [Glued, isGlued, point, startsWithDigit]
    · simp [Glued, isGlued, dot]

/-- An integer may not run on into a point, either. -/
theorem glued_integer_iff {digits : String} :
    Glued (.integer digits) rest ↔ isGlued rest = true ∨ rest.head? = some '.' := by
  cases rest with
  | nil => simp [Glued, isGlued]
  | cons c rest =>
    by_cases dot : c = '.'
    · simp [Glued, dot]
    · simp [Glued, isGlued, dot]

theorem readNumber_of_isDigits (some : IsDigits digits)
    (ends : Ends (.integer (String.ofList digits)) rest) :
    readNumber (digits ++ rest) = .token (.integer (String.ofList digits)) digits rest := by
  obtain ⟨stops, free⟩ := ends
  rw [glued_integer_iff, not_or, Bool.not_eq_true] at free
  unfold readNumber
  rw [dropWhile_run some.digit stops, takeWhile_run some.digit stops]
  split
  · exact absurd rfl free.2
  · dsimp only
    rw [if_neg (by rw [free.1]; exact Bool.false_ne_true)]

theorem readNumber_of_double (some : IsDigits whole) (more : IsDigits fraction)
    (ends : Ends (.double (.ofDecimal whole fraction)) rest) :
    readNumber (whole ++ '.' :: fraction ++ rest) =
      .token (.double (.ofDecimal whole fraction)) (whole ++ '.' :: fraction) rest := by
  obtain ⟨stops, free⟩ := ends
  rw [glued_double_iff, Bool.not_eq_true] at free
  -- the digits before the point stop there, and those behind it where the number ends
  have point : ∀ c ∈ ('.' :: (fraction ++ rest)).head?, c.isDigit = false := by
    intro c found
    cases found
    rfl
  have starts : startsWithDigit (fraction ++ rest) = true := by
    obtain ⟨c, fraction, rfl, digit⟩ := more.head
    exact digit
  rw [List.append_assoc, List.cons_append]
  unfold readNumber
  rw [dropWhile_run some.digit point, takeWhile_run some.digit point]
  split
  · rename_i found
    obtain rfl := List.tail_eq_of_cons_eq found
    dsimp only
    rw [takeWhile_run more.digit stops, dropWhile_run more.digit stops, starts, free]
    rfl
  · rename_i other
    exact absurd rfl (other (fraction ++ rest))

end Number

section Quoted

variable {rest : List Char}

theorem readString_of_stringBody {value body : List Char} (inside : StringBody value body) :
    readString (body ++ '"' :: rest) =
      .token (.string (String.ofList value)) ('"' :: body ++ ['"']) rest := by
  unfold readString
  rw [readBody_of_stringBody inside]
  rfl

theorem closeCharLiteral_quote (value : Char) (spelling : List Char) :
    closeCharLiteral value spelling ('\'' :: rest) =
      .token (.char value) ('\'' :: spelling ++ ['\'']) rest := rfl

theorem readCharLiteral_of_charBody {value : Char} {body : List Char}
    (inside : CharBody value body) :
    readCharLiteral (body ++ '\'' :: rest) =
      .token (.char value) ('\'' :: body ++ ['\'']) rest := by
  cases inside with
  | char plain =>
    obtain ⟨line, quote, backslash⟩ := plain
    simp [readCharLiteral, line, quote, backslash, closeCharLiteral_quote]
  | escape known =>
    have found := escaped?_eq_some_iff.2 known
    simp [readCharLiteral, found, closeCharLiteral_quote]

end Quoted

section Symbol

variable {rest : List Char}

namespace Symbol

theorem read?_of_withEquals {c : Char} {s : Symbol} (made : withEquals? c = some s) :
    read? c ('=' :: rest) = some (s, rest) := by
  simp [read?, made]

theorem read?_of_alone {c : Char} {s : Symbol} (made : alone? c = some s)
    (ends : withEquals? c = none ∨ rest.head? ≠ some '=') : read? c rest = some (s, rest) := by
  unfold read?
  split
  · rename_i after
    have none : withEquals? c = none := ends.resolve_right fun other => other rfl
    simp [none, made]
  · simp [made]

/-- A symbol that is a prefix of another one makes it with an equals sign. -/
theorem withEquals?_of_alone? {c : Char} {s : Symbol} (made : alone? c = some s)
    (shared : s = .assign ∨ s = .less ∨ s = .greater) : withEquals? c ≠ none := by
  unfold alone? at made
  split at made <;> cases made <;> simp_all [withEquals?]

theorem alone?_of_withEquals? {c : Char} {s : Symbol} (made : withEquals? c = some s) :
    ¬(s = .assign ∨ s = .less ∨ s = .greater) := by
  unfold withEquals? at made
  split at made <;> cases made <;> simp

theorem ends_of_read? {c : Char} {text rest : List Char} {s : Symbol}
    (h : read? c text = some (s, rest)) : Ends (.symbol s) rest := by
  intro shared equals
  unfold read? at h
  split at h
  · split at h
    · rename_i made
      injection h with h
      injection h with same
      exact alone?_of_withEquals? made (same ▸ shared)
    · rename_i unmade
      obtain ⟨t, made, same⟩ := Option.map_eq_some_iff.1 h
      injection same with same
      exact withEquals?_of_alone? made (same ▸ shared) unmade
  · rename_i noEquals
    obtain ⟨t, made, same⟩ := Option.map_eq_some_iff.1 h
    injection same with _ same
    obtain ⟨after, found⟩ := List.head?_eq_some_iff.1 equals
    exact noEquals after (same.trans found)

/-- How a symbol is spelled. -/
theorem spelling_cases (s : Symbol) :
    ∃ c, isAlphabetic c = false ∧ c.isDigit = false ∧ c ≠ '"' ∧ c ≠ '\'' ∧
      (s.spelling = [c] ∧ alone? c = some s ∧
          (withEquals? c = none ∨ s = .assign ∨ s = .less ∨ s = .greater) ∨
        s.spelling = [c, '='] ∧ withEquals? c = some s) := by
  refine ⟨s.spelling.headD ' ', ?_⟩
  cases s <;> decide

end Symbol

theorem readSymbol_of_ends {s : Symbol} (ends : Ends (.symbol s) rest) :
    ∃ c text, s.spelling ++ rest = c :: text ∧
      readLexeme c text = .token (.symbol s) s.spelling rest := by
  obtain ⟨c, letter, digit, quote, mark, spelled⟩ := s.spelling_cases
  have dispatch : ∀ text, readLexeme c text = readSymbol c text := by
    intro text
    simp [readLexeme, letter, digit, quote, mark]
  rcases spelled with ⟨spelling, made, shared⟩ | ⟨spelling, made⟩
  · refine ⟨c, rest, by rw [spelling]; rfl, ?_⟩
    rw [dispatch, readSymbol, Symbol.read?_of_alone made (shared.imp_right ends)]
  · refine ⟨c, '=' :: rest, by rw [spelling]; rfl, ?_⟩
    rw [dispatch, readSymbol, Symbol.read?_of_withEquals made]

end Symbol

/-! ### Any lexeme -/

/-- A lexeme is read back in front of any text where it ends. -/
theorem readLexeme_of_lexeme {kind : TokenKind} {lexeme rest : List Char} (h : Lexeme kind lexeme)
    (ends : Ends kind rest) :
    ∃ c text, lexeme ++ rest = c :: text ∧ readLexeme c text = .token kind lexeme rest := by
  cases h with
  | keyword k =>
    obtain ⟨c, parts, same, word⟩ := k.isWord
    refine ⟨c, parts ++ rest, by rw [same]; rfl, ?_⟩
    rw [readWord_of_isWord word ends, ← same, String.ofList_toList, ofWord_spelling]
  | @identifier c parts word free =>
    refine ⟨c, parts ++ rest, rfl, ?_⟩
    rw [readWord_of_isWord word ends, ofWord_of_free free]
  | @integer digits some =>
    have read := readNumber_of_isDigits some ends
    obtain ⟨c, more, rfl, digit⟩ := some.head
    refine ⟨c, more ++ rest, rfl, ?_⟩
    simp only [readLexeme, isAlphabetic_of_isDigit digit, digit]
    exact read
  | @double whole fraction some more =>
    have read := readNumber_of_double some more ends
    obtain ⟨c, digits, rfl, digit⟩ := some.head
    refine ⟨c, digits ++ '.' :: fraction ++ rest, rfl, ?_⟩
    simp only [readLexeme, isAlphabetic_of_isDigit digit, digit]
    exact read
  | @string value body inside =>
    refine ⟨'"', body ++ '"' :: rest, by simp, ?_⟩
    have dispatch : readLexeme '"' (body ++ '"' :: rest) = readString (body ++ '"' :: rest) := by
      rw [readLexeme, if_neg (by decide), if_neg (by decide), if_pos rfl]
    rw [dispatch, readString_of_stringBody inside]
  | @char value body inside =>
    refine ⟨'\'', body ++ '\'' :: rest, by simp, ?_⟩
    have dispatch :
        readLexeme '\'' (body ++ '\'' :: rest) = readCharLiteral (body ++ '\'' :: rest) := by
      rw [readLexeme, if_neg (by decide), if_neg (by decide), if_neg (by decide), if_pos rfl]
    rw [dispatch, readCharLiteral_of_charBody inside]
  | symbol s => exact readSymbol_of_ends ends

/-! ### What is read -/

section Sound

variable {c : Char} {kind : TokenKind} {lexeme rest text : List Char}

theorem ends_ofWord {word : String} (ends : ∀ d ∈ rest.head?, isWordPart d = false) :
    Ends (.ofWord word) rest := by
  unfold TokenKind.ofWord
  split <;> exact ends

theorem lexeme_of_readWord (letter : isAlphabetic c = true)
    (h : readWord c text = .token kind lexeme rest) : Lexeme kind lexeme ∧ Ends kind rest := by
  injection h with kind_eq lexeme_eq rest_eq
  subst kind_eq lexeme_eq rest_eq
  exact ⟨lexeme_ofWord ⟨letter, all_takeWhile _ text⟩, ends_ofWord (stops_dropWhile _ text)⟩

theorem isDigits_takeWhile (starts : startsWithDigit text = true) :
    IsDigits (text.takeWhile Char.isDigit) := by
  refine ⟨?_, all_takeWhile _ text⟩
  cases text with
  | nil => cases starts
  | cons d text =>
    have digit : d.isDigit = true := starts
    rw [List.takeWhile_cons_of_pos digit]
    exact List.cons_ne_nil _ _

theorem lexeme_of_readNumber (starts : startsWithDigit text = true)
    (h : readNumber text = .token kind lexeme rest) : Lexeme kind lexeme ∧ Ends kind rest := by
  unfold readNumber at h
  split at h
  · rename_i fraction found
    dsimp only at h
    split at h
    · rename_i fits
      rw [Bool.and_eq_true, Bool.not_eq_true'] at fits
      injection h with kind_eq lexeme_eq rest_eq
      subst kind_eq lexeme_eq rest_eq
      refine ⟨.double (isDigits_takeWhile starts) (isDigits_takeWhile fits.1),
        stops_dropWhile _ fraction, ?_⟩
      rw [glued_double_iff, fits.2]
      exact Bool.false_ne_true
    · cases h
  · rename_i noPoint
    split at h
    · cases h
    · rename_i free
      injection h with kind_eq lexeme_eq rest_eq
      subst kind_eq lexeme_eq rest_eq
      refine ⟨.integer (isDigits_takeWhile starts), stops_dropWhile _ text, ?_⟩
      rw [glued_integer_iff, not_or]
      refine ⟨free, fun point => ?_⟩
      obtain ⟨after, same⟩ := List.head?_eq_some_iff.1 point
      exact noPoint after same

theorem lexeme_of_readString (h : readString text = .token kind lexeme rest) :
    Lexeme kind lexeme ∧ Ends kind rest := by
  unfold readString at h
  dsimp only at h
  split at h
  · rename_i closed
    injection h with kind_eq lexeme_eq rest_eq
    subst kind_eq lexeme_eq rest_eq
    obtain ⟨body, inside, same⟩ := stringBody_of_readBody text closed
    refine ⟨?_, trivial⟩
    rw [same]
    exact .string inside
  · cases h
  · cases h

theorem lexeme_of_closeCharLiteral {value : Char} {spelling : List Char}
    (inside : CharBody value spelling)
    (h : closeCharLiteral value spelling text = .token kind lexeme rest) :
    Lexeme kind lexeme ∧ Ends kind rest := by
  unfold closeCharLiteral at h
  split at h
  · injection h with kind_eq lexeme_eq rest_eq
    subst kind_eq lexeme_eq rest_eq
    exact ⟨.char inside, trivial⟩
  all_goals cases h

theorem lexeme_of_readCharLiteral (h : readCharLiteral text = .token kind lexeme rest) :
    Lexeme kind lexeme ∧ Ends kind rest := by
  unfold readCharLiteral at h
  split at h
  · cases h
  · cases h
  · split at h
    · rename_i found
      exact lexeme_of_closeCharLiteral (.escape (escaped?_eq_some_iff.1 found)) h
    · split at h <;> cases h
  · rename_i d after alone escaped
    split at h
    · cases h
    split at h
    · cases h
    rename_i quote line
    have backslash : d ≠ '\\' := by
      intro found
      cases after with
      | nil => exact alone found rfl
      | cons e after => exact escaped e after found rfl
    exact lexeme_of_closeCharLiteral (.char ⟨line, quote, backslash⟩) h

theorem lexeme_of_readSymbol (h : readSymbol c text = .token kind lexeme rest) :
    Lexeme kind lexeme ∧ Ends kind rest := by
  unfold readSymbol at h
  split at h
  · rename_i s after found
    injection h with kind_eq lexeme_eq rest_eq
    subst kind_eq lexeme_eq rest_eq
    exact ⟨.symbol s, Symbol.ends_of_read? found⟩
  · cases h

/-- What is read is a lexeme, and it ends there. -/
theorem lexeme_of_readLexeme (h : readLexeme c text = .token kind lexeme rest) :
    Lexeme kind lexeme ∧ Ends kind rest := by
  unfold readLexeme at h
  split at h
  · rename_i letter
    exact lexeme_of_readWord letter h
  split at h
  · rename_i digit
    exact lexeme_of_readNumber (show startsWithDigit (c :: text) = true from digit) h
  split at h
  · exact lexeme_of_readString h
  split at h
  · exact lexeme_of_readCharLiteral h
  · exact lexeme_of_readSymbol h

/-- A text is read as a lexeme just when it starts with the lexeme, which ends there. -/
theorem readLexeme_eq_token_iff : readLexeme c text = .token kind lexeme rest ↔
    Lexeme kind lexeme ∧ Ends kind rest ∧ lexeme ++ rest = c :: text := by
  constructor
  · intro h
    obtain ⟨is_lexeme, ends⟩ := lexeme_of_readLexeme h
    have all := readLexeme_append c text
    rw [h] at all
    exact ⟨is_lexeme, ends, all⟩
  · rintro ⟨is_lexeme, ends, all⟩
    obtain ⟨c', text', same, read⟩ := readLexeme_of_lexeme is_lexeme ends
    rw [all] at same
    injection same with first others
    rw [first, others]
    exact read

end Sound

end SyntaxCheck
