import SyntaxCheck.Proofs.Lexer.Separation

/-!
# Writing literals and reading them

Every text and every character can be written between quotes, and some in more than one way: a tab may be
escaped or not, and in a string so may a single quote. A lexer reads the value from each of these spellings, and
it takes no other spelling for a literal of the value.

* `spell`, `stringLiteral`, `charLiteral` - the ways to write a character, a text and a character literal;
* `stringBody_iff_spellAll`, `charBody_iff_spell` - these are what may stand between the quotes;
* `literals_read_back` - literals are read back, and whatever is read as one was written so.
-/

namespace SyntaxCheck

/-! ### Spellings -/

/-- A character inside a literal with this delimiter. A newline, a backslash and the delimiter have to be
escaped; a tab and a single quote are if that is wanted; anything else stands for itself. -/
def spell (delimiter : Char) (escape : Bool) (c : Char) : List Char :=
  if c = '\n' then ['\\', 'n']
  else if c = '\\' ∨ c = delimiter then ['\\', c]
  else if escape = true ∧ c = '\t' then ['\\', 't']
  else if escape = true ∧ c = '\'' then ['\\', '\'']
  else [c]

/-- A text inside a string literal. It is said for each place whether a tab or a single quote there is
escaped. -/
def spellAll (escape : Nat → Bool) (value : List Char) : List Char :=
  (value.mapIdx fun i => spell '"' (escape i)).flatten

/-- A text as a string literal. -/
def stringLiteral (escape : Nat → Bool) (value : String) : String :=
  String.ofList ('"' :: spellAll escape value.toList ++ ['"'])

/-- A character as a character literal. -/
def charLiteral (escape : Bool) (value : Char) : String :=
  String.ofList ('\'' :: spell '\'' escape value ++ ['\''])

@[simp] theorem spellAll_cons (escape : Nat → Bool) (c : Char) (value : List Char) :
    spellAll escape (c :: value) =
      spell '"' (escape 0) c ++ spellAll (fun i => escape (i + 1)) value := by
  simp [spellAll, List.mapIdx_cons]

/-! ### What may stand between quotes -/

section Bodies

variable {c : Char} {value text : List Char}

/-- A character in front of the inside of a string, spelled either way. -/
theorem StringBody.spell (later : StringBody value text) (escape : Bool) (c : Char) :
    StringBody (c :: value) (spell '"' escape c ++ text) := by
  unfold SyntaxCheck.spell
  split_ifs with newline must tab quote
  · subst newline
    exact .escape (by decide) later
  · rcases must with rfl | rfl <;> exact .escape (by decide) later
  · obtain ⟨-, rfl⟩ := tab
    exact .escape (by decide) later
  · obtain ⟨-, rfl⟩ := quote
    exact .escape (by decide) later
  · rw [not_or] at must
    exact .char ⟨newline, must.2, must.1⟩ later

/-- What stands for a character is one of its two spellings. -/
theorem exists_spell_of_plain (plain : c ≠ '\n' ∧ c ≠ '"' ∧ c ≠ '\\') :
    ∃ escape, [c] = spell '"' escape c := by
  refine ⟨false, ?_⟩
  simp [spell, plain]

theorem exists_spell_of_escape {e : Char} (known : (e, c) ∈ stringEscapes) :
    ∃ escape, ['\\', e] = spell '"' escape c := by
  have all : ∀ known ∈ stringEscapes, ['\\', known.1] = spell '"' true known.2 := by decide
  exact ⟨true, all _ known⟩

/-- One more character, with its own choice. -/
theorem exists_spellAll_cons {spelling : List Char} (first : ∃ escape, spelling = spell '"' escape c)
    (later : ∃ escape, text = spellAll escape value) :
    ∃ escape, spelling ++ text = spellAll escape (c :: value) := by
  obtain ⟨one, rfl⟩ := first
  obtain ⟨others, rfl⟩ := later
  refine ⟨fun i => if i = 0 then one else others (i - 1), ?_⟩
  simp

/-- The inside of a string is its value, spelled in some way. -/
theorem stringBody_iff_spellAll : StringBody value text ↔ ∃ escape, text = spellAll escape value := by
  constructor
  · intro h
    induction h with
    | nil => exact ⟨fun _ => false, rfl⟩
    | char plain _ ih => exact exists_spellAll_cons (exists_spell_of_plain plain) ih
    | escape known _ ih => exact exists_spellAll_cons (exists_spell_of_escape known) ih
  · rintro ⟨escape, rfl⟩
    induction value generalizing escape with
    | nil => exact .nil
    | cons c value ih =>
      rw [spellAll_cons]
      exact (ih _).spell _ c

/-- So is the inside of a character literal. -/
theorem charBody_iff_spell : CharBody c text ↔ ∃ escape, text = spell '\'' escape c := by
  constructor
  · intro h
    cases h with
    | char plain => exact ⟨false, by simp [spell, plain]⟩
    | escape known =>
      have all : ∀ known ∈ escapes, ['\\', known.1] = spell '\'' true known.2 := by decide
      exact ⟨true, all _ known⟩
  · rintro ⟨escape, rfl⟩
    unfold spell
    split_ifs with newline must tab quote
    · subst newline
      exact .escape (by decide)
    · rcases must with rfl | rfl <;> exact .escape (by decide)
    · obtain ⟨-, rfl⟩ := tab
      exact .escape (by decide)
    · exact absurd (.inr quote.2) must
    · rw [not_or] at must
      exact .char ⟨newline, must.2, must.1⟩

end Bodies

/-! ### Literals -/

theorem lexeme_stringLiteral (escape : Nat → Bool) (value : String) :
    Lexeme (.string value) (stringLiteral escape value).toList := by
  have inside : StringBody value.toList (spellAll escape value.toList) :=
    stringBody_iff_spellAll.2 ⟨escape, rfl⟩
  have isLexeme := Lexeme.string inside
  rw [String.ofList_toList] at isLexeme
  rwa [stringLiteral, String.toList_ofList]

theorem lexeme_charLiteral (escape : Bool) (value : Char) :
    Lexeme (.char value) (charLiteral escape value).toList := by
  have inside : CharBody value (spell '\'' escape value) := charBody_iff_spell.2 ⟨escape, rfl⟩
  rw [charLiteral, String.toList_ofList]
  exact .char inside

/-- A lexeme of a string is a literal of its value. -/
theorem exists_stringLiteral {lexeme value : String} (h : Lexeme (.string value) lexeme.toList) :
    ∃ escape, lexeme = stringLiteral escape value := by
  generalize chars : lexeme.toList = text at h
  cases h with
  | @string value body inside =>
    obtain ⟨escape, rfl⟩ := stringBody_iff_spellAll.1 inside
    refine ⟨escape, ?_⟩
    rw [stringLiteral, String.toList_ofList, ← chars, String.ofList_toList]

theorem exists_charLiteral {lexeme : String} {value : Char} (h : Lexeme (.char value) lexeme.toList) :
    ∃ escape, lexeme = charLiteral escape value := by
  generalize chars : lexeme.toList = text at h
  cases h with
  | char inside =>
    obtain ⟨escape, rfl⟩ := charBody_iff_spell.1 inside
    refine ⟨escape, ?_⟩
    rw [charLiteral, ← chars, String.ofList_toList]

/-- A text or a character that is written as a literal, in any of the ways to do so, is read as one token, which
has that value and spans all that was written. And every string and every character that answers calls of any
lexer was written so: its lexeme is one of the literals of its value. -/
theorem literals_read_back :
    (∀ escape value, ReadsAlone (stringLiteral escape value)
      ⟨.string value, stringLiteral escape value,
        Position.first.span (stringLiteral escape value).length⟩) ∧
    (∀ escape value, ReadsAlone (charLiteral escape value)
      ⟨.char value, charLiteral escape value,
        Position.first.span (charLiteral escape value).length⟩) ∧
    ∀ text cs, ∀ answer ∈ ((Lexer.ofString text).calls cs).1, ∀ token ∈ answer.tokens,
      (∀ value, token.kind = .string value → ∃ escape, token.lexeme = stringLiteral escape value) ∧
      ∀ value, token.kind = .char value → ∃ escape, token.lexeme = charLiteral escape value := by
  refine ⟨fun escape value => readsAlone_iff.2 ⟨lexeme_stringLiteral escape value, rfl, rfl⟩,
    fun escape value => readsAlone_iff.2 ⟨lexeme_charLiteral escape value, rfl, rfl⟩, ?_⟩
  intro text cs answer among token found
  constructor
  · intro value kind_eq
    have isLexeme := Lexer.lexeme_of_calls among found (by simp [kind_eq])
    rw [kind_eq] at isLexeme
    exact exists_stringLiteral isLexeme
  · intro value kind_eq
    have isLexeme := Lexer.lexeme_of_calls among found (by simp [kind_eq])
    rw [kind_eq] at isLexeme
    exact exists_charLiteral isLexeme

/-- A string that ends in an escaped quote behind an escaped backslash, and a quote as a character: they are
read behind a bad escape, and written alone they are read again. -/
theorem literals_read_back_backslashes :
    ((Lexer.ofString "'\\q \"\\\\\\\"\" '\\''").calls [.advance, .advance, .tokenize]).1 =
      [.error ⟨.invalidEscape 'q', ⟨1, 2, 1, 2⟩⟩, .ok [⟨.identifier "q", "q", ⟨2, 3, 1, 3⟩⟩],
        .ok [⟨.string "\\\"", "\"\\\\\\\"\"", ⟨4, 10, 1, 5⟩⟩, ⟨.char '\'', "'\\''", ⟨11, 15, 1, 12⟩⟩,
          .endOfInput ⟨15, 1, 16⟩]] ∧
    (∃ escape, "\"\\\\\\\"\"" = stringLiteral escape "\\\"") ∧
    (∃ escape, "'\\''" = charLiteral escape '\'') ∧
    ReadsAlone (stringLiteral (fun _ => false) "\\\"") ⟨.string "\\\"", stringLiteral (fun _ => false) "\\\"",
      Position.first.span (stringLiteral (fun _ => false) "\\\"").length⟩ := by
  have answered : ((Lexer.ofString "'\\q \"\\\\\\\"\" '\\''").calls [.advance, .advance, .tokenize]).1 =
      [.error ⟨.invalidEscape 'q', ⟨1, 2, 1, 2⟩⟩, .ok [⟨.identifier "q", "q", ⟨2, 3, 1, 3⟩⟩],
        .ok [⟨.string "\\\"", "\"\\\\\\\"\"", ⟨4, 10, 1, 5⟩⟩, ⟨.char '\'', "'\\''", ⟨11, 15, 1, 12⟩⟩,
          .endOfInput ⟨15, 1, 16⟩]] := by cbv
  have written := literals_read_back.2.2 "'\\q \"\\\\\\\"\" '\\''" [.advance, .advance, .tokenize]
  rw [answered] at written
  have third := written _ (List.mem_cons_of_mem _ (List.mem_cons_of_mem _ List.mem_cons_self))
  refine ⟨answered, ?_, ?_, literals_read_back.1 _ _⟩
  · exact (third _ List.mem_cons_self).1 _ rfl
  · exact (third _ (List.mem_cons_of_mem _ List.mem_cons_self)).2 _ rfl

end SyntaxCheck
