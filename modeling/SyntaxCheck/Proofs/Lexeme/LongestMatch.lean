import SyntaxCheck.Lexer.Cursor
import SyntaxCheck.Proofs.Lexeme.Exact

/-!
# The longest lexeme

* `Lexeme.kind_unique` - a text is a lexeme of one kind;
* `Longest`, `longest_of_ends`, `ends_of_longest` - a lexeme ends just where no longer one begins with
  it, and where it is no glued number;
* `Skips`, `splitTrivia_eq_iff` - all the blanks and comments at the head of a text;
* `scan_eq_token_iff` - what a scan finds.
-/

namespace SyntaxCheck

variable {kind kind' : TokenKind} {lexeme lexeme' rest text : List Char}

theorem Lexeme.ne_nil (h : Lexeme kind lexeme) : lexeme ≠ [] := by
  rintro rfl
  generalize empty : ([] : List Char) = lexeme at h
  cases h with
  | keyword k =>
    obtain ⟨c, parts, same, -⟩ := k.isWord
    rw [← empty] at same
    cases same
  | identifier => cases empty
  | integer some => exact some.ne_nil empty.symm
  | double => simp at empty
  | string => cases empty
  | char => cases empty
  | symbol s => exact s.spelling_ne_nil empty.symm

/-- Every lexeme ends where the text ends. -/
theorem ends_nil (kind : TokenKind) : Ends kind [] := by
  cases kind <;> simp [Ends, Glued]

/-- What ends a lexeme still does when it is cut short. -/
theorem Ends.of_append {more : List Char} (h : Ends kind (rest ++ more)) : Ends kind rest := by
  cases rest with
  | nil => exact ends_nil kind
  | cons c rest =>
    cases kind with
    | integer digits => exact h
    | double value =>
      refine ⟨h.1, fun glued => h.2 ?_⟩
      rcases glued with letter | underscore | ⟨point, digit⟩
      · exact .inl letter
      · exact .inr (.inl underscore)
      · refine .inr (.inr ⟨point, ?_⟩)
        cases rest with
        | nil => cases digit
        | cons d rest => exact digit
    | _ => exact h

/-- A text is a lexeme of one kind. -/
theorem Lexeme.kind_unique (h : Lexeme kind lexeme) (h' : Lexeme kind' lexeme) : kind = kind' := by
  obtain ⟨c, text, same, read⟩ := readLexeme_of_lexeme h (ends_nil kind)
  obtain ⟨c', text', same', read'⟩ := readLexeme_of_lexeme h' (ends_nil kind')
  rw [same] at same'
  injection same' with first others
  subst first others
  rw [read] at read'
  injection read'

/-- No longer lexeme stands at the head of the text. -/
def Longest (lexeme text : List Char) : Prop :=
  ∀ kind' lexeme', Lexeme kind' lexeme' → lexeme' <+: text → lexeme'.length ≤ lexeme.length

/-- Where a lexeme ends there is no longer one. -/
theorem longest_of_ends (h : Lexeme kind lexeme) (ends : Ends kind rest) :
    Longest lexeme (lexeme ++ rest) := by
  intro kind' lexeme' h' starts
  refine Nat.le_of_not_lt fun longer => ?_
  -- the longer one is the lexeme with some of the text behind it
  obtain ⟨more, rfl⟩ : lexeme <+: lexeme' :=
    List.prefix_of_prefix_length_le (List.prefix_append lexeme rest) starts (by omega)
  obtain ⟨behind, same⟩ := starts
  rw [List.append_assoc, List.append_cancel_left_eq] at same
  -- and read alone it is both
  obtain ⟨c, text, all, read⟩ := readLexeme_of_lexeme h (Ends.of_append (same ▸ ends))
  obtain ⟨c', text', all', read'⟩ := readLexeme_of_lexeme h' (ends_nil kind')
  rw [List.append_nil, all] at all'
  injection all' with first others
  subst first others
  rw [read] at read'
  injection read' with _ same_lexeme
  rw [← same_lexeme] at longer
  exact Nat.lt_irrefl _ longer

/-- Where a lexeme does not end, a longer one begins with it, or it is a glued number. -/
theorem ends_of_longest (h : Lexeme kind lexeme) (longest : Longest lexeme (lexeme ++ rest))
    (free : ¬Glued kind rest) : Ends kind rest := by
  -- one more character of the text does not make a lexeme
  have noMore : ∀ c kind', rest.head? = some c → ¬Lexeme kind' (lexeme ++ [c]) := by
    intro c kind' found longer
    obtain ⟨behind, rfl⟩ := List.head?_eq_some_iff.1 found
    have bound := longest kind' _ longer ⟨behind, by simp⟩
    rw [List.length_append, List.length_singleton] at bound
    exact Nat.not_succ_le_self _ bound
  have wordEnds : ∀ c parts, IsWord c parts → lexeme = c :: parts →
      ∀ d ∈ rest.head?, isWordPart d = false := by
    rintro c parts word rfl d found
    refine Bool.eq_false_iff.2 fun part => noMore d _ found (lexeme_ofWord ⟨word.letter, ?_⟩)
    intro d' among
    rcases List.mem_append.1 among with among | among
    · exact word.parts d' among
    · rw [List.mem_singleton.1 among]
      exact part
  have snoc : ∀ digits d, IsDigits digits → d.isDigit = true → IsDigits (digits ++ [d]) := by
    intro digits d some digit
    refine ⟨by simp, fun d' among => ?_⟩
    rcases List.mem_append.1 among with among | among
    · exact some.digit d' among
    · rw [List.mem_singleton.1 among]
      exact digit
  cases h with
  | keyword k =>
    obtain ⟨c, parts, same, word⟩ := k.isWord
    exact wordEnds c parts word same
  | @identifier c parts word free => exact wordEnds c parts word rfl
  | @integer digits some =>
    refine ⟨fun d found => Bool.eq_false_iff.2 fun digit => ?_, free⟩
    exact noMore d _ found (.integer (snoc _ _ some digit))
  | @double whole fraction some more =>
    refine ⟨fun d found => Bool.eq_false_iff.2 fun digit => ?_, free⟩
    refine noMore d (.double (.ofDecimal whole (fraction ++ [d]))) found ?_
    rw [List.append_assoc]
    exact .double some (snoc _ _ more digit)
  | string => trivial
  | char => trivial
  | symbol s =>
    rintro (rfl | rfl | rfl) equals
    · exact noMore '=' _ equals (.symbol .equal)
    · exact noMore '=' _ equals (.symbol .lessEqual)
    · exact noMore '=' _ equals (.symbol .greaterEqual)

/-- A glued number does not end. -/
theorem not_glued_of_ends (ends : Ends kind rest) : ¬Glued kind rest := by
  cases kind with
  | integer digits => exact ends.2
  | double value => exact ends.2
  | _ => simp [Glued]

/-! ### Blanks and comments -/

/-- The first text is all that is skipped in front of the second one: blanks, and comments up to the end
of their lines. -/
inductive Skips : (skipped text : List Char) → Prop
  | none {text : List Char} (stops : ∀ c ∈ text.head?, isBlank c = false ∧ c ≠ '#') : Skips [] text
  | blank {c : Char} {skipped text : List Char} (blank : isBlank c = true)
      (later : Skips skipped text) : Skips (c :: skipped) text
  | comment {body skipped text : List Char} (line : ∀ d ∈ body, d ≠ '\n')
      (lineEnds : ∀ d ∈ (skipped ++ text).head?, d = '\n') (later : Skips skipped text) :
      Skips ('#' :: body ++ skipped) text

section Split

variable {c : Char}

theorem splitTrivia_hash (text : List Char) : splitTrivia false ('#' :: text) =
    ('#' :: (splitTrivia true text).1, (splitTrivia true text).2) := rfl

theorem splitTrivia_newline (text : List Char) : splitTrivia true ('\n' :: text) =
    ('\n' :: (splitTrivia false text).1, (splitTrivia false text).2) := rfl

theorem splitTrivia_blank (blank : isBlank c = true) (text : List Char) :
    splitTrivia false (c :: text) =
      (c :: (splitTrivia false text).1, (splitTrivia false text).2) := by
  have noHash : (c == '#') = false := by
    refine beq_eq_false_iff_ne.2 ?_
    rintro rfl
    exact absurd blank (by decide)
  simp [splitTrivia, blank, noHash]

theorem splitTrivia_inside (goesOn : c ≠ '\n') (text : List Char) :
    splitTrivia true (c :: text) = (c :: (splitTrivia true text).1, (splitTrivia true text).2) := by
  have inside : (c != '\n') = true := bne_iff_ne.2 goesOn
  simp [splitTrivia, inside]

theorem splitTrivia_stop (stops : ∀ c ∈ text.head?, isBlank c = false ∧ c ≠ '#') :
    splitTrivia false text = ([], text) := by
  cases text with
  | nil => rfl
  | cons c text =>
    obtain ⟨blank, hash⟩ := stops c rfl
    simp [splitTrivia, blank, hash]

end Split

/-- A comment is skipped up to the end of its line. -/
theorem splitTrivia_comment {body : List Char} (line : ∀ d ∈ body, d ≠ '\n')
    (lineEnds : ∀ d ∈ text.head?, d = '\n') :
    splitTrivia true (body ++ text) =
      (body ++ (splitTrivia false text).1, (splitTrivia false text).2) := by
  induction body with
  | nil =>
    cases text with
    | nil => rfl
    | cons d text =>
      obtain rfl := lineEnds d rfl
      rfl
  | cons d body ih =>
    have ih := ih fun d' found => line d' (List.mem_cons_of_mem d found)
    rw [List.cons_append, splitTrivia_inside (line d List.mem_cons_self), ih]
    rfl

theorem splitTrivia_of_skips {skipped : List Char} (h : Skips skipped text) :
    splitTrivia false (skipped ++ text) = (skipped, text) := by
  induction h with
  | none stops => exact splitTrivia_stop stops
  | blank blank _ ih => rw [List.cons_append, splitTrivia_blank blank, ih]
  | comment line lineEnds _ ih =>
    rw [List.append_assoc, List.cons_append, splitTrivia_hash, splitTrivia_comment line lineEnds, ih]
    rfl

/-- What is skipped in front of a text, from outside of a comment and from inside of one. -/
theorem skips_splitTrivia (text : List Char) :
    Skips (splitTrivia false text).1 (splitTrivia false text).2 ∧
      ∃ body skipped, (splitTrivia true text).1 = body ++ skipped ∧ (∀ d ∈ body, d ≠ '\n') ∧
        (∀ d ∈ (skipped ++ (splitTrivia true text).2).head?, d = '\n') ∧
        Skips skipped (splitTrivia true text).2 := by
  induction text with
  | nil =>
    have none : Skips [] [] := .none fun _ found => by cases found
    exact ⟨none, [], [], rfl, by simp, by simp [splitTrivia], none⟩
  | cons c text ih =>
    obtain ⟨outside, body, skipped, split, line, lineEnds, later⟩ := ih
    constructor
    · by_cases hash : c = '#'
      · subst hash
        rw [splitTrivia_hash, split]
        exact .comment line lineEnds later
      · by_cases blank : isBlank c = true
        · rw [splitTrivia_blank blank]
          exact .blank blank outside
        · have stops : ∀ d ∈ (c :: text).head?, isBlank d = false ∧ d ≠ '#' := by
            intro d found
            obtain rfl := Option.some.inj found
            exact ⟨Bool.eq_false_iff.2 blank, hash⟩
          rw [splitTrivia_stop stops]
          exact .none stops
    · by_cases newline : c = '\n'
      · -- the newline is a blank that is skipped behind the comment
        subst newline
        rw [splitTrivia_newline]
        exact ⟨[], _, rfl, by simp, by simp, .blank rfl outside⟩
      · rw [splitTrivia_inside newline, split]
        refine ⟨c :: body, skipped, rfl, ?_, lineEnds, later⟩
        intro d found
        rcases List.mem_cons.1 found with rfl | found
        · exact newline
        · exact line d found

/-- The blanks and comments in front of a text are split off. -/
theorem splitTrivia_eq_iff {skipped rest : List Char} :
    splitTrivia false text = (skipped, rest) ↔ skipped ++ rest = text ∧ Skips skipped rest := by
  constructor
  · intro h
    have all := splitTrivia_append false text
    have found := (skips_splitTrivia text).1
    rw [h] at all found
    exact ⟨all, found⟩
  · rintro ⟨rfl, h⟩
    exact splitTrivia_of_skips h

/-- A class of characters without blanks and without the mark of a comment. -/
theorem stops_of_class {p : Char → Bool}
    (apart : [' ', '\t', '\r', '\n', '#'].any p = false) {c : Char} (h : p c = true) :
    isBlank c = false ∧ c ≠ '#' := by
  constructor
  · refine Bool.eq_false_iff.2 fun blank => ?_
    simp only [isBlank, Bool.or_eq_true, beq_iff_eq] at blank
    rcases blank with ((rfl | rfl) | rfl) | rfl <;> simp [h] at apart
  · rintro rfl
    simp [h] at apart

/-- No lexeme starts with a blank or a comment. -/
theorem Lexeme.head (h : Lexeme kind lexeme) :
    ∀ c ∈ lexeme.head?, isBlank c = false ∧ c ≠ '#' := by
  have letter : ∀ {c}, isAlphabetic c = true → isBlank c = false ∧ c ≠ '#' :=
    stops_of_class (by decide)
  have digit : ∀ {c : Char}, c.isDigit = true → isBlank c = false ∧ c ≠ '#' :=
    stops_of_class (by decide)
  intro d found
  cases h with
  | keyword k =>
    obtain ⟨c, parts, same, word⟩ := k.isWord
    rw [same] at found
    exact Option.some.inj found ▸ letter word.letter
  | identifier word => exact Option.some.inj found ▸ letter word.letter
  | integer some =>
    obtain ⟨c, more, rfl, first⟩ := some.head
    exact Option.some.inj found ▸ digit first
  | double some =>
    obtain ⟨c, more, rfl, first⟩ := some.head
    exact Option.some.inj found ▸ digit first
  | string => exact Option.some.inj found ▸ by decide
  | char => exact Option.some.inj found ▸ by decide
  | symbol s => cases s <;> exact Option.some.inj found ▸ by decide

/-! ### Scans -/

/-- What a scan finds at a lexeme. -/
theorem scan_eq_token (cursor : Cursor) {skipped : List Char}
    (split : cursor.rest = skipped ++ (lexeme ++ rest)) (skips : Skips skipped (lexeme ++ rest))
    (h : Lexeme kind lexeme) (ends : Ends kind rest) :
    cursor.scan = (.ok ⟨kind, String.ofList lexeme, (cursor.position.after skipped).span lexeme.length⟩,
      ⟨rest, (cursor.position.after skipped).after lexeme⟩) := by
  have split_eq := splitTrivia_eq_iff.2 ⟨split.symm, skips⟩
  obtain ⟨c, text, same, read⟩ := readLexeme_of_lexeme h ends
  unfold Cursor.scan
  rw [split_eq, same]
  dsimp only
  rw [Cursor.scanLexeme, read]

/-- What a scan finds at the end of a text. -/
theorem scan_eq_endOfInput (cursor : Cursor) (skips : Skips cursor.rest []) :
    cursor.scan = (.ok (.endOfInput (cursor.position.after cursor.rest)),
      ⟨[], cursor.position.after cursor.rest⟩) := by
  have split_eq := splitTrivia_eq_iff.2 ⟨List.append_nil _, skips⟩
  unfold Cursor.scan
  rw [split_eq]

/-- What a scan finds is a lexeme behind blanks and comments, or the end of the input. -/
theorem lexeme_of_scan {cursor cursor' : Cursor} {token : Token}
    (scanned : cursor.scan = (.ok token, cursor')) (more : token.kind ≠ .endOfInput) :
    ∃ skipped lexeme, cursor.rest = skipped ++ (lexeme ++ cursor'.rest) ∧
      Skips skipped (lexeme ++ cursor'.rest) ∧ token.lexeme = String.ofList lexeme ∧
      Lexeme token.kind lexeme ∧ Ends token.kind cursor'.rest := by
  unfold Cursor.scan at scanned
  split at scanned
  rename_i skipped text split_eq
  obtain ⟨all, skips⟩ := splitTrivia_eq_iff.1 split_eq
  dsimp only at scanned
  split at scanned
  · injection scanned with same
    injection same with same
    exact absurd (congrArg Token.kind same).symm more
  · rename_i c text
    unfold Cursor.scanLexeme at scanned
    split at scanned
    · rename_i kind lexeme rest read
      injection scanned with same left
      injection same with same
      subst same left
      obtain ⟨h, ends, whole⟩ := readLexeme_eq_token_iff.1 read
      exact ⟨skipped, lexeme, by rw [whole, all], whole ▸ skips, rfl, h, ends⟩
    · injection scanned with same
      cases same

/-- A scan finds a token just where the text behind blanks and comments starts with a lexeme. It finds
the longest one, which has one kind only, and no number is glued to what follows it. -/
theorem scan_eq_token_iff (cursor : Cursor) (kind : TokenKind) (lexeme rest : List Char) :
    (kind ≠ .endOfInput ∧ ∃ span position,
        cursor.scan = (.ok ⟨kind, String.ofList lexeme, span⟩, ⟨rest, position⟩)) ↔
      ∃ skipped, cursor.rest = skipped ++ (lexeme ++ rest) ∧ Skips skipped (lexeme ++ rest) ∧
        Lexeme kind lexeme ∧ (∀ kind', Lexeme kind' lexeme → kind' = kind) ∧
        Longest lexeme (lexeme ++ rest) ∧ ¬Glued kind rest := by
  constructor
  · rintro ⟨more, span, position, scanned⟩
    obtain ⟨skipped, found, split, skips, same, h, ends⟩ := lexeme_of_scan scanned more
    obtain rfl := String.ofList_injective same
    exact ⟨skipped, split, skips, h, fun _ h' => h'.kind_unique h, longest_of_ends h ends,
      not_glued_of_ends ends⟩
  · rintro ⟨skipped, split, skips, h, -, longest, free⟩
    refine ⟨?_, _, _, scan_eq_token cursor split skips h (ends_of_longest h longest free)⟩
    rintro rfl
    cases h

end SyntaxCheck
