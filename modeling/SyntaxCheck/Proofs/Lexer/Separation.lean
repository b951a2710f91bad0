import Mathlib
import SyntaxCheck.Proofs.Lexer.Writing

/-!
# Tokens with blanks between them

A word that is one token when it stands alone is the same token between blanks, and every lexeme of a text is
such a word. So the tokens of a text are read back when their lexemes are written with blanks between them.

* `ReadsAlone` - a word is read alone as one token;
* `readsAlone_iff` - these words are the lexemes;
* `IsGap`, `Joins` - blanks between words, and words with blanks between them;
* `Joins.writes` - the tokens of such a text are those of its words;
* `tokenize_joins` - every text of words, and the words of every text.
-/

namespace SyntaxCheck

/-- Alone, the word is read as one token, which spans all of it, and then the input ends. -/
def ReadsAlone (word : String) (token : Token) : Prop :=
  ∃ last, (Lexer.ofString word).tokenize.1 = .ok [token, last] ∧ token.span.start = 0 ∧
    token.span.stop = word.length ∧ last.isEndOfInput = true

/-- The words that are read so are the lexemes. -/
theorem readsAlone_iff {word : String} {token : Token} :
    ReadsAlone word token ↔ Lexeme token.kind word.toList ∧ token.lexeme = word ∧
      token.span = Position.first.span word.length := by
  constructor
  · rintro ⟨last, found, start, stop, ended⟩
    have tiles := Lexer.tokenize_ok_iff_tiles.1 found
    generalize split : word.toList = text at tiles
    cases tiles with
    | @token _ gap lexeme rest kind _ skips isLexeme ends later =>
      -- nothing is in front of the lexeme, and nothing is behind it
      have length : word.length = gap.length + (lexeme.length + rest.length) := by
        rw [← String.length_toList, split, List.length_append, List.length_append]
      have place : (Position.first.after gap).offset = 0 := start
      have width : (Position.first.after gap).offset + lexeme.length = word.length := stop
      rw [place, Nat.zero_add] at width
      rw [Position.offset_after] at place
      obtain rfl : gap = [] := List.eq_nil_of_length_eq_zero (by omega)
      obtain rfl : rest = [] := List.eq_nil_of_length_eq_zero (by omega)
      rw [List.nil_append, List.append_nil] at split ⊢
      refine ⟨isLexeme, ?_, ?_⟩
      · rw [← split, String.ofList_toList]
      · exact congrArg Position.first.span width
  · rintro ⟨isLexeme, lexeme_eq, span_eq⟩
    obtain ⟨kind, lexeme, span⟩ := token
    have lexeme_eq : lexeme = String.ofList word.toList := by
      rw [String.ofList_toList]
      exact lexeme_eq
    have span_eq : span = (Position.first.after []).span word.toList.length := by
      rw [String.length_toList]
      exact span_eq
    subst lexeme_eq span_eq
    have ending : Tiles ((Position.first.after []).after word.toList) [] _ :=
      .endOfInput (.none nofun)
    have stops : Skips [] (word.toList ++ []) := by
      rw [List.append_nil]
      exact .none isLexeme.head
    have tiles : Tiles Position.first ([] ++ (word.toList ++ [])) _ :=
      .token stops isLexeme (ends_nil kind) ending
    rw [List.nil_append, List.append_nil] at tiles
    exact ⟨_, Lexer.tokenize_ok_iff_tiles.2 tiles, rfl, by simp [Position.span, Position.first], rfl⟩

/-- Every lexeme is read alone. -/
theorem exists_readsAlone (token : Token) (h : Lexeme token.kind token.lexeme.toList) :
    ∃ alone, ReadsAlone token.lexeme alone ∧ alone.item = token.item :=
  ⟨{ token with span := Position.first.span token.lexeme.length }, readsAlone_iff.2 ⟨h, rfl, rfl⟩, rfl⟩

/-! ### Texts of words -/

/-- One or more blanks. -/
def IsGap (gap : String) : Prop := gap ≠ "" ∧ ∀ c ∈ gap.toList, isBlank c = true

/-- The text is made of the words, with blanks between each and the next one. -/
inductive Joins : List String → String → Prop
  | nil : Joins [] ""
  | one (word : String) : Joins [word] word
  | cons {next text : String} {words : List String} (word gap : String) (blanks : IsGap gap)
      (later : Joins (next :: words) text) : Joins (word :: next :: words) (word ++ gap ++ text)

/-- The same blanks may stand between all of the words. -/
theorem joins_intercalate {gap : String} (blanks : IsGap gap) (words : List String) :
    Joins words (gap.intercalate words) := by
  induction words with
  | nil => exact .nil
  | cons word words ih =>
    cases words with
    | nil => exact .one word
    | cons next words =>
      rw [String.intercalate_cons_cons]
      exact .cons word gap blanks ih

theorem Writes.gap {items : List Item} {text gap : List Char} (blanks : ∀ c ∈ gap, isBlank c = true)
    (later : Writes items text) : Writes items (gap ++ text) := by
  induction gap with
  | nil => exact later
  | cons c gap ih =>
    obtain ⟨first, others⟩ := List.forall_mem_cons.1 blanks
    exact (ih others).skip first

/-- Every lexeme ends in front of blanks. -/
theorem IsGap.ends {gap : String} (h : IsGap gap) (kind : TokenKind) (rest : List Char) :
    Ends kind (gap.toList ++ rest) := by
  obtain ⟨some, blanks⟩ := h
  cases chars : gap.toList with
  | nil => exact absurd (String.toList_eq_nil_iff.1 chars) some
  | cons c more =>
    have blank := blanks c (by rw [chars]; exact List.mem_cons_self)
    simp only [isBlank, Bool.or_eq_true, beq_iff_eq] at blank
    refine ends_stop ?_ kind (more ++ rest)
    rcases blank with ((rfl | rfl) | rfl) | rfl <;> decide

/-- The tokens of words with blanks between them are those of the words. -/
theorem Joins.writes {words : List String} {text : String} {tokens : List Token} (h : Joins words text)
    (alone : List.Forall₂ ReadsAlone words tokens) : Writes (tokens.map Token.item) text.toList := by
  -- a token is written in front of whatever ends it
  have write : ∀ {word token items rest}, ReadsAlone word token → Ends token.kind rest →
      Writes items rest → Writes (token.item :: items) (word.toList ++ rest) := by
    intro word token items rest reads ends later
    obtain ⟨isLexeme, lexeme_eq, -⟩ := readsAlone_iff.1 reads
    rw [Token.item, lexeme_eq]
    exact later.lexeme isLexeme ends
  induction h generalizing tokens with
  | nil =>
    cases alone
    exact .nil
  | one word =>
    obtain _ | ⟨reads, _ | _⟩ := alone
    have written := write reads (ends_nil _) .nil
    rwa [List.append_nil] at written
  | cons word gap blanks later ih =>
    obtain _ | ⟨reads, others⟩ := alone
    rw [String.toList_append, String.toList_append, List.append_assoc]
    exact write reads (blanks.ends _ _) ((ih others).gap blanks.2)

/-- Such a text is read without a fault. -/
theorem Joins.tokenize {words : List String} {text : String} {alone : List Token} (h : Joins words text)
    (reads : List.Forall₂ ReadsAlone words alone) :
    ∃ tokens, (Lexer.ofString text).tokenize.1 = .ok tokens ∧
      tokens.map Token.item = alone.map Token.item ++ [(.endOfInput, [])] := by
  obtain ⟨clean, same⟩ := drain_of_writes (h.writes reads)
  exact ⟨_, tokenize_ok_iff.2 ⟨rfl, clean⟩, same⟩

/-! ### Words of texts -/

/-- The lexemes of a text are words that are read alone. -/
theorem exists_words {text : String} {tokens : List Token}
    (found : (Lexer.ofString text).tokenize.1 = .ok tokens) :
    ∃ before last alone, tokens = before ++ [last] ∧ last.item = (.endOfInput, []) ∧
      List.Forall₂ ReadsAlone (before.map Token.lexeme) alone ∧
      alone.map Token.item = before.map Token.item := by
  have tiles := Lexer.tokenize_ok_iff_tiles.1 found
  generalize text.toList = chars at tiles
  generalize Position.first = p at tiles
  clear found
  induction tiles with
  | endOfInput => exact ⟨[], _, [], rfl, rfl, .nil, rfl⟩
  | @token p gap lexeme rest kind tokens skips isLexeme ends later ih =>
    obtain ⟨before, last, others, rfl, ended, reads, same⟩ := ih
    have isLexeme : Lexeme kind (String.ofList lexeme).toList := by rwa [String.toList_ofList]
    obtain ⟨alone, first, item_eq⟩ := exists_readsAlone ⟨kind, _, (p.after gap).span _⟩ isLexeme
    exact ⟨_ :: before, last, alone :: others, rfl, ended, .cons first reads,
      congrArg₂ List.cons item_eq same⟩

/-- Words that are each read alone as one token are read as these tokens, and then the input ends, when any
blanks stand between them. And the tokens of any text are read back, but for their places, when their lexemes
are written so: each lexeme is read alone as a token of the same kind. -/
theorem tokenize_joins :
    (∀ words alone joined, List.Forall₂ ReadsAlone words alone → Joins words joined →
      ∃ tokens, (Lexer.ofString joined).tokenize.1 = .ok tokens ∧
        tokens.map Token.item = alone.map Token.item ++ [(.endOfInput, [])]) ∧
    ∀ text tokens, (Lexer.ofString text).tokenize.1 = .ok tokens →
      ∃ before last alone, tokens = before ++ [last] ∧ last.isEndOfInput = true ∧
        List.Forall₂ ReadsAlone (before.map Token.lexeme) alone ∧
        alone.map Token.item = before.map Token.item ∧
        ∀ joined, Joins (before.map Token.lexeme) joined →
          ∃ tokens', (Lexer.ofString joined).tokenize.1 = .ok tokens' ∧
            tokens'.map Token.item = tokens.map Token.item := by
  refine ⟨fun words alone joined reads h => h.tokenize reads, fun text tokens found => ?_⟩
  obtain ⟨before, last, alone, rfl, ended, reads, same⟩ := exists_words found
  have ended' : last.isEndOfInput = true := Token.isEndOfInput_iff.2 (congrArg Prod.fst ended)
  refine ⟨before, last, alone, rfl, ended', reads, same, fun joined h => ?_⟩
  obtain ⟨tokens', found', items⟩ := h.tokenize reads
  refine ⟨tokens', found', ?_⟩
  rw [items, same, List.map_append, List.map_singleton, ended]

/-- Lexemes that stand close together, with a comment behind them, are read back from lines of their own, and
with other blanks between them. -/
theorem tokenize_joins_lines :
    let items : List Item := [(.identifier "x", "x".toList), (.symbol .assign, "=".toList),
      (.symbol .minus, "-".toList), (.integer "15", "15".toList), (.symbol .notEqual, "!=".toList),
      (.char '#', "'#'".toList), (.endOfInput, [])]
    (Lexer.ofString "x=-15!='#'# no more").tokenize.1 = .ok
      [⟨.identifier "x", "x", ⟨0, 1, 1, 1⟩⟩, ⟨.symbol .assign, "=", ⟨1, 2, 1, 2⟩⟩,
        ⟨.symbol .minus, "-", ⟨2, 3, 1, 3⟩⟩, ⟨.integer "15", "15", ⟨3, 5, 1, 4⟩⟩,
        ⟨.symbol .notEqual, "!=", ⟨5, 7, 1, 6⟩⟩, ⟨.char '#', "'#'", ⟨7, 10, 1, 8⟩⟩,
        .endOfInput ⟨19, 1, 20⟩] ∧
    (∃ tokens, (Lexer.ofString "x\n=\n-\n15\n!=\n'#'").tokenize.1 = .ok tokens ∧
      tokens.map Token.item = items) ∧
    ∃ alone, List.Forall₂ ReadsAlone ["x", "=", "-", "15", "!=", "'#'"] alone ∧
      ∃ tokens, (Lexer.ofString "x = -\t15 !=\r\n\n'#'").tokenize.1 = .ok tokens ∧
        tokens.map Token.item = items := by
  intro items
  have found : (Lexer.ofString "x=-15!='#'# no more").tokenize.1 = .ok
      ([⟨.identifier "x", "x", ⟨0, 1, 1, 1⟩⟩, ⟨.symbol .assign, "=", ⟨1, 2, 1, 2⟩⟩,
        ⟨.symbol .minus, "-", ⟨2, 3, 1, 3⟩⟩, ⟨.integer "15", "15", ⟨3, 5, 1, 4⟩⟩,
        ⟨.symbol .notEqual, "!=", ⟨5, 7, 1, 6⟩⟩, ⟨.char '#', "'#'", ⟨7, 10, 1, 8⟩⟩] ++
        [.endOfInput ⟨19, 1, 20⟩]) := by cbv
  obtain ⟨before, last, alone, same, -, reads, items_eq, joined⟩ := tokenize_joins.2 _ _ found
  obtain ⟨rfl, -⟩ := List.append_inj' same rfl
  refine ⟨found, ?_, alone, reads, ?_⟩
  · have blanks : IsGap "\n" := ⟨by decide, List.forall_mem_singleton.2 rfl⟩
    exact joined _ (joins_intercalate blanks _)
  · have space : IsGap " " := ⟨by decide, by simp [isBlank]⟩
    have tab : IsGap "\t" := ⟨by decide, by simp [isBlank]⟩
    have lines : IsGap "\r\n\n" := ⟨by decide, by simp [isBlank]⟩
    have written := Joins.cons "x" _ space <| .cons "=" _ space <| .cons "-" _ tab <|
      .cons "15" _ space <| .cons "!=" _ lines <| .one "'#'"
    obtain ⟨tokens, found', same'⟩ := tokenize_joins.1 _ _ _ reads written
    exact ⟨tokens, found', same'.trans (by rw [items_eq]; rfl)⟩

end SyntaxCheck
