import SyntaxCheck.Derivation.Basic
import SyntaxCheck.Proofs.Lexer.Tiling

/-!
# Writing tokens down

A text that is put together from lexemes has these as its tokens, if each of them ends where the next
piece begins. The places of the tokens do not matter here.

* `Item`, `Token.item` - a token without its place;
* `Writes` - a text has just these tokens, from any place on;
* `Writes.lexeme`, `Writes.mark`, `Writes.skip` - one piece more in front of a text;
* `drain_of_writes` - these are the tokens that are handed out for it;
* `ends_stop` - characters that end every lexeme;
* `Closes`, `Prints` - what stands behind an expression, and a text that has these tokens before it;
* `Prints.joined`, `Prints.signed`, `Prints.called` - the texts of groups;
* `spelled`, `writes_spelled` - lexemes with a blank behind each;
* `exists_text` - every word of terminals before the end of the input has a text.
-/

namespace SyntaxCheck

/-- A token without its place: its kind, and its characters. -/
abbrev Item := TokenKind × List Char

def Token.item (token : Token) : Item := (token.kind, token.lexeme.toList)

/-! ### Marks -/

namespace Mark

/-- The kind of the tokens spelled so. -/
def kind : Mark → TokenKind
  | .keyword k => .keyword k
  | .symbol s => .symbol s

def item (m : Mark) : Item := (m.kind, m.spelling.toList)

@[simp] theorem terminal_kind (m : Mark) : m.kind.terminal = m.terminal := by
  cases m <;> rfl

theorem isLexeme (m : Mark) : Lexeme m.kind m.spelling.toList := by
  cases m with
  | keyword k => exact .keyword k
  | symbol s =>
    rw [spelling, String.toList_ofList]
    exact .symbol s

/-- A lexeme of the class of a mark is spelled like the mark. -/
theorem item_of_terminal {m : Mark} {kind : TokenKind} {lexeme : List Char}
    (h : Lexeme kind lexeme) (same : kind.terminal = m.terminal) : (kind, lexeme) = m.item := by
  cases h with
  | keyword k =>
    cases m with
    | keyword k' =>
      cases same
      rfl
    | symbol s => cases same
  | symbol s =>
    cases m with
    | keyword k => cases same
    | symbol s' =>
      cases same
      rw [item, spelling, String.toList_ofList, kind]
  | _ => cases m <;> cases same

end Mark

namespace Token

variable {token : Token} {m : Mark}

theorem lexeme_of_item {kind : TokenKind} {lexeme : List Char} (h : token.item = (kind, lexeme)) :
    token.lexeme = String.ofList lexeme := by
  have same : token.lexeme.toList = lexeme := congrArg Prod.snd h
  rw [← same, String.ofList_toList]

theorem lexeme_of_mark (h : token.item = m.item) : token.lexeme = m.spelling := by
  rw [lexeme_of_item h, String.ofList_toList]

end Token

/-! ### Texts of some tokens -/

/-- The tokens of the text, from any place on, are the items, and then the end of the input. -/
def Writes (items : List Item) (text : List Char) : Prop :=
  ∀ p, ∃ tokens, Tiles p text tokens ∧ tokens.map Token.item = items ++ [(.endOfInput, [])]

namespace Writes

variable {items : List Item} {text rest : List Char}

theorem nil : Writes [] [] :=
  fun _ => ⟨_, .endOfInput (.none (by simp)), rfl⟩

/-- A lexeme in front of a text that ends it. -/
theorem lexeme {kind : TokenKind} {lexeme : List Char} (h : Lexeme kind lexeme)
    (ends : Ends kind rest) (later : Writes items rest) :
    Writes ((kind, lexeme) :: items) (lexeme ++ rest) := by
  intro p
  obtain ⟨tokens, tiles, same⟩ := later (p.after lexeme)
  have stops : ∀ c ∈ (lexeme ++ rest).head?, isBlank c = false ∧ c ≠ '#' := by
    intro c found
    rw [List.head?_append_of_ne_nil _ h.ne_nil] at found
    exact h.head c found
  have tiled : Tiles p ([] ++ (lexeme ++ rest)) _ := .token (.none stops) h ends tiles
  refine ⟨_, tiled, ?_⟩
  rw [List.map_cons, same, Token.item, String.toList_ofList]
  rfl

theorem mark (m : Mark) (ends : Ends m.kind rest) (later : Writes items rest) :
    Writes (m.item :: items) (m.spelling.toList ++ rest) :=
  lexeme m.isLexeme ends later

theorem symbol (s : Symbol) (ends : Ends (.symbol s) rest) (later : Writes items rest) :
    Writes ((Mark.symbol s).item :: items) (s.spelling ++ rest) := by
  have marked := later.mark (.symbol s) ends
  rwa [Mark.spelling, String.toList_ofList] at marked

/-- A blank in front of a text adds no token. -/
theorem skip {c : Char} (blank : isBlank c = true) (later : Writes items text) :
    Writes items (c :: text) := by
  intro p
  obtain ⟨tokens, tiles, same⟩ := later (p.next c)
  cases tiles with
  | endOfInput skips => exact ⟨_, .endOfInput (.blank blank skips), same⟩
  | @token _ gap lexeme rest kind tokens skips isLexeme ends tiles =>
    have tiled : Tiles p ((c :: gap) ++ (lexeme ++ rest)) _ :=
      .token (.blank blank skips) isLexeme ends tiles
    exact ⟨_, tiled, same⟩

theorem blank (later : Writes items text) : Writes items (' ' :: text) := later.skip rfl

end Writes

/-- What a text writes is handed out without a fault. -/
theorem drain_of_writes {items : List Item} {text : String} (h : Writes items text.toList) :
    (Lexer.ofString text).drain.fault = none ∧
      (Lexer.ofString text).drain.tokens.map Token.item = items ++ [(.endOfInput, [])] := by
  obtain ⟨tokens, tiles, same⟩ := h Position.first
  obtain ⟨rfl, clean⟩ := tokenize_ok_iff.1 (Lexer.tokenize_ok_iff_tiles.2 tiles)
  exact ⟨clean, same⟩

/-- A name ends where parentheses open. -/
theorem ends_leftParen (name : String) (rest : List Char) :
    Ends (.identifier name) (Symbol.leftParen.spelling ++ rest) := by
  rintro c found
  cases found
  decide

/-- Every lexeme ends in front of a blank, a closing parenthesis or a comma. -/
theorem ends_stop {c : Char} (stop : c ∈ ['\t', '\r', '\n', ' ', ')', ',']) (kind : TokenKind)
    (rest : List Char) : Ends kind (c :: rest) := by
  -- none of them goes on with a word, a number or an operator
  obtain ⟨word, digit, letter, underscore, point, equals⟩ : isWordPart c = false ∧ c.isDigit = false ∧
      isAlphabetic c = false ∧ c ≠ '_' ∧ c ≠ '.' ∧ c ≠ '=' := by
    simp only [List.mem_cons, List.not_mem_nil, or_false] at stop
    rcases stop with rfl | rfl | rfl | rfl | rfl | rfl <;> decide
  cases kind with
  | keyword k =>
    rintro d found
    cases found
    exact word
  | identifier name =>
    rintro d found
    cases found
    exact word
  | integer digits =>
    exact ⟨fun d found => by cases found; exact digit, by simp [Glued, letter, underscore, point]⟩
  | double value =>
    exact ⟨fun d found => by cases found; exact digit, by simp [Glued, letter, underscore, point]⟩
  | symbol s => exact fun _ => by simp [equals]
  | _ => trivial

/-! ### Printed texts -/

/-- The text begins with what stands behind an expression in a group. -/
def Closes (rest : List Char) : Prop := ∃ c ∈ [' ', ')', ','], rest.head? = some c

theorem Closes.blank (rest : List Char) : Closes (' ' :: rest) := ⟨' ', by simp, rfl⟩

theorem Closes.paren (rest : List Char) : Closes (')' :: rest) := ⟨')', by simp, rfl⟩

theorem Closes.comma (rest : List Char) : Closes (',' :: rest) := ⟨',', by simp, rfl⟩

/-- Every lexeme ends there. -/
theorem Closes.ends {rest : List Char} (h : Closes rest) (kind : TokenKind) : Ends kind rest := by
  obtain ⟨c, among, first⟩ := h
  obtain ⟨rest, rfl⟩ := List.head?_eq_some_iff.1 first
  exact ends_stop (List.mem_append_right ['\t', '\r', '\n'] among) kind rest

/-- The text has these tokens before whatever may stand behind an expression. -/
def Prints (items : List Item) (text : String) : Prop :=
  ∀ ⦃rest later⦄, Closes rest → Writes later rest → Writes (items ++ later) (text.toList ++ rest)

namespace Prints

variable {kind : TokenKind} {lexeme : List Char} {items items' : List Item} {text text' : String}

theorem nothing : Prints [] "" := fun _ _ _ writes => writes

theorem alone (h : Lexeme kind lexeme) : Prints [(kind, lexeme)] (String.ofList lexeme) := by
  intro rest later closes writes
  rw [String.toList_ofList]
  exact writes.lexeme h (closes.ends kind)

/-- A keyword and what stands behind it. -/
theorem behind (k : Keyword) (h : Prints items text) :
    Prints ((Mark.keyword k).item :: items) (k.spelling ++ " " ++ text) := by
  intro rest later closes writes
  have inside := ((h closes writes).blank).mark (.keyword k) ((Closes.blank _).ends _)
  simpa [Mark.spelling] using inside

/-- A name in front of what does not make it longer. -/
theorem named {name : String} (h : Lexeme (.identifier name) lexeme) (more : Prints items text)
    (ends : ∀ c ∈ text.toList.head?, isWordPart c = false) :
    Prints ((.identifier name, lexeme) :: items) (String.ofList lexeme ++ text) := by
  intro rest later closes writes
  have behind : Ends (.identifier name) (text.toList ++ rest) := by
    cases chars : text.toList with
    | nil => exact closes.ends _
    | cons c text =>
      rw [chars] at ends
      exact ends
  have all := (more closes writes).lexeme h behind
  simpa using all

/-- A dot in front of a text. -/
theorem dotted (h : Prints items text) :
    Prints ((Mark.symbol .dot).item :: items) ("." ++ text) := by
  intro rest later closes writes
  have all := (h closes writes).symbol .dot nofun
  simpa [Symbol.spelling] using all

/-- An operator between two texts. -/
theorem joined (m : Mark) (left : Prints items text) (right : Prints items' text') :
    Prints ((Mark.symbol .leftParen).item :: (items ++ m.item :: items') ++
        [(Mark.symbol .rightParen).item]) (Step.joined text m.spelling text') := by
  intro rest later closes writes
  have close := writes.symbol .rightParen nofun
  have right := right (Closes.paren rest) close
  have op := right.blank.mark m ((Closes.blank _).ends _)
  have left := left (Closes.blank _) op.blank
  have all := left.symbol .leftParen nofun
  simpa [Step.joined, Symbol.spelling] using all

/-- An operator before a text. -/
theorem signed {m : Mark} (known : m = .symbol .minus ∨ m = .keyword .not)
    (inner : Prints items text) :
    Prints ((Mark.symbol .leftParen).item :: (m.item :: items) ++ [(Mark.symbol .rightParen).item])
      (Step.signed m.spelling text) := by
  intro rest later closes writes
  have close := writes.symbol .rightParen nofun
  have inner := inner (Closes.paren rest) close
  rcases known with rfl | rfl
  · have all := (inner.symbol .minus nofun).symbol .leftParen nofun
    have gap : Step.gap (Mark.symbol .minus).spelling = "" := by decide
    rw [Step.signed, gap]
    simpa [Mark.spelling, Symbol.spelling] using all
  · have all := (inner.blank.mark (.keyword .not) ((Closes.blank _).ends _)).symbol
      .leftParen nofun
    have gap : Step.gap (Mark.keyword .not).spelling = " " := by decide
    rw [Step.signed, gap]
    simpa [Symbol.spelling] using all

/-- Texts with commas between them. -/
theorem separated {texts : List String} {itemLists : List (List Item)} (first : Prints items text)
    (more : List.Forall₂ Prints itemLists texts) :
    Prints (items ++ itemLists.flatMap ((Mark.symbol .comma).item :: ·))
      (", ".intercalate (text :: texts)) := by
  induction more generalizing items text with
  | nil => simpa using first
  | @cons items' text' itemLists texts next _ ih =>
    intro rest later closes writes
    have behind := (ih next closes writes).blank.symbol .comma nofun
    have all := first (Closes.comma _) behind
    simpa [String.intercalate_cons_cons, Symbol.spelling] using all

/-- A name with texts in parentheses. -/
theorem called {name : String} (callee : Lexeme (.identifier name) lexeme) {texts : List String}
    (inside : Prints items (", ".intercalate texts)) :
    Prints ((.identifier name, lexeme) :: (Mark.symbol .leftParen).item :: items ++
        [(Mark.symbol .rightParen).item]) (Step.called (String.ofList lexeme) texts) := by
  intro rest later closes writes
  have close := writes.symbol .rightParen nofun
  have inside := inside (Closes.paren rest) close
  have opened := inside.symbol .leftParen nofun
  have all := opened.lexeme callee (ends_leftParen _ _)
  simpa [Step.called, Symbol.spelling] using all

end Prints

/-! ### Every word has a text -/

/-- The lexemes with a blank behind each. -/
def spelled (lexemes : List (List Char)) : List Char :=
  lexemes.flatMap fun lexeme => lexeme ++ [' ']

/-- Such a text has just these lexemes as tokens. -/
theorem writes_spelled (items : List Item) (lexemes : ∀ item ∈ items, Lexeme item.1 item.2) :
    Writes items (spelled (items.map Prod.snd)) := by
  induction items with
  | nil => exact .nil
  | cons item items ih =>
    have later := ih fun item found => lexemes item (List.mem_cons_of_mem _ found)
    have isLexeme := lexemes item List.mem_cons_self
    have all := later.blank.lexeme isLexeme ((Closes.blank _).ends _)
    simpa [spelled] using all

/-- A lexeme of the class. -/
def Terminal.sample : Terminal → TokenKind × List Char
  | .keyword k => (.keyword k, k.spelling.toList)
  | .symbol s => (.symbol s, s.spelling)
  | .identifier => (.identifier "a", ['a'])
  | .integer => (.integer "0", ['0'])
  | .double => (.double (.ofDecimal ['0'] ['0']), ['0', '.', '0'])
  | .char => (.char 'a', ['\'', 'a', '\''])
  | .string => (.string "", ['"', '"'])
  | .endOfInput => (.endOfInput, [])

namespace Terminal

theorem terminal_sample (t : Terminal) : t.sample.1.terminal = t := by
  cases t <;> rfl

theorem lexeme_sample {t : Terminal} (more : t ≠ .endOfInput) : Lexeme t.sample.1 t.sample.2 := by
  have zero : IsDigits ['0'] := ⟨by decide, List.all_eq_true.1 (by decide)⟩
  cases t with
  | keyword k => exact .keyword k
  | symbol s => exact .symbol s
  | identifier =>
    have free : ∀ k : Keyword, k.spelling ≠ String.ofList ['a'] := by
      intro k
      cases k <;> decide
    exact .identifier ⟨by decide, by simp⟩ free
  | integer => exact .integer zero
  | double => exact .double zero zero
  | char => exact .char (.char (by decide))
  | string => exact .string .nil
  | endOfInput => exact absurd rfl more

end Terminal

/-- Every word of terminals has a text with tokens of these classes. -/
theorem exists_text (word : List Terminal) (more : .endOfInput ∉ word) :
    ∃ text : String, (Lexer.ofString text).drain.fault = none ∧
      (Lexer.ofString text).drain.tokens.map Token.terminal = word ++ [.endOfInput] := by
  have writes := writes_spelled (word.map Terminal.sample) (by
    intro item found
    obtain ⟨t, among, rfl⟩ := List.mem_map.1 found
    exact Terminal.lexeme_sample fun same => more (same ▸ among))
  rw [← String.toList_ofList (l := spelled _)] at writes
  obtain ⟨clean, items⟩ := drain_of_writes writes
  refine ⟨_, clean, ?_⟩
  have classes := congrArg (List.map fun item => item.1.terminal) items
  rw [List.map_map] at classes
  refine Eq.trans classes ?_
  have last : TokenKind.endOfInput.terminal = .endOfInput := rfl
  simp [Terminal.terminal_sample, last, Function.comp_def]

end SyntaxCheck
