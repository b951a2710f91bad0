import SyntaxCheck.Journal
import SyntaxCheck.Proofs.Binary64.Text
import SyntaxCheck.Proofs.Grammar.Lookahead
import SyntaxCheck.Proofs.Lexer.Scans
import SyntaxCheck.Proofs.Text.Quoted
import SyntaxCheck.Proofs.Text.SingleLine

/-!
# What a message of the journal tells

The message about a rule tells the rule and where it was entered, and the message about a token tells what kind of
token it is, with the value that it carries, and where it stands. So the messages list rules and tokens.

* `Rule.ofName?`, `Terminal.ofLabel?` - rules and classes of tokens are read back from their names;
* `TokenKind.render_injective` - a kind is told by its text;
* `Span.place_append_cancel` - the place is what stands behind the last blank;
* `holding_of_entranceEntry`, `holding_of_tokenEntry` - the messages tell what they are about, and where that is;
* `holding_of_entranceEntries`, `holding_of_tokenEntries` - and so do lists of them.
-/

namespace SyntaxCheck

/-! ### Rules -/

namespace Rule

/-- Every rule. -/
def all : List Rule := [
  .program, .typeDefinition, .functionDefinition, .parameters, .type, .block, .declaration, .assignment, .if_,
  .elif, .else_, .while_, .for_, .return_, .delete, .callStatement]

/-- The rule with a name, if there is one. -/
def ofName? (name : String) : Option Rule :=
  all.find? fun rule => rule.name == name

@[simp] theorem ofName?_name (rule : Rule) : ofName? rule.name = some rule := by
  cases rule <;> decide

theorem name_injective : Function.Injective name := by
  intro rule rule' same
  have read := congrArg ofName? same
  rwa [ofName?_name, ofName?_name, Option.some.injEq] at read

end Rule

/-! ### Kinds of tokens -/

namespace Terminal

/-- The name of the class of tokens, as the journal shows it. -/
def label : Terminal → String
  | .keyword k => k.label
  | .symbol s => s.label
  | .identifier => "Ident"
  | .integer => "IntLit"
  | .double => "DoubleLit"
  | .char => "CharLit"
  | .string => "StringLit"
  | .endOfInput => "Eof"

/-- The class of tokens with a name, if there is one. -/
def ofLabel? (name : String) : Option Terminal :=
  all.find? fun t => t.label == name

@[simp] theorem ofLabel?_label : ∀ t : Terminal, ofLabel? t.label = some t := by
  decide +kernel

theorem label_injective : Function.Injective label := by
  intro t t' same
  have read := congrArg ofLabel? same
  rwa [ofLabel?_label, ofLabel?_label, Option.some.injEq] at read

theorem paren_notMem_label : ∀ t : Terminal, '(' ∉ t.label.toList := by
  decide +kernel

end Terminal

namespace TokenKind

variable {kind kind' : TokenKind}

theorem label_eq (kind : TokenKind) : kind.label = kind.terminal.label := by
  cases kind <;> rfl

/-- A double that the kind carries is a number or infinite. -/
def HoldsNumber (kind : TokenKind) : Prop := ∀ x, kind = .double x → x.IsNumber

/-- The value stands in parentheses behind the name of the class. -/
theorem label_of_render (same : kind.render = kind'.render) :
    kind.label = kind'.label ∧ kind.renderValue? = kind'.renderValue? := by
  have free : '(' ∉ kind.label.toList := kind.label_eq ▸ kind.terminal.paren_notMem_label
  have free' : '(' ∉ kind'.label.toList := kind'.label_eq ▸ kind'.terminal.paren_notMem_label
  unfold render at same
  generalize kind.renderValue? = value at same
  generalize kind'.renderValue? = value' at same
  match value, value' with
  | none, none => exact ⟨same, rfl⟩
  | none, some value' =>
    have same : kind.label = kind'.label ++ "(" ++ value' ++ ")" := same
    exact absurd (by simp [same]) free
  | some value, none =>
    have same : kind.label ++ "(" ++ value ++ ")" = kind'.label := same
    exact absurd (by simp [← same]) free'
  | some value, some value' =>
    have same : kind.label.toList ++ '(' :: (value.toList ++ [')']) =
        kind'.label.toList ++ '(' :: (value'.toList ++ [')']) := by
      simpa using congrArg String.toList same
    obtain ⟨label, value⟩ := append_mark_cancel free free' same
    exact ⟨String.toList_inj.1 label, congrArg some (String.toList_inj.1 (List.append_cancel_right value))⟩

/-- Kinds are told by their texts, with the values that they carry. -/
theorem render_injective (number : kind.HoldsNumber) (same : kind.render = kind'.render) : kind = kind' := by
  obtain ⟨label, value⟩ := label_of_render same
  rw [label_eq, label_eq] at label
  have terminal := Terminal.label_injective label
  cases kind with
  | keyword | symbol | endOfInput => cases kind' <;> cases terminal; rfl
  | identifier | integer | string =>
    cases kind' <;> cases terminal
    rw [quotedString_injective (Option.some.inj value)]
  | char =>
    cases kind' <;> cases terminal
    rw [quotedChar_injective (Option.some.inj value)]
  | double x =>
    cases kind' <;> cases terminal
    rw [Binary64.render_injective (number x rfl) (Option.some.inj value)]

end TokenKind

/-! ### Places -/

theorem toDigits_injective : Function.Injective (Nat.toDigits 10) := by
  intro n n' same
  have read := congrArg (Nat.ofDigitChars 10 · 0) same
  rwa [Nat.ofDigitChars_ten_toDigits, Nat.ofDigitChars_ten_toDigits] at read

namespace Span

variable {s s' : Span}

theorem toList_place (s : Span) : s.place.toList = Nat.toDigits 10 s.line ++ ':' :: Nat.toDigits 10 s.column := by
  simp [place]

/-- A place tells its line and its column. -/
theorem place_injective (same : s.place = s'.place) : s.line = s'.line ∧ s.column = s'.column := by
  have same := congrArg String.toList same
  rw [toList_place, toList_place] at same
  have colon := notMem_toDigits (c := ':') rfl
  obtain ⟨line, column⟩ := append_mark_cancel (colon s.line) (colon s'.line) same
  exact ⟨toDigits_injective line, toDigits_injective column⟩

theorem blank_notMem_place (s : Span) : ' ' ∉ s.place.toList := by
  rw [toList_place]
  simp [notMem_toDigits]

/-- The place is what stands behind the last blank. -/
theorem place_append_cancel {about about' : String}
    (same : about ++ " at " ++ s.place = about' ++ " at " ++ s'.place) :
    about = about' ∧ s.line = s'.line ∧ s.column = s'.column := by
  have free (s : Span) : ' ' ∉ s.place.toList.reverse := by simp [blank_notMem_place]
  have same : s.place.toList.reverse ++ ' ' :: ("ta ".toList ++ about.toList.reverse) =
      s'.place.toList.reverse ++ ' ' :: ("ta ".toList ++ about'.toList.reverse) := by
    simpa using congrArg (List.reverse ∘ String.toList) same
  obtain ⟨place, about⟩ := append_mark_cancel (free s) (free s') same
  exact ⟨String.toList_inj.1 (List.reverse_injective (List.append_cancel_left about)),
    place_injective (String.toList_inj.1 (List.reverse_injective place))⟩

end Span

/-! ### Messages -/

/-- What the journal tells of a rule that was entered. -/
def entranceEntry (entrance : Rule × Span) : Entry :=
  ⟨.trace, "enter " ++ entrance.1.name ++ " at " ++ entrance.2.place⟩

/-- What the journal tells of a token that was scanned. -/
def tokenEntry (token : Token) : Entry :=
  ⟨.trace, "lexed " ++ token.kind.render ++ " at " ++ token.span.place⟩

/-- Something with the line and the column where it is. -/
def Span.holding {α : Type} (span : Span) (content : α) : α × Nat × Nat := (content, span.line, span.column)

/-- The message about a rule tells which one it is, and where it was entered. -/
theorem holding_of_entranceEntry {entrance entrance' : Rule × Span}
    (same : entranceEntry entrance = entranceEntry entrance') :
    entrance.2.holding entrance.1 = entrance'.2.holding entrance'.1 := by
  obtain ⟨name, line, column⟩ := Span.place_append_cancel (congrArg Entry.message same)
  have rule := Rule.name_injective (String.append_right_inj _ |>.1 name)
  rw [Span.holding, Span.holding, rule, line, column]

/-- The message about a token tells its kind, and where it stands. -/
theorem holding_of_tokenEntry {token token' : Token} (number : token.kind.HoldsNumber)
    (same : tokenEntry token = tokenEntry token') :
    token.span.holding token.kind = token'.span.holding token'.kind := by
  obtain ⟨text, line, column⟩ := Span.place_append_cancel (congrArg Entry.message same)
  have kind := TokenKind.render_injective number (String.append_right_inj _ |>.1 text)
  rw [Span.holding, Span.holding, kind, line, column]

/-- A double that is scanned is a number or infinite. -/
theorem Cursor.Scans.holdsNumber {cursor cursor' : Cursor} {tokens : List Token}
    (h : cursor.Scans tokens cursor') : ∀ token ∈ tokens, token.kind.HoldsNumber := by
  induction h with
  | refl => exact List.forall_mem_nil _
  | step scanned _ ih =>
    refine List.forall_mem_cons.2 ⟨fun x double => ?_, ih⟩
    obtain ⟨-, lexeme, -, -, -, isLexeme, -⟩ := lexeme_of_scan scanned (by rw [double]; exact nofun)
    rw [double] at isLexeme
    cases isLexeme with
    | double => exact Binary64.isNumber_nearest _ _

/-- Where each message tells what it is about, so does a list of them. -/
theorem map_eq_map_of_told {α β γ : Type} {say : α → β} {told : α → γ} {items items' : List α}
    (each : ∀ item ∈ items, ∀ item', say item' = say item → told item' = told item)
    (same : items'.map say = items.map say) : items'.map told = items.map told := by
  induction items generalizing items' with
  | nil =>
    rw [List.map_nil, List.map_eq_nil_iff] at same
    rw [same]
  | cons item items ih =>
    obtain ⟨item', items', rfl, first, others⟩ := List.map_eq_cons_iff.1 same
    rw [List.forall_mem_cons] at each
    rw [List.map_cons, List.map_cons, each.1 item' first, ih each.2 others]

/-- Messages about rules list the rules, with their places. -/
theorem holding_of_entranceEntries {entered others : List (Rule × Span)}
    (same : others.map entranceEntry = entered.map entranceEntry) :
    others.map (fun e => e.2.holding e.1) = entered.map fun e => e.2.holding e.1 :=
  map_eq_map_of_told (fun _ _ _ => holding_of_entranceEntry) same

/-- Messages about tokens list their kinds, with their places. -/
theorem holding_of_tokenEntries {scanned others : List Token} (numbers : ∀ token ∈ scanned, token.kind.HoldsNumber)
    (same : others.map tokenEntry = scanned.map tokenEntry) :
    others.map (fun t => t.span.holding t.kind) = scanned.map fun t => t.span.holding t.kind :=
  map_eq_map_of_told (fun token among _ told => (holding_of_tokenEntry (numbers token among) told.symm).symm) same

end SyntaxCheck
