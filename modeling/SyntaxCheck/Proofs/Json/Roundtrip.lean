import SyntaxCheck.Json.Reader
import SyntaxCheck.Proofs.Json.Spelling

/-!
# Printed values are read back

A value has one list of tokens. It is read from these however they are spelled, and both layouts of the
value spell them.

* `Json.tokens` - the tokens of a value;
* `JsonReader.read_tokens`, `Json.parse?_of_cut` - a value is read from its tokens;
* `Json.Plain` - values in which all numbers have the form of numbers, and all strings are texts;
* `Json.cut_write` - a layout of such a value is cut into its tokens;
* `Json.parse?_pretty`, `Json.parse?_compact` - so it is read back.
-/

namespace SyntaxCheck

namespace Json

/-! ### Tokens of values -/

mutual

/-- The tokens of a value. -/
def tokens : Json → List JsonToken
  | .null => [.null]
  | .bool value => [.bool value]
  | .number literal => [.number literal]
  | .text value => [.text value]
  | .array [] => [.openArray, .closeArray]
  | .array (item :: items) => .openArray :: (tokens item ++ itemTokens items ++ [.closeArray])
  | .object [] => [.openObject, .closeObject]
  | .object ((key, value) :: members) =>
    .openObject :: .text key :: .colon ::
      (tokens value ++ memberTokens members ++ [.closeObject])

/-- The tokens of the items of an array behind the first. -/
def itemTokens : List Json → List JsonToken
  | [] => []
  | item :: items => .comma :: (tokens item ++ itemTokens items)

/-- The tokens of the members of an object behind the first. -/
def memberTokens : List (JsonText × Json) → List JsonToken
  | [] => []
  | (key, value) :: members =>
    .comma :: .text key :: .colon :: (tokens value ++ memberTokens members)

end

end Json

/-! ### Reading tokens -/

namespace JsonReader

/-- What comes of several tokens. -/
def reads (reader : JsonReader) (tokens : List JsonToken) : Option JsonReader :=
  tokens.foldlM read reader

theorem reads_cons {reader next : JsonReader} {token : JsonToken} (found : reader.read token = some next)
    (tokens : List JsonToken) : reader.reads (token :: tokens) = next.reads tokens := by
  rw [reads, List.foldlM_cons, found]
  rfl

/-- The first item of an array starts with no closing bracket. -/
theorem read_firstItem (value : Json) (frames : List JsonFrame) (rest : List JsonToken) :
    (atFirstItem frames).reads (value.tokens ++ rest) =
      (atValue (.array [] :: frames)).reads (value.tokens ++ rest) := by
  cases value with
  | array items => cases items <;> rfl
  | object members => cases members <;> rfl
  | _ => rfl

mutual

/-- A value is read from its tokens, whatever follows. -/
theorem read_tokens (value : Json) (frames : List JsonFrame) (rest : List JsonToken) :
    (atValue frames).reads (value.tokens ++ rest) = (complete value frames).reads rest := by
  match value with
  | .null | .bool _ | .number _ | .text _ | .array [] | .object [] => rfl
  | .array (item :: items) =>
    have items_eq := read_items items [item] frames rest
    simp only [Json.tokens, List.cons_append, List.append_assoc, List.nil_append]
    rw [reads_cons rfl, read_firstItem, read_tokens item]
    exact items_eq
  | .object ((key, value) :: members) =>
    have members_eq := read_members members [(key, value)] frames rest
    simp only [Json.tokens, List.cons_append, List.append_assoc, List.nil_append]
    rw [reads_cons rfl, reads_cons rfl, reads_cons rfl, read_tokens value]
    exact members_eq

/-- The other items of an array are read up to its end. -/
theorem read_items (items before : List Json) (frames : List JsonFrame) (rest : List JsonToken) :
    (behindItem before frames).reads (Json.itemTokens items ++ .closeArray :: rest) =
      (complete (.array (before.reverse ++ items)) frames).reads rest := by
  match items with
  | [] =>
    rw [List.append_nil]
    exact reads_cons rfl _
  | item :: items =>
    have items_eq := read_items items (item :: before) frames rest
    rw [List.reverse_cons, List.append_assoc] at items_eq
    simp only [Json.itemTokens, List.cons_append, List.append_assoc]
    rw [reads_cons rfl, read_tokens item]
    exact items_eq

/-- The other members of an object are read up to its end. -/
theorem read_members (members before : List (JsonText × Json)) (frames : List JsonFrame)
    (rest : List JsonToken) :
    (behindMember before frames).reads (Json.memberTokens members ++ .closeObject :: rest) =
      (complete (.object (before.reverse ++ members)) frames).reads rest := by
  match members with
  | [] =>
    rw [List.append_nil]
    exact reads_cons rfl _
  | (key, value) :: members =>
    have members_eq := read_members members ((key, value) :: before) frames rest
    rw [List.reverse_cons, List.append_assoc] at members_eq
    simp only [Json.memberTokens, List.cons_append, List.append_assoc]
    rw [reads_cons rfl, reads_cons rfl, reads_cons rfl, read_tokens value]
    exact members_eq

end

end JsonReader

namespace Json

theorem ofTokens?_tokens (value : Json) : ofTokens? value.tokens = some value := by
  have read := JsonReader.read_tokens value [] []
  rw [List.append_nil, JsonReader.reads] at read
  rw [ofTokens?, read]
  rfl

/-- A value is read from any text that is cut into its tokens. -/
theorem parse?_of_cut {value : Json} {text : String} (h : JsonCut text.toList value.tokens) :
    parse? text = some value := by
  rw [parse?, jsonTokens_of_cut h, Option.bind_some, ofTokens?_tokens]

/-! ### Printing tokens -/

/-- A value in which every number has the form of one, and every string is a text. -/
inductive Plain : Json → Prop
  | null : Plain .null
  | bool (value : Bool) : Plain (.bool value)
  | number {literal : List Char} (form : isJsonNumber literal = true) : Plain (.number literal)
  | text (text : String) : Plain (.ofString text)
  | array {items : List Json} (plain : ∀ item ∈ items, Plain item) : Plain (.array items)
  | object {members : List (JsonText × Json)}
      (keys : ∀ m ∈ members, ∃ key, m.1 = JsonText.ofString key)
      (plain : ∀ m ∈ members, Plain m.2) : Plain (.object members)

section Printing

variable {layout : Layout} {text rest : List Char} {more : List JsonToken}

/-- The text does not begin with what a number or word could go on with. -/
def Delimited (text : List Char) : Prop :=
  ∀ c ∈ text.head?, isJsonNumberPart c = false ∧ c.isAlpha = false

theorem delimited_cons {c : Char} (number : isJsonNumberPart c = false) (word : c.isAlpha = false) :
    Delimited (c :: rest) := by
  rintro c' ⟨⟩
  exact ⟨number, word⟩

theorem cut_blanks (h : JsonCut rest more) (blanks : ∀ c ∈ text, isJsonBlank c = true) :
    JsonCut (text ++ rest) more := by
  induction text with
  | nil => exact h
  | cons c text ih =>
    rw [List.forall_mem_cons] at blanks
    exact .blank blanks.1 (ih blanks.2)

theorem blanks_newline (layout : Layout) : ∀ c ∈ layout.newline, isJsonBlank c = true := by
  cases layout with
  | compact => exact nofun
  | indented depth =>
    rintro c (_ | ⟨_, mem⟩)
    · rfl
    · rw [List.eq_of_mem_replicate mem]
      rfl

theorem blanks_gap (layout : Layout) : ∀ c ∈ layout.gap, isJsonBlank c = true := by
  cases layout with
  | compact => exact nofun
  | indented depth =>
    rintro c (_ | ⟨_, mem⟩)
    · rfl
    · cases mem

/-- Before an item or a closing bracket, a text is delimited if it was. -/
theorem delimited_newline (layout : Layout) (h : Delimited rest) : Delimited (layout.newline ++ rest) := by
  cases layout with
  | compact => exact h
  | indented depth => exact delimited_cons rfl rfl

theorem cut_text (text : String) (h : JsonCut rest more) :
    JsonCut (writeJsonText (.ofString text) ++ rest) (.text (.ofString text) :: more) := by
  have spelled := JsonCut.text (spellsText_write text.toList) h
  rw [writeJsonText, List.cons_append, List.append_assoc]
  exact spelled

theorem cut_key (layout : Layout) (key : String) (h : JsonCut rest more) :
    JsonCut (writeKey layout (.ofString key) ++ rest) (.text (.ofString key) :: .colon :: more) := by
  rw [writeKey, List.append_assoc]
  exact cut_text key (.mark rfl (cut_blanks h (blanks_gap layout)))

/-- Any layout of the value is cut into its tokens, whatever follows. -/
def Cuts (value : Json) : Prop :=
  ∀ (layout : Layout) {rest : List Char} {more : List JsonToken}, Delimited rest →
    JsonCut rest more → JsonCut (value.write layout ++ rest) (value.tokens ++ more)

theorem delimited_writeItems (layout : Layout) (items : List Json) (h : Delimited rest) :
    Delimited (writeItems layout items ++ rest) := by
  cases items with
  | nil => exact h
  | cons item items => exact delimited_cons rfl rfl

theorem delimited_writeMembers (layout : Layout) (members : List (JsonText × Json))
    (h : Delimited rest) :
    Delimited (writeMembers layout members ++ rest) := by
  cases members with
  | nil => exact h
  | cons m members => exact delimited_cons rfl rfl

theorem cut_writeItems (layout : Layout) {items : List Json}
    (each : ∀ item ∈ items, item.Cuts) (delimited : Delimited rest) (others : JsonCut rest more) :
    JsonCut (writeItems layout items ++ rest) (itemTokens items ++ more) := by
  induction items with
  | nil => exact others
  | cons item items ih =>
    rw [List.forall_mem_cons] at each
    have later := each.1 layout (delimited_writeItems layout items delimited) (ih each.2)
    simp only [writeItems, itemTokens, List.cons_append, List.append_assoc]
    exact .mark rfl (cut_blanks later (blanks_newline layout))

theorem cut_writeMembers (layout : Layout) {members : List (JsonText × Json)}
    (keys : ∀ m ∈ members, ∃ key, m.1 = JsonText.ofString key) (each : ∀ m ∈ members, m.2.Cuts)
    (delimited : Delimited rest) (others : JsonCut rest more) :
    JsonCut (writeMembers layout members ++ rest) (memberTokens members ++ more) := by
  induction members with
  | nil => exact others
  | cons m members ih =>
    obtain ⟨key, value⟩ := m
    rw [List.forall_mem_cons] at keys each
    obtain ⟨⟨text, rfl⟩, keys⟩ := keys
    have later := each.1 layout (delimited_writeMembers layout members delimited) (ih keys each.2)
    simp only [writeMembers, memberTokens, List.cons_append, List.append_assoc]
    exact .mark rfl (cut_blanks (cut_key layout text later) (blanks_newline layout))

/-- Plain values are cut into their tokens. -/
theorem Plain.cuts {value : Json} (plain : value.Plain) : value.Cuts := by
  induction plain with
  | null => exact fun _ _ _ delimited others => .word rfl (fun c mem => (delimited c mem).2) others
  | bool value =>
    intro _ _ _ delimited others
    cases value <;> exact .word rfl (fun c mem => (delimited c mem).2) others
  | number form =>
    exact fun _ _ _ delimited others => .number form (fun c mem => (delimited c mem).1) others
  | text text => exact fun _ _ _ _ others => cut_text text others
  | @array items _ each =>
    intro layout rest more _ others
    cases items with
    | nil => exact .mark rfl (.mark rfl others)
    | cons item items =>
      rw [List.forall_mem_cons] at each
      have closed : JsonCut (layout.newline ++ ']' :: rest) (.closeArray :: more) :=
        cut_blanks (.mark rfl others) (blanks_newline layout)
      have delimited : Delimited (layout.newline ++ ']' :: rest) :=
        delimited_newline layout (delimited_cons rfl rfl)
      have later := each.1 layout.inner (delimited_writeItems layout.inner items delimited)
        (cut_writeItems layout.inner each.2 delimited closed)
      simp only [write, tokens, List.cons_append, List.append_assoc, List.nil_append]
      exact .mark rfl (cut_blanks later (blanks_newline layout.inner))
  | @object members keys _ each =>
    intro layout rest more _ others
    cases members with
    | nil => exact .mark rfl (.mark rfl others)
    | cons m members =>
      obtain ⟨key, value⟩ := m
      rw [List.forall_mem_cons] at keys each
      obtain ⟨⟨text, rfl⟩, keys⟩ := keys
      have closed : JsonCut (layout.newline ++ '\x7d' :: rest) (.closeObject :: more) :=
        cut_blanks (.mark rfl others) (blanks_newline layout)
      have delimited : Delimited (layout.newline ++ '\x7d' :: rest) :=
        delimited_newline layout (delimited_cons rfl rfl)
      have later := each.1 layout.inner (delimited_writeMembers layout.inner members delimited)
        (cut_writeMembers layout.inner keys each.2 delimited closed)
      simp only [write, tokens, List.cons_append, List.append_assoc, List.nil_append]
      exact .mark rfl (cut_blanks (cut_key layout text later) (blanks_newline layout.inner))

/-- A layout of a plain value is cut into the tokens of the value. -/
theorem Plain.cut {value : Json} (plain : value.Plain) (layout : Layout) :
    JsonCut (value.write layout) value.tokens := by
  have whole : JsonCut (value.write layout ++ []) (value.tokens ++ []) :=
    plain.cuts layout nofun .nil
  rwa [List.append_nil, List.append_nil] at whole

/-- A plain value is read from its text on many lines. -/
theorem Plain.parse?_pretty {value : Json} (plain : value.Plain) :
    parse? value.pretty = some value := by
  refine parse?_of_cut ?_
  rw [pretty, String.toList_ofList]
  exact plain.cut _

/-- A plain value is read from its text on one line. -/
theorem Plain.parse?_compact {value : Json} (plain : value.Plain) :
    parse? value.compact = some value := by
  refine parse?_of_cut ?_
  rw [compact, String.toList_ofList]
  exact plain.cut _

end Printing

end Json

end SyntaxCheck
