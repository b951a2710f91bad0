import SyntaxCheck.Proofs.Json.Roundtrip

/-!
# Layouts differ in blanks

* `Quoting`, `unspaced` - a text without the blanks outside of its strings;
* `unspaced_text`, `unspaced_blanks` - strings stay as they are, and the blanks of a layout go;
* `Json.Plain.unspaced_write` - of any layout of a value, the text on one line is left;
* `newline_notMem_writeJsonText`, `Json.Plain.newline_notMem_write` - that text has no newline, in a string
  or outside.
-/

namespace SyntaxCheck

/-- Where a character of a JSON text stands. -/
inductive Quoting
  | outside
  | inside
  /-- Behind a backslash in a string. -/
  | escaped
  deriving DecidableEq

namespace Quoting

/-- Where the character behind this one stands. -/
def next : Quoting → Char → Quoting
  | .outside, c => if c = '"' then .inside else .outside
  | .inside, c => if c = '\\' then .escaped else if c = '"' then .outside else .inside
  | .escaped, _ => .inside

end Quoting

/-- A text without the blanks outside of its strings. -/
def unspaced : Quoting → List Char → List Char
  | _, [] => []
  | quoting, c :: text =>
    if quoting = .outside ∧ isJsonBlank c then unspaced (quoting.next c) text
    else c :: unspaced (quoting.next c) text

section Unspaced

variable {text : List Char}

/-- Blanks outside of strings are left out. -/
theorem unspaced_blanks (blanks : ∀ c ∈ text, isJsonBlank c = true) (rest : List Char) :
    unspaced .outside (text ++ rest) = unspaced .outside rest := by
  induction text with
  | nil => rfl
  | cons c text ih =>
    rw [List.forall_mem_cons] at blanks
    have noQuote : c ≠ '"' := by
      rintro rfl
      cases blanks.1
    rw [List.cons_append, unspaced, if_pos ⟨rfl, blanks.1⟩, Quoting.next, if_neg noQuote, ih blanks.2]

/-- Other characters outside of strings are kept. -/
theorem unspaced_solid (solid : ∀ c ∈ text, isJsonBlank c = false ∧ c ≠ '"') (rest : List Char) :
    unspaced .outside (text ++ rest) = text ++ unspaced .outside rest := by
  induction text with
  | nil => rfl
  | cons c text ih =>
    rw [List.forall_mem_cons] at solid
    obtain ⟨⟨keep, noQuote⟩, solid⟩ := solid
    have kept : ¬(Quoting.outside = .outside ∧ isJsonBlank c = true) := by simp [keep]
    rw [List.cons_append, unspaced, if_neg kept, Quoting.next, if_neg noQuote, ih solid,
      List.cons_append]

theorem unspaced_mark {c : Char} {token : JsonToken} (stands : jsonMark? c = some token)
    (rest : List Char) : unspaced .outside (c :: rest) = c :: unspaced .outside rest := by
  have keep := isJsonBlank_of_jsonMark? stands
  have noQuote : c ≠ '"' := by
    rintro rfl
    cases stands
  have solid : ∀ d ∈ [c], isJsonBlank d = false ∧ d ≠ '"' := by
    simpa using And.intro keep noQuote
  exact unspaced_solid solid rest

theorem unspaced_word {word : List Char} {token : JsonToken} (stands : jsonWord? word = some token)
    (rest : List Char) : unspaced .outside (word ++ rest) = word ++ unspaced .outside rest := by
  unfold jsonWord? at stands
  split_ifs at stands with same same same
  all_goals
    rw [same]
    exact unspaced_solid (by simp [isJsonBlank]) rest

/-- Inside a string every character is kept. -/
theorem unspaced_inside (c : Char) (rest : List Char) :
    unspaced .inside (c :: rest) = c :: unspaced (Quoting.inside.next c) rest := by
  rw [unspaced, if_neg nofun]

theorem unspaced_escaped (c : Char) (rest : List Char) :
    unspaced .inside ('\\' :: c :: rest) = '\\' :: c :: unspaced .inside rest := by
  rw [unspaced_inside]
  show _ :: unspaced .escaped _ = _
  rw [unspaced, if_neg nofun]
  rfl

theorem unspaced_plain {c : Char} (quote : c ≠ '"') (backslash : c ≠ '\\') (rest : List Char) :
    unspaced .inside (c :: rest) = c :: unspaced .inside rest := by
  rw [unspaced_inside, Quoting.next, if_neg backslash, if_neg quote]

/-- A digit neither ends a string nor starts an escape. -/
theorem unspaced_digit (n : Nat) (rest : List Char) :
    unspaced .inside (Nat.digitChar (n % 16) :: rest) =
      Nat.digitChar (n % 16) :: unspaced .inside rest := by
  have digit : ∀ m < 16, Nat.digitChar m ≠ '"' ∧ Nat.digitChar m ≠ '\\' := by decide
  obtain ⟨quote, backslash⟩ := digit (n % 16) (Nat.mod_lt n (by decide))
  exact unspaced_plain quote backslash rest

theorem unspaced_hexDigits (code : Nat) (rest : List Char) :
    unspaced .inside (hexDigits code ++ rest) = hexDigits code ++ unspaced .inside rest := by
  simp only [hexDigits, List.cons_append, List.nil_append, unspaced_digit]

theorem unspaced_char (c : JsonChar) (rest : List Char) :
    unspaced .inside (writeJsonChar c ++ rest) = writeJsonChar c ++ unspaced .inside rest := by
  cases c with
  | unpaired code =>
    simp only [writeJsonChar, List.cons_append, unspaced_escaped, unspaced_hexDigits]
  | scalar c =>
    simp only [writeJsonChar]
    split_ifs with special
    · exact unspaced_escaped c rest
    iterate 5 exact unspaced_escaped _ rest
    · simp only [List.cons_append, unspaced_escaped, unspaced_hexDigits]
    · rw [not_or] at special
      exact unspaced_plain special.1 special.2 rest

/-- A string is kept as it is. -/
theorem unspaced_text (text : JsonText) (rest : List Char) :
    unspaced .outside (writeJsonText text ++ rest) =
      writeJsonText text ++ unspaced .outside rest := by
  have inner : unspaced .inside (text.flatMap writeJsonChar ++ '"' :: rest) =
      text.flatMap writeJsonChar ++ '"' :: unspaced .outside rest := by
    induction text with
    | nil => exact unspaced_inside '"' rest
    | cons c text ih =>
      rw [List.flatMap_cons, List.append_assoc, unspaced_char, ih, List.append_assoc]
  have opened : unspaced .outside ('"' :: (text.flatMap writeJsonChar ++ '"' :: rest)) =
      '"' :: unspaced .inside (text.flatMap writeJsonChar ++ '"' :: rest) := rfl
  simp only [writeJsonText, List.cons_append, List.append_assoc, List.nil_append]
  rw [opened, inner]

/-! ### Values -/

theorem isJsonNumberPart_solid {c : Char} (h : isJsonNumberPart c = true) :
    isJsonBlank c = false ∧ c ≠ '"' := by
  have other {d : Char} (h' : isJsonNumberPart d = false) : c ≠ d := by
    rintro rfl
    cases h.symm.trans h'
  simp only [isJsonBlank, Bool.or_eq_false_iff, beq_eq_false_iff_ne]
  exact ⟨⟨⟨⟨other rfl, other rfl⟩, other rfl⟩, other rfl⟩, other rfl⟩

namespace Json

/-- Of any layout of the value, the text on one line is left. -/
def Compacts (value : Json) : Prop :=
  ∀ (layout : Layout) (rest : List Char),
    unspaced .outside (value.write layout ++ rest) =
      value.write .compact ++ unspaced .outside rest

variable (layout : Layout)

theorem unspaced_key (key : JsonText) (rest : List Char) :
    unspaced .outside (writeKey layout key ++ rest) =
      writeKey .compact key ++ unspaced .outside rest := by
  simp only [writeKey, List.append_assoc, List.cons_append]
  rw [unspaced_text, unspaced_mark rfl, unspaced_blanks (blanks_gap layout)]
  rfl

theorem unspaced_writeItems {items : List Json} (each : ∀ item ∈ items, item.Compacts)
    (rest : List Char) :
    unspaced .outside (writeItems layout items ++ rest) =
      writeItems .compact items ++ unspaced .outside rest := by
  induction items with
  | nil => rfl
  | cons item items ih =>
    rw [List.forall_mem_cons] at each
    simp only [writeItems, List.append_assoc, List.cons_append]
    rw [unspaced_mark rfl, unspaced_blanks (blanks_newline layout), each.1, ih each.2]
    rfl

theorem unspaced_writeMembers {members : List (JsonText × Json)}
    (each : ∀ m ∈ members, m.2.Compacts) (rest : List Char) :
    unspaced .outside (writeMembers layout members ++ rest) =
      writeMembers .compact members ++ unspaced .outside rest := by
  induction members with
  | nil => rfl
  | cons m members ih =>
    rw [List.forall_mem_cons] at each
    simp only [writeMembers, List.append_assoc, List.cons_append]
    rw [unspaced_mark rfl, unspaced_blanks (blanks_newline layout), unspaced_key, each.1, ih each.2]
    rfl

theorem Plain.compacts {value : Json} (plain : value.Plain) : value.Compacts := by
  induction plain with
  | null => exact fun _ => unspaced_word rfl
  | bool value => cases value <;> exact fun _ => unspaced_word rfl
  | number form =>
    obtain ⟨c, others, rfl, first, parts⟩ := parts_of_isJsonNumber form
    refine fun _ => unspaced_solid fun d mem => isJsonNumberPart_solid ?_
    rcases List.mem_cons.1 mem with rfl | mem
    · rcases Bool.or_eq_true_iff.1 first with digit | sign
      · exact isJsonNumberPart_of_isDigit digit
      · rw [beq_iff_eq.1 sign]
        rfl
    · exact List.all_eq_true.1 parts d mem
  | text text => exact fun _ => unspaced_text (.ofString text)
  | @array items _ each =>
    intro layout rest
    cases items with
    | nil =>
      simp only [write, List.cons_append, List.nil_append]
      rw [unspaced_mark rfl, unspaced_mark rfl]
    | cons item items =>
      rw [List.forall_mem_cons] at each
      simp only [write, List.append_assoc, List.cons_append, List.nil_append]
      rw [unspaced_mark rfl, unspaced_blanks (blanks_newline layout.inner), each.1,
        unspaced_writeItems layout.inner each.2, unspaced_blanks (blanks_newline layout),
        unspaced_mark rfl]
      rfl
  | @object members _ _ each =>
    intro layout rest
    cases members with
    | nil =>
      simp only [write, List.cons_append, List.nil_append]
      rw [unspaced_mark rfl, unspaced_mark rfl]
    | cons m members =>
      obtain ⟨key, value⟩ := m
      rw [List.forall_mem_cons] at each
      simp only [write, List.append_assoc, List.cons_append, List.nil_append]
      rw [unspaced_mark rfl, unspaced_blanks (blanks_newline layout.inner), unspaced_key, each.1,
        unspaced_writeMembers layout.inner each.2, unspaced_blanks (blanks_newline layout),
        unspaced_mark rfl]
      rfl

/-- Of any layout of a plain value, the text on one line is left. -/
theorem Plain.unspaced_write {value : Json} (plain : value.Plain) :
    unspaced .outside (value.write layout) = value.write .compact := by
  have whole := plain.compacts layout []
  rwa [List.append_nil, unspaced, List.append_nil] at whole

end Json

end Unspaced

/-! ### One line -/

theorem newline_notMem_hexDigits (code : Nat) : '\n' ∉ hexDigits code := by
  have digit : ∀ m < 16, '\n' ≠ Nat.digitChar m := by decide
  have others : ∀ n : Nat, '\n' ≠ Nat.digitChar (n % 16) := fun n =>
    digit _ (Nat.mod_lt n (by decide))
  simp [hexDigits, others]

/-- A newline in a string is escaped. -/
theorem newline_notMem_writeJsonChar (c : JsonChar) : '\n' ∉ writeJsonChar c := by
  cases c with
  | unpaired code => simp [writeJsonChar, newline_notMem_hexDigits]
  | scalar c =>
    simp only [writeJsonChar]
    split_ifs with special _ _ newline
    · rintro (_ | ⟨_, _ | ⟨_, ⟨⟩⟩⟩)
      simp at special
    iterate 5 simp
    · simp [newline_notMem_hexDigits]
    · simpa using Ne.symm newline

theorem newline_notMem_writeJsonText (text : JsonText) : '\n' ∉ writeJsonText text := by
  simp [writeJsonText, newline_notMem_writeJsonChar]

namespace Json

/-- Nothing but the items and members of a value can open another line. -/
theorem newline_notMem_writeItems {items : List Json}
    (each : ∀ item ∈ items, '\n' ∉ item.write .compact) : '\n' ∉ writeItems .compact items := by
  induction items with
  | nil => simp [writeItems]
  | cons item items ih =>
    rw [List.forall_mem_cons] at each
    simp [writeItems, Layout.newline, each.1, ih each.2]

theorem newline_notMem_writeMembers {members : List (JsonText × Json)}
    (each : ∀ m ∈ members, '\n' ∉ m.2.write .compact) : '\n' ∉ writeMembers .compact members := by
  induction members with
  | nil => simp [writeMembers]
  | cons m members ih =>
    rw [List.forall_mem_cons] at each
    simp [writeMembers, writeKey, Layout.newline, Layout.gap, newline_notMem_writeJsonText, each.1,
      ih each.2]

/-- A value on one line has no newline. -/
theorem Plain.newline_notMem_write {value : Json} (plain : value.Plain) :
    '\n' ∉ value.write .compact := by
  induction plain with
  | null => simp [write]
  | bool value => cases value <;> simp [write]
  | number form =>
    obtain ⟨c, others, rfl, first, parts⟩ := parts_of_isJsonNumber form
    rw [write, List.mem_cons, not_or]
    constructor
    · rintro rfl
      cases first
    · intro found
      cases List.all_eq_true.1 parts _ found
  | text text => exact newline_notMem_writeJsonText _
  | @array items _ each =>
    cases items with
    | nil => simp [write]
    | cons item items =>
      rw [List.forall_mem_cons] at each
      simp [write, Layout.newline, Layout.inner, each.1, newline_notMem_writeItems each.2]
  | @object members _ _ each =>
    cases members with
    | nil => simp [write]
    | cons m members =>
      obtain ⟨key, value⟩ := m
      rw [List.forall_mem_cons] at each
      simp [write, writeKey, Layout.newline, Layout.gap, Layout.inner, newline_notMem_writeJsonText,
        each.1, newline_notMem_writeMembers each.2]

end Json

end SyntaxCheck
