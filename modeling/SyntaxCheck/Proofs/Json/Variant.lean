import Mathlib.Data.List.Count
import Mathlib.Data.List.Forall2
import SyntaxCheck.Proofs.Json.Record

/-!
# Values that say the same

The members of an object may come in any order, and others may stand among them: what is read from the object is
the same. A member that is missing, or that is there twice, is noticed.

* `Json.Varies` - another value that says the same;
* `Json.Breaks` - a value in which a member is missing somewhere, or is there twice;
* `Json.WrittenAs` - a text of a value, with any blanks and any spelling of its strings;
* `Json.VariedText`, `Json.SpoiledText` - the texts that are to be read like a value, and those that are not;
* `Json.member?_perm`, `Json.fields?_of_perm` - members are found in any order, among others;
* `Json.Breaks.fields` - where an object is broken, a member is not found, or is broken itself;
* `Json.parse?_append` - nothing but blanks may follow an object.
-/

namespace SyntaxCheck

namespace Json

/-! ### Values -/

mutual

/-- Another value that says the same. The members of an object may come in any order, and members with other
keys may stand among them. -/
inductive Varies : Json → Json → Prop
  | null : Varies .null .null
  | bool (value : Bool) : Varies (.bool value) (.bool value)
  | number (literal : List Char) : Varies (.number literal) (.number literal)
  | text (value : JsonText) : Varies (.text value) (.text value)
  | array {items varied : List Json} (each : List.Forall₂ Varies items varied) :
      Varies (.array items) (.array varied)
  | object {members kept others found : List (String × Json)} (keeps : Keeps members kept)
      (unknown : ∀ m ∈ others, m.1 ∉ members.map Prod.fst) (order : found.Perm (kept ++ others)) :
      Varies (.record members) (.record found)

/-- The members in their order, with values that say the same. A replacement that is null may be left out. -/
inductive Keeps : List (String × Json) → List (String × Json) → Prop
  | nil : Keeps [] []
  | member {key : String} {value varied : Json} {members kept : List (String × Json)}
      (varies : Varies value varied) (later : Keeps members kept) :
      Keeps ((key, value) :: members) ((key, varied) :: kept)
  | replacement {key : String} {members kept : List (String × Json)} (optional : key = "replacement")
      (later : Keeps members kept) : Keeps ((key, .null) :: members) kept

end

/-- Somewhere an object has lost a member, other than a replacement, or has one of its keys twice. Nothing is said
of the rest of the value. -/
inductive Breaks : Json → Json → Prop
  | missing {members : List (String × Json)} {found : List (JsonText × Json)} {key : String}
      (known : key ∈ members.map Prod.fst) (needed : key ≠ "replacement")
      (missing : JsonText.ofString key ∉ found.map Prod.fst) : Breaks (.record members) (.object found)
  | repeated {members : List (String × Json)} {found : List (JsonText × Json)} {key : String}
      (known : key ∈ members.map Prod.fst)
      (twice : 1 < (found.map Prod.fst).count (.ofString key)) : Breaks (.record members) (.object found)
  | item {items others : List Json} {i : Nat} {value other : Json} (first : items[i]? = some value)
      (second : others[i]? = some other) (breaks : Breaks value other) :
      Breaks (.array items) (.array others)
  | member {members : List (String × Json)} {found : List (JsonText × Json)} {key : String}
      {value other : Json} (first : (key, value) ∈ members) (second : (.ofString key, other) ∈ found)
      (breaks : Breaks value other) : Breaks (.record members) (.object found)

/-! ### Texts -/

/-- The text is cut into the tokens of the value: it has any blanks between them, and any spelling of its
strings. -/
def WrittenAs (value : Json) (text : String) : Prop := JsonCut text.toList value.tokens

/-- A text of a value that says the same. -/
def VariedText (value : Json) (text : String) : Prop :=
  ∃ varied, value.Varies varied ∧ varied.WrittenAs text

/-- A text of a value in which a member is missing or repeated, or such a text as before with more than blanks
behind it. -/
inductive SpoiledText (value : Json) : String → Prop
  | broken {other : Json} {text : String} (breaks : value.Breaks other) (written : other.WrittenAs text) :
      SpoiledText value text
  | followed {text rest : String} (varied : value.VariedText text)
      (more : ∃ c ∈ rest.toList, isJsonBlank c = false) : SpoiledText value (text ++ rest)

end Json

/-! ### Keys -/

namespace JsonText

theorem chars?_eq_some {text : JsonText} {cs : List Char} (h : chars? text = some cs) :
    text = cs.map .scalar := by
  fun_induction chars? text generalizing cs with
  | case1 => cases h; rfl
  | case2 c rest ih =>
    obtain ⟨cs, found, rfl⟩ := Option.map_eq_some_iff.1 h
    rw [ih found, List.map_cons]
  | case3 => cases h

theorem eq_ofString_of_toString? {text : JsonText} {key : String} (h : text.toString? = some key) :
    text = .ofString key := by
  obtain ⟨cs, found, rfl⟩ := Option.map_eq_some_iff.1 h
  rw [ofString, String.toList_ofList]
  exact chars?_eq_some found

theorem ofString_injective : Function.Injective ofString := by
  intro a b same
  have read := congrArg toString? same
  rwa [toString?_ofString, toString?_ofString, Option.some.injEq] at read

end JsonText

namespace Json

variable {members kept others found : List (String × Json)} {keys : List String} {key : String}
  {value other : Json}

/-- A record keeps its keys as they are. -/
theorem record_injective : Function.Injective record := by
  intro a b same
  have same : a.map (fun m => (JsonText.ofString m.1, m.2)) = b.map fun m => (JsonText.ofString m.1, m.2) :=
    Json.object.inj same
  refine List.map_injective_iff.2 (fun m m' same => ?_) same
  obtain ⟨key, value⟩ := Prod.mk.inj same
  exact Prod.ext (JsonText.ofString_injective key) value

/-! ### Members -/

/-- A key that is there twice has no value. -/
theorem member?_of_twice (twice : 1 < (found.map Prod.fst).count key) : member? found key = none := by
  rw [List.count, List.countP_map, List.countP_eq_length_filter] at twice
  have twice : 1 < (found.filter fun m => m.1 == key).length := twice
  unfold member?
  split
  · rename_i held
    rw [held] at twice
    cases twice
  · rename_i held
    rw [held] at twice
    exact absurd twice (Nat.lt_irrefl 1)
  · rfl

/-- The order of the members does not matter. -/
theorem member?_perm (order : found.Perm others) (key : String) : member? found key = member? others key := by
  have same := order.filter fun m => m.1 == key
  match held : others.filter fun m => m.1 == key with
  | [] =>
    rw [held, List.perm_nil] at same
    rw [member?, member?, same, held]
  | [m] =>
    rw [held, List.perm_singleton] at same
    rw [member?, member?, same, held]
  | m :: m' :: more =>
    have twice : 1 < (others.map Prod.fst).count key := by
      rw [List.count, List.countP_map, List.countP_eq_length_filter]
      exact lt_of_lt_of_eq (Nat.le_add_left 2 more.length) (congrArg List.length held).symm
    rw [member?_of_twice twice, member?_of_twice ((order.map Prod.fst).count_eq key ▸ twice)]

/-- Members with other keys do not matter. -/
theorem member?_append (unknown : key ∉ others.map Prod.fst) :
    member? (kept ++ others) key = member? kept key := by
  have none : others.filter (fun m => m.1 == key) = [] :=
    List.filter_eq_nil_iff.2 fun m mem same => unknown (beq_iff_eq.1 same ▸ List.mem_map_of_mem mem)
  rw [member?, member?, List.filter_append, none, List.append_nil]

theorem member?_of_not_mem (missing : key ∉ found.map Prod.fst) : member? found key = some none := by
  show member? ([] ++ found) key = member? [] key
  exact member?_append missing

/-- Where no key is repeated, a key has the value that is looked up. -/
theorem member?_of_distinct (distinct : (kept.map Prod.fst).Nodup) (key : String) :
    member? kept key = some (kept.lookup key) := by
  cases looked : kept.lookup key with
  | none =>
    refine member?_of_not_mem fun mem => ?_
    obtain ⟨m, mem', rfl⟩ := List.mem_map.1 mem
    simpa using List.lookup_eq_none_iff.1 looked m mem'
  | some value =>
    obtain ⟨before, after, rfl, -⟩ := List.lookup_eq_some_iff.1 looked
    exact member?_of_nodup distinct (m := (key, value)) (by simp)

/-- A member is the only one with its key, if the key has a value. -/
theorem eq_of_member? {held : Option Json} (mem : (key, value) ∈ found) (h : member? found key = some held) :
    held = some value := by
  have mem : (key, value) ∈ found.filter fun m => m.1 == key :=
    List.mem_filter.2 ⟨mem, beq_self_eq_true key⟩
  unfold member? at h
  split at h
  · rename_i none
    rw [none] at mem
    cases mem
  · rename_i only
    rw [only, List.mem_singleton] at mem
    cases h
    rw [← mem]
  · cases h

/-- The members of an object are found in any order, among members with other keys. -/
theorem fields?_of_perm (distinct : (kept.map Prod.fst).Nodup) (unknown : ∀ m ∈ others, m.1 ∉ keys)
    (order : found.Perm (kept ++ others)) :
    (record found).fields? keys = some (keys.map fun key => kept.lookup key) := by
  have each : ∀ key ∈ keys, member? found key = some (kept.lookup key) := by
    intro key mem
    have other : key ∉ others.map Prod.fst := by
      intro mem'
      obtain ⟨m, among, rfl⟩ := List.mem_map.1 mem'
      exact unknown m among mem
    rw [member?_perm order, member?_append other, member?_of_distinct distinct]
  rw [record, fields?, textMembers?_record]
  exact mapM_some each

/-! ### What is found in an object -/

theorem forall₂_of_mapM {α β : Type} {f : α → Option β} {items : List α} {results : List β}
    (h : items.mapM f = some results) : List.Forall₂ (fun item result => f item = some result) items results := by
  induction items generalizing results with
  | nil =>
    cases h
    exact .nil
  | cons item items ih =>
    rw [List.mapM_cons] at h
    obtain ⟨result, first, h⟩ := Option.bind_eq_some_iff.1 h
    obtain ⟨later, others, h⟩ := Option.bind_eq_some_iff.1 h
    cases h
    exact .cons first (ih others)

theorem exists_mem_zip {α β : Type} {R : α → β → Prop} {as : List α} {bs : List β} (h : List.Forall₂ R as bs)
    {a : α} (mem : a ∈ as) : ∃ b, (a, b) ∈ as.zip bs ∧ R a b := by
  induction h with
  | nil => cases mem
  | cons first _ ih =>
    rcases List.mem_cons.1 mem with rfl | mem
    · exact ⟨_, List.mem_cons_self, first⟩
    · obtain ⟨b, among, holds⟩ := ih mem
      exact ⟨b, List.mem_cons_of_mem _ among, holds⟩

/-- The keys of an object in which members are looked up are texts, and what is found is found by these. -/
theorem exists_record_of_fields? {found : List (JsonText × Json)} {values : List (Option Json)}
    (h : (object found).fields? (members.map Prod.fst) = some values) :
    ∃ texts : List (String × Json), found = texts.map (fun m => (JsonText.ofString m.1, m.2)) ∧
      ∀ m ∈ members, ∃ held, (m, held) ∈ members.zip values ∧ member? texts m.1 = some held := by
  obtain ⟨texts, read, h⟩ := Option.bind_eq_some_iff.1 h
  refine ⟨texts, ?_, fun m => exists_mem_zip (List.forall₂_map_left_iff.1 (forall₂_of_mapM h))⟩
  have each := forall₂_of_mapM read
  clear * - each
  induction each with
  | nil => rfl
  | cons first _ ih =>
    obtain ⟨key, read, rfl⟩ := Option.map_eq_some_iff.1 first
    rw [List.map_cons, ← ih, ← JsonText.eq_ofString_of_toString? read]

/-- What is found for a member of an object in another one that says the same: a value that says the same, or
nothing for a replacement that is null. -/
inductive Held : String × Json → Option Json → Prop
  | member {key : String} {value varied : Json} (varies : Varies value varied) :
      Held (key, value) (some varied)
  | replacement {key : String} (optional : key = "replacement") : Held (key, .null) none

theorem Keeps.sublist (keeps : Keeps members kept) : (kept.map Prod.fst).Sublist (members.map Prod.fst) := by
  induction members generalizing kept with
  | nil =>
    cases keeps
    exact .slnil
  | cons m members ih =>
    cases keeps with
    | member _ later => exact (ih later).cons_cons _
    | replacement _ later => exact (ih later).cons _

theorem Keeps.held (keeps : Keeps members kept) (distinct : (members.map Prod.fst).Nodup) :
    ∀ m ∈ members, Held m (kept.lookup m.1) := by
  induction members generalizing kept with
  | nil => exact nofun
  | cons m members ih =>
    rw [List.map_cons, List.nodup_cons] at distinct
    obtain ⟨fresh, distinct⟩ := distinct
    rw [List.forall_mem_cons]
    cases keeps with
    | @member key _ varied _ kept varies later =>
      refine ⟨?_, fun m mem => ?_⟩
      · rw [List.lookup_cons_self]
        exact .member varies
      · have other : (m.1 == key) = false := beq_eq_false_iff_ne.2 fun same =>
          fresh (List.mem_map.2 ⟨m, mem, same⟩)
        rw [List.lookup_cons, other]
        exact ih later distinct m mem
    | @replacement key _ _ optional later =>
      refine ⟨?_, ih later distinct⟩
      have left : kept.lookup key = none := by
        refine List.lookup_eq_none_iff.2 fun m mem => bne_iff_ne.2 fun same => ?_
        exact fresh (later.sublist.subset (List.mem_map.2 ⟨m, mem, same.symm⟩))
      rw [left]
      exact .replacement optional

/-- Where the members of an object are looked up in another one that says the same, each of them is held. -/
theorem Varies.fields (h : (record members).Varies other) (same : members.map Prod.fst = keys)
    (distinct : keys.Nodup) :
    ∃ values, other.fields? keys = some values ∧ List.Forall₂ Held members values := by
  subst same
  generalize same : record members = whole at h
  cases h with
  | @object _ kept others found keeps unknown order =>
    obtain rfl := record_injective same
    refine ⟨_, fields?_of_perm (distinct.sublist keeps.sublist) unknown order, ?_⟩
    rw [List.map_map, List.forall₂_map_right_iff, List.forall₂_same]
    exact keeps.held distinct
  | _ => cases same

/-- Where the members of a broken object are looked up, one that is needed is not found, or one is found that is
broken. -/
theorem Breaks.fields {values : List (Option Json)} (h : (record members).Breaks other)
    (same : members.map Prod.fst = keys) (read : other.fields? keys = some values) :
    (∃ key value, key ≠ "replacement" ∧ ((key, value), none) ∈ members.zip values) ∨
      ∃ key value held, ((key, value), some held) ∈ members.zip values ∧ value.Breaks held := by
  subst same
  generalize same : record members = whole at h
  cases h with
  | @missing members' found key known needed missing =>
    obtain rfl := record_injective same
    obtain ⟨texts, rfl, each⟩ := exists_record_of_fields? read
    obtain ⟨⟨key, value⟩, mem, rfl⟩ := List.mem_map.1 known
    obtain ⟨held, among, holds⟩ := each _ mem
    have absent : key ∉ texts.map Prod.fst := by
      intro mem
      obtain ⟨m, mem', rfl⟩ := List.mem_map.1 mem
      exact missing (List.mem_map.2 ⟨_, List.mem_map_of_mem mem', rfl⟩)
    cases (member?_of_not_mem absent).symm.trans holds
    exact .inl ⟨key, value, needed, among⟩
  | @repeated members' found key known twice =>
    obtain rfl := record_injective same
    obtain ⟨texts, rfl, each⟩ := exists_record_of_fields? read
    obtain ⟨⟨key, value⟩, mem, rfl⟩ := List.mem_map.1 known
    obtain ⟨held, -, holds⟩ := each _ mem
    have twice : 1 < (texts.map Prod.fst).count key := by
      have keys_eq : (texts.map fun m => (JsonText.ofString m.1, m.2)).map Prod.fst =
          (texts.map Prod.fst).map JsonText.ofString := by simp
      rwa [keys_eq, List.count_map_of_injective _ _ JsonText.ofString_injective] at twice
    cases (member?_of_twice twice).symm.trans holds
  | @member members' found key value held first second breaks =>
    obtain rfl := record_injective same
    obtain ⟨texts, rfl, each⟩ := exists_record_of_fields? read
    obtain ⟨found, among, holds⟩ := each _ first
    obtain ⟨m, mem, eq⟩ := List.mem_map.1 second
    obtain ⟨key_eq, rfl⟩ := Prod.mk.inj eq
    obtain rfl := JsonText.ofString_injective key_eq
    obtain rfl := eq_of_member? mem holds
    exact .inr ⟨_, value, _, among, breaks⟩
  | item => cases same

/-! ### Texts -/

/-- A value without repeated keys says the same as itself. -/
theorem Keeps.refl (each : ∀ m ∈ members, m.2.Varies m.2) : Keeps members members := by
  induction members with
  | nil => exact .nil
  | cons m members ih =>
    rw [List.forall_mem_cons] at each
    exact .member each.1 (ih each.2)

theorem exists_record {found : List (JsonText × Json)} (keys : ∀ m ∈ found, ∃ key, m.1 = JsonText.ofString key) :
    ∃ members : List (String × Json), found = members.map fun m => (JsonText.ofString m.1, m.2) := by
  induction found with
  | nil => exact ⟨[], rfl⟩
  | cons m found ih =>
    rw [List.forall_mem_cons] at keys
    obtain ⟨⟨key, same⟩, keys⟩ := keys
    obtain ⟨members, rfl⟩ := ih keys
    exact ⟨(key, m.2) :: members, by rw [List.map_cons, ← same]⟩

theorem Plain.varies (plain : value.Plain) : value.Varies value := by
  induction plain with
  | null => exact .null
  | bool value => exact .bool value
  | number form => exact .number _
  | text text => exact .text _
  | array _ each => exact .array (List.forall₂_same.2 each)
  | object keys _ each =>
    obtain ⟨members, rfl⟩ := exists_record keys
    have order : members.Perm (members ++ []) := by rw [List.append_nil]
    exact .object (.refl fun m mem => each _ (List.mem_map_of_mem mem)) (List.forall_mem_nil _) order

/-- The text that is written for a value is a text of it. -/
theorem Plain.variedText (plain : value.Plain) (layout : Layout) :
    value.VariedText (String.ofList (value.write layout)) := by
  refine ⟨value, plain.varies, ?_⟩
  rw [WrittenAs, String.toList_ofList]
  exact plain.cut layout

/-- An object ends with its brace. -/
theorem getLast?_tokens (members : List (JsonText × Json)) :
    (object members).tokens.getLast? = some .closeObject := by
  cases members with
  | nil => rfl
  | cons m members => simp [tokens, List.getLast?_cons]

theorem jsonTokens_ne_nil {text : List Char} {tokens : List JsonToken} (h : jsonTokens text = some tokens)
    (more : ∃ c ∈ text, isJsonBlank c = false) : tokens ≠ [] := by
  fun_induction jsonTokens text generalizing tokens with
  | case1 => exact absurd more nofun
  | case2 c text blank ih =>
    obtain ⟨d, mem, solid⟩ := more
    refine ih h ⟨d, (List.mem_cons.1 mem).resolve_left ?_, solid⟩
    rintro rfl
    cases blank.symm.trans solid
  | case3 => cases h
  | case4 =>
    obtain ⟨tokens, -, rfl⟩ := Option.map_eq_some_iff.1 h
    exact nofun

/-- Nothing but blanks may follow an object. -/
theorem parse?_append {members : List (JsonText × Json)} {text rest : String}
    (written : (object members).WrittenAs text) (more : ∃ c ∈ rest.toList, isJsonBlank c = false) :
    parse? (text ++ rest) = none := by
  have closed : rest.toList ≠ [] → ∀ last ∈ (object members).tokens.getLast?, last.isClosed = true := by
    rw [getLast?_tokens]
    rintro - last ⟨⟩
    rfl
  rw [parse?, String.toList_append, jsonTokens_append_of_cut written closed]
  cases found : jsonTokens rest.toList with
  | none => rfl
  | some tokens =>
    -- the object is complete, and no token may follow
    have read := JsonReader.read_tokens (object members) [] tokens
    cases tokens with
    | nil => exact absurd rfl (jsonTokens_ne_nil found more)
    | cons token tokens =>
      show ofTokens? ((object members).tokens ++ token :: tokens) = none
      rw [ofTokens?]
      exact congrArg (Option.bind · JsonReader.result?) read

section Reading

variable {α : Type} {read : Json → Option α} {data : α} {text : String}

/-- What is read from all values that say the same is read from their texts. -/
theorem bind_parse?_of_varied (reads : ∀ other, value.Varies other → read other = some data)
    (varied : value.VariedText text) : (parse? text).bind read = some data := by
  obtain ⟨other, varies, written⟩ := varied
  rw [parse?_of_cut written, Option.bind_some, reads other varies]

/-- What is not read from any broken value is not read from a spoiled text. -/
theorem bind_parse?_of_spoiled (refuses : ∀ other, (record members).Breaks other → read other = none)
    (spoiled : (record members).SpoiledText text) : (parse? text).bind read = none := by
  cases spoiled with
  | broken breaks written => rw [parse?_of_cut written, Option.bind_some, refuses _ breaks]
  | followed varied more =>
    obtain ⟨other, varies, written⟩ := varied
    generalize same : record members = whole at varies
    cases varies with
    | object => rw [parse?_append written more, Option.bind_none]
    | _ => cases same

end Reading

end Json

end SyntaxCheck
