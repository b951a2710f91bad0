/-!
# JSON values

* `JsonChar`, `JsonText` - a string may hold surrogates that are not paired, and then is no text;
* `Json` - a value; numbers are kept as written, and members in order, repeated keys included;
* `Json.toNat?`, `Json.toBool?`, `Json.toText?`, `Json.toItems?` - what a value is, if it is that;
* `Json.fields?` - the values of some keys of an object, or the items of an array in their place.
-/

namespace SyntaxCheck

/-- One element of a JSON string. -/
inductive JsonChar
  | scalar (c : Char)
  /-- A surrogate, by its code, that is not part of a pair. -/
  | unpaired (code : Nat)
  deriving DecidableEq

/-- A JSON string. -/
abbrev JsonText := List JsonChar

namespace JsonText

/-- A text as a JSON string. -/
def ofString (text : String) : JsonText := text.toList.map .scalar

/-- The characters of a JSON string that has no unpaired surrogate. -/
def chars? : JsonText → Option (List Char)
  | [] => some []
  | .scalar c :: rest => (chars? rest).map (c :: ·)
  | .unpaired _ :: _ => none

/-- The text of a JSON string that has no unpaired surrogate. -/
def toString? (text : JsonText) : Option String := (chars? text).map String.ofList

theorem chars?_map_scalar (cs : List Char) : chars? (cs.map .scalar) = some cs := by
  induction cs with
  | nil => rfl
  | cons c cs ih => simp [chars?, ih]

@[simp] theorem toString?_ofString (text : String) : toString? (ofString text) = some text := by
  simp [toString?, ofString, chars?_map_scalar]

end JsonText

/-- A JSON value. -/
inductive Json
  | null
  | bool (value : Bool)
  /-- A number, as written. -/
  | number (literal : List Char)
  | text (value : JsonText)
  | array (items : List Json)
  | object (members : List (JsonText × Json))

namespace Json

instance : Inhabited Json := ⟨null⟩

/-! ### Writing values -/

/-- A natural number. -/
def ofNat (n : Nat) : Json := .number (Nat.toDigits 10 n)

/-- A text. -/
def ofString (text : String) : Json := .text (.ofString text)

/-- An object with some keys. -/
def record (members : List (String × Json)) : Json :=
  .object (members.map fun m => (.ofString m.1, m.2))

/-- A value that may be missing. -/
def ofOption (value : Option Json) : Json := value.getD .null

/-! ### Reading values -/

/-- The largest number that a word holds. -/
def wordMax : Nat := 0xffffffffffffffff

/-- A number written with digits only, if a word holds it. -/
def toNat? : Json → Option Nat
  | .number literal =>
    if literal.all Char.isDigit && Nat.ofDigitChars 10 literal 0 ≤ wordMax then
      some (Nat.ofDigitChars 10 literal 0)
    else none
  | _ => none

/-- A truth value. -/
def toBool? : Json → Option Bool
  | .bool value => some value
  | _ => none

/-- A string that is a text. -/
def toText? : Json → Option String
  | .text value => value.toString?
  | _ => none

/-- The items of an array. -/
def toItems? : Json → Option (List Json)
  | .array items => some items
  | _ => none

/-- A value that may be null. -/
def toOption? {α : Type} (read : Json → Option α) : Json → Option (Option α)
  | .null => some none
  | value => (read value).map some

/-- The value of a key, if the key is there at all; a repeated key has no value. -/
def member? (members : List (String × Json)) (key : String) : Option (Option Json) :=
  match members.filter fun m => m.1 == key with
  | [] => some none
  | [m] => some (some m.2)
  | _ => none

/-- The members of an object whose keys are all texts. -/
def textMembers? (members : List (JsonText × Json)) : Option (List (String × Json)) :=
  members.mapM fun m => m.1.toString?.map fun key => (key, m.2)

/-- The values of some keys, in the order of the keys. Other keys of an object are passed over; an array
must have one item for each key. -/
def fields? (keys : List String) : Json → Option (List (Option Json))
  | .object members => do
    let members ← textMembers? members
    keys.mapM (member? members)
  | .array items => if items.length = keys.length then some (items.map some) else none
  | _ => none

end Json

end SyntaxCheck
