import SyntaxCheck.Json.Basic

/-!
# The tokens of a JSON text

* `JsonToken` - punctuation, the three words, numbers as written, and strings;
* `isJsonNumber` - the form of a number;
* `readJsonText` - the inside of a string, its escapes resolved and surrogates paired;
* `readJsonToken`, `jsonTokens` - one token, and all tokens of a text with the blanks left out.
-/

namespace SyntaxCheck

/-- A token of a JSON text. -/
inductive JsonToken
  | openArray | closeArray | openObject | closeObject | comma | colon
  | null
  | bool (value : Bool)
  | number (literal : List Char)
  | text (value : JsonText)
  deriving DecidableEq

/-- A character that separates tokens. -/
def isJsonBlank (c : Char) : Bool :=
  c == ' ' || c == '\n' || c == '\t' || c == '\r'

/-! ### Numbers -/

/-- A character that a number may hold. -/
def isJsonNumberPart (c : Char) : Bool :=
  c.isDigit || c == '-' || c == '+' || c == '.' || c == 'e' || c == 'E'

/-- At least one digit and nothing else. -/
def isDigits (text : List Char) : Bool := !text.isEmpty && text.all Char.isDigit

/-- Nothing, or an exponent. -/
def isExponent : List Char → Bool
  | [] => true
  | e :: '+' :: text => (e == 'e' || e == 'E') && isDigits text
  | e :: '-' :: text => (e == 'e' || e == 'E') && isDigits text
  | e :: text => (e == 'e' || e == 'E') && isDigits text

/-- Nothing, or a fraction, an exponent or both. -/
def isFraction : List Char → Bool
  | '.' :: text =>
    isDigits (text.takeWhile Char.isDigit) && isExponent (text.dropWhile Char.isDigit)
  | text => isExponent text

/-- Digits, the first of several not being zero. -/
def isWhole : List Char → Bool
  | [] => false
  | '0' :: text => text.isEmpty
  | text => text.all Char.isDigit

/-- A number without a sign. -/
def isUnsigned (text : List Char) : Bool :=
  isWhole (text.takeWhile Char.isDigit) && isFraction (text.dropWhile Char.isDigit)

/-- The form of a number. -/
def isJsonNumber : List Char → Bool
  | '-' :: text => isUnsigned text
  | text => isUnsigned text

/-! ### Strings -/

/-- The value of a hexadecimal digit of either case. -/
def hexDigit? (c : Char) : Option Nat :=
  if c.isDigit then some (c.toNat - 48)
  else if 'a' ≤ c ∧ c ≤ 'f' then some (c.toNat - 87)
  else if 'A' ≤ c ∧ c ≤ 'F' then some (c.toNat - 55)
  else none

/-- The number that four hexadecimal digits write. -/
def hexCode? (a b c d : Char) : Option Nat := do
  let a ← hexDigit? a
  let b ← hexDigit? b
  let c ← hexDigit? c
  let d ← hexDigit? d
  return ((a * 16 + b) * 16 + c) * 16 + d

/-- The code opens a pair of surrogates. -/
def isHighSurrogate (code : Nat) : Bool := 0xd800 ≤ code && code < 0xdc00

/-- The code closes a pair of surrogates. -/
def isLowSurrogate (code : Nat) : Bool := 0xdc00 ≤ code && code < 0xe000

/-- The character that a pair of surrogates writes. -/
def pairedChar (high low : Nat) : Char :=
  Char.ofNat (0x10000 + (high - 0xd800) * 0x400 + (low - 0xdc00))

/-- A string that starts with a code written as an escape. A surrogate pairs with one right behind it. -/
def consCode (code : Nat) (text : JsonText) : JsonText :=
  if isHighSurrogate code then
    match text with
    | .unpaired low :: rest =>
      if isLowSurrogate low then .scalar (pairedChar code low) :: rest else .unpaired code :: text
    | _ => .unpaired code :: text
  else if isLowSurrogate code then .unpaired code :: text
  else .scalar (Char.ofNat code) :: text

/-- The character that a letter behind a backslash stands for. -/
def jsonEscape? : Char → Option Char
  | '"' => some '"'
  | '\\' => some '\\'
  | '/' => some '/'
  | 'b' => some '\x08'
  | 'f' => some '\x0c'
  | 'n' => some '\n'
  | 'r' => some '\r'
  | 't' => some '\t'
  | _ => none

/-- The inside of a string behind its opening quote, and what follows the closing one. Controls must
be escaped. -/
def readJsonText : List Char → Option (JsonText × List Char)
  | [] => none
  | '"' :: rest => some ([], rest)
  | '\\' :: 'u' :: a :: b :: c :: d :: rest =>
    match hexCode? a b c d with
    | none => none
    | some code => (readJsonText rest).map fun r => (consCode code r.1, r.2)
  | '\\' :: e :: rest =>
    match jsonEscape? e with
    | none => none
    | some c => (readJsonText rest).map fun r => (.scalar c :: r.1, r.2)
  | c :: rest =>
    if c.toNat < 32 || c == '\\' then none
    else (readJsonText rest).map fun r => (.scalar c :: r.1, r.2)

/-! ### Tokens -/

/-- The token that a word is. -/
def jsonWord? (word : List Char) : Option JsonToken :=
  if word = ['n', 'u', 'l', 'l'] then some .null
  else if word = ['t', 'r', 'u', 'e'] then some (.bool true)
  else if word = ['f', 'a', 'l', 's', 'e'] then some (.bool false)
  else none

/-- The token that one character is. -/
def jsonMark? : Char → Option JsonToken
  | '[' => some .openArray
  | ']' => some .closeArray
  | '\x7b' => some .openObject
  | '\x7d' => some .closeObject
  | ',' => some .comma
  | ':' => some .colon
  | _ => none

/-- The token at the head of the text `c :: text`, and the text after it. -/
def readJsonToken (c : Char) (text : List Char) : Option (JsonToken × List Char) :=
  match jsonMark? c with
  | some token => some (token, text)
  | none =>
    if c = '"' then (readJsonText text).map fun r => (.text r.1, r.2)
    else if c.isDigit || c == '-' then
      let literal := c :: text.takeWhile isJsonNumberPart
      if isJsonNumber literal then some (.number literal, text.dropWhile isJsonNumberPart) else none
    else
      (jsonWord? (c :: text.takeWhile Char.isAlpha)).map fun token =>
        (token, text.dropWhile Char.isAlpha)

theorem length_readJsonText_le {text rest : List Char} {value : JsonText}
    (h : readJsonText text = some (value, rest)) : rest.length ≤ text.length := by
  fun_induction readJsonText text generalizing value with
  | case1 => cases h
  | case2 => cases h; exact Nat.le_succ _
  | case3 => cases h
  | case4 a b c d rest' code found ih =>
    obtain ⟨r, read, eq⟩ := Option.map_eq_some_iff.1 h
    cases eq
    have := ih read
    simp only [List.length_cons]
    omega
  | case5 => cases h
  | case6 e rest' _ c found ih =>
    obtain ⟨r, read, eq⟩ := Option.map_eq_some_iff.1 h
    cases eq
    have := ih read
    simp only [List.length_cons]
    omega
  | case7 => cases h
  | case8 c rest' _ _ _ _ ih =>
    obtain ⟨r, read, eq⟩ := Option.map_eq_some_iff.1 h
    cases eq
    have := ih read
    simp only [List.length_cons]
    omega

theorem length_dropWhile_le (p : Char → Bool) (text : List Char) :
    (text.dropWhile p).length ≤ text.length :=
  (List.dropWhile_sublist p).length_le

/-- A token uses up at least its first character. -/
theorem length_readJsonToken_le {c : Char} {text rest : List Char} {token : JsonToken}
    (h : readJsonToken c text = some (token, rest)) : rest.length ≤ text.length := by
  unfold readJsonToken at h
  split at h
  · cases h
    exact Nat.le_refl _
  split at h
  · obtain ⟨r, read, eq⟩ := Option.map_eq_some_iff.1 h
    cases eq
    exact length_readJsonText_le read
  split at h
  · dsimp only at h
    split at h
    · cases h
      exact length_dropWhile_le _ _
    · cases h
  · obtain ⟨r, read, eq⟩ := Option.map_eq_some_iff.1 h
    cases eq
    exact length_dropWhile_le _ _

/-- All tokens of a text. -/
def jsonTokens : List Char → Option (List JsonToken)
  | [] => some []
  | c :: text =>
    if isJsonBlank c then jsonTokens text
    else
      match _read : readJsonToken c text with
      | none => none
      | some (token, rest) => (jsonTokens rest).map (token :: ·)
termination_by text => text.length
decreasing_by
  · exact Nat.lt_succ_self _
  · exact Nat.lt_succ_of_le (length_readJsonToken_le _read)

end SyntaxCheck
