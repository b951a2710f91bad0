import SyntaxCheck.Json.Basic

/-!
# Writing JSON

* `Layout` - everything on one line, or one item or member to a line;
* `writeJsonChar`, `writeJsonText` - strings; only what must be escaped is escaped;
* `Json.write` - a value in a layout;
* `Json.compact`, `Json.pretty` - the two layouts of a text.
-/

namespace SyntaxCheck

/-- How a value is laid out. -/
inductive Layout
  /-- On one line, without blanks. -/
  | compact
  /-- With every item and member on a line of its own, indented by two blanks for each of `depth`
  surrounding values. -/
  | indented (depth : Nat)

namespace Layout

/-- The layout inside an array or object. -/
def inner : Layout → Layout
  | .compact => .compact
  | .indented depth => .indented (depth + 1)

/-- What stands before an item or a closing bracket. -/
def newline : Layout → List Char
  | .compact => []
  | .indented depth => '\n' :: List.replicate (2 * depth) ' '

/-- What stands behind the colon of a member. -/
def gap : Layout → List Char
  | .compact => []
  | .indented _ => [' ']

end Layout

/-! ### Strings -/

/-- Four hexadecimal digits, in lower case. -/
def hexDigits (code : Nat) : List Char :=
  [Nat.digitChar (code / 4096 % 16), Nat.digitChar (code / 256 % 16),
    Nat.digitChar (code / 16 % 16), Nat.digitChar (code % 16)]

/-- One element of a string. -/
def writeJsonChar : JsonChar → List Char
  | .unpaired code => '\\' :: 'u' :: hexDigits code
  | .scalar c =>
    if c = '"' ∨ c = '\\' then ['\\', c]
    else if c = '\x08' then ['\\', 'b']
    else if c = '\x0c' then ['\\', 'f']
    else if c = '\n' then ['\\', 'n']
    else if c = '\r' then ['\\', 'r']
    else if c = '\t' then ['\\', 't']
    else if c.toNat < 32 then '\\' :: 'u' :: hexDigits c.toNat
    else [c]

/-- A string with its quotes. -/
def writeJsonText (text : JsonText) : List Char :=
  '"' :: (text.flatMap writeJsonChar ++ ['"'])

/-! ### Values -/

namespace Json

/-- The key of a member with its colon. -/
def writeKey (layout : Layout) (key : JsonText) : List Char :=
  writeJsonText key ++ ':' :: layout.gap

mutual

/-- A value in a layout. -/
def write (layout : Layout) : Json → List Char
  | .null => ['n', 'u', 'l', 'l']
  | .bool true => ['t', 'r', 'u', 'e']
  | .bool false => ['f', 'a', 'l', 's', 'e']
  | .number literal => literal
  | .text value => writeJsonText value
  | .array [] => ['[', ']']
  | .array (item :: items) =>
    '[' :: (layout.inner.newline ++ write layout.inner item ++ writeItems layout.inner items ++
      layout.newline ++ [']'])
  | .object [] => ['\x7b', '\x7d']
  | .object ((key, value) :: members) =>
    '\x7b' :: (layout.inner.newline ++ writeKey layout key ++ write layout.inner value ++
      writeMembers layout.inner members ++ layout.newline ++ ['\x7d'])

/-- The items of an array behind the first. -/
def writeItems (layout : Layout) : List Json → List Char
  | [] => []
  | item :: items => ',' :: (layout.newline ++ write layout item ++ writeItems layout items)

/-- The members of an object behind the first. -/
def writeMembers (layout : Layout) : List (JsonText × Json) → List Char
  | [] => []
  | (key, value) :: members =>
    ',' :: (layout.newline ++ writeKey layout key ++ write layout value ++
      writeMembers layout members)

end

/-- A value on one line. -/
def compact (value : Json) : String := String.ofList (value.write .compact)

/-- A value on many lines. -/
def pretty (value : Json) : String := String.ofList (value.write (.indented 0))

end Json

end SyntaxCheck
