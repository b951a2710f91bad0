import SyntaxCheck.Json.Token

/-!
# Reading JSON

The tokens of a text are put together with a stack of the arrays and objects that are still open.

* `JsonFrame` - an open array or object, waiting for a value;
* `JsonReader` - what may come next;
* `JsonReader.read` - one token;
* `Json.ofTokens?`, `Json.parse?` - the value of a list of tokens, and of a text.
-/

namespace SyntaxCheck

/-- An open array or object, waiting for a value. What came before is kept latest first. -/
inductive JsonFrame
  | array (before : List Json)
  | object (before : List (JsonText × Json)) (key : JsonText)

/-- What may come next, inside the open arrays and objects. -/
inductive JsonReader
  /-- A value. -/
  | atValue (frames : List JsonFrame)
  /-- The first item of an array, or its end. -/
  | atFirstItem (frames : List JsonFrame)
  /-- The first key of an object, or its end. -/
  | atFirstKey (frames : List JsonFrame)
  /-- Another key. -/
  | atKey (before : List (JsonText × Json)) (frames : List JsonFrame)
  /-- The colon behind a key. -/
  | atColon (before : List (JsonText × Json)) (key : JsonText) (frames : List JsonFrame)
  /-- A comma or the end of an array. -/
  | behindItem (before : List Json) (frames : List JsonFrame)
  /-- A comma or the end of an object. -/
  | behindMember (before : List (JsonText × Json)) (frames : List JsonFrame)
  /-- Nothing: a value was read. -/
  | finished (value : Json)

namespace JsonReader

/-- A value is complete. -/
def complete (value : Json) : List JsonFrame → JsonReader
  | [] => .finished value
  | .array before :: frames => .behindItem (value :: before) frames
  | .object before key :: frames => .behindMember ((key, value) :: before) frames

/-- A token where a value is due. -/
def readValue (frames : List JsonFrame) : JsonToken → Option JsonReader
  | .null => some (complete .null frames)
  | .bool value => some (complete (.bool value) frames)
  | .number literal => some (complete (.number literal) frames)
  | .text value => some (complete (.text value) frames)
  | .openArray => some (.atFirstItem frames)
  | .openObject => some (.atFirstKey frames)
  | _ => none

/-- One token. -/
def read : JsonReader → JsonToken → Option JsonReader
  | .atValue frames, token => readValue frames token
  | .atFirstItem frames, token =>
    if token = .closeArray then some (complete (.array []) frames)
    else readValue (.array [] :: frames) token
  | .atFirstKey frames, .text key => some (.atColon [] key frames)
  | .atFirstKey frames, .closeObject => some (complete (.object []) frames)
  | .atKey before frames, .text key => some (.atColon before key frames)
  | .atColon before key frames, .colon => some (.atValue (.object before key :: frames))
  | .behindItem before frames, .comma => some (.atValue (.array before :: frames))
  | .behindItem before frames, .closeArray => some (complete (.array before.reverse) frames)
  | .behindMember before frames, .comma => some (.atKey before frames)
  | .behindMember before frames, .closeObject => some (complete (.object before.reverse) frames)
  | _, _ => none

/-- The value that was read, if it is complete. -/
def result? : JsonReader → Option Json
  | .finished value => some value
  | _ => none

end JsonReader

namespace Json

/-- The value of a list of tokens. -/
def ofTokens? (tokens : List JsonToken) : Option Json :=
  (tokens.foldlM JsonReader.read (JsonReader.atValue [])).bind JsonReader.result?

/-- The value of a text. -/
def parse? (text : String) : Option Json :=
  (jsonTokens text.toList).bind ofTokens?

end Json

end SyntaxCheck
