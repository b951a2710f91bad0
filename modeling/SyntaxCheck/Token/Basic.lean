import SyntaxCheck.Binary64.Text
import SyntaxCheck.Text.Position
import SyntaxCheck.Text.Quoted
import SyntaxCheck.Token.Terminal

/-!
# Tokens

* `TokenKind` - a terminal together with what the token carries: a name, digits, a value;
* `Token` - a kind, the text it was read from, and where that text is;
* `Token.describe` - a token in a message;
* `TokenKind.render` - a kind in the journal.
-/

namespace SyntaxCheck

/-- What a token is, with its value. -/
inductive TokenKind
  | keyword (k : Keyword)
  | symbol (s : Symbol)
  | identifier (name : String)
  | integer (digits : String)
  | double (value : Binary64)
  | char (value : Char)
  | string (value : String)
  | endOfInput
  deriving DecidableEq

namespace TokenKind

/-- The class of a kind, its value left out. -/
def terminal : TokenKind → Terminal
  | .keyword k => .keyword k
  | .symbol s => .symbol s
  | .identifier _ => .identifier
  | .integer _ => .integer
  | .double _ => .double
  | .char _ => .char
  | .string _ => .string
  | .endOfInput => .endOfInput

/-- The kind of a word: a keyword if it is reserved, else an identifier. -/
def ofWord (word : String) : TokenKind :=
  match Keyword.ofSpelling? word with
  | some k => .keyword k
  | none => .identifier word

/-- The name of the class of tokens, as the journal shows it. -/
def label : TokenKind → String
  | .keyword k => k.label
  | .symbol s => s.label
  | .identifier _ => "Ident"
  | .integer _ => "IntLit"
  | .double _ => "DoubleLit"
  | .char _ => "CharLit"
  | .string _ => "StringLit"
  | .endOfInput => "Eof"

/-- The value that a kind carries, as the journal shows it. -/
def renderValue? : TokenKind → Option String
  | .identifier name => some (quotedString name)
  | .integer digits => some (quotedString digits)
  | .double value => some value.render
  | .char value => some (quotedChar value)
  | .string value => some (quotedString value)
  | _ => none

/-- A kind as the journal shows it: the label, and the value in parentheses. -/
def render (kind : TokenKind) : String :=
  match kind.renderValue? with
  | some value => kind.label ++ "(" ++ value ++ ")"
  | none => kind.label

end TokenKind

/-- A token: its kind, its exact text, and where the text is. -/
structure Token where
  kind : TokenKind
  lexeme : String
  span : Span
  deriving DecidableEq

namespace Token

/-- The class of a token. -/
def terminal (token : Token) : Terminal := token.kind.terminal

/-- The end of the input at a place. -/
def endOfInput (p : Position) : Token := ⟨.endOfInput, "", p.span 0⟩

/-- The token is the end of the input. -/
def isEndOfInput (token : Token) : Bool := token.terminal == .endOfInput

instance : Inhabited Token := ⟨endOfInput Position.first⟩

/-- A token in a message. -/
def describe (token : Token) : String :=
  match token.kind with
  | .endOfInput => "end of input"
  | .identifier name => "identifier '" ++ name ++ "'"
  | .integer _ | .double _ | .char _ | .string _ => "literal " ++ token.lexeme
  | .keyword _ => "keyword '" ++ token.lexeme ++ "'"
  | .symbol _ => "'" ++ token.lexeme ++ "'"

@[simp] theorem terminal_endOfInput (p : Position) : (endOfInput p).terminal = .endOfInput := rfl

theorem terminal_of_isEndOfInput {token : Token} (h : token.isEndOfInput = true) :
    token.terminal = .endOfInput :=
  eq_of_beq h

theorem isEndOfInput_iff {token : Token} :
    token.isEndOfInput = true ↔ token.kind = .endOfInput := by
  unfold isEndOfInput terminal
  cases token.kind <;> simp [TokenKind.terminal]

end Token

end SyntaxCheck
