/-!
# Keywords

* `Keyword` - the reserved words, among them the names of the built-in types;
* `Keyword.spelling`, `Keyword.ofSpelling?` - a keyword as written, and read back;
* `Keyword.isPrimitiveType` - the names of built-in types that values can have.
-/

namespace SyntaxCheck

/-- A reserved word. -/
inductive Keyword
  | fun_ | var | type | if_ | elif | else_ | while_ | for_ | from_ | upto | downto | return_
  | delete | new | true_ | false_ | nil | and | or | not | int | double | bool | char | string
  | void
  deriving DecidableEq

namespace Keyword

/-- Every keyword. -/
def all : List Keyword := [
  .fun_, .var, .type, .if_, .elif, .else_, .while_, .for_, .from_, .upto, .downto, .return_,
  .delete, .new, .true_, .false_, .nil, .and, .or, .not, .int, .double, .bool, .char, .string,
  .void]

/-- The word itself. -/
def spelling : Keyword → String
  | .fun_ => "fun"
  | .var => "var"
  | .type => "type"
  | .if_ => "if"
  | .elif => "elif"
  | .else_ => "else"
  | .while_ => "while"
  | .for_ => "for"
  | .from_ => "from"
  | .upto => "upto"
  | .downto => "downto"
  | .return_ => "return"
  | .delete => "delete"
  | .new => "new"
  | .true_ => "true"
  | .false_ => "false"
  | .nil => "nil"
  | .and => "and"
  | .or => "or"
  | .not => "not"
  | .int => "int"
  | .double => "double"
  | .bool => "bool"
  | .char => "char"
  | .string => "string"
  | .void => "void"

/-- The name of the class of tokens, as the journal shows it. -/
def label : Keyword → String
  | .fun_ => "Fun"
  | .var => "Var"
  | .type => "Type"
  | .if_ => "If"
  | .elif => "Elif"
  | .else_ => "Else"
  | .while_ => "While"
  | .for_ => "For"
  | .from_ => "From"
  | .upto => "Upto"
  | .downto => "Downto"
  | .return_ => "Return"
  | .delete => "Delete"
  | .new => "New"
  | .true_ => "True"
  | .false_ => "False"
  | .nil => "Nil"
  | .and => "And"
  | .or => "Or"
  | .not => "Not"
  | .int => "IntType"
  | .double => "DoubleType"
  | .bool => "BoolType"
  | .char => "CharType"
  | .string => "StringType"
  | .void => "Void"

/-- The keyword with a spelling, if there is one. -/
def ofSpelling? (word : String) : Option Keyword :=
  all.find? fun k => k.spelling == word

/-- The keyword names a built-in type that a value can have. -/
def isPrimitiveType : Keyword → Bool
  | .int | .double | .bool | .char | .string => true
  | _ => false

theorem mem_all (k : Keyword) : k ∈ all := by
  cases k <;> decide

@[simp] theorem ofSpelling?_spelling (k : Keyword) : ofSpelling? k.spelling = some k := by
  cases k <;> decide

theorem spelling_of_ofSpelling? {word : String} {k : Keyword} (h : ofSpelling? word = some k) :
    k.spelling = word := by
  have found := List.find?_some h
  exact eq_of_beq found

end Keyword

end SyntaxCheck
