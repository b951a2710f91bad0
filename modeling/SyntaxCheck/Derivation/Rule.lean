/-!
# Grammar rules

* `Rule` - the rules whose use is recorded; the levels of an expression are not among them;
* `Rule.name` - a rule in words.
-/

namespace SyntaxCheck

/-- A rule of the grammar above the level of expressions. -/
inductive Rule
  | program | typeDefinition | functionDefinition | parameters | type | block | declaration
  | assignment | if_ | elif | else_ | while_ | for_ | return_ | delete | callStatement
  deriving DecidableEq

/-- The rule in words. -/
def Rule.name : Rule → String
  | .program => "program"
  | .typeDefinition => "type definition"
  | .functionDefinition => "function definition"
  | .parameters => "parameter list"
  | .type => "type"
  | .block => "block"
  | .declaration => "variable declaration"
  | .assignment => "assignment"
  | .if_ => "if statement"
  | .elif => "elif clause"
  | .else_ => "else clause"
  | .while_ => "while loop"
  | .for_ => "for loop"
  | .return_ => "return statement"
  | .delete => "delete statement"
  | .callStatement => "call statement"

end SyntaxCheck
