import SyntaxCheck.Recognizer.Event
import SyntaxCheck.Recognizer.Expectation

/-!
# The grammar as tasks

A text is checked with a list of tasks, the most urgent first. What to do about the most urgent one is
decided by the class of the current token, and in two places by the class of the token after it.

* `Level` - the levels of binary operators, from the loosest to the tightest;
* `Task` - a part of a program that is still to come, or a remark to be made when it has come;
* `Decision` - replace the task by others, take the current token, or refuse it;
* `Task.decide` - the grammar: one decision for each task and class of token.

The right-hand side of a rule is the list of the tasks that replace it. Its first token is named by
`Task.head`: the rule was chosen because that token is there.
-/

namespace SyntaxCheck

/-! ### Levels of operators -/

/-- A level of binary operators, all grouped to the left. -/
inductive Level
  | or | and | equality | relation | sum | product
  deriving DecidableEq

namespace Level

/-- The terminal is an operator of the level. -/
def holds : Level → Terminal → Bool
  | .or, .keyword .or => true
  | .and, .keyword .and => true
  | .equality, .symbol .equal | .equality, .symbol .notEqual => true
  | .relation, .symbol .less | .relation, .symbol .lessEqual => true
  | .relation, .symbol .greater | .relation, .symbol .greaterEqual => true
  | .sum, .symbol .plus | .sum, .symbol .minus => true
  | .product, .symbol .star | .product, .symbol .slash | .product, .symbol .percent => true
  | _, _ => false

end Level

/-! ### Tasks -/

/-- What a name is taken for. -/
inductive NameRole
  /-- Nothing is kept of it. -/
  | plain
  /-- It names a definition. -/
  | defining (sort : DefinitionSort)
  /-- It is the type of a new value. -/
  | instantiated
  deriving DecidableEq

/-- What a path is for. -/
inductive PathRole
  /-- A value is assigned to it. -/
  | target
  /-- It is an operand. -/
  | operand
  deriving DecidableEq

/-- A part of a program that is still to come, or a remark to be made when it has come. -/
inductive Task
  /-- All the definitions, preceded by entering the program. -/
  | program
  | definitions
  /-- The keyword or symbol that a rule was chosen by. -/
  | head (mark : Mark)
  /-- A keyword or symbol, and what is wanted where it is missing. -/
  | mark (mark : Mark) (expectation : Expectation)
  | name (role : NameRole)
  | returnType
  | type
  | typeName
  | parameters
  | parameterList
  /-- A comma and another parameter, as long as there are any. -/
  | moreParameters
  /-- Declarations up to the closing brace. -/
  | fields
  | block
  /-- Statements up to the closing brace. -/
  | statements
  | statement
  | declaration
  /-- The type of a declared variable, if it is given. -/
  | declaredType
  | assignment
  /-- The clauses behind the block of a condition. -/
  | clauses
  | direction
  /-- The value of a return statement, if it is given. -/
  | returned
  | callStatement
  | call
  | arguments (callee : String)
  /-- A comma and another argument, as long as there are any; `count` came before. -/
  | moreArguments (callee : String) (count : Nat)
  /-- A path from its first name. -/
  | path (role : PathRole)
  /-- The name behind a point of a path. -/
  | pathName (role : PathRole) (before : String)
  /-- A point and another name, as long as there are any. -/
  | morePath (role : PathRole) (before : String)
  /-- Operands of the next tighter level, joined by operators of the level. -/
  | level (ℓ : Level)
  /-- An operator of the level and another operand, as long as there are any. -/
  | moreOperands (ℓ : Level)
  | unary
  | primary
  /-- A remark. -/
  | remark (event : Event)
  deriving DecidableEq

namespace Task

/-- An expression is an operand of the loosest level. -/
abbrev expression : Task := .level .or

/-- The symbol, wanted as such. -/
abbrev symbol (s : Symbol) : Task := .mark (.symbol s) (.exactly (.symbol s))

/-- The operands that the operators of a level join. -/
def operand : Level → Task
  | .or => .level .and
  | .and => .level .equality
  | .equality => .level .relation
  | .relation => .level .sum
  | .sum => .level .product
  | .product => .unary

/-- A condition after a keyword. -/
def condition (k : Keyword) : List Task :=
  [.mark (.symbol .leftParen) (.openCondition k), .expression,
    .mark (.symbol .rightParen) .closeCondition]

/-- The end of a call with so many arguments. -/
def closeCall (callee : String) (count : Nat) : List Task :=
  [.mark (.symbol .rightParen) .closeArguments, .remark (.grouped (.call callee count))]

/-- What is left to do about a name when it has come. -/
def named (token : Token) : NameRole → List Task
  | .plain => []
  | .defining sort => [.remark (.defined sort token)]
  | .instantiated => [.remark (.grouped (.operand ("new " ++ token.lexeme)))]

/-- What is left to do about a path when all of it has come. -/
def traversed (path : String) : PathRole → List Task
  | .target => []
  | .operand => [.remark (.grouped (.operand path))]

end Task

/-! ### Decisions -/

/-- What to do about a task. -/
inductive Decision
  /-- Go on with other tasks. -/
  | become (tasks : List Task)
  /-- Enter a rule, and go on with its parts. -/
  | enter (rule : Rule) (tasks : List Task)
  /-- Take the current token, and go on with tasks that may depend on it. -/
  | take (tasks : Token → List Task)
  /-- Look at the token after the current one, and go on with tasks chosen by its class. -/
  | look (tasks : Terminal → List Task)
  /-- Make a remark. -/
  | note (event : Event)
  /-- The current token does not fit. -/
  | refuse (refusal : Refusal)

namespace Task

/-- Take the current token if it is the mark. -/
def takeMark (m : Mark) (expectation : Expectation) (now : Terminal) : Decision :=
  if now = m.terminal then .take fun _ => [] else .refuse (.unexpected expectation)

/-- Take an identifier. -/
def takeName (now : Terminal) (tasks : Token → List Task) : Decision :=
  if now = .identifier then .take tasks else .refuse .noIdentifier

/-- The start of a definition, or the end of them all. -/
def decideDefinitions : Terminal → Decision
  | .endOfInput => .become []
  | .keyword .fun_ =>
    .enter .functionDefinition [.head (.keyword .fun_), .returnType, .name (.defining .function),
      .mark (.symbol .leftParen) .openParameters, .parameters,
      .mark (.symbol .rightParen) .closeParameters, .block, .definitions]
  | .keyword .type =>
    .enter .typeDefinition [.head (.keyword .type), .name (.defining .type), .symbol .leftBrace,
      .fields, .head (.symbol .rightBrace), .definitions]
  | _ => .refuse .noDefinition

/-- The start of a field, or the end of them all. -/
def decideFields : Terminal → Decision
  | .symbol .rightBrace => .become []
  | .endOfInput => .refuse .openBraces
  | .keyword .var => .become [.declaration, .fields]
  | _ => .refuse (.unexpected .field)

/-- The start of a statement, or the end of them all. -/
def decideStatements : Terminal → Decision
  | .symbol .rightBrace => .become []
  | .endOfInput => .refuse .openBraces
  | _ => .become [.statement, .statements]

/-- The rule of a statement. -/
def decideStatement : Terminal → Decision
  | .keyword .var => .become [.declaration]
  | .keyword .if_ => .enter .if_ (.head (.keyword .if_) :: condition .if_ ++ [.block, .clauses])
  | .keyword .while_ => .enter .while_ [.head (.keyword .while_), .expression, .block]
  | .keyword .for_ =>
    .enter .for_ [.head (.keyword .for_), .name .plain,
      .mark (.keyword .from_) (.exactly (.keyword .from_)), .expression, .direction, .expression,
      .block]
  | .keyword .return_ => .enter .return_ [.head (.keyword .return_), .returned]
  | .keyword .delete => .enter .delete [.head (.keyword .delete), .name .plain]
  | .identifier =>
    .look fun next => if next = .symbol .leftParen then [.callStatement] else [.assignment]
  | _ => .refuse .noStatement

/-- The clause behind a block, if there is one. -/
def decideClauses : Terminal → Decision
  | .keyword .elif => .enter .elif (.head (.keyword .elif) :: condition .elif ++ [.block, .clauses])
  | .keyword .else_ => .enter .else_ [.head (.keyword .else_), .block]
  | _ => .become []

/-- The sort of an operand. -/
def decidePrimary (now : Terminal) : Decision :=
  if now.isLiteral then .take fun token => [.remark (.grouped (.operand token.lexeme))]
  else if now = .keyword .new then .take fun _ => [.name .instantiated]
  else if now = .symbol .leftParen then .take fun _ => [.expression, .symbol .rightParen]
  else if now = .identifier then
    .look fun next => if next = .symbol .leftParen then [.call] else [.path .operand]
  else .refuse .noExpression

/-- What to do about a task when the current token is of a class. -/
def decide (task : Task) (now : Terminal) : Decision :=
  match task with
  | .program => .enter .program [.definitions]
  | .definitions => decideDefinitions now
  | .head m => takeMark m (.exactly m) now
  | .mark m expectation => takeMark m expectation now
  | .name role => takeName now fun token => named token role
  | .returnType => if now = .keyword .void then .take fun _ => [] else .become [.type]
  | .type => .enter .type [.typeName]
  | .typeName =>
    if now = .identifier ∨ now.isPrimitiveType then .take fun _ => [] else .refuse .noType
  | .parameters => .enter .parameters [.parameterList]
  | .parameterList =>
    .become (if now = .symbol .rightParen then [] else [.type, .name .plain, .moreParameters])
  | .moreParameters =>
    if now = .symbol .comma then .take fun _ => [.type, .name .plain, .moreParameters]
    else .become []
  | .fields => decideFields now
  | .block => .enter .block [.symbol .leftBrace, .statements, .head (.symbol .rightBrace)]
  | .statements => decideStatements now
  | .statement => decideStatement now
  | .declaration =>
    .enter .declaration [.head (.keyword .var), .declaredType, .name .plain,
      .mark (.symbol .assign) .initializer, .expression]
  | .declaredType =>
    if now = .identifier then .look fun next => if next = .identifier then [.type] else []
    else .become (if now.isPrimitiveType then [.type] else [])
  | .assignment =>
    .enter .assignment [.path .target, .mark (.symbol .assign) .assigned, .expression]
  | .clauses => decideClauses now
  | .direction =>
    if now = .keyword .upto ∨ now = .keyword .downto then .take fun _ => []
    else .refuse (.unexpected .direction)
  | .returned => .become (if now.startsExpression then [.expression] else [])
  | .callStatement => .enter .callStatement [.call]
  | .call => takeName now fun token => [.head (.symbol .leftParen), .arguments token.lexeme]
  | .arguments callee =>
    .become (if now = .symbol .rightParen then closeCall callee 0
      else [.expression, .moreArguments callee 1])
  | .moreArguments callee count =>
    if now = .symbol .comma then .take fun _ => [.expression, .moreArguments callee (count + 1)]
    else .become (closeCall callee count)
  | .path role => takeName now fun token => [.morePath role token.lexeme]
  | .pathName role before =>
    takeName now fun token => [.morePath role (before ++ "." ++ token.lexeme)]
  | .morePath role before =>
    if now = .symbol .dot then .take fun _ => [.pathName role before]
    else .become (traversed before role)
  | .level ℓ => .become [operand ℓ, .moreOperands ℓ]
  | .moreOperands ℓ =>
    if ℓ.holds now then
      .take fun token => [operand ℓ, .remark (.grouped (.binary token.lexeme)), .moreOperands ℓ]
    else .become []
  | .unary =>
    if now = .symbol .minus ∨ now = .keyword .not then
      .take fun token => [.unary, .remark (.grouped (.unary token.lexeme))]
    else .become [.primary]
  | .primary => decidePrimary now
  | .remark event => .note event

end Task

end SyntaxCheck
