import SyntaxCheck.Recognizer.Task

/-!
# The grammar and its derivation trees

The grammar of programs as a value. Repetitions and options are written out as nonterminals of their
own; lists in brackets below are the right-hand sides.

* `TokenClass`, `Nonterminal`, `GrammarSymbol` - what a right-hand side is made of;
* `Production`, `Production.parts` - the productions of each nonterminal, and their right-hand sides;
* `Production.allowedBefore` - the one disambiguation: a `return` without a value stands only before a
  token that cannot start an expression;
* `Tree` - a derivation tree, over tokens or over any other letters that have a terminal as class;
* `Derives` - some trees, one for each symbol of a sentential form, spell a word;
* `Generates` - a word of terminals is derivable from `program`.

`Derives` follows the leftmost derivation, so whatever comes after a production is the rest of the
word: this is what `Production.allowedBefore` is asked about.
-/

namespace SyntaxCheck

/-! ### Symbols -/

/-- A set of terminals that the grammar does not tell apart. -/
inductive TokenClass
  | only (t : Terminal)
  | typeName
  | literal
  /-- The operators of a level. -/
  | operator (ℓ : Level)
  /-- The operators that stand before an operand. -/
  | sign
  | direction
  deriving DecidableEq

/-- The terminal belongs to the class. -/
def TokenClass.holds : TokenClass → Terminal → Bool
  | .only t, a => a == t
  | .typeName, a => a == .identifier || a.isPrimitiveType
  | .literal, a => a.isLiteral
  | .operator ℓ, a => ℓ.holds a
  | .sign, a => a == .symbol .minus || a == .keyword .not
  | .direction, a => a == .keyword .upto || a == .keyword .downto

/-- The nonterminals. -/
inductive Nonterminal
  | program | definitions | function | typeDefinition | resultType | type | parameters
  | parameterList | moreParameters | fields | block | statements | statement | declaration
  | declaredType | assignment | conditional | clauses | elif | else_ | while_ | for_ | return_
  | returned | delete | callStatement | call | arguments | moreArguments | path | morePath
  | level (ℓ : Level) | moreOperands (ℓ : Level) | unary | primary
  deriving DecidableEq

/-- A symbol of a sentential form. -/
inductive GrammarSymbol
  | token (c : TokenClass)
  | part (n : Nonterminal)
  deriving DecidableEq

namespace GrammarSymbol

/-- A keyword. -/
abbrev keyword (k : Keyword) : GrammarSymbol := .token (.only (.keyword k))

/-- An operator or a punctuation mark. -/
abbrev mark (s : Symbol) : GrammarSymbol := .token (.only (.symbol s))

/-- A name. -/
abbrev name : GrammarSymbol := .token (.only .identifier)

/-- An expression is an operand of the loosest level. -/
abbrev expression : GrammarSymbol := .part (.level .or)

/-- What the operators of a level join. -/
def operand : Level → GrammarSymbol
  | .or => .part (.level .and)
  | .and => .part (.level .equality)
  | .equality => .part (.level .relation)
  | .relation => .part (.level .sum)
  | .sum => .part (.level .product)
  | .product => .part .unary

end GrammarSymbol

/-! ### Productions -/

/-- The productions of a nonterminal. -/
inductive Production : Nonterminal → Type
  | program : Production .program
  | noDefinition : Production .definitions
  | functionFirst : Production .definitions
  | typeFirst : Production .definitions
  | function : Production .function
  | typeDefinition : Production .typeDefinition
  | noResult : Production .resultType
  | resultType : Production .resultType
  | type : Production .type
  | parameters : Production .parameters
  | noParameter : Production .parameterList
  | parameterFirst : Production .parameterList
  | lastParameter : Production .moreParameters
  | nextParameter : Production .moreParameters
  | noField : Production .fields
  | fieldFirst : Production .fields
  | block : Production .block
  | noStatement : Production .statements
  | statementFirst : Production .statements
  | declares : Production .statement
  | assigns : Production .statement
  | branches : Production .statement
  | repeats : Production .statement
  | counts : Production .statement
  | returns : Production .statement
  | deletes : Production .statement
  | calls : Production .statement
  | declaration : Production .declaration
  | noDeclaredType : Production .declaredType
  | declaredType : Production .declaredType
  | assignment : Production .assignment
  | conditional : Production .conditional
  | noClause : Production .clauses
  | elifFirst : Production .clauses
  | elseLast : Production .clauses
  | elif : Production .elif
  | else_ : Production .else_
  | while_ : Production .while_
  | for_ : Production .for_
  | return_ : Production .return_
  | nothingReturned : Production .returned
  | valueReturned : Production .returned
  | delete : Production .delete
  | callStatement : Production .callStatement
  | call : Production .call
  | noArgument : Production .arguments
  | argumentFirst : Production .arguments
  | lastArgument : Production .moreArguments
  | nextArgument : Production .moreArguments
  | path : Production .path
  | pathEnds : Production .morePath
  | pathGoesOn : Production .morePath
  | level (ℓ : Level) : Production (.level ℓ)
  | lastOperand (ℓ : Level) : Production (.moreOperands ℓ)
  | nextOperand (ℓ : Level) : Production (.moreOperands ℓ)
  | signed : Production .unary
  | unsigned : Production .unary
  | literal : Production .primary
  | new : Production .primary
  | parenthesised : Production .primary
  | callOperand : Production .primary
  | pathOperand : Production .primary

namespace Production

open GrammarSymbol

/-- The right-hand side of a production. -/
def parts {n : Nonterminal} : Production n → List GrammarSymbol
  | .program => [.part .definitions, .token (.only .endOfInput)]
  | .noDefinition => []
  | .functionFirst => [.part .function, .part .definitions]
  | .typeFirst => [.part .typeDefinition, .part .definitions]
  | .function =>
    [keyword .fun_, .part .resultType, name, mark .leftParen, .part .parameters, mark .rightParen,
      .part .block]
  | .typeDefinition =>
    [keyword .type, name, mark .leftBrace, .part .fields, mark .rightBrace]
  | .noResult => [keyword .void]
  | .resultType => [.part .type]
  | .type => [.token .typeName]
  | .parameters => [.part .parameterList]
  | .noParameter => []
  | .parameterFirst => [.part .type, name, .part .moreParameters]
  | .lastParameter => []
  | .nextParameter => [mark .comma, .part .type, name, .part .moreParameters]
  | .noField => []
  | .fieldFirst => [.part .declaration, .part .fields]
  | .block => [mark .leftBrace, .part .statements, mark .rightBrace]
  | .noStatement => []
  | .statementFirst => [.part .statement, .part .statements]
  | .declares => [.part .declaration]
  | .assigns => [.part .assignment]
  | .branches => [.part .conditional]
  | .repeats => [.part .while_]
  | .counts => [.part .for_]
  | .returns => [.part .return_]
  | .deletes => [.part .delete]
  | .calls => [.part .callStatement]
  | .declaration => [keyword .var, .part .declaredType, name, mark .assign, expression]
  | .noDeclaredType => []
  | .declaredType => [.part .type]
  | .assignment => [.part .path, mark .assign, expression]
  | .conditional =>
    [keyword .if_, mark .leftParen, expression, mark .rightParen, .part .block, .part .clauses]
  | .noClause => []
  | .elifFirst => [.part .elif, .part .clauses]
  | .elseLast => [.part .else_]
  | .elif => [keyword .elif, mark .leftParen, expression, mark .rightParen, .part .block]
  | .else_ => [keyword .else_, .part .block]
  | .while_ => [keyword .while_, expression, .part .block]
  | .for_ =>
    [keyword .for_, name, keyword .from_, expression, .token .direction, expression, .part .block]
  | .return_ => [keyword .return_, .part .returned]
  | .nothingReturned => []
  | .valueReturned => [expression]
  | .delete => [keyword .delete, name]
  | .callStatement => [.part .call]
  | .call => [name, mark .leftParen, .part .arguments, mark .rightParen]
  | .noArgument => []
  | .argumentFirst => [expression, .part .moreArguments]
  | .lastArgument => []
  | .nextArgument => [mark .comma, expression, .part .moreArguments]
  | .path => [name, .part .morePath]
  | .pathEnds => []
  | .pathGoesOn => [mark .dot, name, .part .morePath]
  | .level ℓ => [operand ℓ, .part (.moreOperands ℓ)]
  | .lastOperand _ => []
  | .nextOperand ℓ => [.token (.operator ℓ), operand ℓ, .part (.moreOperands ℓ)]
  | .signed => [.token .sign, .part .unary]
  | .unsigned => [.part .primary]
  | .literal => [.token .literal]
  | .new => [keyword .new, name]
  | .parenthesised => [mark .leftParen, expression, mark .rightParen]
  | .callOperand => [.part .call]
  | .pathOperand => [.part .path]

/-- The production may be used where the word goes on with the terminal. Only a `return` without a
value asks for anything: an expression that could be its value may not follow. -/
def allowedBefore {n : Nonterminal} : Production n → Terminal → Bool
  | .nothingReturned, a => !a.startsExpression
  | _, _ => true

end Production

/-! ### Derivation trees -/

/-- A derivation tree over some letters. -/
inductive Tree (α : Type)
  | leaf (letter : α)
  | node {n : Nonterminal} (p : Production n) (children : List (Tree α))

variable {α : Type}

/-- The trees, one for each symbol of a sentential form, spell the word. -/
inductive Derives (classOf : α → Terminal) : List GrammarSymbol → List (Tree α) → List α → Prop
  | nil : Derives classOf [] [] []
  | leaf {c : TokenClass} {letter : α} {γ : List GrammarSymbol} {forest : List (Tree α)}
      {word : List α} (fits : c.holds (classOf letter) = true) (later : Derives classOf γ forest word) :
      Derives classOf (.token c :: γ) (.leaf letter :: forest) (letter :: word)
  | node {n : Nonterminal} (p : Production n) {γ : List GrammarSymbol}
      {children forest : List (Tree α)} {word : List α} (arity : children.length = p.parts.length)
      (allowed : ∀ t ∈ (word.map classOf).head?, p.allowedBefore t = true)
      (later : Derives classOf (p.parts ++ γ) (children ++ forest) word) :
      Derives classOf (.part n :: γ) (.node p children :: forest) word

/-- The word is derivable from `program`. -/
def Generates (word : List Terminal) : Prop :=
  ∃ tree, Derives id [.part .program] [tree] word

end SyntaxCheck
