import Mathlib.Data.List.Basic
import SyntaxCheck.Proofs.Recognizer.Record

/-!
# Decisions follow the derivation

If the tasks derive the word that is still to be read, then the decision about the first of them leaves
tasks that derive what is left of it, with the entries that are left. The grammar needs one terminal of
lookahead for this, and a second one where the recognizer looks beyond the current token.

* `Decision.Carries` - a decision keeps to the derivation of what is still to be read;
* `Task.decide_carries` - every decision does; in particular none refuses the current token.
-/

namespace SyntaxCheck

/-- A decision keeps to the derivation of what is still to be read. -/
def Decision.Carries (behind : List Task) (current : Token) (word : List Token)
    (entries : Derivation) : Decision → Prop
  | .become tasks => Records (tasks ++ behind) (current :: word) entries
  | .enter rule tasks =>
    ∃ later, entries = .enter rule :: later ∧ Records (tasks ++ behind) (current :: word) later
  | .take tasks => Records (tasks current ++ behind) word entries
  | .look tasks =>
    ∀ next ∈ word.head?, Records (tasks next.terminal ++ behind) (current :: word) entries
  | .note event =>
    ∃ later, entries = event.step?.toList ++ later ∧ Records behind (current :: word) later
  | .refuse _ => False

namespace Production

/-- What the recognizer sees of the next terminal where it uses the production. -/
def cue {n : Nonterminal} : Production n → Terminal → Prop
  | .noDefinition, t => t = .endOfInput
  | .functionFirst, t => t = .keyword .fun_
  | .typeFirst, t => t = .keyword .type
  | .noResult, t => t = .keyword .void
  | .resultType, t => t ≠ .keyword .void
  | .noParameter, t | .noArgument, t => t = .symbol .rightParen
  | .parameterFirst, t | .argumentFirst, t => t ≠ .symbol .rightParen
  | .lastParameter, t | .lastArgument, t => t ≠ .symbol .comma
  | .nextParameter, t | .nextArgument, t => t = .symbol .comma
  | .noField, t | .noStatement, t => t = .symbol .rightBrace
  | .fieldFirst, t | .declares, t => t = .keyword .var
  | .statementFirst, t => t ≠ .symbol .rightBrace ∧ t ≠ .endOfInput
  | .assigns, t | .calls, t | .callOperand, t | .pathOperand, t => t = .identifier
  | .branches, t => t = .keyword .if_
  | .repeats, t => t = .keyword .while_
  | .counts, t => t = .keyword .for_
  | .returns, t => t = .keyword .return_
  | .deletes, t => t = .keyword .delete
  | .noDeclaredType, t => t = .identifier
  | .declaredType, t => t = .identifier ∨ t.isPrimitiveType = true
  | .noClause, t => t ≠ .keyword .elif ∧ t ≠ .keyword .else_
  | .elifFirst, t => t = .keyword .elif
  | .elseLast, t => t = .keyword .else_
  | .nothingReturned, t => t.startsExpression = false
  | .valueReturned, t => t.startsExpression = true
  | .pathEnds, t => t ≠ .symbol .dot
  | .pathGoesOn, t => t = .symbol .dot
  | .lastOperand ℓ, t => ℓ.holds t = false
  | .signed, t => t = .symbol .minus ∨ t = .keyword .not
  | .unsigned, t => ¬(t = .symbol .minus ∨ t = .keyword .not)
  | .literal, t => t.isLiteral = true
  | .new, t => t = .keyword .new
  | .parenthesised, t => t = .symbol .leftParen
  | _, _ => True

theorem cue_of_fits {n : Nonterminal} {p : Production n} {t : Terminal}
    (h : p.fits t = true) : p.cue t := by
  revert t
  cases p
  case lastOperand ℓ => cases ℓ <;> simp only [cue] <;> decide +kernel
  all_goals
    simp only [cue]
    first | decide +kernel | exact fun _ => trivial

end Production

namespace Task

variable {behind : List Task} {current : Token} {word : List Token} {entries : Derivation}
  {after : Terminal → Bool}

theorem takeMark_carries {task : Task} {m : Mark} (expectation : Expectation)
    (h : Records (task :: behind) (current :: word) entries)
    (stands : task.symbols = [.token (.only m.terminal)]) (plain : task.isPlain = true) :
    (takeMark m expectation current.terminal).Carries behind current word entries := by
  obtain ⟨fits, later⟩ := h.of_token stands plain
  rw [takeMark, if_pos (eq_of_beq fits)]
  exact later

theorem name_carries (role : NameRole)
    (h : Records (.name role :: behind) (current :: word) entries) :
    ((name role).decide current.terminal).Carries behind current word entries := by
  obtain ⟨forest, derived, rfl⟩ := h
  obtain ⟨_, forest, _, rfl, rest, fits, later⟩ := derived.of_token
  cases rest
  simp only [decide, takeName, if_pos (eq_of_beq fits), Decision.Carries]
  refine ⟨forest, ?_, ?_⟩
  · rw [symbolsOf_named]
    exact later
  · have split : recordOf (name role :: behind) (.leaf current :: forest) =
        (name role).record [.leaf current] ++ recordOf behind forest :=
      recordOf_one rfl
    rw [split]
    cases role <;> simp [record, named, recordOf_remark, Event.step?]

/-- A task that stands for a part with one production enters the rule of the part. -/
theorem enter_carries {task : Task} {n : Nonterminal} {rule : Rule} {tasks : List Task}
    (spaced : Spaced after (symbolsOf (task :: behind)))
    (h : Records (task :: behind) (current :: word) entries) (stands : task.symbols = [.part n])
    (plain : task.isPlain = true) (above : n.isExpression = false) (named : n.rule? = some rule)
    (plain' : tasks.all isPlain = true)
    (only : ∀ p : Production n, tasks.flatMap symbols = p.parts) :
    (Decision.enter rule tasks).Carries behind current word entries := by
  obtain ⟨p, children, forest, -, -, arity, derived, rfl⟩ :=
    h.of_part_above spaced stands plain above
  rw [named]
  exact ⟨_, rfl, .of_plain tasks derived arity plain' (only p)⟩

/-- Where a production starts with a part that has one production, the rule of the part is entered. -/
theorem enter_part_carries {n : Nonterminal} {rule : Rule} {tasks : List Task}
    {γ : List GrammarSymbol} {trees forest : List (Tree Token)}
    (derived : Derives Token.terminal (.part n :: γ ++ symbolsOf behind) (trees ++ forest)
      (current :: word))
    (arity : trees.length = γ.length + 1) (above : n.isExpression = false)
    (named : n.rule? = some rule) (plain : tasks.all isPlain = true)
    (only : ∀ p : Production n, tasks.flatMap symbols = p.parts ++ γ) :
    (Decision.enter rule tasks).Carries behind current word
      (trees.flatMap Tree.steps ++ recordOf behind forest) := by
  obtain ⟨p, inside, derived, arity, steps⟩ := derived.of_part_append arity above
  rw [steps, named]
  exact ⟨_, rfl, .of_plain tasks derived arity plain (only p)⟩

theorem decideDefinitions_carries (spaced : Spaced after (symbolsOf (.definitions :: behind)))
    (h : Records (.definitions :: behind) (current :: word) entries) :
    (decideDefinitions current.terminal).Carries behind current word entries := by
  obtain ⟨p, children, forest, fits, -, arity, derived, rfl⟩ := h.of_part_above spaced rfl rfl rfl
  cases p with
  | noDefinition =>
    have now : current.terminal = .endOfInput :=
      Production.cue_of_fits fits
    rw [now]
    exact Records.of_plain [] derived arity rfl rfl
  | functionFirst =>
    have now : current.terminal = .keyword .fun_ :=
      Production.cue_of_fits fits
    rw [now]
    exact enter_part_carries derived arity rfl rfl rfl fun q => by cases q; rfl
  | typeFirst =>
    have now : current.terminal = .keyword .type :=
      Production.cue_of_fits fits
    rw [now]
    exact enter_part_carries derived arity rfl rfl rfl fun q => by cases q; rfl

theorem decideFields_carries (spaced : Spaced after (symbolsOf (.fields :: behind)))
    (h : Records (.fields :: behind) (current :: word) entries) :
    (decideFields current.terminal).Carries behind current word entries := by
  obtain ⟨p, children, forest, fits, -, arity, derived, rfl⟩ := h.of_part_above spaced rfl rfl rfl
  cases p with
  | noField =>
    have now : current.terminal = .symbol .rightBrace :=
      Production.cue_of_fits fits
    rw [now]
    exact .of_plain [] derived arity rfl rfl
  | fieldFirst =>
    have now : current.terminal = .keyword .var :=
      Production.cue_of_fits fits
    rw [now]
    exact .of_plain [.declaration, .fields] derived arity rfl rfl

theorem decideStatements_carries (spaced : Spaced after (symbolsOf (.statements :: behind)))
    (h : Records (.statements :: behind) (current :: word) entries) :
    (decideStatements current.terminal).Carries behind current word entries := by
  obtain ⟨p, children, forest, fits, -, arity, derived, rfl⟩ := h.of_part_above spaced rfl rfl rfl
  cases p with
  | noStatement =>
    have now : current.terminal = .symbol .rightBrace :=
      Production.cue_of_fits fits
    rw [now]
    exact .of_plain [] derived arity rfl rfl
  | statementFirst =>
    have now : current.terminal ≠ .symbol .rightBrace ∧ current.terminal ≠ .endOfInput :=
      Production.cue_of_fits fits
    unfold decideStatements
    split
    · rename_i brace
      exact absurd brace now.1
    · rename_i ended
      exact absurd ended now.2
    · exact .of_plain [.statement, .statements] derived arity rfl rfl

theorem head?_terminal {next : Token} (found : next ∈ word.head?) :
    (word.map Token.terminal).head? = some next.terminal := by
  rw [List.head?_map, Option.mem_def.1 found]
  rfl

theorem decideStatement_carries (spaced : Spaced after (symbolsOf (.statement :: behind)))
    (h : Records (.statement :: behind) (current :: word) entries) :
    (decideStatement current.terminal).Carries behind current word entries := by
  obtain ⟨p, children, forest, fits, fitsBefore, arity, derived, rfl⟩ :=
    h.of_part_above spaced rfl rfl rfl
  cases p with
  | declares =>
    have now : current.terminal = .keyword .var :=
      Production.cue_of_fits fits
    rw [now]
    exact .of_plain [.declaration] derived arity rfl rfl
  | assigns =>
    have now : current.terminal = .identifier :=
      Production.cue_of_fits fits
    rw [now]
    intro next found
    dsimp only
    rw [head?_terminal found] at fitsBefore
    rw [if_neg fun paren => bne_iff_ne.1 fitsBefore (congrArg some paren)]
    exact .of_plain [.assignment] derived arity rfl rfl
  | branches =>
    have now : current.terminal = .keyword .if_ :=
      Production.cue_of_fits fits
    rw [now]
    exact enter_part_carries derived arity rfl rfl rfl fun q => by cases q; rfl
  | repeats =>
    have now : current.terminal = .keyword .while_ :=
      Production.cue_of_fits fits
    rw [now]
    exact enter_part_carries derived arity rfl rfl rfl fun q => by cases q; rfl
  | counts =>
    have now : current.terminal = .keyword .for_ :=
      Production.cue_of_fits fits
    rw [now]
    exact enter_part_carries derived arity rfl rfl rfl fun q => by cases q; rfl
  | returns =>
    have now : current.terminal = .keyword .return_ :=
      Production.cue_of_fits fits
    rw [now]
    exact enter_part_carries derived arity rfl rfl rfl fun q => by cases q; rfl
  | deletes =>
    have now : current.terminal = .keyword .delete :=
      Production.cue_of_fits fits
    rw [now]
    exact enter_part_carries derived arity rfl rfl rfl fun q => by cases q; rfl
  | calls =>
    have now : current.terminal = .identifier :=
      Production.cue_of_fits fits
    rw [now]
    intro next found
    dsimp only
    rw [head?_terminal found] at fitsBefore
    rw [if_pos (Option.some.inj (eq_of_beq fitsBefore))]
    exact .of_plain [.callStatement] derived arity rfl rfl

theorem decideClauses_carries (spaced : Spaced after (symbolsOf (.clauses :: behind)))
    (h : Records (.clauses :: behind) (current :: word) entries) :
    (decideClauses current.terminal).Carries behind current word entries := by
  obtain ⟨p, children, forest, fits, -, arity, derived, rfl⟩ := h.of_part_above spaced rfl rfl rfl
  cases p with
  | noClause =>
    have now : current.terminal ≠ .keyword .elif ∧ current.terminal ≠ .keyword .else_ :=
      Production.cue_of_fits fits
    unfold decideClauses
    split
    · rename_i found
      exact absurd found now.1
    · rename_i found
      exact absurd found now.2
    · exact .of_plain [] derived arity rfl rfl
  | elifFirst =>
    have now : current.terminal = .keyword .elif :=
      Production.cue_of_fits fits
    rw [now]
    exact enter_part_carries derived arity rfl rfl rfl fun q => by cases q; rfl
  | elseLast =>
    have now : current.terminal = .keyword .else_ :=
      Production.cue_of_fits fits
    rw [now]
    exact enter_part_carries derived arity rfl rfl rfl fun q => by cases q; rfl

theorem returnType_carries (spaced : Spaced after (symbolsOf (.returnType :: behind)))
    (h : Records (.returnType :: behind) (current :: word) entries) :
    (returnType.decide current.terminal).Carries behind current word entries := by
  obtain ⟨p, children, forest, fits, -, arity, derived, rfl⟩ := h.of_part_above spaced rfl rfl rfl
  cases p with
  | noResult =>
    have now : current.terminal = .keyword .void :=
      Production.cue_of_fits fits
    obtain ⟨trees, rfl, arity, derived⟩ := derived.of_token_append arity
    simp only [decide, if_pos now]
    rw [List.flatMap_cons, Tree.steps_leaf, List.nil_append]
    exact .of_plain [] derived arity rfl rfl
  | resultType =>
    have now : current.terminal ≠ .keyword .void :=
      Production.cue_of_fits fits
    simp only [decide, if_neg now]
    exact .of_plain [.type] derived arity rfl rfl

theorem parameterList_carries (spaced : Spaced after (symbolsOf (.parameterList :: behind)))
    (h : Records (.parameterList :: behind) (current :: word) entries) :
    (parameterList.decide current.terminal).Carries behind current word entries := by
  obtain ⟨p, children, forest, fits, -, arity, derived, rfl⟩ := h.of_part_above spaced rfl rfl rfl
  cases p with
  | noParameter =>
    have now : current.terminal = .symbol .rightParen :=
      Production.cue_of_fits fits
    simp only [decide, if_pos now]
    exact .of_plain [] derived arity rfl rfl
  | parameterFirst =>
    have now : current.terminal ≠ .symbol .rightParen :=
      Production.cue_of_fits fits
    simp only [decide, if_neg now]
    exact .of_plain [.type, .name .plain, .moreParameters] derived arity rfl rfl

theorem moreParameters_carries (spaced : Spaced after (symbolsOf (.moreParameters :: behind)))
    (h : Records (.moreParameters :: behind) (current :: word) entries) :
    (moreParameters.decide current.terminal).Carries behind current word entries := by
  obtain ⟨p, children, forest, fits, -, arity, derived, rfl⟩ := h.of_part_above spaced rfl rfl rfl
  cases p with
  | lastParameter =>
    have now : current.terminal ≠ .symbol .comma :=
      Production.cue_of_fits fits
    simp only [decide, if_neg now]
    exact .of_plain [] derived arity rfl rfl
  | nextParameter =>
    have now : current.terminal = .symbol .comma :=
      Production.cue_of_fits fits
    obtain ⟨trees, rfl, arity, derived⟩ := derived.of_token_append arity
    simp only [decide, if_pos now]
    rw [List.flatMap_cons, Tree.steps_leaf, List.nil_append]
    exact .of_plain [.type, .name .plain, .moreParameters] derived arity rfl rfl

theorem declaredType_carries (spaced : Spaced after (symbolsOf (.declaredType :: behind)))
    (h : Records (.declaredType :: behind) (current :: word) entries) :
    (declaredType.decide current.terminal).Carries behind current word entries := by
  obtain ⟨p, children, forest, fits, fitsBefore, arity, derived, rfl⟩ :=
    h.of_part_above spaced rfl rfl rfl
  cases p with
  | noDeclaredType =>
    have now : current.terminal = .identifier :=
      Production.cue_of_fits fits
    simp only [decide, if_pos now]
    intro next found
    rw [head?_terminal found] at fitsBefore
    dsimp only
    rw [if_neg fun name => bne_iff_ne.1 fitsBefore (congrArg some name)]
    exact .of_plain [] derived arity rfl rfl
  | declaredType =>
    have now : current.terminal = .identifier ∨ current.terminal.isPrimitiveType = true :=
      Production.cue_of_fits fits
    simp only [decide]
    split
    · intro next found
      rw [head?_terminal found] at fitsBefore
      dsimp only
      rw [if_pos (Option.some.inj (eq_of_beq fitsBefore))]
      exact .of_plain [.type] derived arity rfl rfl
    · rename_i other
      rw [if_pos (now.resolve_left other)]
      exact .of_plain [.type] derived arity rfl rfl

theorem returned_carries (spaced : Spaced after (symbolsOf (.returned :: behind)))
    (h : Records (.returned :: behind) (current :: word) entries) :
    (returned.decide current.terminal).Carries behind current word entries := by
  obtain ⟨p, children, forest, fits, -, arity, derived, rfl⟩ := h.of_part_above spaced rfl rfl rfl
  cases p with
  | nothingReturned =>
    have now : current.terminal.startsExpression = false :=
      Production.cue_of_fits fits
    simp only [decide, now, if_neg Bool.false_ne_true]
    exact .of_plain [] derived arity rfl rfl
  | valueReturned =>
    have now : current.terminal.startsExpression = true :=
      Production.cue_of_fits fits
    simp only [decide, if_pos now]
    exact .of_plain [.expression] derived arity rfl rfl

/-! ### Paths -/

theorem path_carries (role : PathRole)
    (h : Records (.path role :: behind) (current :: word) entries) :
    ((path role).decide current.terminal).Carries behind current word entries := by
  obtain ⟨forest, derived, rfl⟩ := h
  obtain ⟨p, children, forest, rfl, arity, -, derived⟩ := derived.of_part
  cases p with
  | path =>
    obtain ⟨_, _, _, -, rest, fits, -⟩ := derived.of_token
    cases rest
    obtain ⟨trees, rfl, arity, derived⟩ := derived.of_token_append arity
    obtain ⟨more, rfl⟩ := List.length_eq_one_iff.1 arity
    simp only [decide, takeName, if_pos (eq_of_beq fits), Decision.Carries]
    refine ⟨more :: forest, derived, ?_⟩
    have before : recordOf (.path role :: behind) (.node .path [.leaf current, more] :: forest) =
        (Task.path role).record [.node .path [.leaf current, more]] ++ recordOf behind forest :=
      recordOf_one rfl
    have later : recordOf (.morePath role current.lexeme :: behind) (more :: forest) =
        (Task.morePath role current.lexeme).record [more] ++ recordOf behind forest :=
      recordOf_one rfl
    rw [before, List.cons_append, List.nil_append, later]
    cases role with
    | target =>
      simp only [record, List.flatMap_singleton, Tree.steps_node Production.path _ rfl]
      simp [Nonterminal.rule?]
    | operand => simp [record]

theorem pathName_carries (role : PathRole) (before : String)
    (h : Records (.pathName role before :: behind) (current :: word) entries) :
    ((pathName role before).decide current.terminal).Carries behind current word entries := by
  obtain ⟨forest, derived, rfl⟩ := h
  obtain ⟨_, forest, _, rfl, rest, fits, derived⟩ := derived.of_token
  cases rest
  obtain ⟨p, children, forest, rfl, -⟩ := id derived.of_part
  simp only [decide, takeName, if_pos (eq_of_beq fits), Decision.Carries]
  refine ⟨.node p children :: forest, derived, ?_⟩
  have first : recordOf (.pathName role before :: behind)
        (.leaf current :: .node p children :: forest) =
      (Task.pathName role before).record [.leaf current, .node p children] ++
        recordOf behind forest :=
    recordOf_two rfl
  have later : recordOf (.morePath role (before ++ "." ++ current.lexeme) :: behind)
        (.node p children :: forest) =
      (Task.morePath role (before ++ "." ++ current.lexeme)).record [.node p children] ++
        recordOf behind forest :=
    recordOf_one rfl
  rw [first, List.cons_append, List.nil_append, later]
  cases role <;> simp [record]

theorem morePath_carries (role : PathRole) (before : String)
    (spaced : Spaced after (symbolsOf (.morePath role before :: behind)))
    (h : Records (.morePath role before :: behind) (current :: word) entries) :
    ((morePath role before).decide current.terminal).Carries behind current word entries := by
  obtain ⟨p, children, forest, fits, -, arity, derived, rfl⟩ := h.of_part spaced rfl
  cases p with
  | pathEnds =>
    have now : current.terminal ≠ .symbol .dot :=
      Production.cue_of_fits fits
    obtain rfl := List.length_eq_zero_iff.1 arity
    simp only [decide, if_neg now, Decision.Carries]
    refine ⟨forest, by rw [symbolsOf_traversed]; exact derived, ?_⟩
    cases role with
    | target =>
      simp only [record, List.flatMap_singleton, Tree.steps_node Production.pathEnds _ rfl]
      rfl
    | operand => simp [record, traversed, recordOf_remark, Event.step?]
  | pathGoesOn =>
    -- the text of the path grows from the left, so it is joined anew
    have now : current.terminal = .symbol .dot :=
      Production.cue_of_fits fits
    obtain ⟨trees, rfl, arity, derived⟩ := derived.of_token_append arity
    obtain ⟨first, more, rfl⟩ := List.length_eq_two.1 arity
    obtain ⟨name, _, _, same, -, -⟩ := derived.of_token
    injection same with same
    subst same
    simp only [decide, if_pos now, Decision.Carries]
    refine ⟨.leaf name :: more :: forest, derived, ?_⟩
    have later : recordOf (.pathName role before :: behind) (.leaf name :: more :: forest) =
        (Task.pathName role before).record [.leaf name, more] ++ recordOf behind forest :=
      recordOf_two rfl
    rw [List.cons_append, List.nil_append, later]
    cases role with
    | target =>
      simp only [record, List.flatMap_singleton, Tree.steps_node Production.pathGoesOn _ rfl]
      simp [Nonterminal.rule?]
    | operand => simp [record, String.append_assoc]

/-! ### Calls -/

theorem call_carries (spaced : Spaced after (symbolsOf (.call :: behind)))
    (h : Records (.call :: behind) (current :: word) entries) :
    (call.decide current.terminal).Carries behind current word entries := by
  obtain ⟨p, children, forest, -, -, arity, derived, rfl⟩ := h.of_part spaced rfl
  cases p with
  | call =>
    obtain ⟨_, _, _, -, rest, fits, -⟩ := derived.of_token
    cases rest
    obtain ⟨trees, rfl, arity, derived⟩ := derived.of_token_append arity
    obtain ⟨opening, inside, closing, rfl⟩ := List.length_eq_three.1 arity
    obtain ⟨paren, _, _, same, -, -⟩ := derived.of_token
    injection same with same
    subst same
    simp only [decide, takeName, if_pos (eq_of_beq fits), Decision.Carries]
    refine ⟨.leaf paren :: inside :: closing :: forest, derived, ?_⟩
    have head : recordOf (.head (.symbol .leftParen) :: .arguments current.lexeme :: behind)
          (.leaf paren :: inside :: closing :: forest) =
        (Task.head (.symbol .leftParen)).record [.leaf paren] ++
          recordOf (.arguments current.lexeme :: behind) (inside :: closing :: forest) :=
      recordOf_one rfl
    have later : recordOf (.arguments current.lexeme :: behind) (inside :: closing :: forest) =
        (Task.arguments current.lexeme).record [inside, closing] ++ recordOf behind forest :=
      recordOf_two rfl
    rw [List.cons_append, List.cons_append, List.nil_append, head, later]
    simp only [record, List.flatMap_singleton, Tree.steps_expression Production.call _ rfl]
    simp [Expression.steps]

/-- The tree behind those that stand for the arguments. -/
theorem exists_closing {n : Nonterminal} {s : GrammarSymbol} {γ : List GrammarSymbol}
    {tree : Tree Token} {forest : List (Tree Token)}
    (h : Derives Token.terminal (.part n :: s :: γ) (tree :: forest) word) :
    ∃ closing later, forest = closing :: later :=
  List.exists_cons_of_length_eq_add_one (Nat.succ.inj h.length_eq)

theorem closeCall_records (callee : String) (count : Nat) {closing : Tree Token}
    {forest : List (Tree Token)}
    (derived : Derives Token.terminal (GrammarSymbol.mark .rightParen :: symbolsOf behind)
      (closing :: forest) word) :
    Records (closeCall callee count ++ behind) word (.call callee count :: recordOf behind forest) := by
  refine ⟨closing :: forest, derived, ?_⟩
  obtain ⟨paren, _, _, same, -⟩ := derived.of_token
  injection same with same
  have split : recordOf (closeCall callee count ++ behind) (closing :: forest) =
      (Task.mark (.symbol .rightParen) .closeArguments).record [closing] ++
        recordOf (.remark (.grouped (.call callee count)) :: behind) forest :=
    recordOf_one rfl
  rw [split, same, recordOf_remark]
  simp [record, Event.step?]

theorem arguments_carries (callee : String)
    (spaced : Spaced after (symbolsOf (.arguments callee :: behind)))
    (h : Records (.arguments callee :: behind) (current :: word) entries) :
    ((arguments callee).decide current.terminal).Carries behind current word entries := by
  obtain ⟨forest, derived, rfl⟩ := h
  obtain ⟨p, children, forest, rfl, arity, allowed, inside⟩ := derived.of_part
  -- the task stands for the closing mark, too: it is recorded where the arguments end
  obtain ⟨closing, forest, rfl⟩ := exists_closing derived
  have fits := inside.fits spaced allowed
  have before : recordOf (.arguments callee :: behind) (.node p children :: closing :: forest) =
      (Task.arguments callee).record [.node p children, closing] ++ recordOf behind forest :=
    recordOf_two rfl
  rw [before]
  simp only [decide, Decision.Carries]
  cases p with
  | noArgument =>
    have now : current.terminal = .symbol .rightParen :=
      Production.cue_of_fits fits
    obtain rfl := List.length_eq_zero_iff.1 arity
    rw [if_pos now]
    have closed := closeCall_records callee 0 inside
    simpa [record] using closed
  | argumentFirst =>
    have now : current.terminal ≠ .symbol .rightParen :=
      Production.cue_of_fits fits
    obtain ⟨first, more, rfl⟩ := List.length_eq_two.1 arity
    rw [if_neg now]
    refine ⟨first :: more :: closing :: forest, inside, ?_⟩
    have argument : recordOf (.expression :: .moreArguments callee 1 :: behind)
          (first :: more :: closing :: forest) =
        Task.expression.record [first] ++
          recordOf (.moreArguments callee 1 :: behind) (more :: closing :: forest) :=
      recordOf_one rfl
    have later : recordOf (.moreArguments callee 1 :: behind) (more :: closing :: forest) =
        (Task.moreArguments callee 1).record [more, closing] ++ recordOf behind forest :=
      recordOf_two rfl
    rw [List.cons_append, List.cons_append, List.nil_append, argument, later]
    simp [record, inside.steps_head rfl, Nat.add_comm]

theorem moreArguments_carries (callee : String) (count : Nat)
    (spaced : Spaced after (symbolsOf (.moreArguments callee count :: behind)))
    (h : Records (.moreArguments callee count :: behind) (current :: word) entries) :
    ((moreArguments callee count).decide current.terminal).Carries behind current word entries := by
  obtain ⟨forest, derived, rfl⟩ := h
  obtain ⟨p, children, forest, rfl, arity, allowed, inside⟩ := derived.of_part
  obtain ⟨closing, forest, rfl⟩ := exists_closing derived
  have fits := inside.fits spaced allowed
  have before : recordOf (.moreArguments callee count :: behind)
        (.node p children :: closing :: forest) =
      (Task.moreArguments callee count).record [.node p children, closing] ++
        recordOf behind forest :=
    recordOf_two rfl
  rw [before]
  cases p with
  | lastArgument =>
    have now : current.terminal ≠ .symbol .comma :=
      Production.cue_of_fits fits
    obtain rfl := List.length_eq_zero_iff.1 arity
    simp only [decide, if_neg now, Decision.Carries]
    have closed := closeCall_records callee count inside
    simpa [record] using closed
  | nextArgument =>
    have now : current.terminal = .symbol .comma :=
      Production.cue_of_fits fits
    obtain ⟨trees, rfl, arity, inside⟩ := inside.of_token_append arity
    obtain ⟨next, more, rfl⟩ := List.length_eq_two.1 arity
    simp only [decide, if_pos now, Decision.Carries]
    refine ⟨next :: more :: closing :: forest, inside, ?_⟩
    have argument : recordOf (.expression :: .moreArguments callee (count + 1) :: behind)
          (next :: more :: closing :: forest) =
        Task.expression.record [next] ++
          recordOf (.moreArguments callee (count + 1) :: behind) (more :: closing :: forest) :=
      recordOf_one rfl
    have later : recordOf (.moreArguments callee (count + 1) :: behind)
          (more :: closing :: forest) =
        (Task.moreArguments callee (count + 1)).record [more, closing] ++ recordOf behind forest :=
      recordOf_two rfl
    rw [List.cons_append, List.cons_append, List.nil_append, argument, later]
    simp [record, inside.steps_head rfl]
    omega

/-! ### Operators and operands -/

theorem isPlain_operand (ℓ : Level) : (operand ℓ).isPlain = true := by
  cases ℓ <;> rfl

theorem level_carries (ℓ : Level) (spaced : Spaced after (symbolsOf (.level ℓ :: behind)))
    (h : Records (.level ℓ :: behind) (current :: word) entries) :
    ((level ℓ).decide current.terminal).Carries behind current word entries := by
  obtain ⟨p, children, forest, -, -, arity, derived, rfl⟩ := h.of_part spaced rfl
  cases p with
  | level =>
    obtain ⟨first, more, rfl⟩ := List.length_eq_two.1 arity
    simp only [decide, Decision.Carries]
    refine ⟨first :: more :: forest, ?_, ?_⟩
    · rw [List.cons_append, symbolsOf_cons, symbols_operand]
      exact derived
    · have operands : recordOf (operand ℓ :: .moreOperands ℓ :: behind) (first :: more :: forest) =
          (operand ℓ).record [first] ++
            recordOf (.moreOperands ℓ :: behind) (more :: forest) :=
        recordOf_one (by rw [symbols_operand]; rfl)
      have later : recordOf (.moreOperands ℓ :: behind) (more :: forest) =
          (Task.moreOperands ℓ).record [more] ++ recordOf behind forest :=
        recordOf_one rfl
      rw [List.cons_append, List.cons_append, List.nil_append, operands, later,
        record_of_isPlain (isPlain_operand ℓ)]
      simp only [record, List.flatMap_singleton, Tree.steps_expression (Production.level ℓ) _ rfl]
      simp [Tree.steps_grouped, derived.steps_operand]

theorem moreOperands_carries (ℓ : Level)
    (spaced : Spaced after (symbolsOf (.moreOperands ℓ :: behind)))
    (h : Records (.moreOperands ℓ :: behind) (current :: word) entries) :
    ((moreOperands ℓ).decide current.terminal).Carries behind current word entries := by
  obtain ⟨p, children, forest, fits, -, arity, derived, rfl⟩ := h.of_part spaced rfl
  cases p with
  | lastOperand =>
    have now : ℓ.holds current.terminal = false := Production.cue_of_fits fits
    obtain rfl := List.length_eq_zero_iff.1 arity
    simp only [decide, now, if_neg Bool.false_ne_true, Decision.Carries]
    refine ⟨forest, derived, ?_⟩
    simp [record]
  | nextOperand =>
    obtain ⟨_, _, _, -, rest, holds, -⟩ := derived.of_token
    cases rest
    obtain ⟨trees, rfl, arity, derived⟩ := derived.of_token_append arity
    obtain ⟨next, more, rfl⟩ := List.length_eq_two.1 arity
    have now : ℓ.holds current.terminal = true := holds
    simp only [decide, if_pos now, Decision.Carries]
    refine ⟨next :: more :: forest, ?_, ?_⟩
    · rw [List.cons_append, symbolsOf_cons, symbols_operand]
      exact derived
    · have operands : recordOf (operand ℓ :: .remark (.grouped (.binary current.lexeme)) ::
            .moreOperands ℓ :: behind) (next :: more :: forest) =
          (operand ℓ).record [next] ++ recordOf (.remark (.grouped (.binary current.lexeme)) ::
            .moreOperands ℓ :: behind) (more :: forest) :=
        recordOf_one (by rw [symbols_operand]; rfl)
      have later : recordOf (.moreOperands ℓ :: behind) (more :: forest) =
          (Task.moreOperands ℓ).record [more] ++ recordOf behind forest :=
        recordOf_one rfl
      rw [List.cons_append, List.cons_append, List.cons_append, List.nil_append, operands,
        recordOf_remark, later, record_of_isPlain (isPlain_operand ℓ)]
      simp [record, Event.step?, derived.steps_operand]

theorem unary_carries (spaced : Spaced after (symbolsOf (.unary :: behind)))
    (h : Records (.unary :: behind) (current :: word) entries) :
    (unary.decide current.terminal).Carries behind current word entries := by
  obtain ⟨p, children, forest, fits, -, arity, derived, rfl⟩ := h.of_part spaced rfl
  cases p with
  | signed =>
    have now : current.terminal = .symbol .minus ∨ current.terminal = .keyword .not :=
      Production.cue_of_fits fits
    obtain ⟨trees, rfl, arity, derived⟩ := derived.of_token_append arity
    obtain ⟨inner, rfl⟩ := List.length_eq_one_iff.1 arity
    simp only [decide, if_pos now, Decision.Carries]
    refine ⟨inner :: forest, derived, ?_⟩
    have operand : recordOf (.unary :: .remark (.grouped (.unary current.lexeme)) :: behind)
          (inner :: forest) =
        Task.unary.record [inner] ++
          recordOf (.remark (.grouped (.unary current.lexeme)) :: behind) forest :=
      recordOf_one rfl
    rw [List.cons_append, List.cons_append, List.nil_append, operand, recordOf_remark]
    simp only [record, List.flatMap_singleton, Tree.steps_expression Production.signed _ rfl]
    simp [Expression.steps, Event.step?, derived.steps_head rfl]
  | unsigned =>
    have now : ¬ (current.terminal = .symbol .minus ∨ current.terminal = .keyword .not) :=
      Production.cue_of_fits fits
    obtain ⟨inner, rfl⟩ := List.length_eq_one_iff.1 arity
    simp only [decide, if_neg now, Decision.Carries]
    refine ⟨inner :: forest, derived, ?_⟩
    have operand : recordOf (.primary :: behind) (inner :: forest) =
        Task.primary.record [inner] ++ recordOf behind forest :=
      recordOf_one rfl
    rw [List.cons_append, List.nil_append, operand]
    simp only [record, List.flatMap_singleton, Tree.steps_expression Production.unsigned _ rfl]
    simp [derived.steps_head rfl]

theorem decidePrimary_carries (spaced : Spaced after (symbolsOf (.primary :: behind)))
    (h : Records (.primary :: behind) (current :: word) entries) :
    (decidePrimary current.terminal).Carries behind current word entries := by
  obtain ⟨p, children, forest, fits, fitsBefore, arity, derived, rfl⟩ := h.of_part spaced rfl
  -- the record of an operand is that of its expression
  simp only [record, List.flatMap_singleton, Tree.steps_expression p children rfl]
  cases p with
  | literal =>
    have now : current.terminal.isLiteral = true :=
      Production.cue_of_fits fits
    obtain ⟨trees, rfl, arity, derived⟩ := derived.of_token_append arity
    obtain rfl := List.length_eq_zero_iff.1 arity
    simp only [decidePrimary, if_pos now, Decision.Carries]
    refine ⟨forest, derived, ?_⟩
    rw [List.cons_append, recordOf_remark]
    simp [Expression.steps, Event.step?]
  | new =>
    have now : current.terminal = .keyword .new :=
      Production.cue_of_fits fits
    obtain ⟨trees, rfl, arity, derived⟩ := derived.of_token_append arity
    obtain ⟨tree, rfl⟩ := List.length_eq_one_iff.1 arity
    obtain ⟨name, _, _, same, -⟩ := derived.of_token
    injection same with same
    subst same
    rw [now]
    refine ⟨.leaf name :: forest, derived, ?_⟩
    have named : recordOf (.name .instantiated :: behind) (.leaf name :: forest) =
        (Task.name .instantiated).record [.leaf name] ++ recordOf behind forest :=
      recordOf_one rfl
    rw [List.cons_append, List.nil_append, named]
    simp [record, Expression.steps]
  | parenthesised =>
    have now : current.terminal = .symbol .leftParen :=
      Production.cue_of_fits fits
    obtain ⟨trees, rfl, arity, derived⟩ := derived.of_token_append arity
    obtain ⟨inner, closing, rfl⟩ := List.length_eq_two.1 arity
    rw [now]
    obtain ⟨paren, same⟩ := derived.getElem?_of_token (i := 1) rfl
    obtain rfl := Option.some.inj same
    have expanded := Records.of_plain [.expression, .symbol .rightParen] derived arity
      rfl rfl
    show Records (.expression :: .symbol .rightParen :: behind) word _
    simpa [derived.steps_head rfl] using expanded
  | callOperand =>
    have now : current.terminal = .identifier :=
      Production.cue_of_fits fits
    obtain ⟨called, rfl⟩ := List.length_eq_one_iff.1 arity
    rw [now]
    intro next found
    rw [head?_terminal found] at fitsBefore
    dsimp only
    rw [if_pos (Option.some.inj (eq_of_beq fitsBefore))]
    have expanded := Records.of_plain [.call] derived arity rfl rfl
    simpa [derived.steps_head rfl] using expanded
  | pathOperand =>
    have now : current.terminal = .identifier :=
      Production.cue_of_fits fits
    obtain ⟨path, rfl⟩ := List.length_eq_one_iff.1 arity
    rw [now]
    intro next found
    rw [head?_terminal found] at fitsBefore
    dsimp only
    rw [if_neg fun paren => bne_iff_ne.1 fitsBefore (congrArg some paren)]
    refine ⟨path :: forest, derived, ?_⟩
    have later : recordOf (.path .operand :: behind) (path :: forest) =
        (Task.path .operand).record [path] ++ recordOf behind forest :=
      recordOf_one rfl
    rw [List.cons_append, List.nil_append, later]
    simp [record, Expression.steps]

/-- Every decision follows the derivation. -/
theorem decide_carries (task : Task) (spaced : Spaced after (symbolsOf (task :: behind)))
    (h : Records (task :: behind) (current :: word) entries) :
    (task.decide current.terminal).Carries behind current word entries := by
  cases task with
  | program =>
    obtain ⟨forest, derived, rfl⟩ := h
    exact ⟨_, rfl, forest, derived, rfl⟩
  | definitions => exact decideDefinitions_carries spaced h
  | head m => exact takeMark_carries _ h rfl rfl
  | mark m expectation => exact takeMark_carries _ h rfl rfl
  | name role => exact name_carries role h
  | returnType => exact returnType_carries spaced h
  | type => exact enter_carries spaced h rfl rfl rfl rfl rfl fun p => by cases p; rfl
  | typeName =>
    obtain ⟨fits, later⟩ := h.of_token rfl rfl
    have now : current.terminal = .identifier ∨ current.terminal.isPrimitiveType = true := by
      simpa [TokenClass.holds] using fits
    simp only [decide, if_pos now]
    exact later
  | parameters => exact enter_carries spaced h rfl rfl rfl rfl rfl fun p => by cases p; rfl
  | parameterList => exact parameterList_carries spaced h
  | moreParameters => exact moreParameters_carries spaced h
  | fields => exact decideFields_carries spaced h
  | block => exact enter_carries spaced h rfl rfl rfl rfl rfl fun p => by cases p; rfl
  | statements => exact decideStatements_carries spaced h
  | statement => exact decideStatement_carries spaced h
  | declaration => exact enter_carries spaced h rfl rfl rfl rfl rfl fun p => by cases p; rfl
  | declaredType => exact declaredType_carries spaced h
  | assignment => exact enter_carries spaced h rfl rfl rfl rfl rfl fun p => by cases p; rfl
  | clauses => exact decideClauses_carries spaced h
  | direction =>
    obtain ⟨fits, later⟩ := h.of_token rfl rfl
    have now : current.terminal = .keyword .upto ∨ current.terminal = .keyword .downto := by
      simpa [TokenClass.holds] using fits
    simp only [decide, if_pos now]
    exact later
  | returned => exact returned_carries spaced h
  | callStatement => exact enter_carries spaced h rfl rfl rfl rfl rfl fun p => by cases p; rfl
  | call => exact call_carries spaced h
  | arguments callee => exact arguments_carries callee spaced h
  | moreArguments callee count => exact moreArguments_carries callee count spaced h
  | path role => exact path_carries role h
  | pathName role before => exact pathName_carries role before h
  | morePath role before => exact morePath_carries role before spaced h
  | level ℓ => exact level_carries ℓ spaced h
  | moreOperands ℓ => exact moreOperands_carries ℓ spaced h
  | unary => exact unary_carries spaced h
  | primary => exact decidePrimary_carries spaced h
  | remark event =>
    obtain ⟨forest, derived, rfl⟩ := h
    exact ⟨_, recordOf_remark event behind forest, forest, derived, rfl⟩

end Task

end SyntaxCheck
