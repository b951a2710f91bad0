import SyntaxCheck.Proofs.CommandLine.Lines

/-!
# The commands about one file agree

Checking a file, listing its tokens and tracing its expressions go over its text in three ways: by a check
without a record, by handing out tokens up to the end, and by a check with a record. What they find wrong is
the same, and it is reported in the same words.

* `Report.isLine_reportLines` - a report and its suggestions are lines;
* `checkFile_of_fault`, `showTrace_of_fault`, `listTokens_of_fault` - what is printed about a fault;
* `ok_listTokens_iff`, `stdout_answer_tokens` - when the tokens are listed, and what is printed then;
* `drain_fault_of_lexical`, `exists_token_of_grammatical` - the fault of a check among the tokens;
* `TellsRows`, `tellsRows_of_scans` - what is told of the tokens is read from the lines that are printed;
* `commands_agree` - all of it.
-/

namespace SyntaxCheck

/-! ### Suggestions -/

theorem LexicalCause.isLine_suggestions (cause : LexicalCause) :
    ∀ s ∈ cause.suggestions, IsLine s.message := by
  cases cause with
  | unterminatedString => simp [suggestions, IsLine]
  | unexpectedChar c =>
    simp only [suggestions]
    split_ifs <;> simp [IsLine]
  | _ => exact List.forall_mem_nil _

theorem GrammarCause.isLine_suggestions (cause : GrammarCause) :
    ∀ s ∈ cause.suggestions, IsLine s.message := by
  cases cause with
  | unterminatedBlock => simp [suggestions, IsLine]
  | unexpectedTopLevel => simp [suggestions, IsLine]
  | unexpectedToken expected =>
    show ∀ s ∈ suggestionsFor expected.toList, IsLine s.message
    unfold suggestionsFor
    split_ifs <;> simp [IsLine]
  | _ => exact List.forall_mem_nil _

/-- A report and its suggestions are lines, if the name of the file and the message are. -/
theorem Report.isLine_reportLines {file : String} {fault : Fault} (named : IsLine file)
    (line : IsLine fault.cause.message) : ∀ line ∈ reportLines (ofFault file fault), IsLine line := by
  have suggested : ∀ s ∈ fault.cause.suggestions, IsLine s.message := by
    obtain ⟨lexical | grammatical, span⟩ := fault
    · exact lexical.isLine_suggestions
    · exact grammatical.isLine_suggestions
  refine List.forall_mem_cons.2 ⟨isLine_render named line, List.forall_mem_map.2 fun s found => ?_⟩
  have help : IsLine "  help: " := by simp [IsLine]
  exact isLine_append.2 ⟨help, suggested s found⟩

/-! ### What is printed about a fault -/

section Faults

variable {format : Format} {file text : String} {fault : Fault}

theorem checkFile_of_fault (rejected : check text = .error fault) :
    checkFile .text file text = ⟨"", linesOf (reportLines (.ofFault file fault)), false⟩ := by
  have reported : Feedback.reports file (check text) = [.ofFault file fault] := by rw [rejected]; rfl
  rw [checkFile, showFeedback, Feedback.ofCheck, reported, List.flatMap_singleton, rejected]
  rfl

theorem showTrace_of_fault (rejected : check text = .error fault) :
    showTrace format file text = showFault format file fault := by
  obtain ⟨last, -, same⟩ := exists_checks text
  rw [showTrace, same, rejected]

/-- The tokens handed out are listed, and then the fault that ends them. -/
theorem listTokens_of_fault {lexical : LexicalFault}
    (missing : (Lexer.ofString text).drain.fault = some lexical) :
    listTokens format file text =
      ⟨linesOf ((Lexer.ofString text).drain.tokens.map tokenLine), "", true⟩ ++
        showFault format file lexical.toFault := by
  rw [listTokens, missing]

theorem ok_listTokens_iff : (listTokens format file text).ok = true ↔
    ∃ tokens, (Lexer.ofString text).tokenize.1 = .ok tokens := by
  cases found : (Lexer.ofString text).drain.fault with
  | none =>
    have handed := tokenize_ok_iff.2 ⟨rfl, found⟩
    rw [listTokens_of_ok handed]
    exact ⟨fun _ => ⟨_, handed⟩, fun _ => rfl⟩
  | some lexical =>
    have missing := tokenize_error_iff.2 found
    rw [listTokens_of_fault found, missing]
    cases format <;> simp [showFault]

/-- Whether or not there is a fault, the tokens handed out are listed first. -/
theorem stdout_listTokens_text : (listTokens .text file text).stdout =
    linesOf ((Lexer.ofString text).drain.tokens.map tokenLine) := by
  cases found : (Lexer.ofString text).drain.fault with
  | none => rw [listTokens_of_ok (tokenize_ok_iff.2 ⟨rfl, found⟩)]
  | some lexical =>
    rw [listTokens_of_fault found, Output.stdout_append]
    exact String.append_empty

theorem stdout_answer_tokens {read : String → Except ReadFault String} (found : read file = .ok text) :
    ((Request.run .text (.tokens file)).answer read).stdout =
      linesOf ((Lexer.ofString text).drain.tokens.map tokenLine) := by
  rw [Request.answer_tokens found, stdout_listTokens_text]

/-- A lexical fault of a check is the one that ends the tokens handed out. -/
theorem drain_fault_of_lexical {cause : LexicalCause} {span : Span}
    (rejected : check text = .error ⟨.lexical cause, span⟩) :
    (Lexer.ofString text).drain.fault = some ⟨cause, span⟩ := by
  rcases fault_of_check rejected with ⟨-, token, refusal, -, other, -⟩ | ⟨lexical, missing, same, -⟩
  · cases other
  · obtain ⟨cause', span'⟩ := lexical
    cases same
    exact missing

/-- Any other fault of a check lies at one of the tokens handed out. -/
theorem exists_token_of_grammatical {cause : GrammarCause} {span : Span}
    (rejected : check text = .error ⟨.grammatical cause, span⟩) :
    ∃ token ∈ (Lexer.ofString text).drain.tokens, token.span = span := by
  rcases fault_of_check rejected with ⟨before, token, refusal, scanned, same, -⟩ | ⟨lexical, -, other, -⟩
  · exact ⟨token, scanned.subset (by simp), (congrArg Located.span same).symm⟩
  · cases other

/-- The text is made up of lines, and whatever lines these are, the rows are read from them. -/
def TellsRows (printed : String) (rows : List TokenRow) : Prop :=
  (∃ lines, (∀ line ∈ lines, IsLine line) ∧ linesOf lines = printed) ∧
    ∀ lines, (∀ line ∈ lines, IsLine line) → linesOf lines = printed → lines.map readTokenLine = rows

/-- The tokens that were scanned are read back from the list of them. -/
theorem tellsRows_of_scans {cursor cursor' : Cursor} {tokens : List Token} (h : cursor.Scans tokens cursor') :
    TellsRows (linesOf (tokens.map tokenLine)) (tokens.map Token.row) := by
  have lexemes : ∀ token ∈ tokens, IsLine token.lexeme := by
    induction h with
    | refl => exact List.forall_mem_nil _
    | @step cursor _ _ token _ scanned _ ih =>
      have shown := cursor.shownOnLine_scan
      rw [scanned] at shown
      exact List.forall_mem_cons.2 ⟨shown.1, ih⟩
  have each : ∀ line ∈ tokens.map tokenLine, IsLine line :=
    List.forall_mem_map.2 fun token found => isLine_tokenLine (lexemes token found)
  exact ⟨⟨_, each, rfl⟩, fun lines single same => rows_of_lines lexemes single same⟩

end Faults

/-- The commands about one file agree. A check and a trace of it end with the same exit code; where they
fail, the trace prints nothing but the report, which is the first line of those that the check prints. The
tokens are listed to the end just when there is no lexical fault among them, as in every program. Where
the check fails for a lexical fault, the list stops at the same one with the same report, behind the tokens
in front of it. Where it fails for another fault, that lies at one of the tokens listed. The tokens listed are
those that were scanned, and what is told of them is read back from the lines. -/
theorem commands_agree (read : String → Except ReadFault String) (file text : String)
    (found : read file = .ok text) (named : IsLine file) :
    let checked := (Request.run .text (.check [file])).answer read
    let listed := (Request.run .text (.tokens file)).answer read
    let traced := (Request.run .text (.trace file)).answer read
    checked.exit = traced.exit ∧
    (checked.exit ≠ 0 → ∃ fault hints, check text = .error fault ∧ traced.stdout = "" ∧
      traced.stderr = linesOf [(Report.ofFault file fault).render] ∧
      checked.stderr = linesOf ((Report.ofFault file fault).render :: hints) ∧
      ∀ line ∈ (Report.ofFault file fault).render :: hints, IsLine line) ∧
    (listed.exit = 0 ↔ ∃ tokens, (Lexer.ofString text).tokenize.1 = .ok tokens) ∧
    (checked.exit = 0 → listed.exit = 0) ∧
    (∀ cause span, check text = .error ⟨.lexical cause, span⟩ →
      listed.exit = 1 ∧ listed.stderr = traced.stderr ∧
        ∃ before cursor, (Cursor.start text.toList).Scans before cursor ∧
          cursor.scan.1 = .error ⟨cause, span⟩ ∧ listed.stdout = linesOf (before.map tokenLine) ∧
          TellsRows listed.stdout (before.map Token.row)) ∧
    ∀ cause span, check text = .error ⟨.grammatical cause, span⟩ →
      ∃ printed token cursor, (Cursor.start text.toList).Scans printed cursor ∧
        listed.stdout = linesOf (printed.map tokenLine) ∧ token ∈ printed ∧ token.span = span ∧
        TellsRows listed.stdout (printed.map Token.row) := by
  intro checked listed traced
  have checked_eq : checked = ⟨if (check text).isOk then 0 else 1,
      (checkFile .text file text).stdout, (checkFile .text file text).stderr⟩ := alone_eq found
  have listed_eq : listed = _ := Request.answer_tokens found
  have traced_eq : traced = _ := Request.answer_trace found
  have listed_zero : listed.exit = 0 ↔ (listTokens .text file text).ok = true := by
    rw [listed_eq]
    exact ite_eq_left_iff.trans (by simp)
  have stdout : listed.stdout = linesOf ((Lexer.ofString text).drain.tokens.map tokenLine) :=
    stdout_answer_tokens found
  refine ⟨?_, ?_, listed_zero.trans ok_listTokens_iff, ?_, ?_, ?_⟩
  · rw [checked_eq, traced_eq]
    cases outcome : check text with
    | ok =>
      obtain ⟨last, -, same⟩ := exists_checks text
      rw [outcome] at same
      rw [showTrace_of_ok same]
      rfl
    | error fault => rw [showTrace_of_fault outcome]; rfl
  · intro failed
    cases outcome : check text with
    | ok => rw [checked_eq, outcome] at failed; exact absurd rfl failed
    | error fault =>
      have lines := Report.isLine_reportLines named (isLine_message_of_check outcome)
      rw [checked_eq, traced_eq, checkFile_of_fault outcome, showTrace_of_fault outcome]
      exact ⟨fault, _, rfl, rfl, rfl, rfl, lines⟩
  · intro well
    rw [listed_zero, ok_listTokens_iff]
    have accepted : check text = .ok () := by
      cases outcome : check text with
      | ok => rfl
      | error fault => rw [checked_eq, outcome] at well; cases well
    exact ⟨_, tokenize_ok_iff.2 ⟨rfl, ((check_ok_iff_drain text).1 accepted).1⟩⟩
  · intro cause span rejected
    have missing := drain_fault_of_lexical rejected
    obtain ⟨cursor, scans, here⟩ := Lexer.scans_of_fault (Cursor.start text.toList) missing
    have stops : listed.exit = 1 := by
      rw [listed_eq, listTokens_of_fault missing]
      rfl
    have report : listed.stderr = traced.stderr := by
      rw [listed_eq, traced_eq, listTokens_of_fault missing, showTrace_of_fault rejected]
      exact String.empty_append
    exact ⟨stops, report, _, cursor, scans, here, stdout, stdout ▸ tellsRows_of_scans scans⟩
  · intro cause span rejected
    obtain ⟨token, among, place⟩ := exists_token_of_grammatical rejected
    obtain ⟨cursor, scans⟩ :=
      Lexer.scans_of_isPrefix (Cursor.start text.toList) (List.prefix_refl _)
    exact ⟨_, token, cursor, scans, stdout, among, place, stdout ▸ tellsRows_of_scans scans⟩

/-- A literal of two characters stops the list of tokens with the report that ends the trace. A name where
a field is due is listed, although the list stops behind it. -/
theorem commands_agree_field :
    (∃ read : String → Except ReadFault String, read "a" = .ok "type t \x7b var c = 'ab' \x7d" ∧
      ((Request.run .text (.check ["a"])).answer read).exit =
        ((Request.run .text (.trace "a")).answer read).exit ∧
      ((Request.run .text (.tokens "a")).answer read).exit = 1 ∧
      ((Request.run .text (.tokens "a")).answer read).stderr =
        ((Request.run .text (.trace "a")).answer read).stderr ∧
      ((Request.run .text (.tokens "a")).answer read).stdout = linesOf ["   1:1   KEYWORD  type",
        "   1:6   IDENT    t", "   1:8   SYMBOL   \x7b", "   1:10  KEYWORD  var",
        "   1:14  IDENT    c", "   1:16  SYMBOL   ="] ∧
      ∃ before cursor, (Cursor.start "type t \x7b var c = 'ab' \x7d".toList).Scans before cursor ∧
        cursor.scan.1 = .error ⟨.invalidCharLiteral, ⟨17, 19, 1, 18⟩⟩ ∧
        ((Request.run .text (.tokens "a")).answer read).stdout = linesOf (before.map tokenLine) ∧
        before.map Token.row = [⟨1, 1, "KEYWORD", "type"⟩, ⟨1, 6, "IDENT", "t"⟩, ⟨1, 8, "SYMBOL", "\x7b"⟩,
          ⟨1, 10, "KEYWORD", "var"⟩, ⟨1, 14, "IDENT", "c"⟩, ⟨1, 16, "SYMBOL", "="⟩]) ∧
    ∃ read : String → Except ReadFault String, read "a" = .ok "type t \x7b x \x7d $" ∧
      ((Request.run .text (.tokens "a")).answer read).exit ≠ 0 ∧
      ((Request.run .text (.tokens "a")).answer read).stdout = linesOf ["   1:1   KEYWORD  type",
        "   1:6   IDENT    t", "   1:8   SYMBOL   \x7b", "   1:10  IDENT    x", "   1:12  SYMBOL   \x7d"] ∧
      ∃ (printed : List Token) (token : Token),
        ((Request.run .text (.tokens "a")).answer read).stdout = linesOf (printed.map tokenLine) ∧
        token ∈ printed ∧ token.span = ⟨9, 10, 1, 10⟩ ∧
        printed.map Token.row = [⟨1, 1, "KEYWORD", "type"⟩, ⟨1, 6, "IDENT", "t"⟩, ⟨1, 8, "SYMBOL", "\x7b"⟩,
          ⟨1, 10, "IDENT", "x"⟩, ⟨1, 12, "SYMBOL", "\x7d"⟩] ∧
        (check "type t \x7b x \x7d $").toOption = none := by
  constructor
  · obtain ⟨read, found⟩ : ∃ read : String → Except ReadFault String,
        read "a" = .ok "type t \x7b var c = 'ab' \x7d" := ⟨fun _ => .ok _, rfl⟩
    have rejected : check "type t \x7b var c = 'ab' \x7d" =
        .error ⟨.lexical .invalidCharLiteral, ⟨17, 19, 1, 18⟩⟩ := by cbv
    have lines : (Lexer.ofString "type t \x7b var c = 'ab' \x7d").drain.tokens.map tokenLine =
        ["   1:1   KEYWORD  type", "   1:6   IDENT    t", "   1:8   SYMBOL   \x7b",
          "   1:10  KEYWORD  var", "   1:14  IDENT    c", "   1:16  SYMBOL   ="] := by cbv
    obtain ⟨exits, -, -, -, lexical, -⟩ := commands_agree read "a" _ found (by decide)
    obtain ⟨stops, report, before, cursor, scans, here, listed, -, rows⟩ := lexical _ _ rejected
    have literal := (stdout_answer_tokens found).trans (congrArg linesOf lines)
    have told := rows _ (by decide) literal.symm
    exact ⟨read, found, exits, stops, report, literal, before, cursor, scans, here, listed,
      told.symm.trans (by cbv)⟩
  · obtain ⟨read, found⟩ : ∃ read : String → Except ReadFault String,
        read "a" = .ok "type t \x7b x \x7d $" := ⟨fun _ => .ok _, rfl⟩
    have rejected : check "type t \x7b x \x7d $" = .error ⟨.grammatical
        (.unexpectedToken "field declaration or '\x7d'" "identifier 'x'"), ⟨9, 10, 1, 10⟩⟩ := by cbv
    have missing : (Lexer.ofString "type t \x7b x \x7d $").drain.fault =
        some ⟨.unexpectedChar '$', ⟨13, 14, 1, 14⟩⟩ := by cbv
    have lines : (Lexer.ofString "type t \x7b x \x7d $").drain.tokens.map tokenLine =
        ["   1:1   KEYWORD  type", "   1:6   IDENT    t", "   1:8   SYMBOL   \x7b",
          "   1:10  IDENT    x", "   1:12  SYMBOL   \x7d"] := by cbv
    obtain ⟨-, -, exit, -, -, grammatical⟩ := commands_agree read "a" _ found (by decide)
    obtain ⟨printed, token, cursor, -, stdout, among, place, -, rows⟩ := grammatical _ _ rejected
    have literal := (stdout_answer_tokens found).trans (congrArg linesOf lines)
    have told := rows _ (by decide) literal.symm
    have stopped : ((Request.run .text (.tokens "a")).answer read).exit ≠ 0 := by
      intro well
      obtain ⟨tokens, handed⟩ := exit.1 well
      rw [tokenize_error_iff.2 missing] at handed
      cases handed
    exact ⟨read, found, stopped, literal, printed, token, stdout, among, place, told.symm.trans (by cbv),
      by rw [rejected]; rfl⟩

end SyntaxCheck
