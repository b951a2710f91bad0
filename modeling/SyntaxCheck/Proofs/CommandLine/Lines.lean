import SyntaxCheck.Proofs.CommandLine.Files
import SyntaxCheck.Proofs.Recognizer.SingleLine

/-!
# Output in lines

Reports, expressions and tokens are printed one to a line. A line of a token list can be read back: the
columns may grow with their numbers, but each number ends where its digits do, and the lexeme is all that
is left behind the sort of the token.

* `Report.isLine_render` - a report is one line if the name of its file is;
* `TokenRow`, `readTokenLine`, `readTokenLine_tokenLine` - what a line tells of a token, and is read from it;
* `isLine_tokenLine`, `rows_of_lines` - one line for each token;
* `output_onLines` - all that is printed about a text.
-/

namespace SyntaxCheck

/-! ### Reports -/

/-- A report is one line if the name of the file and the message are. -/
theorem Report.isLine_render {file : String} {fault : Fault} (named : IsLine file)
    (line : IsLine fault.cause.message) : IsLine (ofFault file fault).render := by
  have phase : IsLine fault.cause.phase.name := by
    cases fault.cause.phase <;> simp [Phase.name, IsLine]
  have colon : IsLine ":" := by simp [IsLine]
  have before : IsLine ": " := by simp [IsLine]
  have behind : IsLine " error: " := by simp [IsLine]
  simp only [render, ofFault, isLine_append]
  exact ⟨⟨⟨⟨⟨⟨⟨⟨named, colon⟩, isLine_toString _⟩, colon⟩, isLine_toString _⟩, before⟩, phase⟩, behind⟩,
    line⟩

/-! ### Lines of a token list -/

/-- What a line of a token list tells of a token. -/
structure TokenRow where
  line : Nat
  column : Nat
  category : String
  lexeme : String
  deriving DecidableEq

/-- What is told of a token. -/
def Token.row (token : Token) : TokenRow :=
  ⟨token.span.line, token.span.column, token.terminal.category, token.lexeme⟩

/-- The number behind the blanks at the head of a text, and what follows its digits. -/
def splitNumber (text : List Char) : Nat × List Char :=
  let number := text.dropWhile (· == ' ')
  (Nat.ofDigitChars 10 (number.takeWhile Char.isDigit) 0, number.dropWhile Char.isDigit)

/-- Reads a line of a token list: two numbers with a colon between them, the sort of the token up to a
blank, and the lexeme behind the column of that. -/
def readTokenLine (text : String) : TokenRow :=
  let (line, text) := splitNumber text.toList
  let (column, text) := splitNumber text.tail
  let text := text.dropWhile (· == ' ')
  let category := text.takeWhile (· != ' ')
  ⟨line, column, String.ofList category, String.ofList (text.drop (max 8 category.length + 1))⟩

theorem splitNumber_digits (blanks n : Nat) (rest : List Char)
    (ends : ∀ c ∈ rest.head?, c.isDigit = false) :
    splitNumber (List.replicate blanks ' ' ++ (Nat.toDigits 10 n ++ rest)) = (n, rest) := by
  have blank : ∀ c ∈ List.replicate blanks ' ', (c == ' ') = true := fun c found =>
    beq_iff_eq.2 (List.eq_of_mem_replicate found)
  have digits : ∀ c ∈ Nat.toDigits 10 n, c.isDigit = true := List.all_eq_true.1 (Json.all_toDigits n)
  have starts : ∀ c ∈ (Nat.toDigits 10 n ++ rest).head?, (c == ' ') = false := by
    intro c found
    cases shown : Nat.toDigits 10 n with
    | nil => exact absurd shown Nat.toDigits_ne_nil
    | cons d more =>
      rw [shown] at found digits
      cases found
      refine beq_eq_false_iff_ne.2 ?_
      rintro rfl
      exact absurd (digits ' ' List.mem_cons_self) (by decide)
  have value : Nat.ofDigitChars 10 (Nat.toDigits 10 n) 0 = n := Nat.ofDigitChars_ten_toDigits
  rw [splitNumber, dropWhile_run blank starts, takeWhile_run digits ends, dropWhile_run digits ends, value]

theorem splitNumber_padStart (width n : Nat) (rest : List Char)
    (ends : ∀ c ∈ rest.head?, c.isDigit = false) :
    splitNumber (padStart width (Nat.toDigits 10 n) ++ rest) = (n, rest) := by
  rw [padStart, List.append_assoc]
  exact splitNumber_digits _ n rest ends

/-- A text that is filled up is followed by a blank in any case. -/
theorem padEnd_append_blank (width : Nat) (text rest : List Char) :
    padEnd width text ++ ' ' :: rest =
      text ++ ' ' :: (List.replicate (width - text.length) ' ' ++ rest) := by
  rw [padEnd, List.append_assoc, ← List.singleton_append (l := rest), ← List.append_assoc _ [' '],
    ← List.replicate_succ']
  rfl

theorem length_padEnd (width : Nat) (text : List Char) :
    (padEnd width text).length = max width text.length := by
  rw [padEnd, List.length_append, List.length_replicate]
  omega

/-- The sort of a token is one word. -/
theorem Terminal.category_word (t : Terminal) :
    t.category.toList ≠ [] ∧ ∀ c ∈ t.category.toList, c ≠ ' ' ∧ c ≠ '\n' := by
  cases t <;> simp [category]

theorem splitNumber_padEnd (width n : Nat) (rest : List Char) :
    (splitNumber (padEnd width (Nat.toDigits 10 n) ++ ' ' :: rest)).1 = n ∧
      (splitNumber (padEnd width (Nat.toDigits 10 n) ++ ' ' :: rest)).2.dropWhile (· == ' ') =
        rest.dropWhile (· == ' ') := by
  have found := splitNumber_digits 0 n
    (' ' :: (List.replicate (width - (Nat.toDigits 10 n).length) ' ' ++ rest)) (by simp)
  rw [List.replicate_zero, List.nil_append, ← padEnd_append_blank] at found
  rw [found]
  refine ⟨rfl, ?_⟩
  rw [List.dropWhile_cons_of_pos (by decide), List.dropWhile_append_of_pos]
  exact fun c blank => beq_iff_eq.2 (List.eq_of_mem_replicate blank)

/-- A word that is filled up, and what stands behind it. -/
theorem split_padEnd (width : Nat) {word : List Char} (rest : List Char) (some : word ≠ [])
    (solid : ∀ c ∈ word, c ≠ ' ') :
    (padEnd width word ++ ' ' :: rest).dropWhile (· == ' ') = padEnd width word ++ ' ' :: rest ∧
      (padEnd width word ++ ' ' :: rest).takeWhile (· != ' ') = word ∧
      (padEnd width word ++ ' ' :: rest).drop (max width word.length + 1) = rest := by
  refine ⟨?_, ?_, ?_⟩
  · obtain ⟨c, more, rfl⟩ := List.exists_cons_of_ne_nil some
    exact List.dropWhile_cons_of_neg (by simpa using solid c List.mem_cons_self)
  · rw [padEnd_append_blank]
    exact takeWhile_run (fun c found => bne_iff_ne.2 (solid c found)) (by simp)
  · rw [← length_padEnd, ← List.drop_drop, List.drop_left]
    rfl

/-- The line of a token tells its place, its sort and its lexeme, however large the numbers are and
whatever is in the lexeme. -/
theorem readTokenLine_tokenLine (token : Token) : readTokenLine (tokenLine token) = token.row := by
  obtain ⟨some, word⟩ := token.terminal.category_word
  -- from the end: what is read behind each column
  obtain ⟨starts, category, lexeme⟩ := split_padEnd 8 token.lexeme.toList some
    fun c found => (word c found).1
  generalize behind_column : padEnd 8 token.terminal.category.toList ++ ' ' :: token.lexeme.toList = sort
    at starts category lexeme
  obtain ⟨column, skipped⟩ := splitNumber_padEnd 3 token.span.column sort
  have line := splitNumber_padStart 4 token.span.line
    (':' :: (padEnd 3 (Nat.toDigits 10 token.span.column) ++ ' ' :: sort)) (by simp)
  have columns : (tokenLine token).toList = padStart 4 (Nat.toDigits 10 token.span.line) ++ ':' ::
      (padEnd 3 (Nat.toDigits 10 token.span.column) ++ ' ' :: sort) := by
    simp [tokenLine, ← behind_column]
  simp only [readTokenLine, columns, line, List.tail_cons, column, skipped, starts, category, lexeme,
    String.ofList_toList]
  rfl

/-- It is one line if the lexeme is. -/
theorem isLine_tokenLine {token : Token} (line : IsLine token.lexeme) : IsLine (tokenLine token) := by
  obtain ⟨-, word⟩ := token.terminal.category_word
  have category : '\n' ∉ token.terminal.category.toList := fun found => (word _ found).2 rfl
  have lexeme : '\n' ∉ token.lexeme.toList := line
  rw [tokenLine, isLine_ofList]
  simp [padStart, padEnd, notMem_toDigits, category, lexeme]

/-- Every token of a text has one line in the list, and what is told of it is read from that line. -/
theorem rows_of_lines {tokens : List Token} {lines : List String}
    (single : ∀ token ∈ tokens, IsLine token.lexeme) (each : ∀ line ∈ lines, IsLine line)
    (printed : linesOf lines = linesOf (tokens.map tokenLine)) :
    lines.map readTokenLine = tokens.map Token.row := by
  have rows : ∀ line ∈ tokens.map tokenLine, IsLine line := by
    intro line found
    obtain ⟨token, among, rfl⟩ := List.mem_map.1 found
    exact isLine_tokenLine (single token among)
  rw [linesOf_injective each rows printed, List.map_map]
  exact List.map_congr_left fun token _ => readTokenLine_tokenLine token

/-! ### Commands about one file -/

section Commands

variable {format : Format} {read : String → Except ReadFault String} {file text : String}

theorem Request.answer_tokens (found : read file = .ok text) :
    (run format (.tokens file)).answer read =
      ⟨if (listTokens format file text).ok then 0 else 1, (listTokens format file text).stdout,
        (listTokens format file text).stderr⟩ := by
  rw [answer, Command.output, withText, found]

theorem Request.answer_trace (found : read file = .ok text) :
    (run format (.trace file)).answer read =
      ⟨if (showTrace format file text).ok then 0 else 1, (showTrace format file text).stdout,
        (showTrace format file text).stderr⟩ := by
  rw [answer, Command.output, withText, found]

/-- The tokens of a text that has no lexical fault are listed. -/
theorem listTokens_of_ok {tokens : List Token} (handed : (Lexer.ofString text).tokenize.1 = .ok tokens) :
    listTokens format file text = ⟨linesOf (tokens.map tokenLine), "", true⟩ := by
  obtain ⟨rfl, clean⟩ := tokenize_ok_iff.1 handed
  rw [listTokens, clean]

/-- The expressions of a program are listed. -/
theorem showTrace_of_ok {record : Derivation} (accepted : trace text = (.ok (), record)) :
    showTrace .text file text = ⟨linesOf record.expressions, "", true⟩ := by
  rw [showTrace, accepted]
  rfl

end Commands

/-- Nothing that comes of a text goes over the end of a line: no lexeme, no message and no expression, in
whatever order its tokens are asked for and its sessions are checked. So a report on a file with a name on
one line is one line, every expression of a program is printed on one line, and so is every token of a text
that has no lexical fault. Whatever lines make up the list of tokens, what is told of each of them is read
back from its line, the end of the input included. -/
theorem output_onLines (text : String) (asked : List Lexer.Call) (calls : List Session.Call) :
    (∀ answer ∈ ((Lexer.ofString text).calls asked).1,
      (∀ token ∈ answer.tokens, IsLine token.lexeme) ∧
      ∀ fault, answer = .error fault → IsLine fault.cause.message ∧
        ∀ file, IsLine file → IsLine (Report.ofFault file fault.toFault).render) ∧
    (∀ record, (Session.reached text asked calls).record = some record →
      ∀ expression ∈ record.expressions, IsLine expression) ∧
    (∀ fault, (Session.reached text asked calls).parse.1.outcome = .error fault →
      IsLine fault.cause.message ∧ ∀ file, IsLine file → IsLine (Report.ofFault file fault).render) ∧
    ∀ (read : String → Except ReadFault String) (file : String), read file = .ok text →
      (∀ record, trace text = (.ok (), record) →
        let printed := ((Request.run .text (.trace file)).answer read).stdout
        printed = linesOf record.expressions ∧ (∀ line ∈ record.expressions, IsLine line) ∧
          lineCount printed.toList = record.expressions.length) ∧
      ∀ format tokens, (Lexer.ofString text).tokenize.1 = .ok tokens →
        let printed := ((Request.run format (.tokens file)).answer read).stdout
        printed = linesOf (tokens.map tokenLine) ∧ (∀ token ∈ tokens, IsLine (tokenLine token)) ∧
          lineCount printed.toList = tokens.length ∧
          (∃ before last, tokens = before ++ [last] ∧ last.isEndOfInput = true ∧
            ∀ token ∈ before, token.isEndOfInput = false) ∧
          (∀ token ∈ tokens, readTokenLine (tokenLine token) = token.row) ∧
          ∀ lines, (∀ line ∈ lines, IsLine line) → linesOf lines = printed →
            lines.map readTokenLine = tokens.map Token.row := by
  have reached := Session.onLines_reached text asked calls
  refine ⟨fun answer among => ?_, fun record kept => ?_, fun fault rejected => ?_,
    fun read file found => ⟨fun record accepted => ?_, fun format tokens handed => ?_⟩⟩
  · obtain ⟨tokens, faults⟩ := Lexer.shownOnLine_calls text asked among
    exact ⟨fun token found => (tokens token found).1, fun fault same =>
      ⟨faults fault same, fun file named => Report.isLine_render named (faults fault same)⟩⟩
  · exact Derivation.isLine_expressions (reached.record record kept)
  · have line := reached.checks.2 fault rejected
    exact ⟨line, fun file named => Report.isLine_render named line⟩
  · have kept : record = (trace text).2 := by rw [accepted]
    have each := kept ▸ Derivation.isLine_expressions (onLines_trace text)
    have printed : ((Request.run .text (.trace file)).answer read).stdout =
        linesOf record.expressions := by
      rw [Request.answer_trace found, showTrace_of_ok accepted]
    dsimp only
    rw [printed]
    exact ⟨rfl, each, lineCount_linesOf each⟩
  · have printed : ((Request.run format (.tokens file)).answer read).stdout =
        linesOf (tokens.map tokenLine) := by
      rw [Request.answer_tokens found, listTokens_of_ok handed]
    obtain ⟨rfl, clean⟩ := tokenize_ok_iff.1 handed
    obtain ⟨before, last, split, ended, others⟩ := Lexer.exists_drain_eq_concat clean
    have lexemes : ∀ token ∈ (Lexer.ofString text).drain.tokens, IsLine token.lexeme := by
      have called := Lexer.shownOnLine_calls text [.tokenize] List.mem_cons_self
      intro token found
      refine (called.1 token ?_).1
      rw [Lexer.call, handed]
      exact found
    have each : ∀ line ∈ (Lexer.ofString text).drain.tokens.map tokenLine, IsLine line :=
      List.forall_mem_map.2 fun token found => isLine_tokenLine (lexemes token found)
    dsimp only
    rw [printed]
    refine ⟨rfl, List.forall_mem_map.1 each, ?_, ⟨before, last, split, ended, others⟩,
      fun token _ => readTokenLine_tokenLine token, fun lines single same => rows_of_lines lexemes single same⟩
    rw [lineCount_linesOf each, List.length_map]

/-- A string that holds a colon and a blank is read back from its line, and so is the end of the input
behind it. A character that starts no token is reported on one line. -/
theorem output_onLines_colon :
    ∃ read : String → Except ReadFault String,
      ((Request.run .text (.trace "a")).answer read).stdout = "\": \"\n" ∧
      (∀ lines, (∀ line ∈ lines, IsLine line) →
        linesOf lines = ((Request.run .text (.tokens "a")).answer read).stdout →
        lines.map readTokenLine = [⟨1, 1, "KEYWORD", "type"⟩, ⟨1, 6, "IDENT", "t"⟩,
          ⟨1, 8, "SYMBOL", "\x7b"⟩, ⟨2, 1, "KEYWORD", "var"⟩, ⟨2, 5, "IDENT", "s"⟩, ⟨2, 7, "SYMBOL", "="⟩,
          ⟨2, 9, "STRING", "\": \""⟩, ⟨2, 14, "SYMBOL", "\x7d"⟩, ⟨2, 15, "EOF", ""⟩]) ∧
      ∃ fault, check "$" = .error fault ∧ IsLine (Report.ofFault "a" fault).render := by
  have accepted : trace "type t \x7b\nvar s = \": \" \x7d" = (.ok (), [.enter .program,
      .enter .typeDefinition, .enter .declaration, .operand "\": \""]) := by cbv
  have handed := tokenize_ok_iff.2
    ⟨rfl, show (Lexer.ofString "type t \x7b\nvar s = \": \" \x7d").drain.fault = none by cbv⟩
  have rejected : check "$" = .error ⟨.lexical (.unexpectedChar '$'), ⟨0, 1, 1, 1⟩⟩ := by cbv
  obtain ⟨-, -, -, printed⟩ := output_onLines "type t \x7b\nvar s = \": \" \x7d" [] []
  obtain ⟨-, -, reports, -⟩ := output_onLines "$" [] []
  obtain ⟨traced, listed⟩ := printed (fun _ => .ok "type t \x7b\nvar s = \": \" \x7d") "a" rfl
  refine ⟨_, (traced _ accepted).1, fun lines single same => ?_, _, rejected,
    (reports _ rejected).2 "a" (by decide)⟩
  obtain ⟨-, -, -, -, -, rows⟩ := listed .text _ handed
  rw [rows lines single same]
  cbv

end SyntaxCheck
