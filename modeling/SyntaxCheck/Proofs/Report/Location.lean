import SyntaxCheck.Report.Feedback
import SyntaxCheck.Proofs.Lexeme.SingleLine
import SyntaxCheck.Proofs.Recognizer.Locality

/-!
# Diagnostics point into their file

The place of a fault is on a line of the text. It is in front of a character other than a newline, unless the
input ends there: then it is behind the last character, which may be on a line that is not counted.

* `getElem?_splitOn_lineAt`, `columnAt_add_length` - the line and column of a place, and the parts between
  newlines;
* `lineAt_le_lineCount`, `lineAt_end` - how the line of a place compares with the number of lines;
* `Span.PointsInto`, `streamOf_pointsInto` - where the tokens and faults of a text are;
* `check_fault_pointsInto` - so is the fault of a check, unless it is at the end of the input;
* `Feedback.diagnostics_ofCheck` - what the feedback says about the place.
-/

namespace SyntaxCheck

/-! ### Lines of a text -/

/-- Each newline separates two parts. -/
theorem length_splitOn_newline (text : List Char) :
    (text.splitOn '\n').length = text.count '\n' + 1 := by
  induction text with
  | nil => rfl
  | cons c text ih =>
    rw [List.splitOn_cons_eq_if_modifyHead]
    by_cases newline : c = '\n'
    · simp [newline, ih]
    · simp [newline, ih, List.count_cons_of_ne newline]

/-- The first line goes up to the first newline. -/
theorem getElem?_splitOn_zero (text : List Char) :
    (text.splitOn '\n')[0]? = some (text.takeWhile (· ≠ '\n')) := by
  induction text with
  | nil => rfl
  | cons c text ih =>
    rw [List.splitOn_cons_eq_if_modifyHead]
    by_cases newline : c = '\n'
    · simp [newline]
    · cases lines : text.splitOn '\n' with
      | nil => exact absurd lines (List.splitOn_ne_nil _ _)
      | cons line lines' =>
        rw [lines] at ih
        simp_all

/-- The characters around a place up to the next newlines. -/
def lineOf (before behind : List Char) : List Char :=
  before.rtakeWhile (· ≠ '\n') ++ behind.takeWhile (· ≠ '\n')

/-- The newlines in front of a place say which line it is on. -/
theorem getElem?_splitOn_count (before behind : List Char) :
    ((before ++ behind).splitOn '\n')[before.count '\n']? = some (lineOf before behind) := by
  -- the last character before the place is moved behind it, or it ends another line
  induction before using List.reverseRecOn generalizing behind with
  | nil => exact getElem?_splitOn_zero behind
  | append_singleton before c ih =>
    by_cases newline : c = '\n'
    · subst newline
      have lines := length_splitOn_newline before
      rw [List.append_assoc, List.singleton_append, List.splitOn_append_cons_self,
        List.getElem?_append_right (by simp [lines]), lines]
      simpa [lineOf] using getElem?_splitOn_zero behind
    · have moved := ih (c :: behind)
      simpa [lineOf, newline] using moved

theorem lineAt_append (before behind : List Char) :
    lineAt (before ++ behind) before.length = 1 + before.count '\n' := by
  rw [lineAt, List.take_left]

/-- The line of a place is one of the parts between newlines. -/
theorem getElem?_splitOn_lineAt (before behind : List Char) :
    ((before ++ behind).splitOn '\n')[lineAt (before ++ behind) before.length - 1]? =
      some (lineOf before behind) := by
  rw [lineAt_append, Nat.add_sub_cancel_left]
  exact getElem?_splitOn_count before behind

/-- The column of a place, and the characters from there to the end of the line. -/
theorem columnAt_add_length (before behind : List Char) :
    columnAt (before ++ behind) before.length + (behind.takeWhile (· ≠ '\n')).length =
      (lineOf before behind).length + 1 := by
  rw [columnAt, List.take_left, lineOf, List.length_append]
  omega

theorem lineCount_pos {text : List Char} (some : text ≠ []) : 0 < lineCount text := by
  rcases List.eq_nil_or_concat text with rfl | ⟨text, c, rfl⟩
  · exact absurd rfl some
  · unfold lineCount
    rw [List.concat_eq_append, List.count_append, List.getLast?_append]
    by_cases newline : c = '\n' <;> simp [newline]

theorem lineCount_append (before : List Char) {behind : List Char} (some : behind ≠ []) :
    lineCount (before ++ behind) = before.count '\n' + lineCount behind := by
  unfold lineCount
  rw [List.count_append, List.getLast?_append_of_ne_nil _ some, Nat.add_assoc]

/-- The line of a character is one of those that are counted. -/
theorem lineAt_le_lineCount (before : List Char) {behind : List Char} (some : behind ≠ []) :
    lineAt (before ++ behind) before.length ≤ lineCount (before ++ behind) := by
  have pos := lineCount_pos some
  rw [lineAt_append, lineCount_append before some]
  omega

/-- The end of a text is on its last line, or behind that if a newline ends it. -/
theorem lineAt_end {text : List Char} (some : text ≠ []) :
    lineAt text text.length = lineCount text + if text.getLast? = .some '\n' then 1 else 0 := by
  rcases List.eq_nil_or_concat text with rfl | ⟨text, c, rfl⟩
  · exact absurd rfl some
  · unfold lineAt lineCount
    rw [List.take_length, List.concat_eq_append, List.getLast?_append]
    by_cases newline : c = '\n'
    · simp [newline]
      omega
    · simp [newline]
      omega

/-! ### Where a scan stops -/

/-- The part starts in front of a character of the text that is no newline. -/
def Span.PointsInto (span : Span) (text : List Char) : Prop :=
  ∃ before c behind, text = before ++ c :: behind ∧ c ≠ '\n' ∧ span.start = before.length

theorem Span.PointsInto.start_lt {span : Span} {text : List Char} (h : span.PointsInto text) :
    span.start < text.length := by
  obtain ⟨before, c, behind, rfl, -, start⟩ := h
  rw [start, List.length_append, List.length_cons]
  omega

/-- A scan finds the end of the input, or something in front of a character that is no newline. -/
theorem Cursor.StandsIn.scan_pointsInto {cursor : Cursor} {text : List Char}
    (h : cursor.StandsIn text) : (∃ token, cursor.scan.1 = .ok token ∧ token.isEndOfInput = true) ∨
      (spanOf cursor.scan.1).PointsInto text := by
  obtain ⟨before, rfl, place⟩ := h
  have offset : ∀ skipped : List Char,
      (cursor.position.after skipped).offset = (before ++ skipped).length := by
    intro skipped
    simp [place, Position.first]
  unfold Cursor.scan
  split
  rename_i skipped behind split_eq
  obtain ⟨all, skips⟩ := splitTrivia_eq_iff.1 split_eq
  dsimp only
  split
  · exact .inl ⟨_, rfl, rfl⟩
  · rename_i c behind
    -- a newline would have been skipped
    have line : c ≠ '\n' := by
      rintro rfl
      exact absurd (skips.stops '\n' rfl).1 (by decide)
    right
    unfold Cursor.scanLexeme
    split
    · exact ⟨before ++ skipped, c, behind, by rw [← all, List.append_assoc], line, offset skipped⟩
    · rename_i cause ahead reported rest read
      obtain ⟨d, more, same, line'⟩ := (staysOnLine_readLexeme line read).starts
      have whole := readLexeme_append c behind
      rw [read, same] at whole
      have whole : ahead ++ d :: more ++ rest = c :: behind := whole
      refine ⟨before ++ (skipped ++ ahead), d, more ++ rest, ?_, line', ?_⟩
      · rw [← all, ← whole]
        simp
      · show ((cursor.position.after skipped).after ahead).offset = _
        rw [← Position.after_append, offset]

/-! ### Where a check fails -/

/-- Every token and fault of the stream of a text lies in it. -/
theorem spanOf_fitsIn (text : String) (n : Nat) :
    (spanOf (streamOf text n)).FitsIn text.toList := by
  have stands := Lexer.standsIn_advanced text.toList n
  have finds := Lexer.finds_outcome text.toList n
  show (spanOf ((Lexer.start text.toList).outcome n)).FitsIn text.toList
  cases found : (Lexer.start text.toList).outcome n with
  | ok token =>
    rw [found] at finds
    exact (stands.of_token finds).1.fits
  | error fault =>
    rw [found] at finds
    exact stands.of_fault finds

/-- All but the end of the input starts in front of a character that is no newline. -/
theorem streamOf_pointsInto (text : String) (n : Nat) :
    (∃ token, streamOf text n = .ok token ∧ token.isEndOfInput = true) ∨
      (spanOf (streamOf text n)).PointsInto text.toList := by
  have scanned := (Lexer.standsIn_advanced text.toList n).scan_pointsInto
  rwa [Lexer.scan_advanced] at scanned

section Rejected

variable {text : String} {fault : Fault}

/-- The fault is where a token or fault of the stream is. -/
theorem span_of_checks {stream : Outcomes} {entries : Derivation} {last : Nat}
    (checks : stream.Checks 0 [.program] entries (.error fault) last) :
    fault.span = spanOf (stream last) := by
  rcases checks.of_fault rfl with ⟨token, refusal, found, rfl⟩ | ⟨lexical, found, rfl⟩ <;>
    rw [found] <;> rfl

/-- The fault of a text lies in it. -/
theorem check_fault_fitsIn (rejected : check text = .error fault) :
    fault.span.FitsIn text.toList := by
  obtain ⟨last, checks, -⟩ := exists_checks text
  rw [rejected] at checks
  rw [span_of_checks checks]
  exact spanOf_fitsIn text last

/-- A fault starts in front of a character that is no newline, or it is at the end of the input. -/
theorem check_fault_pointsInto (rejected : check text = .error fault) :
    fault.AtEnd text ∨ fault.span.PointsInto text.toList := by
  obtain ⟨last, checks, -⟩ := exists_checks text
  rw [rejected] at checks
  rcases streamOf_pointsInto text last with ⟨token, found, ended⟩ | points
  · -- no check goes beyond the end of the input
    obtain ⟨n, -, ends⟩ := (Lexer.ofString text).exists_end
    have le := checks.le_end ends (Nat.zero_le n)
    have same : last = n := by
      refine Nat.le_antisymm le (Nat.le_of_not_lt fun less => ?_)
      rw [ends.first last less token found] at ended
      cases ended
    exact .inl (Fault.atEnd_of_checks checks (same ▸ ends))
  · rw [span_of_checks checks]
    exact .inr points

/-- The token that ends the input is behind all of the text. -/
theorem Tiles.start_of_isEndOfInput {p : Position} {text : List Char} {tokens : List Token}
    (h : Tiles p text tokens) :
    ∀ token ∈ tokens, token.isEndOfInput = true → token.span.start = p.offset + text.length := by
  induction h with
  | @endOfInput p gap =>
    intro token among _
    rw [List.mem_singleton.1 among]
    exact Position.offset_after p gap
  | token _ isLexeme _ _ ih =>
    intro token among ended
    rcases List.mem_cons.1 among with rfl | among
    · rw [isLexeme.goesOn] at ended
      cases ended
    · rw [ih token among ended]
      simp only [Position.offset_after, List.length_append]
      omega

theorem Fault.AtEnd.start_eq (h : fault.AtEnd text) : fault.span.start = text.toList.length := by
  obtain ⟨tokens, token, found, among, ended, same⟩ := h
  rw [same, (Lexer.tokenize_ok_iff_tiles.1 found).start_of_isEndOfInput token among ended]
  exact Nat.zero_add _

/-- The empty text is a program. -/
theorem ne_nil_of_rejected (rejected : check text = .error fault) : text.toList ≠ [] := by
  intro none
  obtain rfl := String.toList_eq_nil_iff.1 none
  have accepted : check "" = .ok () := by cbv
  rw [accepted] at rejected
  cases rejected

/-- At the end of the input, the column is the one behind the last of its line. The line is counted unless it
is empty. -/
theorem Fault.AtEnd.place (h : fault.AtEnd text) (fits : fault.span.FitsIn text.toList)
    (some : text.toList ≠ []) : ∃ line,
      (text.toList.splitOn '\n')[fault.span.line - 1]? = .some line ∧
      fault.span.column = line.length + 1 ∧
      fault.span.line =
        lineCount text.toList + if text.toList.getLast? = .some '\n' then 1 else 0 := by
  have found := getElem?_splitOn_lineAt text.toList []
  have column := columnAt_add_length text.toList []
  rw [List.append_nil] at found column
  rw [fits.line_eq, fits.column_eq, h.start_eq]
  exact ⟨_, found, column, lineAt_end some⟩

/-- In front of a character that is no newline, the line is counted, and the column is one of its columns. -/
theorem Span.PointsInto.place {span : Span} {text : List Char} (h : span.PointsInto text)
    (fits : span.FitsIn text) : ∃ line, (text.splitOn '\n')[span.line - 1]? = .some line ∧
      span.column ≤ line.length ∧ span.line ≤ lineCount text := by
  obtain ⟨before, c, behind, rfl, newline, start⟩ := h
  have column := columnAt_add_length before (c :: behind)
  rw [List.takeWhile_cons_of_pos (by simpa using newline), List.length_cons] at column
  rw [fits.line_eq, fits.column_eq, start]
  exact ⟨_, getElem?_splitOn_lineAt before (c :: behind), by omega,
    lineAt_le_lineCount before (List.cons_ne_nil c behind)⟩

/-- The line and the column of a fault are those of a place in the text. -/
theorem check_fault_place (rejected : check text = .error fault) : ∃ line,
    1 ≤ fault.span.line ∧ fault.span.line ≤ lineCount text.toList + 1 ∧
      (fault.span.line = lineCount text.toList + 1 ↔
        fault.AtEnd text ∧ text.toList.getLast? = some '\n') ∧
      (text.toList.splitOn '\n')[fault.span.line - 1]? = some line ∧
      1 ≤ fault.span.column ∧ fault.span.column ≤ line.length + 1 ∧
      (fault.span.column = line.length + 1 ↔ fault.AtEnd text) := by
  have fits := check_fault_fitsIn rejected
  have line_pos : 1 ≤ fault.span.line := by rw [fits.line_eq, lineAt]; omega
  have column_pos : 1 ≤ fault.span.column := by rw [fits.column_eq, columnAt]; omega
  rcases check_fault_pointsInto rejected with ends | points
  · obtain ⟨line, found, column, last⟩ := ends.place fits (ne_nil_of_rejected rejected)
    refine ⟨line, line_pos, ?_, ?_, found, column_pos, by omega, iff_of_true column ends⟩
    · split at last <;> omega
    · rw [last, Nat.add_left_cancel_iff]
      by_cases newline : text.toList.getLast? = some '\n' <;> simp [newline, ends]
  · obtain ⟨line, found, column, counted⟩ := points.place fits
    have notEnd : ¬fault.AtEnd text := fun ends =>
      Nat.lt_irrefl _ (ends.start_eq ▸ points.start_lt)
    refine ⟨line, line_pos, by omega, ?_, found, column_pos, by omega, ?_⟩
    · exact iff_of_false (by omega) fun ends => notEnd ends.1
    · exact iff_of_false (by omega) notEnd

end Rejected

/-! ### Diagnostics -/

/-- The feedback on a text says that it fails just if the check does, and then there is one diagnostic. It
names the file and a line of the text, and a column of that line or the one behind the last. Only the end of
the input has a column behind the last, and it alone may be on a line that is not counted, if a newline ends
the text. -/
theorem Feedback.diagnostics_ofCheck (file text : String) (parseTime : Nat) :
    let feedback := ofCheck file text parseTime
    (feedback.success = true ↔ check text = .ok ()) ∧
    (feedback.success = true → feedback.diagnostics = []) ∧
    ∀ fault, check text = .error fault → ∃ report line,
      feedback.success = false ∧ feedback.diagnostics = [report] ∧ report.place.file = file ∧
      1 ≤ report.place.line ∧ report.place.line ≤ feedback.stats.lines + 1 ∧
      (report.place.line = feedback.stats.lines + 1 ↔
        fault.AtEnd text ∧ text.toList.getLast? = some '\n') ∧
      (text.toList.splitOn '\n')[report.place.line - 1]? = some line ∧
      1 ≤ report.place.column ∧ report.place.column ≤ line.length + 1 ∧
      (report.place.column = line.length + 1 ↔ fault.AtEnd text) := by
  intro feedback
  have success : feedback.success = (check text).isOk := rfl
  have diagnostics : feedback.diagnostics = reports file (check text) := rfl
  refine ⟨?_, fun accepted => ?_, fun fault rejected => ?_⟩
  · rw [success]
    cases check text <;> simp [Except.isOk, Except.toBool]
  · rw [success] at accepted
    rw [diagnostics]
    cases outcome : check text with
    | ok => rfl
    | error fault =>
      rw [outcome] at accepted
      cases accepted
  obtain ⟨line, place⟩ := check_fault_place rejected
  refine ⟨.ofFault file fault, line, ?_, ?_, rfl, place⟩
  · rw [success, rejected]
    rfl
  · rw [diagnostics, rejected]
    rfl

/-- An unclosed block is missed at the end of the input, behind the only line. -/
theorem Feedback.diagnostics_ofCheck_unclosed :
    let feedback := ofCheck "bad.tsl" "fun void main() \x7b\n" 0
    ∃ fault report, check "fun void main() \x7b\n" = .error fault ∧ feedback.diagnostics = [report] ∧
      report.place = ⟨"bad.tsl", 2, 1⟩ ∧ feedback.stats.lines = 1 ∧
      fault.AtEnd "fun void main() \x7b\n" := by
  intro feedback
  have rejected : check "fun void main() \x7b\n" =
      .error ⟨.grammatical .unterminatedBlock, ⟨18, 18, 2, 1⟩⟩ := by cbv
  obtain ⟨-, -, points⟩ := diagnostics_ofCheck "bad.tsl" "fun void main() \x7b\n" 0
  obtain ⟨report, line, -, only, -, -, -, last, -⟩ := points _ rejected
  have place : report.place = ⟨"bad.tsl", 2, 1⟩ := by
    have same : reports "bad.tsl" (check "fun void main() \x7b\n") = [report] := only
    rw [rejected] at same
    injection same with same
    exact same ▸ rfl
  have behind : report.place.line = feedback.stats.lines + 1 := by rw [place]; rfl
  exact ⟨_, report, rejected, only, place, rfl, (last.1 behind).1⟩

end SyntaxCheck
