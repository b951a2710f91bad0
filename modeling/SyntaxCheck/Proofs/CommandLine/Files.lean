import SyntaxCheck.CommandLine.Output
import SyntaxCheck.Proofs.Report.Location
import SyntaxCheck.Proofs.Report.Roundtrip

/-!
# Several files are checked one after the other

The output of checking files is made of what would be printed about each of them alone, up to the first one
that cannot be read.

* `Feedback.fits_ofCheck` - the numbers of the feedback fit into words;
* `checkFiles_append`, `checkFiles_unreadable` - files that can be read, and the first one that cannot;
* `Request.answer_check` - the output and the exit code of a check of files.
-/

namespace SyntaxCheck

/-! ### Numbers of feedback -/

theorem lineAt_le (text : List Char) (offset : Nat) : lineAt text offset ≤ 1 + text.length := by
  have count := (List.count_le_length (a := '\n') (l := text.take offset))
  rw [List.length_take] at count
  unfold lineAt
  omega

theorem columnAt_le (text : List Char) (offset : Nat) : columnAt text offset ≤ 1 + text.length := by
  have suffix := (List.rtakeWhile_suffix (· ≠ '\n') (text.take offset)).length_le
  rw [List.length_take] at suffix
  unfold columnAt
  omega

/-- A text has no more lines than characters. -/
theorem lineCount_le (text : List Char) : lineCount text ≤ text.length := by
  rcases List.eq_nil_or_concat text with rfl | ⟨text, c, rfl⟩
  · exact Nat.le_refl _
  · have count := (List.count_le_length (a := '\n') (l := text))
    unfold lineCount
    rw [List.concat_eq_append, List.count_append, List.length_append, List.getLast?_append]
    by_cases newline : c = '\n'
    · simp [newline]
      omega
    · simp [newline]
      omega

/-- The numbers of the feedback on a text fit into words if its length does. -/
theorem Feedback.fits_ofCheck (file text : String) {parseTime : Nat} (short : text.length < Json.wordMax)
    (soon : parseTime ≤ Json.wordMax) : (Feedback.ofCheck file text parseTime).Fits := by
  rw [← String.length_toList] at short
  refine ⟨fun report mem => ?_, soon, Nat.le_trans (lineCount_le _) (Nat.le_of_lt short)⟩
  unfold ofCheck reports at mem
  cases outcome : check text with
  | ok => simp [outcome] at mem
  | error fault =>
    simp only [outcome, List.mem_singleton] at mem
    subst mem
    have fits := check_fault_fitsIn outcome
    have line := lineAt_le text.toList fault.span.start
    have column := columnAt_le text.toList fault.span.start
    rw [← fits.line_eq] at line
    rw [← fits.column_eq] at column
    exact ⟨by show fault.span.line ≤ _; omega, by show fault.span.column ≤ _; omega⟩

/-! ### Outputs -/

namespace Output

@[simp] theorem stdout_append (a b : Output) : (a ++ b).stdout = a.stdout ++ b.stdout := rfl

@[simp] theorem stderr_append (a b : Output) : (a ++ b).stderr = a.stderr ++ b.stderr := rfl

@[simp] theorem ok_append (a b : Output) : (a ++ b).ok = (a.ok && b.ok) := rfl

theorem append_assoc (a b c : Output) : a ++ b ++ c = a ++ (b ++ c) := by
  show Output.mk _ _ _ = Output.mk _ _ _
  simp [String.append_assoc, Bool.and_assoc]

theorem silent_append (a : Output) : silent ++ a = a := by
  show Output.mk _ _ _ = _
  simp [silent]

theorem append_silent (a : Output) : a ++ silent = a := by
  show Output.mk _ _ _ = _
  simp [silent]

end Output

/-- All goes well with a file if its text is accepted. -/
theorem ok_checkFile (format : Format) (file text : String) :
    (checkFile format file text).ok = (check text).isOk := by
  cases format <;> rfl

/-- The output about a file as JSON is one line, from which the feedback is read. -/
theorem stdout_checkFile_json (file text : String) :
    ∃ line, (checkFile .json file text).stdout = linesOf [line] ∧ '\n' ∉ line.toList ∧
      (text.length < Json.wordMax → Feedback.parse? line = some (.ofCheck file text 0)) := by
  refine ⟨(Feedback.ofCheck file text 0).toJson.compact, rfl, ?_, fun short => ?_⟩
  · rw [Json.compact, String.toList_ofList]
    exact (Feedback.plain_toJson _).newline_notMem_write
  · exact Feedback.parse?_compact (Feedback.fits_ofCheck file text short (Nat.zero_le _))

/-! ### Files one after the other -/

/-- The answer about one file alone. -/
def Request.alone (format : Format) (read : String → Except ReadFault String) (file : String) : Answer :=
  (Request.run format (.check [file])).answer read

section Files

variable {format : Format} {read : String → Except ReadFault String} {file text : String}
  {files before after : List String} {fault : ReadFault}

theorem checkFiles_cons (found : read file = .ok text) : checkFiles format read (file :: files) =
    checkFile format file text ++ checkFiles format read files := by
  rw [checkFiles, found]

theorem checkFiles_cons_of_fault (missing : read file = .error fault) :
    checkFiles format read (file :: files) = unreadable file fault := by
  rw [checkFiles, missing]

theorem alone_eq (found : read file = .ok text) : Request.alone format read file =
    ⟨if (check text).isOk then 0 else 1, (checkFile format file text).stdout,
      (checkFile format file text).stderr⟩ := by
  rw [Request.alone, Request.answer, Command.output, checkFiles_cons found, checkFiles,
    Output.append_silent, ok_checkFile]

/-- Files that can be read do not keep the others from being checked. -/
theorem checkFiles_append (readable : ∀ file ∈ before, ∃ text, read file = .ok text) :
    checkFiles format read (before ++ files) =
      checkFiles format read before ++ checkFiles format read files := by
  induction before with
  | nil => exact (Output.silent_append _).symm
  | cons file before ih =>
    obtain ⟨⟨text, found⟩, readable⟩ := List.forall_mem_cons.1 readable
    rw [List.cons_append, checkFiles_cons found, checkFiles_cons found, ih readable, Output.append_assoc]

/-- What is printed about files that can be read is what is printed about each of them. -/
theorem checkFiles_readable (readable : ∀ file ∈ files, ∃ text, read file = .ok text) :
    (checkFiles format read files).stdout =
        String.join (files.map fun file => (Request.alone format read file).stdout) ∧
      (checkFiles format read files).stderr =
        String.join (files.map fun file => (Request.alone format read file).stderr) := by
  induction files with
  | nil => exact ⟨rfl, rfl⟩
  | cons file files ih =>
    obtain ⟨⟨text, found⟩, readable⟩ := List.forall_mem_cons.1 readable
    obtain ⟨stdout, stderr⟩ := ih readable
    rw [checkFiles_cons found, List.map_cons, List.map_cons, String.join_cons, String.join_cons,
      alone_eq found, Output.stdout_append, Output.stderr_append, stdout, stderr]
    exact ⟨rfl, rfl⟩

/-- All goes well if all files can be read and all texts are accepted. -/
theorem ok_checkFiles_iff : (checkFiles format read files).ok = true ↔
    ∀ file ∈ files, ∃ text, read file = .ok text ∧ check text = .ok () := by
  induction files with
  | nil => simp [checkFiles, Output.silent]
  | cons file files ih =>
    rw [List.forall_mem_cons]
    cases found : read file with
    | error fault => simp [checkFiles_cons_of_fault found, unreadable]
    | ok text =>
      have accepted : (check text).isOk = true ↔ check text = .ok () := by
        cases check text <;> simp [Except.isOk, Except.toBool]
      rw [checkFiles_cons found, Output.ok_append, ok_checkFile, Bool.and_eq_true, ih, accepted]
      simp

/-- The files that are checked as JSON have a line each. -/
theorem stdout_checkFiles_json : ∃ lines,
    (checkFiles .json read files).stdout = linesOf lines ∧
      List.Forall₂ (fun file line => '\n' ∉ line.toList ∧ ∃ text, read file = .ok text ∧
          (text.length < Json.wordMax → Feedback.parse? line = some (.ofCheck file text 0)))
        (files.takeWhile fun file => (read file).isOk) lines := by
  induction files with
  | nil => exact ⟨[], rfl, .nil⟩
  | cons file files ih =>
    cases found : read file with
    | error fault =>
      refine ⟨[], ?_, ?_⟩
      · rw [checkFiles_cons_of_fault found]
        rfl
      · rw [List.takeWhile_cons_of_neg (by simp [found, Except.isOk, Except.toBool])]
        exact .nil
    | ok text =>
      obtain ⟨lines, stdout, each⟩ := ih
      obtain ⟨line, printed, single, parsed⟩ := stdout_checkFile_json file text
      refine ⟨line :: lines, ?_, ?_⟩
      · rw [checkFiles_cons found, Output.stdout_append, printed, stdout]
        simp [linesOf, String.join_cons]
      · rw [List.takeWhile_cons_of_pos (by simp [found, Except.isOk, Except.toBool])]
        exact .cons ⟨single, text, found, parsed⟩ each

end Files

/-- The check of files is made of the checks of each of them. If all can be read, either stream is that of
one file behind the other. The first one that cannot be read ends it with a line that names it. The exit
code is zero just if all texts are accepted, and else one. As JSON there is one line for each file up to the
first one that cannot be read, and the feedback on that file is read from it, if its length is a number
that a word holds. -/
theorem Request.answer_check (format : Format) (read : String → Except ReadFault String)
    (files : List String) :
    let answer := (Request.run format (.check files)).answer read
    ((∀ file ∈ files, ∃ text, read file = .ok text) →
      answer.stdout = String.join (files.map fun file => (alone format read file).stdout) ∧
      answer.stderr = String.join (files.map fun file => (alone format read file).stderr)) ∧
    (answer.exit = 0 ∨ answer.exit = 1) ∧
    (answer.exit = 0 ↔ ∀ file ∈ files, ∃ text, read file = .ok text ∧ check text = .ok ()) ∧
    (∀ before file after fault, files = before ++ file :: after →
      (∀ file ∈ before, ∃ text, read file = .ok text) → read file = .error fault →
        answer.exit = 1 ∧
        answer.stdout = String.join (before.map fun file => (alone format read file).stdout) ∧
        answer.stderr = String.join (before.map fun file => (alone format read file).stderr) ++
          ("error: failed to read " ++ file ++ ": " ++ fault.message ++ "\n")) ∧
    (format = .json → ∃ lines, answer.stdout = linesOf lines ∧
      List.Forall₂ (fun file line => '\n' ∉ line.toList ∧ ∃ text, read file = .ok text ∧
          (text.length < Json.wordMax → Feedback.parse? line = some (.ofCheck file text 0)))
        (files.takeWhile fun file => (read file).isOk) lines) := by
  intro answer
  have exit : answer.exit = if (checkFiles format read files).ok then 0 else 1 := rfl
  refine ⟨checkFiles_readable, ?_, ?_, ?_, ?_⟩
  · rw [exit]
    split
    · exact .inl rfl
    · exact .inr rfl
  · rw [exit, ← ok_checkFiles_iff]
    cases (checkFiles format read files).ok <;> simp
  · rintro before file after fault rfl readable missing
    have whole : checkFiles format read (before ++ file :: after) =
        checkFiles format read before ++ unreadable file fault := by
      rw [checkFiles_append readable, checkFiles_cons_of_fault missing]
    have printed : answer = ⟨if (checkFiles format read (before ++ file :: after)).ok then 0 else 1,
      (checkFiles format read (before ++ file :: after)).stdout,
      (checkFiles format read (before ++ file :: after)).stderr⟩ := rfl
    obtain ⟨stdout, stderr⟩ : _ ∧ _ := checkFiles_readable readable
    rw [printed, whole, Output.ok_append, Output.stdout_append, Output.stderr_append, stdout, stderr]
    refine ⟨?_, ?_, ?_⟩
    · simp [unreadable]
    · simp [unreadable]
    · simp [unreadable, linesOf, String.join_cons]
  · rintro rfl
    exact stdout_checkFiles_json

/-- Some files: one with a program, one without, and no others. -/
def twoFiles (file : String) : Except ReadFault String :=
  if file = "a" then .ok "type t \x7b \x7d" else if file = "b" then .ok "x" else .error .notFound

/-- The file behind the one without a program is checked, and that behind the missing one is not. -/
theorem Request.answer_check_mixed :
    ((run .text (.check ["b", "a"])).answer twoFiles).stdout = "ok: a\n" ∧
      ((run .text (.check ["b", "a"])).answer twoFiles).exit = 1 ∧
      ((run .text (.check ["a", "c", "b"])).answer twoFiles).stdout = "ok: a\n" ∧
      ((run .text (.check ["a", "c", "b"])).answer twoFiles).stderr =
        "error: failed to read c: No such file or directory (os error 2)\n" ∧
      ∃ line line', ((run .json (.check ["a", "b", "c", "a"])).answer twoFiles).stdout =
          linesOf [line, line'] ∧
        Feedback.parse? line = some (.ofCheck "a" "type t \x7b \x7d" 0) ∧
        Feedback.parse? line' = some (.ofCheck "b" "x" 0) := by
  have foundA : twoFiles "a" = .ok "type t \x7b \x7d" := rfl
  have foundB : twoFiles "b" = .ok "x" := rfl
  have missing : twoFiles "c" = .error .notFound := rfl
  have printedA : alone .text twoFiles "a" = ⟨0, "ok: a\n", ""⟩ := by cbv
  have rejected : (check "x").isOk = false := by cbv
  have readable : ∀ file ∈ ["a"], ∃ text, twoFiles file = .ok text := by simp [foundA]
  obtain ⟨joined, two, accepted, -⟩ := answer_check .text twoFiles ["b", "a"]
  obtain ⟨-, -, -, stops, -⟩ := answer_check .text twoFiles ["a", "c", "b"]
  obtain ⟨-, -, -, -, json⟩ := answer_check .json twoFiles ["a", "b", "c", "a"]
  obtain ⟨-, stdout, stderr⟩ := stops ["a"] "c" ["b"] .notFound rfl readable missing
  refine ⟨?_, two.resolve_left fun well => ?_, ?_, ?_, ?_⟩
  · have printedB : (alone .text twoFiles "b").stdout = "" := by
      rw [alone_eq foundB]
      show (if (check "x").isOk then _ else "") = ""
      rw [rejected]
      rfl
    rw [(joined (by simp [foundA, foundB])).1]
    simp [printedA, printedB, String.join_cons]
  · obtain ⟨text, found, outcome⟩ := accepted.1 well "b" List.mem_cons_self
    cases foundB.symm.trans found
    rw [outcome] at rejected
    cases rejected
  · simpa [printedA, String.join_cons] using stdout
  · rw [stderr]
    simp [printedA, String.join_cons, ReadFault.message]
  · obtain ⟨lines, stdout, each⟩ := json rfl
    have checked : ["a", "b", "c", "a"].takeWhile (fun file => (twoFiles file).isOk) = ["a", "b"] := by
      simp [foundA, foundB, missing, Except.isOk, Except.toBool]
    rw [checked] at each
    obtain _ | ⟨⟨-, text, found, parsed⟩, _ | ⟨⟨-, text', found', parsed'⟩, _ | _⟩⟩ := each
    cases foundA.symm.trans found
    cases foundB.symm.trans found'
    exact ⟨_, _, stdout, parsed (by decide), parsed' (by decide)⟩

end SyntaxCheck
