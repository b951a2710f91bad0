import SyntaxCheck.Proofs.Lexeme.SingleLine
import SyntaxCheck.Proofs.Recognizer.Remarks
import SyntaxCheck.Proofs.Recognizer.Transport

/-!
# Records and messages on one line

What a check takes over from the text are the lexemes of tokens and their descriptions. So nothing that
comes of a check goes over the end of a line, however often and from wherever a session is checked.

* `Refusal.isLine_message` - the message about a refused token;
* `Outcomes.Checks.onLines` - the record and the message of a check;
* `Derivation.isLine_expressions` - the expressions of a record;
* `Session.record_onLines`, `Session.isLine_message` - sessions.
-/

namespace SyntaxCheck

/-! ### Messages -/

theorem Mark.isLine_spelling (m : Mark) : IsLine m.spelling := by
  cases m with
  | keyword k => exact (Lexeme.keyword k).newline_notMem
  | symbol s => exact isLine_ofList.2 (Lexeme.symbol s).newline_notMem

theorem Expectation.isLine_text (expectation : Expectation) : IsLine expectation.text := by
  cases expectation with
  | exactly m =>
    have line := m.isLine_spelling
    show IsLine ("'" ++ m.spelling ++ "'")
    simpa [IsLine] using line
  | openCondition k =>
    have line : IsLine k.spelling := Mark.isLine_spelling (.keyword k)
    show IsLine ("'(' after '" ++ k.spelling ++ "'")
    simpa [IsLine] using line
  | _ => simp [text, IsLine]

/-- The message about a refused token is on one line if the token can be described on one. -/
theorem Refusal.isLine_message (refusal : Refusal) {token : Token} (line : IsLine token.describe) :
    IsLine (refusal.fault token).cause.message := by
  cases refusal with
  | unexpected expectation =>
    have wanted := expectation.isLine_text
    show IsLine ("expected " ++ expectation.text ++ ", found " ++ token.describe)
    simpa [IsLine] using ⟨wanted, line⟩
  | noIdentifier =>
    show IsLine ("expected identifier, found " ++ token.describe)
    simpa [IsLine] using line
  | noType =>
    show IsLine ("expected type, found " ++ token.describe)
    simpa [IsLine] using line
  | noExpression =>
    show IsLine ("expected expression, found " ++ token.describe)
    simpa [IsLine] using line
  | noStatement =>
    show IsLine ("expected statement, found " ++ token.describe)
    simpa [IsLine] using line
  | noDefinition =>
    show IsLine ("expected function or type definition, found " ++ token.describe)
    simpa [IsLine] using line
  | openBraces =>
    show IsLine "unterminated block: expected '\x7d' before end of input"
    simp [IsLine]

/-! ### Checks -/

/-- All tokens and faults of the stream are shown on lines. -/
def Outcomes.OnLines (stream : Outcomes) : Prop := ∀ n, ShownOnLine (stream n)

/-- All texts of the record are lines. -/
def Derivation.OnLines (record : Derivation) : Prop := ∀ step ∈ record, ∀ text ∈ step.texts, IsLine text

theorem Derivation.onLines_append {a b : Derivation} :
    OnLines (a ++ b) ↔ OnLines a ∧ OnLines b := List.forall_mem_append

namespace Outcomes

variable {stream : Outcomes} {place place' last seen : Nat} {tasks tasks' : List Task}
  {entries : Derivation} {outcome : Except Fault Unit} {current : Token}

/-- Paths and new values made of lines are lines. -/
theorem textKind_isLine : TextKind IsLine where
  dotted path name := by
    have point : IsLine "." := by simp [IsLine]
    simp [path, name, point]
  new name := by
    have word : IsLine "new " := by simp [IsLine]
    simp [name, word]

/-- What a decision about a stream records and leaves to be done. -/
theorem Moves.onLines (h : stream.Moves place current tasks seen entries place' tasks')
    (each : TasksHold IsLine tasks) (line : IsLine current.lexeme) :
    entries.OnLines ∧ TasksHold IsLine tasks' := by
  have keeps : ∀ {task : Task} {behind : List Task} {decision : Decision},
      TasksHold IsLine (task :: behind) → task.decide current.terminal = decision →
      decision.Holds IsLine ∧ TasksHold IsLine behind := by
    intro task behind decision each decided
    rw [tasksHold_cons] at each
    exact ⟨decided ▸ Task.decide_holds textKind_isLine _ each.1, each.2⟩
  cases h with
  | become decided =>
    obtain ⟨first, others⟩ := keeps each decided
    exact ⟨nofun, tasksHold_append.2 ⟨first, others⟩⟩
  | enter decided =>
    obtain ⟨first, others⟩ := keeps each decided
    exact ⟨by simp [Derivation.OnLines, Step.texts], tasksHold_append.2 ⟨first, others⟩⟩
  | take decided =>
    obtain ⟨first, others⟩ := keeps each decided
    exact ⟨nofun, tasksHold_append.2 ⟨first current line, others⟩⟩
  | look decided =>
    obtain ⟨first, others⟩ := keeps each decided
    exact ⟨nofun, tasksHold_append.2 ⟨first _, others⟩⟩
  | @note task behind event decided =>
    obtain ⟨first, others⟩ := keeps each decided
    refine ⟨fun step entry text among => ?_, others⟩
    cases event with
    | grouped step' =>
      obtain rfl := List.mem_singleton.1 entry
      exact first.2 text among
    | defined => cases entry
    | _ => exact first.elim

/-- What settles the outcome shows its message on one line. -/
theorem Settles.isLine_message {fault : Fault} (h : stream.Settles place tasks (.error fault) last)
    (each : stream.OnLines) : IsLine fault.cause.message := by
  cases h with
  | missing found =>
    have line := each place
    rw [found] at line
    exact line
  | refuse here =>
    have line := each place
    rw [here] at line
    exact Refusal.isLine_message _ line.2
  | look _ _ found =>
    have line := each (place + 1)
    rw [found] at line
    exact line

/-- The record and the message of a check are on lines. -/
theorem Checks.onLines (h : stream.Checks place tasks entries outcome last) (each : stream.OnLines)
    (texts : TasksHold IsLine tasks) :
    entries.OnLines ∧ ∀ fault, outcome = .error fault → IsLine fault.cause.message := by
  induction h with
  | settled found =>
    refine ⟨nofun, ?_⟩
    rintro fault rfl
    exact (step_settled_iff.1 found).isLine_message each
  | goesOn found _ ih =>
    obtain ⟨current, seen, here, moved⟩ := step_goesOn_iff.1 found
    have line : ShownOnLine (.ok current) := here ▸ each _
    obtain ⟨first, texts'⟩ := moved.onLines texts line.1
    obtain ⟨later, message⟩ := ih texts'
    exact ⟨Derivation.onLines_append.2 ⟨first, later⟩, message⟩

end Outcomes

/-! ### Expressions -/

/-- An expression made of lines is a line. -/
theorem Step.isLine_regroup {step : Step} {stack : List String} (texts : ∀ text ∈ step.texts, IsLine text)
    (each : ∀ text ∈ stack, IsLine text) : ∀ text ∈ step.regroup stack, IsLine text := by
  have head : ∀ {stack : List String}, (∀ text ∈ stack, IsLine text) → IsLine (stack.headD "") := by
    intro stack each
    cases stack with
    | nil => simp [IsLine]
    | cons text stack => exact each text List.mem_cons_self
  have tail : ∀ {stack : List String}, (∀ text ∈ stack, IsLine text) → ∀ text ∈ stack.tail, IsLine text :=
    fun each text among => each text (List.mem_of_mem_tail among)
  have blank : IsLine " " := by simp [IsLine]
  have opens : IsLine "(" := by simp [IsLine]
  have closes : IsLine ")" := by simp [IsLine]
  cases step with
  | enter => exact List.forall_mem_nil _
  | operand text => exact List.forall_mem_cons.2 ⟨texts text List.mem_cons_self, each⟩
  | binary op =>
    have sign := texts op List.mem_cons_self
    refine List.forall_mem_cons.2 ⟨?_, tail (tail each)⟩
    simp only [joined, isLine_append]
    exact ⟨⟨⟨⟨⟨⟨opens, head (tail each)⟩, blank⟩, sign⟩, blank⟩, head each⟩, closes⟩
  | unary op =>
    have sign := texts op List.mem_cons_self
    have gap : IsLine (gap op) := by
      unfold Step.gap
      split <;> simp [IsLine]
    refine List.forall_mem_cons.2 ⟨?_, tail each⟩
    simp only [signed, isLine_append]
    exact ⟨⟨⟨⟨opens, sign⟩, gap⟩, head each⟩, closes⟩
  | call name count =>
    have callee := texts name List.mem_cons_self
    have comma : IsLine ", " := by simp [IsLine]
    refine List.forall_mem_cons.2 ⟨?_, fun text among => each text (List.mem_of_mem_drop among)⟩
    simp only [called, isLine_append]
    exact ⟨⟨⟨callee, opens⟩, isLine_intercalate comma fun text among =>
      each text (List.mem_of_mem_take (List.mem_reverse.1 among))⟩, closes⟩

/-- The expressions of a record are on lines. -/
theorem Derivation.isLine_expressions {record : Derivation} (each : record.OnLines) :
    ∀ text ∈ record.expressions, IsLine text := by
  -- by the record, with the expressions that are finished
  have from_stack : ∀ stack : List String, (∀ text ∈ stack, IsLine text) →
      ∀ text ∈ expressionsFrom stack record, IsLine text := by
    induction record with
    | nil =>
      intro stack lines text among
      exact lines text (List.mem_reverse.1 among)
    | cons step record ih =>
      obtain ⟨first, others⟩ := List.forall_mem_cons.1 each
      intro stack lines
      cases step with
      | enter rule =>
        intro text among
        rcases List.mem_append.1 among with shown | later
        · exact lines text (List.mem_reverse.1 shown)
        · exact ih others [] nofun text later
      | operand | binary | unary | call => exact ih others _ (Step.isLine_regroup first lines)
  exact from_stack [] nofun

/-! ### Lexers and sessions -/

theorem Lexer.shownOnLine_outcome {fresh : Lexer} (none : fresh.shown = none) (n : Nat) :
    ShownOnLine (fresh.outcome n) := by
  have scanned := (fresh.advanced n).cursor.shownOnLine_scan
  rw [outcome, advance, shown_advanced none n]
  exact scanned

/-- All that is answered to any calls of a lexer is shown on lines. -/
theorem Lexer.shownOnLine_calls (text : String) (asked : List Call) {answer : Answer}
    (among : answer ∈ ((ofString text).calls asked).1) :
    (∀ token ∈ answer.tokens, ShownOnLine (.ok token)) ∧
      ∀ fault, answer = .error fault → ShownOnLine (.error fault) := by
  have each : ∀ n, ShownOnLine ((ofString text).outcome n) := shownOnLine_outcome rfl
  have started : Reads (ofString text) ⟨0, false⟩ (ofString text) := .next 0
  obtain ⟨reader, runs, -⟩ := started.calls asked
  constructor
  · intro token found
    obtain ⟨k, -, same⟩ := runs.of_mem among found
    exact same ▸ each k
  · rintro fault rfl
    obtain ⟨k, same⟩ := runs.of_fault among
    exact same ▸ each k

namespace Outcomes

variable {stream : Outcomes} {last : Nat} {token : Token}

/-- The token that a check leaves as the current one stands in the stream. -/
theorem exists_of_held (h : stream.held last = some token) : ∃ place, stream place = .ok token := by
  cases found : stream last with
  | ok other =>
    rw [held_of_ok found] at h
    cases h
    exact ⟨last, found⟩
  | error fault =>
    cases last with
    | zero =>
      rw [held_zero found] at h
      cases h
    | succ place =>
      rw [held_succ found] at h
      refine ⟨place, ?_⟩
      cases before : stream place with
      | ok other =>
        rw [before] at h
        cases h
        rfl
      | error fault =>
        rw [before] at h
        cases h

/-- What a check leaves is part of the stream. -/
theorem OnLines.rest (each : stream.OnLines) (last : Nat) : (stream.rest last).OnLines := by
  intro n
  unfold Outcomes.rest
  cases held : stream.held last with
  | none => exact each _
  | some token =>
    cases n with
    | zero =>
      obtain ⟨place, found⟩ := exists_of_held held
      have line := each place
      rw [found] at line
      exact line
    | succ n => exact each _

end Outcomes

namespace Session

/-- All that a session has still to check, and all that it has recorded, is on lines. -/
structure OnLines (session : Session) : Prop where
  pending : session.pending.OnLines
  record : ∀ record ∈ session.record, record.OnLines

variable {session : Session}

/-- What is checked next leaves a record and a message on lines. -/
theorem OnLines.checks (h : session.OnLines) : (Event.steps session.parse.1.events).OnLines ∧
    ∀ fault, session.parse.1.outcome = .error fault → IsLine fault.cause.message := by
  obtain ⟨last, checks, -⟩ := session.checks_pending
  exact checks.onLines h.pending (by simp [Task.HoldsOnly])

theorem OnLines.call (h : session.OnLines) (c : Call) : (session.call c).OnLines := by
  cases c with
  | traced =>
    refine ⟨h.pending, fun record kept => ?_⟩
    cases kept
    exact nofun
  | parse =>
    obtain ⟨last, -, -, left⟩ := session.exists_rest
    refine ⟨left ▸ h.pending.rest last, fun record kept => ?_⟩
    have kept : record ∈ session.parse.2.record := kept
    rw [record_parse] at kept
    obtain ⟨earlier, before, rfl⟩ := Option.map_eq_some_iff.1 (Option.mem_def.1 kept)
    exact Derivation.onLines_append.2 ⟨h.record earlier before, h.checks.1⟩

/-- Whatever is asked of a text and of its sessions, everything is on lines. -/
theorem onLines_reached (text : String) (asked : List Lexer.Call) (calls : List Call) :
    (reached text asked calls).OnLines := by
  refine after_preserves (P := OnLines) (fun _ c holds => holds.call c) ⟨?_, ?none⟩ calls
  case none =>
    intro record kept
    cases kept
  have started : Lexer.Reads (Lexer.ofString text) ⟨0, false⟩ (Lexer.ofString text) := .next 0
  obtain ⟨reader, -, stands⟩ := started.calls asked
  have none : ((Lexer.ofString text).advanced reader.index).shown = none := Lexer.shown_advanced rfl _
  show Outcomes.OnLines ((Lexer.ofString text).calls asked).2.outcome
  rw [Lexer.outcome_congr stands.advance_eq]
  exact Lexer.shownOnLine_outcome none

end Session

/-! ### Texts -/

theorem onLines_trace (text : String) : (trace text).2.OnLines := by
  obtain ⟨last, checks, -⟩ := exists_checks text
  exact (checks.onLines (Lexer.shownOnLine_outcome rfl) (by simp [Task.HoldsOnly])).1

/-- The message about the fault of a text is on one line. -/
theorem isLine_message_of_check {text : String} {fault : Fault} (rejected : check text = .error fault) :
    IsLine fault.cause.message := by
  obtain ⟨last, checks, -⟩ := exists_checks text
  exact (checks.onLines (Lexer.shownOnLine_outcome rfl) (by simp [Task.HoldsOnly])).2 fault rejected

end SyntaxCheck
