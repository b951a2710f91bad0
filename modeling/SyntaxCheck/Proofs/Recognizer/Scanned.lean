import SyntaxCheck.Proofs.Recognizer.Locality
import SyntaxCheck.Proofs.Recognizer.Remarks
import SyntaxCheck.Proofs.Recognizer.Watched

/-!
# What a check has scanned

A token is scanned once, when it is fetched or looked at for the first time. So the events of a check tell
just the tokens up to the one at which it ended, in order, although some were looked at before they were
fetched.

* `Event.token?`, `scannedTokens` - the tokens that were scanned;
* `Event.IsPlain` - rules are entered only by entering them, not by remarks;
* `Machine.Scanned` - the invariant of a run;
* `Lexer.drain_of_scans` - scans up to the end of the input find all tokens;
* `ScannedUpTo`, `scanned_check` - what was scanned when a check ends.
-/

namespace SyntaxCheck

/-! ### Events -/

/-- The token that was scanned. -/
def Event.token? : Event → Option Token
  | .scanned token => some token
  | _ => none

/-- The tokens that were scanned. -/
def scannedTokens (events : List Event) : List Token := events.filterMap Event.token?

/-- The event does not add the entering of a rule to a record in disguise. -/
def Event.IsPlain (event : Event) : Prop := ∀ step, event = .grouped step → step.rule? = none

section Events

variable {event : Event} {events : List Event} {P : String → Prop}

theorem scannedTokens_append (a b : List Event) :
    scannedTokens (a ++ b) = scannedTokens a ++ scannedTokens b :=
  List.filterMap_append

/-- The latest event comes last. -/
theorem scannedTokens_cons (event : Event) (events : List Event) :
    scannedTokens (event :: events).reverse = scannedTokens events.reverse ++ event.token?.toList := by
  rw [List.reverse_cons, scannedTokens_append]
  cases event <;> rfl

/-- A token that is shown already is not scanned again. -/
theorem scannedTokens_scanEvents (lexer : Lexer) (token : Token) (events : List Event) :
    scannedTokens (lexer.scanEvents token ++ events).reverse =
      scannedTokens events.reverse ++ if lexer.shown.isSome then [] else [token] := by
  rw [List.reverse_append, scannedTokens_append, Lexer.scanEvents]
  split <;> rfl

theorem isPlain_scanned (token : Token) : (Event.scanned token).IsPlain := nofun

/-- A remark is plain, and it scans nothing. -/
theorem Event.RemarksOnly.isPlain (h : event.RemarksOnly P) : event.IsPlain := by
  rintro step rfl
  exact h.1

theorem Event.RemarksOnly.token?_eq (h : event.RemarksOnly P) : event.token? = none := by
  cases event with
  | scanned => exact h.elim
  | _ => rfl

end Events

/-! ### One more token -/

namespace Lexer

variable {lexer lexer' : Lexer} {token : Token} {fault : LexicalFault}

/-- A token that is handed out was shown, or it is scanned. -/
theorem advance_ok (h : lexer.advance = (.ok token, lexer')) :
    lexer.shown = some token ∧ lexer' = ⟨lexer.cursor, none⟩ ∨
      lexer.shown = none ∧ ∃ cursor, lexer.cursor.scan = (.ok token, cursor) ∧ lexer' = ⟨cursor, none⟩ := by
  unfold advance at h
  split at h
  · rename_i shown
    cases h
    exact .inl ⟨shown, rfl⟩
  · rename_i shown
    injection h with found left
    exact .inr ⟨shown, _, Prod.ext found rfl, left.symm⟩

/-- A token that is shown was shown before, or it is scanned. -/
theorem peek_ok_cases (h : lexer.peek = (.ok token, lexer')) :
    lexer.shown = some token ∧ lexer' = lexer ∨
      lexer.shown = none ∧
        ∃ cursor, lexer.cursor.scan = (.ok token, cursor) ∧ lexer' = ⟨cursor, some token⟩ := by
  unfold peek at h
  split at h
  · rename_i shown
    cases h
    exact .inl ⟨shown, rfl⟩
  · rename_i shown
    split at h
    · rename_i scanned
      cases h
      exact .inr ⟨shown, _, scanned, rfl⟩
    · cases h

/-- A fault is met by a scan, while no token is shown. -/
theorem advance_error (h : lexer.advance = (.error fault, lexer')) :
    lexer.shown = none ∧ lexer.cursor.scan.1 = .error fault := by
  unfold advance at h
  split at h
  · cases h
  · rename_i shown
    exact ⟨shown, congrArg Prod.fst h⟩

end Lexer

/-! ### Runs -/

namespace Machine

variable {text : List Char} {machine machine' : Machine}

/-- Scans of the text found the tokens that the events tell: those that were taken, the current one, and the
one that is shown. -/
structure Scanned (text : List Char) (machine : Machine) : Prop where
  tasks : TasksHold (fun _ => True) machine.tasks
  plain : ∀ event ∈ machine.events, event.IsPlain
  scans : (Cursor.start text).Scans (scannedTokens machine.events.reverse) machine.lexer.cursor
  taken : ∃ read, scannedTokens machine.events.reverse =
      read ++ machine.current :: machine.lexer.shown.toList ∧
    ∀ token ∈ read, token.isEndOfInput = false

namespace Scanned

/-- What the decision about the first task leaves. -/
theorem decides {task : Task} {behind : List Task} {decision : Decision} (h : machine.Scanned text)
    (top : machine.tasks = task :: behind)
    (decided : task.decide machine.current.terminal = decision) :
    decision.Holds (fun _ => True) ∧ TasksHold (fun _ => True) behind := by
  have kind : TextKind fun _ => True := ⟨fun _ _ => trivial, fun _ => trivial⟩
  have tasks := h.tasks
  rw [top, tasksHold_cons] at tasks
  exact ⟨decided ▸ Task.decide_holds kind _ tasks.1, tasks.2⟩

/-- An event that scans nothing may happen. -/
theorem happened {event : Event} {tasks : List Task} (h : machine.Scanned text)
    (plain : event.IsPlain) (none : event.token? = none) (held : TasksHold (fun _ => True) tasks) :
    Scanned text { machine with tasks := tasks, events := event :: machine.events } := by
  have same : scannedTokens (event :: machine.events).reverse = scannedTokens machine.events.reverse := by
    rw [scannedTokens_cons, none]
    exact List.append_nil _
  refine ⟨held, List.forall_mem_cons.2 ⟨plain, h.plain⟩, ?_, ?_⟩
  · rw [same]
    exact h.scans
  · rw [same]
    exact h.taken

theorem plain_scanEvents (h : machine.Scanned text) (token : Token) :
    ∀ event ∈ machine.lexer.scanEvents token ++ machine.events, event.IsPlain := by
  refine List.forall_mem_append.2 ⟨?_, h.plain⟩
  unfold Lexer.scanEvents
  split
  · exact nofun
  · exact List.forall_mem_singleton.2 (isPlain_scanned token)

/-- Every step keeps it. -/
theorem moves (h : machine.Scanned text) (moved : machine.Moves machine') : machine'.Scanned text := by
  obtain ⟨read, told, goesOn⟩ := h.taken
  have scans := h.scans
  cases moved with
  | become top decided =>
    obtain ⟨first, others⟩ := h.decides top decided
    exact ⟨tasksHold_append.2 ⟨first, others⟩, h.plain, h.scans, h.taken⟩
  | enter top decided =>
    obtain ⟨first, others⟩ := h.decides top decided
    exact h.happened nofun rfl (tasksHold_append.2 ⟨first, others⟩)
  | note top decided =>
    obtain ⟨remark, others⟩ := h.decides top decided
    exact h.happened remark.isPlain remark.token?_eq others
  | @take task behind tasks token lexer top decided fetched =>
    obtain ⟨first, others⟩ := h.decides top decided
    have more := more_of_decide decided id
    have goesOn' : ∀ token ∈ read ++ [machine.current], token.isEndOfInput = false :=
      List.forall_mem_append.2 ⟨goesOn, List.forall_mem_singleton.2 more⟩
    refine ⟨tasksHold_append.2 ⟨first machine.current trivial, others⟩, h.plain_scanEvents token, ?_, ?_⟩
    all_goals
      dsimp only
      rw [scannedTokens_scanEvents]
      rcases Lexer.advance_ok fetched with ⟨shown, rfl⟩ | ⟨shown, cursor, scanned, rfl⟩ <;>
        rw [shown] at told ⊢
    · simpa using scans
    · exact scans.concat scanned
    · exact ⟨read ++ [machine.current], by simp [told], goesOn'⟩
    · exact ⟨read ++ [machine.current], by simp [told], goesOn'⟩
  | @look task behind tasks token lexer top decided looked =>
    obtain ⟨first, others⟩ := h.decides top decided
    refine ⟨tasksHold_append.2 ⟨first token.terminal, others⟩, h.plain_scanEvents token, ?_, ?_⟩
    all_goals
      dsimp only
      rw [scannedTokens_scanEvents]
      rcases Lexer.peek_ok_cases looked with ⟨shown, rfl⟩ | ⟨shown, cursor, scanned, rfl⟩ <;>
        rw [shown] at told ⊢
    · simpa using scans
    · exact scans.concat scanned
    · exact ⟨read, by simp [told], goesOn⟩
    · exact ⟨read, by simp [told], goesOn⟩

theorem reaches (h : machine.Scanned text) (reached : machine.Reaches machine') :
    machine'.Scanned text :=
  reached.preserves (P := Scanned text) (fun _ _ holds moved => holds.moves moved) h

/-- No task is left only at the end of the input. No token is shown there. -/
theorem of_done (h : machine.Scanned text) (anchored : machine.Anchored) (led : machine.Led)
    (done : machine.tasks = []) :
    (∃ read, scannedTokens machine.events.reverse = read ++ [machine.current] ∧
      ∀ token ∈ read, token.isEndOfInput = false) ∧ machine.current.isEndOfInput = true := by
  unfold Machine.Anchored at anchored
  rw [done] at anchored
  have none : machine.lexer.shown = none := by
    cases shown : machine.lexer.shown with
    | none => rfl
    | some token =>
      have name := (led (by rw [shown]; rfl)).1
      rw [Token.terminal_of_isEndOfInput anchored] at name
      cases name
  have taken := h.taken
  rw [none] at taken
  exact ⟨taken, anchored⟩

end Scanned

/-- Before the first decision, the current token was scanned. -/
theorem scanned_start {lexer lexer' : Lexer} {token : Token} (cursor : lexer.cursor = Cursor.start text)
    (none : lexer.shown = none) (fetched : lexer.advance = (.ok token, lexer')) :
    (start lexer' token (lexer.scanEvents token)).Scanned text := by
  obtain ⟨shown, -⟩ | ⟨-, behind, scanned, rfl⟩ := Lexer.advance_ok fetched
  · rw [none] at shown
    cases shown
  · have events : lexer.scanEvents token = [.scanned token] := by rw [Lexer.scanEvents, none]; rfl
    rw [events]
    refine ⟨by simp [start, Task.HoldsOnly], List.forall_mem_singleton.2 (isPlain_scanned token), ?_,
      [], rfl, List.forall_mem_nil _⟩
    exact .step (cursor ▸ scanned) (.refl behind)

end Machine

/-! ### Checks -/

/-- Scans that find the end of the input last, and only then, find all the tokens that are handed out. -/
theorem Lexer.drain_of_scans {cursor cursor' : Cursor} {before : List Token} {last : Token}
    (h : cursor.Scans (before ++ [last]) cursor') (ended : last.isEndOfInput = true)
    (goesOn : ∀ token ∈ before, token.isEndOfInput = false) :
    (drain ⟨cursor, none⟩).tokens = before ++ [last] ∧ (drain ⟨cursor, none⟩).fault = none := by
  induction before generalizing cursor with
  | nil =>
    obtain _ | ⟨scanned, _ | _⟩ := h
    rw [drain_of_end (advance_of_scan scanned) ended]
    exact ⟨rfl, rfl⟩
  | cons token before ih =>
    obtain _ | ⟨scanned, later⟩ := h
    obtain ⟨more, goesOn⟩ := List.forall_mem_cons.1 goesOn
    obtain ⟨tokens, fault⟩ := ih later goesOn
    rw [drain_of_more (advance_of_scan scanned) more, tokens, fault]
    exact ⟨rfl, rfl⟩

/-- What was scanned when a check has ended so, with the cursor of the text behind it: all the tokens, or
those up to the one that is refused, or those in front of the lexical fault. -/
inductive ScannedUpTo (text : String) : Except Fault Unit → List Token → Cursor → Prop
  | accepted {tokens : List Token} {cursor : Cursor}
      (all : (Lexer.ofString text).tokenize.1 = .ok tokens) : ScannedUpTo text (.ok ()) tokens cursor
  | refused {before : List Token} {token : Token} {cursor : Cursor} (refusal : Refusal) :
      ScannedUpTo text (.error (refusal.fault token)) (before ++ [token]) cursor
  | missed {tokens : List Token} {cursor : Cursor} {fault : LexicalFault}
      (next : cursor.scan.1 = .error fault) : ScannedUpTo text (.error fault.toFault) tokens cursor

namespace ScannedUpTo

variable {text : String} {outcome : Except Fault Unit} {tokens : List Token} {cursor : Cursor} {span : Span}

theorem of_ok (h : ScannedUpTo text outcome tokens cursor) (accepted : outcome = .ok ()) :
    (Lexer.ofString text).tokenize.1 = .ok tokens := by
  cases h with
  | accepted all => exact all
  | refused | missed => cases accepted

theorem of_grammatical {cause : GrammarCause} (h : ScannedUpTo text outcome tokens cursor)
    (rejected : outcome = .error ⟨.grammatical cause, span⟩) :
    ∃ before token, tokens = before ++ [token] ∧ token.span = span := by
  cases h with
  | accepted | missed => cases rejected
  | refused => exact ⟨_, _, rfl, congrArg Located.span (Except.error.inj rejected)⟩

theorem of_lexical {cause : LexicalCause} (h : ScannedUpTo text outcome tokens cursor)
    (rejected : outcome = .error ⟨.lexical cause, span⟩) : cursor.scan.1 = .error ⟨cause, span⟩ := by
  cases h with
  | accepted | refused => cases rejected
  | @missed _ _ fault next =>
    obtain ⟨cause', span'⟩ := fault
    cases rejected
    exact next

end ScannedUpTo

/-- What was scanned when a check of a text ends. -/
theorem scanned_check (text : String) : ∃ cursor,
    (Cursor.start text.toList).Scans (scannedTokens (Session.ofString text).parse.1.events) cursor ∧
    ScannedUpTo text (check text) (scannedTokens (Session.ofString text).parse.1.events) cursor ∧
    ∀ event ∈ (Session.ofString text).parse.1.events, event.IsPlain := by
  rcases (Session.ofString text).parse_cases with ⟨machine, starts, same⟩ |
    ⟨lexical, lexer, -, missing, same⟩
  · obtain _ | @⟨token, lexer, -, found⟩ := starts
    · contradiction
    have fresh := (Session.ofString text).lexer.shown_advance
    rw [found] at fresh
    obtain ⟨final, reached, ends⟩ := Machine.run_cases (Machine.start lexer token
      ((Session.ofString text).lexer.scanEvents token))
    have start : (Machine.start lexer token
        ((Session.ofString text).lexer.scanEvents token)).Scanned text.toList :=
      Machine.scanned_start rfl rfl found
    have scanned := start.reaches reached
    obtain ⟨⟨_, tracks⟩, led⟩ := Machine.tracks_of_reaches fresh reached
    rw [check, same]
    rcases ends with ⟨done, run_eq⟩ | ⟨fault, left, fails, run_eq⟩ <;> rw [run_eq]
    · obtain ⟨⟨read, told, goesOn⟩, ended⟩ := scanned.of_done tracks.anchored led done
      have last : scannedTokens (Session.finish (.ok (), final)) = scannedTokens final.events.reverse := by
        rw [Session.finish, scannedTokens_cons]
        exact List.append_nil _
      have scans := scanned.scans
      rw [told] at scans
      obtain ⟨tokens, clean⟩ := Lexer.drain_of_scans scans ended goesOn
      refine ⟨final.lexer.cursor, ?_, .accepted ?_, ?_⟩
      · rw [last]
        exact scanned.scans
      · rw [last, told]
        exact tokenize_ok_iff.2 ⟨tokens, clean⟩
      · intro event found
        rw [Session.finish, List.mem_reverse, List.mem_cons] at found
        rcases found with rfl | found
        · intro step other
          cases other
        · exact scanned.plain event found
    · have plain : ∀ event ∈ final.events.reverse, event.IsPlain := by simpa using scanned.plain
      refine ⟨final.lexer.cursor, ?_⟩
      cases fails with
      | refuse top decided =>
        obtain ⟨read, told, -⟩ := scanned.taken
        rw [led.shown_eq_none top decided] at told
        refine ⟨scanned.scans, ?_, plain⟩
        show ScannedUpTo text _ (scannedTokens final.events.reverse) _
        rw [told]
        exact .refused _
      | take _ _ missing =>
        obtain ⟨-, next⟩ := Lexer.advance_error missing
        exact ⟨scanned.scans, .missed next, plain⟩
      | look _ _ missing =>
        obtain ⟨-, next⟩ := Lexer.advance_error (Lexer.peek_error missing)
        exact ⟨scanned.scans, .missed next, plain⟩
  · rw [check, same]
    obtain ⟨-, next⟩ := Lexer.advance_error missing
    exact ⟨_, .refl _, .missed next, List.forall_mem_nil _⟩

end SyntaxCheck
