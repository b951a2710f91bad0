import SyntaxCheck.Proofs.Lexer.Progress
import SyntaxCheck.Proofs.Recognizer.History
import SyntaxCheck.Proofs.Recognizer.Pace

/-!
# A check within a budget

A check makes no more than a fixed number of decisions for each character that is left, and no more scans
than there are characters left, and one. So a budget for the characters that are left is never used up.

* `Machine.scansNow`, `Machine.scansLeft` - the scans made by a step, and a bound on all of them;
* `Machine.effort`, `Machine.Turn.effort_lt` - a bound on the decisions left, which every step lowers;
* `Machine.runWithin`, `Session.parseWithin` - a run and a check that give up when the budget is used up, and
  count the scans;
* `Session.parse_paced` - no check gives up, and none has two turns of a part without a token between them.
-/

namespace SyntaxCheck

/-! ### Scans -/

namespace Lexer

variable {lexer lexer' : Lexer} {token : Token}

/-- The scans made to hand out or to show a token: none if it was shown before. -/
def scansNow (lexer : Lexer) : Nat := if lexer.shown.isSome then 0 else 1

/-- A bound on the scans made up to the end of the input, or to a fault. -/
def scansLeft (lexer : Lexer) : Nat :=
  match lexer.shown with
  | some token => if token.isEndOfInput then 0 else lexer.cursor.rest.length + 1
  | none => lexer.cursor.rest.length + 1

theorem scansLeft_le (lexer : Lexer) : lexer.scansLeft ≤ lexer.cursor.rest.length + 1 := by
  unfold scansLeft
  split
  · split <;> omega
  · exact Nat.le_refl _

theorem scansNow_le (lexer : Lexer) : lexer.scansNow ≤ lexer.scansLeft := by
  unfold scansNow scansLeft
  cases lexer.shown with
  | none => exact Nat.le_add_left 1 _
  | some token => exact Nat.zero_le _

/-- A token that is handed out leaves fewer scans, and none if the input has ended. -/
theorem scans_advance (h : lexer.advance = (.ok token, lexer')) :
    lexer.scansNow + (if token.isEndOfInput then 0 else lexer'.scansLeft) ≤ lexer.scansLeft := by
  unfold advance at h
  unfold scansNow scansLeft
  cases shown : lexer.shown with
  | some handed =>
    rw [shown] at h
    injection h with found left
    injection found with found
    subst found left
    simp
  | none =>
    rw [shown] at h
    injection h with found left
    have scanned : lexer.cursor.scan = (.ok token, lexer.cursor.scan.2) := Prod.ext found rfl
    subst left
    cases ended : token.isEndOfInput with
    | true => simp
    | false =>
      have shorter := Cursor.length_rest_scan_lt scanned ended
      show 1 + (lexer.cursor.scan.2.rest.length + 1) ≤ lexer.cursor.rest.length + 1
      omega

theorem scans_peek (h : lexer.peek = (.ok token, lexer')) :
    lexer.scansNow + lexer'.scansLeft ≤ lexer.scansLeft := by
  unfold peek at h
  split at h
  · rename_i shown
    injection h with _ left
    subst left
    simp [scansNow, shown]
  · rename_i shown
    split at h
    · rename_i scanned cursor scan_eq
      injection h with found left
      injection found with found
      subst found left
      cases ended : scanned.isEndOfInput with
      | true => simp [scansNow, scansLeft, shown, ended]
      | false =>
        have shorter := Cursor.length_rest_scan_lt scan_eq ended
        simp only [scansNow, scansLeft, shown, ended]
        show 1 + (cursor.rest.length + 1) ≤ lexer.cursor.rest.length + 1
        omega
    · injection h with found
      cases found

/-- No more tokens are handed out than there are left, and the end of the input. -/
theorem length_drain_le (lexer : Lexer) : lexer.drain.tokens.length ≤ lexer.remaining + 1 := by
  fun_induction drain lexer with
  | case1 => exact Nat.zero_le _
  | case2 lexer token lexer' advanced more later ih =>
    have fewer := remaining_advance_lt advanced more
    exact Nat.succ_le_succ (Nat.le_trans ih fewer)
  | case3 => exact Nat.le_add_left 1 _

end Lexer

/-- The scans made by a decision. -/
def Decision.scansNow (lexer : Lexer) : Decision → Nat
  | .take _ | .look _ => lexer.scansNow
  | _ => 0

namespace Machine

variable {machine machine' : Machine} {task : Task} {behind : List Task}

/-- The scans made by the next step. -/
def scansNow (machine : Machine) : Nat :=
  match machine.tasks with
  | [] => 0
  | task :: _ => (task.decide machine.current.terminal).scansNow machine.lexer

/-- A bound on the scans made from now on. Behind the end of the input there are none. -/
def scansLeft (machine : Machine) : Nat :=
  if machine.current.isEndOfInput then 0 else machine.lexer.scansLeft

theorem scansLeft_le (machine : Machine) : machine.scansLeft ≤ machine.lexer.scansLeft := by
  unfold scansLeft
  split
  · exact Nat.zero_le _
  · exact Nat.le_refl _

theorem scansNow_of_top {decision : Decision} (top : machine.tasks = task :: behind)
    (decided : task.decide machine.current.terminal = decision) :
    machine.scansNow = decision.scansNow machine.lexer := by
  unfold scansNow
  rw [top]
  exact congrArg (Decision.scansNow machine.lexer) decided

/-- A step leaves fewer scans. -/
theorem Moves.scans_le (moved : machine.Moves machine') :
    machine.scansNow + machine'.scansLeft ≤ machine.scansLeft := by
  cases moved with
  | become top decided | enter top decided | note top decided =>
    rw [scansNow_of_top top decided]
    exact Nat.le_of_eq (Nat.zero_add _)
  | take top decided fetched =>
    rw [scansNow_of_top top decided]
    unfold scansLeft
    rw [more_of_decide decided id]
    exact Lexer.scans_advance fetched
  | look top decided shown =>
    rw [scansNow_of_top top decided]
    unfold scansLeft
    rw [more_of_decide decided id]
    exact Lexer.scans_peek shown

theorem Fails.scans_le {fault : Fault} (fails : machine.Fails fault machine') :
    machine.scansNow ≤ machine.scansLeft := by
  cases fails with
  | refuse top decided =>
    rw [scansNow_of_top top decided]
    exact Nat.zero_le _
  | take top decided | look top decided =>
    rw [scansNow_of_top top decided]
    unfold scansLeft
    rw [more_of_decide decided id]
    exact machine.lexer.scansNow_le

end Machine

/-! ### Decisions -/

/-- A bound on the turns before a token is taken: as many as there are ranks up to that of the first task. -/
def turnsOf : List Task → Nat
  | [] => 0
  | task :: tasks =>
    if task.isRemark then turnsOf tasks else task.rank + 1

theorem turnsOf_le {limit last : Nat} {tasks : List Task} (h : Descends limit tasks last = true) :
    turnsOf tasks ≤ limit := by
  induction tasks with
  | nil => exact Nat.zero_le _
  | cons task tasks ih =>
    unfold turnsOf
    split
    · rename_i remark
      exact ih (descends_remark remark ▸ h)
    · rename_i ranked
      exact ((descends_cons (Bool.not_eq_true _ ▸ ranked)).1 h).1

theorem turnsOf_cons {task : Task} {tasks : List Task} (ranked : task.isRemark = false) :
    turnsOf (task :: tasks) = task.rank + 1 :=
  if_neg (Bool.not_eq_true _ ▸ ranked)

theorem remarksOf_cons {task : Task} {tasks : List Task} (ranked : task.isRemark = false) :
    remarksOf (task :: tasks) = remarksOf tasks :=
  List.countP_cons_of_neg (Bool.not_eq_true _ ▸ ranked)

/-- What may be put in place of a task leaves no more turns than the limit, and at most one more remark. -/
theorem Places.bounds {limit : Nat} {task : Task} {tasks behind : List Task}
    (places : Places limit tasks task.rankBehind) (h : Descends task.rankBehind behind 0 = true) :
    turnsOf (tasks ++ behind) ≤ limit ∧ remarksOf (tasks ++ behind) ≤ 1 + remarksOf behind := by
  refine ⟨turnsOf_le (descends_append places.descends h), ?_⟩
  have split : remarksOf (tasks ++ behind) = remarksOf tasks + remarksOf behind := List.countP_append
  rw [split]
  exact Nat.add_le_add_right places.remarksOf_le _

namespace Machine

variable {machine machine' : Machine} {task : Task} {behind : List Task}

/-- A bound on the decisions made from now on. Before a token is taken there is one turn for each rank at most,
and a turn puts in place one remark at most. -/
def effort (machine : Machine) : Nat :=
  2 * (12 * machine.input.length + turnsOf machine.tasks) + remarksOf machine.tasks

/-- Every step lowers it. -/
theorem Turn.effort_lt (turn : machine.Turn task behind machine') (top : machine.tasks = task :: behind)
    (paced : machine.Paced) : machine'.effort < machine.effort := by
  unfold Paced at paced
  rw [top] at paced
  unfold effort
  rw [top]
  cases turn with
  | remark remark left kept =>
    rw [left, kept]
    have turns : turnsOf (task :: behind) = turnsOf behind := if_pos remark
    have remarks : remarksOf (task :: behind) = remarksOf behind + 1 := List.countP_cons_of_pos remark
    omega
  | stays ranked places left kept =>
    rw [descends_cons ranked] at paced
    obtain ⟨turns, remarks⟩ := places.bounds paced.2
    rw [left, kept, turnsOf_cons ranked, remarksOf_cons ranked]
    omega
  | takes ranked places left taken =>
    rw [descends_cons ranked] at paced
    obtain ⟨turns, remarks⟩ := places.bounds paced.2
    rw [left, taken, turnsOf_cons ranked, remarksOf_cons ranked, List.length_cons]
    omega

/-! ### Runs -/

/-- A run that gives up when the budget of decisions is used up, with the number of its scans. -/
def runWithin : Nat → Machine → Option (Nat × Except Fault Unit × Machine)
  | 0, _ => none
  | budget + 1, machine =>
    match machine.step with
    | .next machine' =>
      (runWithin budget machine').map fun found => (machine.scansNow + found.1, found.2)
    | .done => some (0, .ok (), machine)
    | .failed fault machine' => some (machine.scansNow, .error fault, machine')

/-- With a budget above the bound a run does not give up, and it makes no more scans than are left. -/
theorem runWithin_eq {budget : Nat} (paced : machine.Paced) (enough : machine.effort < budget) :
    ∃ scans, machine.runWithin budget = some (scans, machine.run) ∧ scans ≤ machine.scansLeft := by
  -- a run is one step and then the run of what the step leaves
  fun_induction run machine generalizing budget with
  | case1 machine machine' progress ih =>
    have moved := moves_of_step progress
    obtain ⟨task, behind, top, turn⟩ := moved.turn
    have fewer := turn.effort_lt top paced
    have scans := moved.scans_le
    obtain ⟨budget, rfl⟩ := Nat.exists_eq_add_one_of_ne_zero (Nat.ne_zero_of_lt enough)
    obtain ⟨later, run_eq, bound⟩ := ih (paced.moves moved) (by omega : machine'.effort < budget)
    refine ⟨machine.scansNow + later, ?_, by omega⟩
    rw [runWithin, progress]
    simp only [run_eq, Option.map_some]
  | case2 machine progress =>
    obtain ⟨budget, rfl⟩ := Nat.exists_eq_add_one_of_ne_zero (Nat.ne_zero_of_lt enough)
    exact ⟨0, by rw [runWithin, progress], Nat.zero_le _⟩
  | case3 machine fault left progress =>
    obtain ⟨budget, rfl⟩ := Nat.exists_eq_add_one_of_ne_zero (Nat.ne_zero_of_lt enough)
    exact ⟨machine.scansNow, by rw [runWithin, progress], (fails_of_step progress).scans_le⟩

end Machine

/-! ### Sessions -/

namespace Session

variable {session : Session} {first : Machine}

/-- What a finished run leaves. -/
def conclude (session : Session) (finished : Except Fault Unit × Machine) : Parse × Session :=
  (⟨finished.1, finish finished⟩, ⟨finished.2.lexer, some finished.2.current,
    session.record.map (· ++ Event.steps (finish finished))⟩)

/-- A check that gives up when the budget of decisions is used up, with the number of its scans. -/
def parseWithin (budget : Nat) (session : Session) : Option (Nat × Parse × Session) :=
  match session.current with
  | some token =>
    ((Machine.start session.lexer token []).runWithin budget).map fun found =>
      (found.1, session.conclude found.2)
  | none =>
    match session.lexer.advance with
    | (.ok token, lexer) =>
      ((Machine.start lexer token (session.lexer.scanEvents token)).runWithin budget).map fun found =>
        (session.lexer.scansNow + found.1, session.conclude found.2)
    | (.error fault, lexer) =>
      some (session.lexer.scansNow, ⟨.error fault.toFault, []⟩, { session with lexer })

theorem Starts.paced (h : session.Starts first) : first.Paced := by
  unfold Machine.Paced
  rw [h.tasks_eq]
  rfl

/-- A run starts with few tokens for the characters that are left. -/
theorem Starts.length_input_le (h : session.Starts first) :
    first.input.length ≤ session.lexer.cursor.rest.length + 3 := by
  have held : session.lexer.remaining ≤ session.lexer.cursor.rest.length + 1 := by
    unfold Lexer.remaining Lexer.shownCount
    split
    · split <;> omega
    · omega
  have remaining : first.lexer.remaining ≤ session.lexer.remaining := by
    cases h with
    | again => exact Nat.le_refl _
    | fetched fresh found =>
      have le := session.lexer.remaining_advance_le
      rw [found] at le
      exact le
  have tokens := first.lexer.length_drain_le
  unfold Machine.input Machine.ahead
  split
  · exact Nat.le_add_left 1 _
  · rw [List.length_cons]
    omega

theorem Starts.effort_lt (h : session.Starts first) :
    first.effort < 24 * (session.lexer.cursor.rest.length + 4) := by
  have length := h.length_input_le
  have turns : turnsOf first.tasks = 3 := by
    rw [h.tasks_eq]
    rfl
  have remarks : remarksOf first.tasks = 0 := by
    rw [h.tasks_eq]
    rfl
  unfold Machine.effort
  omega

/-- A check does not give up within a budget for the characters that are left, and makes no more scans than
there are of them, and one. -/
theorem parseWithin_eq (session : Session) :
    ∃ scans,
      session.parseWithin (24 * (session.lexer.cursor.rest.length + 4)) = some (scans, session.parse) ∧
      scans ≤ session.lexer.cursor.rest.length + 1 := by
  have left := session.lexer.scansLeft_le
  unfold parseWithin parse
  cases held : session.current with
  | some token =>
    have starts : session.Starts _ := .again held
    obtain ⟨scans, run_eq, bound⟩ := Machine.runWithin_eq starts.paced starts.effort_lt
    refine ⟨scans, ?_, ?_⟩
    · simp only [run_eq]
      rfl
    · exact Nat.le_trans bound (Nat.le_trans (Machine.scansLeft_le _) left)
  | none =>
    cases found : session.lexer.advance with
    | mk answer lexer =>
      cases answer with
      | error fault => exact ⟨_, rfl, Nat.le_trans session.lexer.scansNow_le left⟩
      | ok token =>
        have starts : session.Starts _ := .fetched held found
        obtain ⟨scans, run_eq, bound⟩ := Machine.runWithin_eq starts.paced starts.effort_lt
        have fetched := Lexer.scans_advance found
        refine ⟨session.lexer.scansNow + scans, ?_, ?_⟩
        · simp only [run_eq]
          rfl
        · exact Nat.le_trans (Nat.le_trans (Nat.add_le_add_left bound _) fetched) left

/-- Whatever a session was asked for before, its next check ends within a budget of decisions for the
characters that are left, and makes no more scans than there are of them, and one. No token that was taken
comes back, and between two turns of the same part of the grammar at least one is taken. -/
theorem parse_paced (session : Session) :
    (∃ scans,
      session.parseWithin (24 * (session.lexer.cursor.rest.length + 4)) = some (scans, session.parse) ∧
      scans ≤ session.lexer.cursor.rest.length + 1) ∧
    ∀ first machine, session.Starts first → first.Reaches machine →
      (∀ later, machine.Reaches later → ∃ taken, machine.input = taken ++ later.input) ∧
      ∀ part next later, machine.Enters part → machine.step = .next next → next.Reaches later →
        later.Enters part → ∃ token taken, machine.input = token :: (taken ++ later.input) := by
  refine ⟨session.parseWithin_eq, fun first machine starts reached => ?_⟩
  refine ⟨fun _ => Machine.Reaches.input_suffix, ?_⟩
  have paced : machine.Paced := reached.preserves (fun _ _ paced moved => paced.moves moved) starts.paced
  intro part next later enters leaves reached again
  exact Machine.token_between paced enters leaves reached again

/-- Ten tokens and the end of the input are scanned once, also the one that was shown behind a name. -/
example : ((ofString "fun void f() \x7b x = 1 \x7d").parseWithin 200).map Prod.fst = some 11 := by cbv

end Session

end SyntaxCheck
