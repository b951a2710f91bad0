import Mathlib
import SyntaxCheck.Proofs.Recognizer.Stream

/-!
# Checking again

A session that is asked to check again goes on from the token where the last check has stopped. So each
check shortens what is pending, until one accepts or refuses a token that no definition starts with: from
then on nothing changes. A later check may accept although an earlier one has failed.

* `Outcomes.place_step_le`, `Outcomes.Checks.le_end` - a check does not go beyond the end of the input;
* `Outcomes.rest`, `Outcomes.exists_rest_ends` - what a check leaves, with less in front of that end;
* `Lasting`, `Token.Settles`, `Session.Settled` - outcomes that stay, and what makes them stay;
* `Session.settled_or_shorter`, `Session.exists_settled` - checks settle a session;
* `Session.parse_pending` - one check in terms of what is pending, and all later ones;
* `Session.LeavesProgram`, `Session.rechecked_accepts_iff` - when a text that is no program is accepted.
-/

namespace SyntaxCheck

/-! ### Places of a check -/

/-- The place that a decision goes on from, or that has settled the outcome. -/
def Advance.place : Advance → Nat
  | .goesOn _ place _ => place
  | .settled _ place => place

namespace Outcomes

variable {stream : Outcomes} {place last n : Nat} {tasks : List Task} {entries : Derivation}
  {outcome : Except Fault Unit} {token : Token}

/-- A decision stays at its place, or it goes on to the next one behind a token. -/
theorem place_step (stream : Outcomes) (place : Nat) (tasks : List Task) :
    (stream.step place tasks).place = place ∨
      (stream.step place tasks).place = place + 1 ∧
        ∃ token, stream place = .ok token ∧ token.isEndOfInput = false := by
  unfold step
  split
  · exact .inl rfl
  rename_i current found
  split
  · exact .inl rfl
  rename_i task behind
  -- the end of the input is neither taken nor looked beyond
  have more : ¬(task.decide current.terminal).Stays → current.isEndOfInput = false := by
    intro goesOn
    refine Bool.eq_false_iff.2 fun ended => goesOn ?_
    rw [Token.terminal_of_isEndOfInput ended]
    exact task.decide_endOfInput
  split
  · exact .inl rfl
  · exact .inl rfl
  · rename_i decided
    rw [decided] at more
    exact .inr ⟨rfl, current, found, more id⟩
  · rename_i decided
    rw [decided] at more
    split
    · exact .inl rfl
    · exact .inr ⟨rfl, current, found, more id⟩
  · exact .inl rfl
  · exact .inl rfl

theorem le_place_step (stream : Outcomes) (place : Nat) (tasks : List Task) :
    place ≤ (stream.step place tasks).place := by
  rcases stream.place_step place tasks with same | ⟨next, -⟩ <;> omega

/-- No decision goes beyond the end of the input. -/
theorem place_step_le (ends : EndsAt stream n) (le : place ≤ n) (tasks : List Task) :
    (stream.step place tasks).place ≤ n := by
  rcases stream.place_step place tasks with same | ⟨next, token, found, more⟩
  · omega
  · have before : place ≠ n := by
      rintro rfl
      obtain ⟨last, found', ended⟩ := ends.ends
      rw [found] at found'
      injection found' with same
      rw [← same, more] at ended
      cases ended
    omega

namespace Checks

theorem le (h : stream.Checks place tasks entries outcome last) : place ≤ last := by
  induction h with
  | @settled place last tasks _ found =>
    have le := stream.le_place_step place tasks
    rwa [found] at le
  | @goesOn place place' last tasks _ _ _ _ found _ ih =>
    have le := stream.le_place_step place tasks
    rw [found] at le
    exact Nat.le_trans le ih

/-- A check does not go beyond the end of the input. -/
theorem le_end (h : stream.Checks place tasks entries outcome last) (ends : EndsAt stream n)
    (le : place ≤ n) : last ≤ n := by
  induction h with
  | @settled place last tasks _ found =>
    have le := place_step_le ends le tasks
    rwa [found] at le
  | @goesOn place place' last tasks _ _ _ _ found _ ih =>
    have le := place_step_le ends le tasks
    rw [found] at le
    exact ih le

/-- What is left of a check behind a decision. -/
theorem of_goesOn {place' : Nat} {tasks' : List Task} {first : Derivation}
    (h : stream.Checks place tasks entries outcome last)
    (found : stream.step place tasks = .goesOn first place' tasks') :
    ∃ later, stream.Checks place' tasks' later outcome last := by
  cases h with
  | settled found' => cases found.symm.trans found'
  | goesOn found' others =>
    cases found.symm.trans found'
    exact ⟨_, others⟩

end Checks

/-! ### The start of a program -/

theorem step_program (found : stream 0 = .ok token) :
    stream.step 0 [.program] = .goesOn [.enter .program] 0 [.definitions] := by
  simp only [step, found]
  rfl

/-- Where a definition starts, its first token is taken. -/
theorem Checks.pos_of_definition (h : stream.Checks 0 [.program] entries outcome last)
    (found : stream 0 = .ok token) (more : token.isEndOfInput = false)
    (starts : Task.decideDefinitions token.terminal ≠ .refuse .noDefinition) : 0 < last := by
  obtain ⟨_, h⟩ := h.of_goesOn (step_program found)
  have notEnd : token.terminal ≠ .endOfInput := fun same =>
    Bool.eq_false_iff.1 more (beq_iff_eq.2 same)
  -- the rule is entered, and its head is taken
  obtain ⟨rule, m, behind, head, enters⟩ : ∃ rule m behind, token.terminal = m.terminal ∧
      Task.decideDefinitions token.terminal = .enter rule (.head m :: behind) := by
    generalize token.terminal = now at starts notEnd
    unfold Task.decideDefinitions at starts
    split at starts
    · exact absurd rfl notEnd
    · exact ⟨_, .keyword .fun_, _, rfl, rfl⟩
    · exact ⟨_, .keyword .type, _, rfl, rfl⟩
    · exact absurd rfl starts
  have definitions : stream.step 0 [.definitions] =
      .goesOn [.enter rule] 0 (.head m :: behind) := by
    simp only [step, found, Task.decide, enters, List.append_nil]
  have taken : stream.step 0 (.head m :: behind) = .goesOn [] 1 behind := by
    simp only [step, found, Task.decide, Task.takeMark, head]
    rfl
  obtain ⟨_, h⟩ := h.of_goesOn definitions
  obtain ⟨_, h⟩ := h.of_goesOn taken
  exact h.le

/-! ### What a check leaves -/

/-- What is still to be checked when the token or fault at a place has settled the outcome. -/
def rest (stream : Outcomes) (last : Nat) : Outcomes :=
  led (stream.held last) fun n => stream (last + 1 + n)

/-- A token that settled the outcome is still there. -/
theorem rest_of_ok (found : stream last = .ok token) (n : Nat) :
    stream.rest last n = stream (last + n) := by
  unfold rest
  rw [held_of_ok found]
  cases n with
  | zero => exact found.symm
  | succ n =>
    show stream (last + 1 + n) = stream (last + (n + 1))
    rw [Nat.add_right_comm, Nat.add_assoc]

/-- What is left comes sooner to the end of the input. -/
theorem exists_rest_ends (ends : EndsAt stream n) (le : last ≤ n)
    (taken : ∀ token, stream last = .ok token → 0 < last) :
    ∃ m < n, EndsAt (stream.rest last) m := by
  cases found : stream last with
  | ok token =>
    have pos := taken token found
    exact ⟨n - last, by omega, ends.drop le (rest_of_ok found)⟩
  | error fault =>
    -- the end of the input is behind the fault
    have less : last < n := by
      refine Nat.lt_of_le_of_ne le ?_
      rintro rfl
      obtain ⟨token, found', -⟩ := ends.ends
      cases found.symm.trans found'
    have behind := ends.drop less fun _ => rfl
    cases last with
    | zero =>
      refine ⟨n - 1, by omega, ?_⟩
      unfold rest
      rw [held_zero found]
      exact behind
    | succ place =>
      unfold rest
      rw [held_succ found]
      cases held : stream place with
      | error fault => exact ⟨n - (place + 1 + 1), by omega, behind⟩
      | ok token =>
        refine ⟨n - (place + 1 + 1) + 1, by omega, behind.cons ?_ fun _ => rfl⟩
        rintro token' same
        injection same with same
        exact same ▸ ends.first place (by omega) token held

end Outcomes

/-! ### Outcomes that stay -/

/-- The outcomes that no later check changes: the text is accepted, or a token stands where only a
definition may. -/
inductive Lasting : Except Fault Unit → Prop
  | accepted : Lasting (.ok ())
  | noDefinition (found : String) (span : Span) :
      Lasting (.error ⟨.grammatical (.unexpectedTopLevel found), span⟩)

/-- Only where a definition may stand is a token refused as none. -/
theorem Task.eq_definitions_of_refuse {task : Task} {now : Terminal}
    (refused : task.decide now = .refuse .noDefinition) : task = .definitions := by
  cases task with
  | definitions => rfl
  | fields =>
    simp only [decide, decideFields] at refused
    split at refused <;> cases refused
  | statements =>
    simp only [decide, decideStatements] at refused
    split at refused <;> cases refused
  | statement =>
    simp only [decide, decideStatement] at refused
    split at refused <;> cases refused
  | clauses =>
    simp only [decide, decideClauses] at refused
    split at refused <;> cases refused
  | primary =>
    simp only [decide, decidePrimary] at refused
    split_ifs at refused
    cases refused
  | head | mark | name | typeName | direction | call | path | pathName =>
    simp only [decide, takeMark, takeName] at refused
    split_ifs at refused
    cases refused
  | returnType | moreParameters | moreArguments | morePath | moreOperands | unary | declaredType =>
    simp only [decide] at refused
    split_ifs at refused
  | _ => cases refused

/-- The token settles every check that comes to it first: it ends the input, or no definition starts with
it. -/
inductive Token.Settles (token : Token) : Except Fault Unit → Prop
  | ended (ended : token.isEndOfInput = true) : Settles token (.ok ())
  | refused (refused : Task.decideDefinitions token.terminal = .refuse .noDefinition) :
      Settles token (.error (Refusal.noDefinition.fault token))

section Settles

variable {stream : Outcomes} {token : Token} {outcome : Except Fault Unit} {last : Nat}
  {entries : Derivation} {machine : Machine}

theorem Token.Settles.lasting (h : token.Settles outcome) : Lasting outcome := by
  cases h with
  | ended => exact .accepted
  | refused => exact .noDefinition _ _

theorem Token.Settles.checks (h : token.Settles outcome) (found : stream 0 = .ok token) :
    stream.Checks 0 [.program] [.enter .program] outcome 0 := by
  refine .goesOn (Outcomes.step_program found) ?_
  cases h with
  | ended ended =>
    have same := Token.terminal_of_isEndOfInput ended
    have definitions : stream.step 0 [.definitions] = .goesOn [] 0 [] := by
      simp only [Outcomes.step, found, same]
      rfl
    have done : stream.step 0 [] = .settled (.ok ()) 0 := by
      simp only [Outcomes.step, found]
    exact .goesOn definitions (.settled done)
  | refused refused =>
    refine .settled ?_
    simp only [Outcomes.step, found, Task.decide, refused]

/-- Where an outcome does not last, the token that settled it is not the first one. -/
theorem Outcomes.Checks.pos (h : stream.Checks 0 [.program] entries outcome last)
    (passing : ¬Lasting outcome) (found : stream last = .ok token) : 0 < last := by
  cases last with
  | succ last => exact Nat.succ_pos last
  | zero =>
    have settled {other : Except Fault Unit} (settles : token.Settles other) : Lasting outcome := by
      obtain ⟨-, rfl, -⟩ := h.unique (settles.checks found)
      exact settles.lasting
    cases ended : token.isEndOfInput with
    | true => exact absurd (settled (.ended ended)) passing
    | false => exact h.pos_of_definition found ended fun refused => passing (settled (.refused refused))

/-- A run with a lasting outcome ends at a token that settles every later one. -/
theorem Machine.settles_of_run (anchored : machine.Anchored) (lasting : Lasting machine.run.1) :
    machine.run.2.current.Settles machine.run.1 := by
  obtain ⟨final, reached, ⟨done, run_eq⟩ | ⟨fault, left, failed, run_eq⟩⟩ := machine.run_cases
  · -- no task is left only at the end of the input
    have ended := reached.preserves (fun _ _ => Machine.Anchored.moves) anchored
    unfold Machine.Anchored at ended
    rw [done] at ended
    rw [run_eq]
    exact .ended ended
  · rw [run_eq] at lasting ⊢
    cases failed with
    | @refuse task behind refusal top decided =>
      cases refusal with
      | noDefinition =>
        cases Task.eq_definitions_of_refuse decided
        exact .refused decided
      | _ => cases lasting
    | take => cases lasting
    | look => cases lasting

end Settles

namespace Session

/-- The first pending token settles every check. -/
def Settled (session : Session) (outcome : Except Fault Unit) : Prop :=
  ∃ token, session.pending 0 = .ok token ∧ token.Settles outcome

variable {session : Session} {outcome : Except Fault Unit} {n : Nat}

/-- A check leaves pending what is behind the place that settled it. -/
theorem exists_rest (session : Session) :
    ∃ last, session.pending.Checks 0 [.program] (Event.steps session.parse.1.events)
        session.parse.1.outcome last ∧
      session.parse.2.current = session.pending.held last ∧
      session.parse.2.pending = session.pending.rest last := by
  obtain ⟨last, checks, held, behind⟩ := session.checks_pending
  refine ⟨last, checks, held, ?_⟩
  rw [pending, held, funext behind]
  rfl

/-- A settled session stays so. -/
theorem Settled.parse (h : session.Settled outcome) :
    session.parse.1.outcome = outcome ∧ Event.steps session.parse.1.events = [.enter .program] ∧
      session.parse.2.Settled outcome := by
  obtain ⟨token, first, settles⟩ := h
  obtain ⟨last, checks, -, left⟩ := session.exists_rest
  obtain ⟨steps_eq, outcome_eq, rfl⟩ := checks.unique (settles.checks first)
  refine ⟨outcome_eq, steps_eq, token, ?_, settles⟩
  rw [left, Outcomes.rest_of_ok first]
  exact first

theorem Settled.after (h : session.Settled outcome) (calls : List Call) :
    (session.after calls).Settled outcome := by
  refine after_preserves (P := (Settled · outcome)) (fun session c settled => ?_) h calls
  cases c with
  | parse => exact settled.parse.2.2
  | traced => exact settled

/-- An outcome that lasts settles the session. -/
theorem settled_of_lasting (lasting : Lasting session.parse.1.outcome) :
    session.parse.2.Settled session.parse.1.outcome := by
  rcases session.parse_cases with ⟨machine, starts, same⟩ | ⟨fault, lexer, -, -, same⟩
  · have anchored : machine.Anchored := by
      unfold Machine.Anchored
      rw [starts.tasks_eq]
      exact .inl rfl
    rw [same] at lasting ⊢
    exact ⟨machine.run.2.current, rfl, machine.settles_of_run anchored lasting⟩
  · rw [same] at lasting
    cases lasting

/-- Any other check comes sooner to the end of the input. -/
theorem exists_shorter (ends : EndsAt session.pending n)
    (passing : ¬Lasting session.parse.1.outcome) :
    ∃ m < n, EndsAt session.parse.2.pending m := by
  obtain ⟨last, checks, -, left⟩ := session.exists_rest
  rw [left]
  exact Outcomes.exists_rest_ends ends (checks.le_end ends (Nat.zero_le n)) fun _ =>
    checks.pos passing

/-- Every check shortens what is pending or settles the session. -/
theorem settled_or_shorter (ends : EndsAt session.pending n) (calls : List Call) :
    (∃ outcome, (session.after calls).Settled outcome) ∨
      ∃ m, EndsAt (session.after calls).pending m ∧ m + calls.count .parse ≤ n := by
  induction calls generalizing session n with
  | nil => exact .inr ⟨n, ends, Nat.le_refl n⟩
  | cons c calls ih =>
    cases c with
    | traced =>
      have same : EndsAt session.traced.pending n := ends
      rw [List.count_cons_of_ne (by decide)]
      exact ih same
    | parse =>
      by_cases lasting : Lasting session.parse.1.outcome
      · exact .inl ⟨_, (settled_of_lasting lasting).after calls⟩
      · obtain ⟨m, less, ends'⟩ := exists_shorter ends lasting
        rcases ih ends' with settled | ⟨k, ends'', le⟩
        · exact .inl settled
        · refine .inr ⟨k, ends'', ?_⟩
          rw [List.count_cons_self]
          omega

/-! ### All checks of a session -/

/-- What is pending comes to the end of the input. -/
theorem exists_end (session : Session) : ∃ n, EndsAt session.pending n := by
  obtain ⟨n, -, ends⟩ := session.lexer.exists_end
  unfold pending
  cases session.current with
  | none => exact ⟨n, ends⟩
  | some token =>
    cases ended : token.isEndOfInput with
    | true => exact ⟨0, ⟨token, rfl, ended⟩, nofun⟩
    | false =>
      refine ⟨n + 1, ends.cons ?_ fun _ => rfl⟩
      rintro token' same
      injection same with same
      exact same ▸ ended

/-- In front of any checks, this comes after no more outcomes than there are characters. -/
theorem exists_end_reached (text : String) (asked : List Lexer.Call) :
    ∃ n ≤ text.length, EndsAt (reached text asked []).pending n := by
  obtain ⟨n, le, ends⟩ := ((Lexer.ofString text).calls asked).2.exists_end
  exact ⟨n, Nat.le_trans le (Lexer.remaining_calls_le (.ofString text) asked), ends⟩

/-- As many checks as there are characters settle a session. -/
theorem exists_settled {text : String} {asked : List Lexer.Call} {calls : List Call}
    (enough : text.length ≤ calls.count .parse) :
    ∃ outcome, (reached text asked calls).Settled outcome := by
  obtain ⟨n, le, ends⟩ := exists_end_reached text asked
  rcases settled_or_shorter ends calls with settled | ⟨m, ends', shorter⟩
  · exact settled
  · -- nothing is left in front of the end of the input
    obtain rfl : m = 0 := by omega
    obtain ⟨token, first, ended⟩ := ends'.ends
    exact ⟨_, token, first, .ended ended⟩

/-- Sessions are checked alike if the same is pending. -/
theorem parse_congr {session' : Session} (same : session'.pending = session.pending) :
    session'.parse.1.outcome = session.parse.1.outcome ∧
      Event.steps session'.parse.1.events = Event.steps session.parse.1.events ∧
      session'.parse.2.pending = session.parse.2.pending := by
  obtain ⟨last, checks, -, left⟩ := session.exists_rest
  obtain ⟨last', checks', -, left'⟩ := session'.exists_rest
  rw [same] at checks' left'
  obtain ⟨steps_eq, outcome_eq, rfl⟩ := checks'.unique checks
  exact ⟨outcome_eq, steps_eq, left'.trans left.symm⟩

/-- A check is one of what is pending, whatever the session, and it accepts just the programs. If its
outcome lasts, all later checks have it and record nothing but that they entered a program; else it leaves
fewer outcomes in front of the end of the input. So the outcome stays after as many checks as there are
characters. -/
theorem parse_pending (session : Session) :
    (∃ last, (∀ entries outcome last',
        session.pending.Checks 0 [.program] entries outcome last' ↔
          entries = Event.steps session.parse.1.events ∧ outcome = session.parse.1.outcome ∧
            last' = last) ∧
      session.parse.2.record = session.record.map (· ++ Event.steps session.parse.1.events) ∧
      session.parse.2.current = session.pending.held last ∧
      session.parse.2.pending = session.pending.rest last) ∧
    (∀ session' : Session, session'.pending = session.pending →
      session'.parse.1.outcome = session.parse.1.outcome ∧
        Event.steps session'.parse.1.events = Event.steps session.parse.1.events ∧
        session'.parse.2.pending = session.parse.2.pending) ∧
    (session.parse.1.outcome = .ok () ↔ ∃ tokens n, Collects session.pending 0 (.ok tokens) n ∧
      Generates (tokens.map Token.terminal)) ∧
    (Lasting session.parse.1.outcome → ∀ later,
      let next := session.parse.2.after later
      next.parse.1.outcome = session.parse.1.outcome ∧
        next.parse.2.record = next.record.map (· ++ [.enter .program])) ∧
    (¬Lasting session.parse.1.outcome → ∃ m n, m < n ∧ EndsAt session.pending n ∧
      EndsAt session.parse.2.pending m) ∧
    ∀ text asked calls, session = reached text asked calls → text.length ≤ calls.count .parse →
      ∀ later, (session.after later).parse.1.outcome = session.parse.1.outcome := by
  refine ⟨?_, fun _ => parse_congr, session.parse_ok_iff, fun lasting later => ?_,
    fun passing => ?_, ?_⟩
  · obtain ⟨last, checks, held, left⟩ := session.exists_rest
    refine ⟨last, fun entries outcome last' => ⟨fun checks' => checks'.unique checks, ?_⟩,
      session.record_parse, held, left⟩
    rintro ⟨rfl, rfl, rfl⟩
    exact checks
  · have settled := (settled_of_lasting lasting).after later
    obtain ⟨outcome_eq, steps_eq, -⟩ := settled.parse
    refine ⟨outcome_eq, ?_⟩
    rw [record_parse, steps_eq]
  · obtain ⟨n, ends⟩ := session.exists_end
    obtain ⟨m, less, ends'⟩ := exists_shorter ends passing
    exact ⟨m, n, less, ends, ends'⟩
  · rintro text asked calls rfl enough later
    obtain ⟨outcome, settled⟩ := exists_settled enough
    exact (settled.after later).parse.1.trans settled.parse.1.symm

/-- A character that no token starts with is passed over: the first check fails at it and leaves less
pending, and the second one accepts, as do all later ones. -/
theorem parse_pending_past_fault :
    let session := reached "fun $ void f() \x7b \x7d" [.peek] [.traced]
    (∃ m n, m < n ∧ EndsAt session.pending n ∧ EndsAt session.parse.2.pending m) ∧
      session.parse.2.pending 0 = session.pending 0 ∧
      ∀ later, (session.parse.2.parse.2.after later).parse.1.outcome = .ok () := by
  intro session
  have failed : session.parse.1.outcome =
      .error ⟨.lexical (.unexpectedChar '$'), ⟨4, 5, 1, 5⟩⟩ := by cbv
  have accepted : session.parse.2.parse.1.outcome = .ok () := by cbv
  have passing : ¬Lasting session.parse.1.outcome := by
    rw [failed]
    rintro ⟨⟩
  have lasting : Lasting session.parse.2.parse.1.outcome := by
    rw [accepted]
    exact .accepted
  obtain ⟨-, -, -, -, shorter, -⟩ := parse_pending session
  obtain ⟨-, -, -, stays, -⟩ := parse_pending session.parse.2
  exact ⟨shorter passing, by cbv, fun later => (stays lasting later).1.trans accepted⟩

/-! ### Accepted behind a fault -/

/-- A check fails, and what it leaves pending is a program. -/
def LeavesProgram (session : Session) : Prop :=
  ∃ entries fault last tokens n,
    session.pending.Checks 0 [.program] entries (.error fault) last ∧
      Collects (session.pending.rest last) 0 (.ok tokens) n ∧ Generates (tokens.map Token.terminal)

/-- The session of a text after so many checks. -/
def rechecked (text : String) (n : Nat) : Session :=
  (ofString text).after (List.replicate n .parse)

theorem rechecked_succ (text : String) (n : Nat) :
    rechecked text (n + 1) = (rechecked text n).parse.2 := by
  unfold rechecked
  rw [List.replicate_succ', after_append]
  rfl

/-- A check that fails leaves a program just when the next one accepts. -/
theorem leavesProgram_iff : session.LeavesProgram ↔
    session.parse.1.outcome ≠ .ok () ∧ session.parse.2.parse.1.outcome = .ok () := by
  obtain ⟨last, checks, -, left⟩ := session.exists_rest
  rw [parse_ok_iff, left]
  constructor
  · rintro ⟨entries, fault, last', tokens, n, checks', collected, generates⟩
    obtain ⟨-, failed, rfl⟩ := checks'.unique checks
    refine ⟨?_, tokens, n, collected, generates⟩
    rw [← failed]
    exact nofun
  · rintro ⟨failed, tokens, n, collected, generates⟩
    cases found : session.parse.1.outcome with
    | ok => exact absurd found failed
    | error fault =>
      rw [found] at checks
      exact ⟨_, fault, last, tokens, n, checks, collected, generates⟩

/-- A check of a text after others accepts just when the text is a program, or when one of the others
has failed and has left a program. -/
theorem rechecked_accepts_iff (text : String) (n : Nat) :
    (rechecked text n).parse.1.outcome = .ok () ↔
      check text = .ok () ∨ ∃ m < n, (rechecked text m).LeavesProgram := by
  induction n with
  | zero => exact ⟨.inl, fun h => h.resolve_right nofun⟩
  | succ n ih =>
    have step : (rechecked text (n + 1)).parse.1.outcome = .ok () ↔
        (rechecked text n).parse.1.outcome = .ok () ∨ (rechecked text n).LeavesProgram := by
      rw [leavesProgram_iff, rechecked_succ]
      by_cases accepted : (rechecked text n).parse.1.outcome = .ok ()
      · have lasting : Lasting (rechecked text n).parse.1.outcome := accepted ▸ .accepted
        have settled := settled_of_lasting lasting
        exact iff_of_true (settled.parse.1.trans accepted) (.inl accepted)
      · simp only [accepted, ne_eq, not_false_eq_true, true_and, false_or]
    rw [step, ih, or_assoc]
    refine or_congr_right ?_
    simp only [Nat.lt_succ_iff_lt_or_eq, or_and_right, exists_or, exists_eq_left]

/-- A text that is refused at its second token is accepted by the next check, from that token on. -/
theorem rechecked_accepts_refused :
    check "fun fun void f() \x7b \x7d" =
        .error ⟨.grammatical (.expectedType "keyword 'fun'"), ⟨4, 7, 1, 5⟩⟩ ∧
      (rechecked "fun fun void f() \x7b \x7d" 1).parse.1.outcome = .ok () := by
  constructor <;> cbv

end Session

end SyntaxCheck
