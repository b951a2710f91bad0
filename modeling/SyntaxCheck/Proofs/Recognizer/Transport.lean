import SyntaxCheck.Proofs.Lexer.Lines
import SyntaxCheck.Proofs.Recognizer.Lead
import SyntaxCheck.Proofs.Recognizer.Lockstep
import SyntaxCheck.Proofs.Recognizer.Repetition

/-!
# Checks of streams that agree

A check asks a stream for nothing behind the place that settles it. So another stream that agrees with it
up to there, but for the spans, is checked in the same way.

* `Outcomes.Moves`, `Outcomes.Settles` - all that one decision can do;
* `Outcomes.Moves.seen_le` - what is looked at does not lie behind the place that settles the outcome;
* `Outcomes.Checks.moved` - the check of a stream at other places;
* `streamOf`, `exists_checks`, `eq_of_checks` - the check of a text.
-/

namespace SyntaxCheck

namespace Outcomes

/-! ### Decisions about a stream -/

/-- All that a decision can do with the token at a place but settle the outcome. The stream is seen up to
the place, or up to the next one. -/
inductive Moves (stream : Outcomes) (place : Nat) (current : Token) :
    List Task → Nat → Derivation → Nat → List Task → Prop
  | become {task : Task} {behind tasks : List Task}
      (decided : task.decide current.terminal = .become tasks) :
      Moves stream place current (task :: behind) place [] place (tasks ++ behind)
  | enter {task : Task} {behind tasks : List Task} {rule : Rule}
      (decided : task.decide current.terminal = .enter rule tasks) :
      Moves stream place current (task :: behind) place [.enter rule] place (tasks ++ behind)
  | take {task : Task} {behind : List Task} {tasks : Token → List Task}
      (decided : task.decide current.terminal = .take tasks) :
      Moves stream place current (task :: behind) place [] (place + 1) (tasks current ++ behind)
  | look {task : Task} {behind : List Task} {tasks : Terminal → List Task} {next : Token}
      (decided : task.decide current.terminal = .look tasks) (found : stream (place + 1) = .ok next) :
      Moves stream place current (task :: behind) (place + 1) [] place (tasks next.terminal ++ behind)
  | note {task : Task} {behind : List Task} {event : Event}
      (decided : task.decide current.terminal = .note event) :
      Moves stream place current (task :: behind) place event.step?.toList place behind

/-- All that can settle the outcome. -/
inductive Settles (stream : Outcomes) (place : Nat) : List Task → Except Fault Unit → Nat → Prop
  | missing {tasks : List Task} {fault : LexicalFault} (found : stream place = .error fault) :
      Settles stream place tasks (.error fault.toFault) place
  | done {current : Token} (here : stream place = .ok current) : Settles stream place [] (.ok ()) place
  | refuse {current : Token} {task : Task} {behind : List Task} {refusal : Refusal}
      (here : stream place = .ok current) (decided : task.decide current.terminal = .refuse refusal) :
      Settles stream place (task :: behind) (.error (refusal.fault current)) place
  | look {current : Token} {task : Task} {behind : List Task} {tasks : Terminal → List Task}
      {fault : LexicalFault} (here : stream place = .ok current)
      (decided : task.decide current.terminal = .look tasks)
      (found : stream (place + 1) = .error fault) :
      Settles stream place (task :: behind) (.error fault.toFault) (place + 1)

variable {stream stream' : Outcomes} {place place' last seen k : Nat} {tasks tasks' : List Task}
  {entries : Derivation} {outcome : Except Fault Unit} {current : Token}

theorem step_goesOn_iff : stream.step place tasks = .goesOn entries place' tasks' ↔
    ∃ current seen, stream place = .ok current ∧
      stream.Moves place current tasks seen entries place' tasks' := by
  constructor
  · intro found
    unfold step at found
    split at found
    · cases found
    rename_i current here
    refine ⟨current, ?_⟩
    split at found
    · cases found
    rename_i task behind
    split at found
    · rename_i decided
      cases found
      exact ⟨_, here, .become decided⟩
    · rename_i decided
      cases found
      exact ⟨_, here, .enter decided⟩
    · rename_i decided
      cases found
      exact ⟨_, here, .take decided⟩
    · rename_i decided
      split at found
      · rename_i next there
        cases found
        exact ⟨_, here, .look decided there⟩
      · cases found
    · rename_i decided
      cases found
      exact ⟨_, here, .note decided⟩
    · cases found
  · rintro ⟨current, seen, here, moved⟩
    cases moved with
    | become decided | enter decided | take decided | note decided =>
      simp only [step, here, decided]
    | look decided found => simp only [step, here, decided, found]

theorem step_settled_iff : stream.step place tasks = .settled outcome last ↔
    stream.Settles place tasks outcome last := by
  constructor
  · intro found
    unfold step at found
    split at found
    · rename_i missing
      cases found
      exact .missing missing
    rename_i current here
    split at found
    · injection found with h₁ h₂
      subst h₁ h₂
      exact .done here
    split at found
    · cases found
    · cases found
    · cases found
    · rename_i decided
      split at found
      · cases found
      · rename_i missing
        cases found
        exact .look here decided missing
    · cases found
    · rename_i decided
      cases found
      exact .refuse here decided
  · intro settles
    cases settles with
    | missing found => simp only [step, found]
    | done here => simp only [step, here]
    | refuse here decided => simp only [step, here, decided]
    | look here decided found => simp only [step, here, decided, found]

/-! ### What is seen of a stream -/

/-- What is to come stays spaced. -/
theorem Moves.spaced {after : Terminal → Bool}
    (h : stream.Moves place current tasks seen entries place' tasks')
    (spaced : Spaced after (symbolsOf tasks)) : Spaced after (symbolsOf tasks') := by
  have unfolding : ∀ {task : Task} {behind : List Task} {decision : Decision},
      task.decide current.terminal = decision → decision.Unfolding task behind current :=
    fun decided => decided ▸ Task.decide_unfolding _ current _
  cases h with
  | become decided => exact spaced.unfolds (unfolding decided)
  | enter decided => exact spaced.unfolds (unfolding decided)
  | take decided =>
    obtain ⟨c, -, unfolds⟩ := unfolding decided
    exact (spaced.unfolds unfolds).tail
  | @look task behind tasks next decided found =>
    exact spaced.unfolds (unfolding decided next.terminal)
  | @note task _ event decided =>
    have same : symbolsOf (task :: tasks') = symbolsOf tasks' := unfolding decided
    exact same ▸ spaced

/-- Where the tasks are led by a name that is there, the check goes beyond it. -/
theorem Checks.lt_of_nameLed (h : stream.Checks place tasks entries outcome last)
    (here : stream place = .ok current) (named : current.terminal = .identifier)
    (led : NameLed tasks) : place < last := by
  induction h with
  | settled found =>
    cases step_settled_iff.1 found with
    | missing missed => cases here.symm.trans missed
    | done =>
      obtain ⟨s, γ, symbols, leads⟩ := led
      cases symbols
      cases leads
    | refuse here' decided =>
      cases here.symm.trans here'
      have keeps := Task.decide_of_nameLed led
      rw [← named, decided] at keeps
      exact keeps.elim
    | look => exact Nat.lt_succ_self _
  | goesOn found later ih =>
    obtain ⟨current', seen, here', moved⟩ := step_goesOn_iff.1 found
    cases here.symm.trans here'
    have keeps : ∀ {task : Task} {behind : List Task} {decision : Decision}, NameLed (task :: behind) →
        task.decide current.terminal = decision → decision.KeepsLead behind := by
      intro task behind decision led decided
      rw [← decided, named]
      exact Task.decide_of_nameLed led
    cases moved with
    | become decided | enter decided | note decided => exact ih here (keeps led decided)
    | take => exact later.le
    | look decided => exact (keeps led decided).elim

/-- What is seen does not lie behind the place that settles the outcome. -/
theorem Moves.seen_le {after : Terminal → Bool}
    (h : stream.Moves place current tasks seen entries place' tasks')
    (here : stream place = .ok current) (spaced : Spaced after (symbolsOf tasks))
    {later : Derivation} (others : stream.Checks place' tasks' later outcome last) : seen ≤ last := by
  cases h with
  | become | enter | note => exact others.le
  | take => exact Nat.le_of_succ_le others.le
  | @look task behind tasks next decided =>
    have looks := Task.decide_look current.terminal spaced
    rw [decided] at looks
    exact others.lt_of_nameLed here looks.1 (looks.2 next.terminal)

/-! ### The same stream at other places -/

section Moved

variable (move : Span → Span)

/-- The outcome at other places. -/
def movedResult : Except Fault Unit → Except Fault Unit := Except.mapError (Located.moved move)

/-- The tasks agree, but for the places of tokens. -/
abbrev TasksMoved : List Task → List Task → Prop := TasksAlike fun a b => b = a.moved move

theorem agrees_moved : Agrees fun a b => b = Token.moved move a := by
  rintro a b rfl
  exact ⟨rfl, fun _ _ => rfl⟩

theorem eq_of_pathAlike_moved {path path' : String}
    (alike : PathAlike (fun a b => b = Token.moved move a) path path') : path' = path := by
  induction alike with
  | name pair => rw [pair]; rfl
  | dotted _ pair _ ih => rw [ih, pair]; rfl

/-- No entry shows a place. -/
theorem eq_of_stepAlike_moved {a b : Step} (alike : Step.Alike (fun a b => b = Token.moved move a) a b) :
    b = a := by
  cases alike with
  | enter | binary | unary => rfl
  | literal pair | new pair | call pair => rw [pair]; rfl
  | path alike => rw [eq_of_pathAlike_moved move alike]

theorem step?_eq_of_alike_moved {event event' : Event}
    (alike : Event.Alike (fun a b => b = Token.moved move a) event event') :
    event'.step?.toList = event.step?.toList := by
  cases alike with
  | grouped alike => exact congrArg (fun step => [step]) (eq_of_stepAlike_moved move alike)
  | defined => rfl

theorem decide_moved {task task₂ : Task} {now : Terminal} {decision : Decision}
    (alike : Task.Alike (fun a b => b = Token.moved move a) task task₂)
    (decided : task.decide now = decision) :
    ∃ decision₂, task₂.decide now = decision₂ ∧
      Decision.Alike (fun a b => b = Token.moved move a) now decision decision₂ :=
  ⟨_, rfl, decided ▸ Task.decide_alike (agrees_moved move) alike⟩

variable {tasks₂ : List Task}

/-- What settles the outcome settles it at the other places, too. -/
theorem Settles.moved (h : stream.Settles place tasks outcome last)
    (alike : TasksMoved move tasks tasks₂)
    (same : ∀ i, place ≤ i → i ≤ last → stream' (k + i) = movedOutcome move (stream i)) :
    stream'.Settles (k + place) tasks₂ (movedResult move outcome) (k + last) := by
  cases h with
  | missing found =>
    have now := same place (Nat.le_refl _) (Nat.le_refl _)
    rw [found] at now
    exact .missing now
  | done here =>
    have now := same place (Nat.le_refl _) (Nat.le_refl _)
    rw [here] at now
    cases alike
    exact .done now
  | refuse here decided =>
    have now := same place (Nat.le_refl _) (Nat.le_refl _)
    rw [here] at now
    cases alike with
    | cons first others =>
      obtain ⟨_, decided₂, decisions⟩ := decide_moved move first decided
      cases decisions
      exact .refuse now decided₂
  | look here decided found =>
    have now := same place (Nat.le_refl _) (Nat.le_succ _)
    have next := same (place + 1) (Nat.le_succ _) (Nat.le_refl _)
    rw [here] at now
    rw [found] at next
    cases alike with
    | cons first others =>
      obtain ⟨_, decided₂, decisions⟩ := decide_moved move first decided
      cases decisions
      exact .look now decided₂ next

/-- What a decision does it does at the other places, too. -/
theorem Moves.moved (h : stream.Moves place current tasks seen entries place' tasks')
    (alike : TasksMoved move tasks tasks₂)
    (same : ∀ i, place ≤ i → i ≤ seen → stream' (k + i) = movedOutcome move (stream i)) :
    ∃ tasks₂', stream'.Moves (k + place) (current.moved move) tasks₂ (k + seen) entries (k + place')
        tasks₂' ∧ TasksMoved move tasks' tasks₂' := by
  cases h with
  | become decided =>
    obtain _ | ⟨first, others⟩ := alike
    obtain ⟨_, decided₂, decisions⟩ := decide_moved move first decided
    cases decisions with
    | become all => exact ⟨_, .become decided₂, List.rel_append all others⟩
  | enter decided =>
    obtain _ | ⟨first, others⟩ := alike
    obtain ⟨_, decided₂, decisions⟩ := decide_moved move first decided
    cases decisions with
    | enter rule all => exact ⟨_, .enter decided₂, List.rel_append all others⟩
  | take decided =>
    obtain _ | ⟨first, others⟩ := alike
    obtain ⟨_, decided₂, decisions⟩ := decide_moved move first decided
    cases decisions with
    | take all => exact ⟨_, .take decided₂, List.rel_append (all _ _ rfl rfl) others⟩
  | look decided found =>
    have next := same (place + 1) (Nat.le_succ _) (Nat.le_refl _)
    rw [found] at next
    obtain _ | ⟨first, others⟩ := alike
    obtain ⟨_, decided₂, decisions⟩ := decide_moved move first decided
    cases decisions with
    | look all => exact ⟨_, .look decided₂ next, List.rel_append (all _) others⟩
  | note decided =>
    obtain _ | ⟨first, others⟩ := alike
    obtain ⟨_, decided₂, decisions⟩ := decide_moved move first decided
    cases decisions with
    | note alike =>
      rw [← step?_eq_of_alike_moved move alike]
      exact ⟨_, .note decided₂, others⟩

/-- The check of a stream is one of every stream that agrees with it up to the place that settles it. -/
theorem Checks.moved {after : Terminal → Bool} (h : stream.Checks place tasks entries outcome last)
    (spaced : Spaced after (symbolsOf tasks)) (alike : TasksMoved move tasks tasks₂)
    (same : ∀ i, place ≤ i → i ≤ last → stream' (k + i) = movedOutcome move (stream i)) :
    stream'.Checks (k + place) tasks₂ entries (movedResult move outcome) (k + last) := by
  induction h generalizing tasks₂ with
  | settled found =>
    exact .settled (step_settled_iff.2 ((step_settled_iff.1 found).moved move alike same))
  | @goesOn place place' last tasks tasks' entries later outcome found others ih =>
    obtain ⟨current, seen, here, moved⟩ := step_goesOn_iff.1 found
    have seen_le := moved.seen_le here spaced others
    have now := same place (Nat.le_refl _) (Checks.le (.goesOn found others))
    rw [here] at now
    obtain ⟨tasks₂', moved₂, alike'⟩ := moved.moved move alike fun i from_i to_seen =>
      same i from_i (Nat.le_trans to_seen seen_le)
    have le : place ≤ place' := by
      have le := stream.le_place_step place tasks
      rwa [found] at le
    exact .goesOn (step_goesOn_iff.2 ⟨_, _, now, moved₂⟩)
      (ih (moved.spaced spaced) alike' fun i from_i => same i (Nat.le_trans le from_i))

end Moved

theorem movedOutcome_id (outcome : Except LexicalFault Token) : movedOutcome id outcome = outcome := by
  cases outcome <;> rfl

theorem movedResult_id (outcome : Except Fault Unit) : movedResult id outcome = outcome := by
  cases outcome <;> rfl

/-- At the start of a check, all that is to come is spaced. -/
theorem spaced_start : Spaced (fun _ => false) (symbolsOf [.program]) :=
  (Machine.tracks_start default default []).spaced

/-- Streams that agree up to the place that settles the outcome are checked alike. -/
theorem Checks.congr (h : stream.Checks 0 [.program] entries outcome last)
    (same : ∀ i ≤ last, stream' i = stream i) : stream'.Checks 0 [.program] entries outcome last := by
  have agree : ∀ i, 0 ≤ i → i ≤ last → stream' (0 + i) = movedOutcome id (stream i) := by
    intro i _ le
    rw [Nat.zero_add, movedOutcome_id, same i le]
  have moved := h.moved id spaced_start (.plain rfl) agree
  rwa [movedResult_id, Nat.zero_add, Nat.zero_add] at moved

end Outcomes

/-! ### Texts -/

/-- The stream of tokens and faults of a text. -/
def streamOf (text : String) : Outcomes := (Lexer.ofString text).outcome

variable {text : String} {entries : Derivation} {outcome : Except Fault Unit} {last : Nat}

/-- The check of a text, and its record, are those of the stream of the text. -/
theorem exists_checks (text : String) :
    ∃ last, (streamOf text).Checks 0 [.program] (trace text).2 (check text) last ∧
      trace text = (check text, (trace text).2) := by
  obtain ⟨last, checks, -⟩ := (Session.ofString text).checks_pending
  have traced : (Session.ofString text).traced.pending = (Session.ofString text).pending := rfl
  obtain ⟨outcome_eq, steps_eq, -⟩ := Session.parse_congr traced
  have record : (trace text).2 = Event.steps (Session.ofString text).parse.1.events := by
    rw [trace, Session.record_parse, steps_eq]
    rfl
  refine ⟨last, ?_, Prod.ext outcome_eq rfl⟩
  rw [record]
  exact checks

theorem eq_of_checks (checks : (streamOf text).Checks 0 [.program] entries outcome last) :
    check text = outcome ∧ trace text = (outcome, entries) := by
  obtain ⟨last', checks', same⟩ := exists_checks text
  obtain ⟨entries_eq, outcome_eq, -⟩ := checks'.unique checks
  rw [same, entries_eq, outcome_eq]
  exact ⟨rfl, rfl⟩

end SyntaxCheck
