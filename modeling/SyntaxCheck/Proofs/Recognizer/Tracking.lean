import SyntaxCheck.Proofs.Grammar.Completion
import SyntaxCheck.Proofs.Recognizer.Following
import SyntaxCheck.Proofs.Recognizer.Run

/-!
# The invariant of a run

A run keeps track of all the programs that begin with the tokens read so far: the tasks stand for what
may come, no more and no less.

* `Machine.Anchored` - the tasks end with the definitions, or there are none and the input has ended;
* `Machine.Tracks` - the invariant;
* `Machine.Tracks.moves` - every step keeps it;
* `Machine.tracks_start`, `Machine.Tracks.reaches` - so it holds in every state of a run.
-/

namespace SyntaxCheck

/-! ### What is recorded -/

namespace Event

@[simp] theorem steps_scanEvents (lexer : Lexer) (token : Token) :
    steps (lexer.scanEvents token).reverse = [] := by
  unfold Lexer.scanEvents
  split <;> rfl

theorem steps_cons (event : Event) (events : List Event) :
    steps (event :: events).reverse = steps events.reverse ++ event.step?.toList := by
  have alone : steps [event] = event.step?.toList := by
    unfold steps
    cases found : event.step? <;> simp [found]
  rw [List.reverse_cons, steps_append, alone]

theorem steps_scanned (lexer : Lexer) (token : Token) (events : List Event) :
    steps (lexer.scanEvents token ++ events).reverse = steps events.reverse := by
  rw [List.reverse_append, steps_append, steps_scanEvents, List.append_nil]

end Event

/-! ### The last task -/

/-- The only task becomes others that end with the definitions, or the input has ended. -/
def Decision.Anchors (ended : Bool) : Decision → Prop
  | .become tasks => tasks = [] ∧ ended = true
  | .enter _ tasks => tasks.getLast? = some .definitions
  | .refuse _ => True
  | _ => False

namespace Machine

/-- The tasks end with the definitions of a program; none are left only at the end of the input. -/
def Anchored (machine : Machine) : Prop :=
  match machine.tasks.getLast? with
  | none => machine.current.isEndOfInput = true
  | some task => task = .program ∨ task = .definitions

variable {machine machine' : Machine} {task : Task} {behind tasks : List Task}

/-- What is put above other tasks leaves the last one as it is. -/
theorem Anchored.above (h : machine.Anchored) (top : machine.tasks = task :: behind)
    (more : behind ≠ []) (top' : machine'.tasks = tasks ++ behind) : machine'.Anchored := by
  have last : machine'.tasks.getLast? = machine.tasks.getLast? := by
    rw [top, top', List.getLast?_append_of_ne_nil tasks more, List.getLast?_cons_of_ne_nil more]
  unfold Anchored at h ⊢
  rw [last]
  revert h
  cases found : machine.tasks.getLast? with
  | none =>
    rw [top, List.getLast?_eq_none_iff] at found
    cases found
  | some task => exact id

/-- What the decision about the only task does. -/
theorem Anchored.bottom {decision : Decision} (h : machine.Anchored) (alone : behind = [])
    (top : machine.tasks = task :: behind)
    (decided : task.decide machine.current.terminal = decision) :
    decision.Anchors machine.current.isEndOfInput := by
  subst alone decided
  unfold Anchored at h
  rw [top] at h
  rcases h with rfl | rfl
  · rfl
  · show (Task.decideDefinitions machine.current.terminal).Anchors
      (machine.current.terminal == .endOfInput)
    generalize machine.current.terminal = t
    unfold Task.decideDefinitions
    split
    · exact ⟨rfl, rfl⟩
    · rfl
    · rfl
    · trivial

theorem Anchored.moves (h : machine.Anchored) (moved : machine.Moves machine') :
    machine'.Anchored := by
  cases moved with
  | @become task behind tasks top decided =>
    by_cases more : behind = []
    · obtain ⟨rfl, ended⟩ := h.bottom more top decided
      subst more
      exact ended
    · exact h.above top more rfl
  | @enter task behind tasks rule top decided =>
    by_cases more : behind = []
    · have last : tasks.getLast? = some .definitions := h.bottom more top decided
      subst more
      unfold Anchored
      simp only [List.append_nil]
      rw [last]
      exact .inr rfl
    · exact h.above top more rfl
  | @take task behind tasks token lexer top decided =>
    by_cases more : behind = []
    · exact (h.bottom more top decided).elim
    · exact h.above top more rfl
  | @look task behind tasks token lexer top decided =>
    by_cases more : behind = []
    · exact (h.bottom more top decided).elim
    · exact h.above top more rfl
  | @note task behind event top decided =>
    by_cases more : behind = []
    · exact (h.bottom more top decided).elim
    · exact h.above top more (List.nil_append behind).symm

/-! ### The invariant -/

/-- A token that is shown is the next one of the word, unless the input has ended. -/
def Admits (machine : Machine) (word : List Token) : Prop :=
  machine.current.isEndOfInput = false → ∀ next ∈ machine.lexer.shown, word.head? = some next

theorem admits_ahead (machine : Machine) : machine.Admits machine.ahead :=
  fun more _ found => head?_ahead more found

/-- The tokens `read` came before the current one in the input `all`, which ends with `ending`. The
tasks derive just what may follow them, and the record just what is behind in it. -/
structure Tracks (base : Derivation) (all : List Token) (ending : Option LexicalFault)
    (read : List Token) (machine : Machine) : Prop where
  input_eq : read ++ machine.input = all
  ending_eq : machine.ending = ending
  anchored : machine.Anchored
  spaced : Spaced (fun _ => false) (symbolsOf machine.tasks)
  goesOn : ∀ token ∈ read, token.isEndOfInput = false
  /-- What was read is the beginning of a program. -/
  viable : ∃ word, Generates (read.map Token.terminal ++ word)
  sound : ∀ word, Derivable (symbolsOf machine.tasks) (machine.current.terminal :: word) →
    Generates (read.map Token.terminal ++ machine.current.terminal :: word)
  complete : ∀ tree word, machine.Admits word →
    Derives Token.terminal [.part .program] [tree] (read ++ machine.current :: word) →
    ∃ later, Records machine.tasks (machine.current :: word) later ∧
      base ++ tree.steps = Event.steps machine.events.reverse ++ later

namespace Tracks

variable {base : Derivation} {all read : List Token} {ending : Option LexicalFault}

/-- The current token is the next one of the input. -/
theorem isPrefix (h : machine.Tracks base all ending read) : read ++ [machine.current] <+: all := by
  refine ⟨machine.ahead, ?_⟩
  rw [← h.input_eq, List.append_assoc]
  rfl

/-- The decision about the first task carries on any program that begins with what was read. -/
theorem carries {decision : Decision} {tree : Tree Token} {word : List Token}
    (h : machine.Tracks base all ending read) (top : machine.tasks = task :: behind)
    (decided : task.decide machine.current.terminal = decision) (admits : machine.Admits word)
    (derived : Derives Token.terminal [.part .program] [tree] (read ++ machine.current :: word)) :
    ∃ entries, decision.Carries behind machine.current word entries ∧
      base ++ tree.steps = Event.steps machine.events.reverse ++ entries := by
  have spaced := h.spaced
  obtain ⟨entries, records, same⟩ := h.complete tree word admits derived
  rw [top] at spaced records
  exact ⟨entries, decided ▸ task.decide_carries spaced records, same⟩

/-- Where the tasks above others are unfolded and the current token stays, the invariant stays. -/
theorem unfolded {lexer : Lexer} {events : List Event}
    (h : machine.Tracks base all ending read) (top : machine.tasks = task :: behind)
    (unfolds : Unfolds machine.current.terminal (symbolsOf (task :: behind)) (symbolsOf tasks))
    (drained : lexer.drain = machine.lexer.drain)
    (anchored : Anchored ⟨lexer, machine.current, tasks, events⟩)
    (complete : ∀ tree word, Admits ⟨lexer, machine.current, tasks, events⟩ word →
      Derives Token.terminal [.part .program] [tree] (read ++ machine.current :: word) →
      ∃ later, Records tasks (machine.current :: word) later ∧
        base ++ tree.steps = Event.steps events.reverse ++ later) :
    Tracks base all ending read ⟨lexer, machine.current, tasks, events⟩ := by
  have spaced := h.spaced
  rw [top] at spaced
  refine ⟨?_, ?_, anchored, spaced.unfolds unfolds, h.goesOn, h.viable, ?_, complete⟩
  · rw [← h.input_eq]
    unfold input ahead
    rw [drained]
  · rw [← h.ending_eq]
    unfold Machine.ending
    rw [drained]
  · intro word derived
    apply h.sound
    rw [top]
    exact unfolds.derivable derived

/-- Whatever the tasks behind a token derive may follow it, if the decision is to take it. -/
theorem taken {tasks : Token → List Task} {word : List Terminal}
    (h : machine.Tracks base all ending read) (top : machine.tasks = task :: behind)
    (decided : task.decide machine.current.terminal = .take tasks)
    (derived : Derivable (symbolsOf (tasks machine.current ++ behind)) word) :
    Generates (read.map Token.terminal ++ machine.current.terminal :: word) := by
  have unfolding := task.decide_unfolding behind machine.current
  rw [decided] at unfolding
  obtain ⟨c, fits, unfolds⟩ := unfolding
  apply h.sound
  rw [top]
  exact unfolds.derivable (derived.token fits)

theorem take {tasks : Token → List Task} {token : Token} {lexer : Lexer}
    (h : machine.Tracks base all ending read) (top : machine.tasks = task :: behind)
    (decided : task.decide machine.current.terminal = .take tasks)
    (fetched : machine.lexer.advance = (.ok token, lexer)) :
    Tracks base all ending (read ++ [machine.current])
      ⟨lexer, token, tasks machine.current ++ behind,
        machine.lexer.scanEvents token ++ machine.events⟩ := by
  have more := more_of_decide decided id
  obtain ⟨ahead, ending'⟩ := ahead_of_advance (tasks machine.current ++ behind)
    (machine.lexer.scanEvents token ++ machine.events) more fetched
  have spaced := h.spaced
  rw [top] at spaced
  -- the current token joins those that were read
  have later : ∀ word, Derivable (symbolsOf (tasks machine.current ++ behind)) word →
      Generates ((read ++ [machine.current]).map Token.terminal ++ word) := by
    intro word derived
    rw [List.map_append, List.append_assoc]
    exact h.taken top decided derived
  refine ⟨?_, ?_, h.anchored.moves (.take top decided fetched), ?_, ?_, ?_, ?_, ?_⟩
  · rw [← ahead, ← h.input_eq, List.append_assoc]
    rfl
  · rw [← ending', h.ending_eq]
  · have unfolding := task.decide_unfolding behind machine.current
    rw [decided] at unfolding
    obtain ⟨c, -, unfolds⟩ := unfolding
    exact (spaced.unfolds unfolds).tail
  · intro token found
    rcases List.mem_append.1 found with found | found
    · exact h.goesOn token found
    · exact List.mem_singleton.1 found ▸ more
  · obtain ⟨word, derived⟩ := exists_derivable (symbolsOf (tasks machine.current ++ behind))
    exact ⟨word, later word derived⟩
  · intro word derived
    exact later _ derived
  · intro tree word _ derived
    rw [List.append_assoc] at derived
    have shown : machine.Admits (token :: word) := by
      intro _ next found
      rw [Lexer.advance, Option.mem_def.1 found] at fetched
      injection fetched with same
      injection same with same
      rw [same]
      rfl
    obtain ⟨later, records, same⟩ := h.carries top decided shown derived
    exact ⟨later, records, by rw [Event.steps_scanned]; exact same⟩

/-- Every step keeps track. -/
theorem moves (h : machine.Tracks base all ending read) (moved : machine.Moves machine') :
    ∃ read', machine'.Tracks base all ending read' := by
  have anchored := h.anchored.moves moved
  cases moved with
  | @become task behind tasks top decided =>
    have unfolds := task.decide_unfolding behind machine.current
    rw [decided] at unfolds
    refine ⟨read, h.unfolded top unfolds rfl anchored ?_⟩
    intro tree word shown derived
    exact h.carries top decided shown derived
  | @enter task behind tasks rule top decided =>
    have unfolds := task.decide_unfolding behind machine.current
    rw [decided] at unfolds
    refine ⟨read, h.unfolded top unfolds rfl anchored ?_⟩
    intro tree word shown derived
    obtain ⟨_, ⟨later, rfl, records⟩, same⟩ := h.carries top decided shown derived
    refine ⟨later, records, ?_⟩
    rw [Event.steps_cons, same, List.append_assoc]
    rfl
  | @take task behind tasks token lexer top decided fetched =>
    exact ⟨_, h.take top decided fetched⟩
  | @look task behind tasks token lexer top decided shown =>
    have unfolds := task.decide_unfolding behind machine.current
    rw [decided] at unfolds
    obtain ⟨shown', next, -⟩ := Lexer.peek_ok shown
    refine ⟨read, h.unfolded top (unfolds token.terminal) (Lexer.drain_peek shown) anchored ?_⟩
    have more := more_of_decide decided id
    intro tree word same_next derived
    have found := same_next more token shown'
    -- a token that was shown before is the one that is shown now
    have earlier : machine.Admits word := by
      intro _ next' found'
      rw [Lexer.advance, Option.mem_def.1 found'] at next
      injection next with next
      rw [found, next]
    obtain ⟨later, records, same⟩ := h.carries top decided earlier derived
    exact ⟨later, records token found, by rw [Event.steps_scanned]; exact same⟩
  | @note task behind event top decided =>
    have unfolds := task.decide_unfolding behind machine.current
    rw [decided] at unfolds
    refine ⟨read, h.unfolded top (unfolds ▸ .refl _) rfl anchored ?_⟩
    intro tree word shown derived
    obtain ⟨_, ⟨later, rfl, records⟩, same⟩ := h.carries top decided shown derived
    refine ⟨later, records, ?_⟩
    rw [Event.steps_cons, same, List.append_assoc]

/-- So it holds in every state of a run. -/
theorem reaches (h : machine.Tracks base all ending read) (reached : machine.Reaches machine') :
    ∃ read', machine'.Tracks base all ending read' := by
  refine reached.preserves (P := fun machine => ∃ read, machine.Tracks base all ending read) ?_
    ⟨read, h⟩
  rintro a b ⟨read, tracks⟩ moved
  exact tracks.moves moved

end Tracks

/-- Before a run nothing was read, and any program may come. -/
theorem tracks_start (lexer : Lexer) (current : Token) (events : List Event) :
    (start lexer current events).Tracks (Event.steps events.reverse)
      (start lexer current events).input (start lexer current events).ending [] := by
  refine ⟨rfl, rfl, .inl rfl, ?_, by simp, ?_, ?_, ?_⟩
  · show Spaced (fun _ => false) [.part .definitions, .token (.only .endOfInput)]
    decide +kernel
  · obtain ⟨word, derived⟩ := exists_derivable [.part .program]
    exact ⟨word, generates_iff.2 derived⟩
  · intro word derived
    exact generates_iff.2 (derived.expand .program fun _ _ => rfl)
  · intro tree word _ derived
    obtain ⟨p, children, _, same, arity, -, later⟩ := derived.of_part
    injection same with same others
    subst same others
    cases p
    obtain ⟨definitions, ending, rfl⟩ := List.length_eq_two.1 arity
    obtain ⟨last, same⟩ := later.getElem?_of_token (i := 1) rfl
    obtain rfl := Option.some.inj same
    refine ⟨_, ⟨_, later, rfl⟩, ?_⟩
    rw [Tree.steps_node Production.program _ rfl]
    simp [start, recordOf, Task.record, Task.symbols, Nonterminal.rule?]

end Machine

end SyntaxCheck
