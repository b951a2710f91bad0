import SyntaxCheck.Proofs.Derivation.Operands
import SyntaxCheck.Proofs.Recognizer.Transport

/-!
# Programs one below the other

An accepted text ends between definitions. So whatever stands below it, a newline between them, is checked
as if it stood alone, only that it lies farther down.

* `Enclosed`, `Rooted` - the tasks inside a definition, and those of a program that has begun;
* `Outcomes.Moves.enclosed`, `Outcomes.Moves.definitions` - a definition is left with its closing brace;
* `Outcomes.Checks.not_enclosed_of_end`, `Outcomes.Checks.exists_brace` - how an accepted stream ends;
* `Outcomes.Checks.goes_on` - the check of a stream that begins like an accepted one;
* `check_lines` - the check of a text with another one below it.
-/

namespace SyntaxCheck

/-! ### Inside a definition -/

/-- The tasks are those inside a definition: its closing brace comes right before the other definitions. -/
def Enclosed (tasks : List Task) : Prop :=
  ∃ above last, tasks = above ++ [last, .definitions] ∧
    (last = .block ∨ last = .head (.symbol .rightBrace))

/-- The tasks are those of a program that has begun, inside a definition or between two of them. -/
def Rooted (tasks : List Task) : Prop :=
  tasks = [.definitions] ∨ Enclosed tasks

theorem not_rooted_nil : ¬Rooted [] := by
  rintro (same | ⟨above, last, same, -⟩)
  · cases same
  · simp at same

namespace Outcomes

variable {stream stream' : Outcomes} {place place' last seen n : Nat} {task : Task}
  {tasks tasks' behind : List Task} {entries : Derivation} {outcome : Except Fault Unit} {current : Token}

/-- What comes of the first task stands above the others. -/
theorem Moves.exists_above (h : stream.Moves place current (task :: behind) seen entries place' tasks') :
    ∃ above, tasks' = above ++ behind := by
  cases h with
  | note => exact ⟨[], rfl⟩
  | _ => exact ⟨_, rfl⟩

/-- A definition is left only with its closing brace. -/
theorem Moves.enclosed (h : stream.Moves place current tasks seen entries place' tasks')
    (enclosed : Enclosed tasks) :
    Enclosed tasks' ∨
      tasks' = [.definitions] ∧ current.terminal = .symbol .rightBrace ∧ place' = place + 1 := by
  obtain ⟨above, last, rfl, sort⟩ := enclosed
  cases above with
  | cons task above =>
    obtain ⟨new, rfl⟩ := h.exists_above
    exact .inl ⟨new ++ above, last, (List.append_assoc _ _ _).symm, sort⟩
  | nil =>
    rcases sort with rfl | rfl
    · -- the block is opened
      cases h with
      | enter decided =>
        cases decided
        exact .inl ⟨[.symbol .leftBrace, .statements], _, rfl, .inr rfl⟩
      | become decided | take decided | look decided | note decided => cases decided
    · cases h with
      | take decided =>
        simp only [Task.decide, Task.takeMark] at decided
        split at decided
        · rename_i brace
          cases decided
          exact .inr ⟨rfl, brace, rfl⟩
        · cases decided
      | become decided | enter decided | look decided | note decided =>
        simp only [Task.decide, Task.takeMark] at decided
        split at decided <;> cases decided

/-- Between definitions, the input ends or another definition is entered. -/
theorem Moves.definitions (h : stream.Moves place current [.definitions] seen entries place' tasks') :
    place' = place ∧ ((current.isEndOfInput = true ∧ entries = [] ∧ tasks' = []) ∨
      Enclosed tasks' ∧ ∃ rule, entries = [.enter rule]) := by
  have decided : Task.decide .definitions current.terminal =
      Task.decideDefinitions current.terminal := rfl
  unfold Task.decideDefinitions at decided
  split at decided
  · rename_i ended
    cases h <;> rename_i found <;> cases decided.symm.trans found
    exact ⟨rfl, .inl ⟨beq_iff_eq.2 ended, rfl, rfl⟩⟩
  · cases h <;> rename_i found <;> cases decided.symm.trans found
    exact ⟨rfl, .inr ⟨⟨[_, _, _, _, _, _], .block, rfl, .inl rfl⟩, _, rfl⟩⟩
  · cases h <;> rename_i found <;> cases decided.symm.trans found
    exact ⟨rfl, .inr ⟨⟨[_, _, _, _], .head (.symbol .rightBrace), rfl, .inr rfl⟩, _, rfl⟩⟩
  · cases h <;> rename_i found <;> cases decided.symm.trans found

/-! ### How an accepted stream ends -/

/-- Inside a definition, a check that comes to the end of the input does not accept. -/
theorem Checks.not_enclosed_of_end (h : stream.Checks place tasks entries outcome last)
    (accepted : outcome = .ok ()) (here : stream place = .ok current)
    (ended : current.isEndOfInput = true) : ¬Enclosed tasks := by
  induction h with
  | settled found =>
    subst accepted
    cases step_settled_iff.1 found with
    | done => exact fun enclosed => not_rooted_nil (.inr enclosed)
  | @goesOn place place' last tasks tasks' entries later outcome found others ih =>
    intro enclosed
    obtain ⟨current', seen, here', moved⟩ := step_goesOn_iff.1 found
    cases here.symm.trans here'
    -- the end of the input is not taken
    have stays : place' = place := by
      have next := stream.place_step place tasks
      rw [found] at next
      rcases next with same | ⟨-, token, found', more⟩
      · exact same
      · cases here.symm.trans found'
        rw [more] at ended
        cases ended
    subst stays
    rcases moved.enclosed enclosed with enclosed' | ⟨-, -, next⟩
    · exact ih accepted here enclosed'
    · omega

/-- An accepted stream with a definition has a brace right in front of the end of the input. -/
theorem Checks.exists_brace (h : stream.Checks place tasks entries outcome last)
    (accepted : outcome = .ok ()) (ends : EndsAt stream n) (less : place < n) (rooted : Rooted tasks) :
    ∃ token, stream (n - 1) = .ok token ∧ token.terminal = .symbol .rightBrace := by
  obtain ⟨final, atEnd, isEnd⟩ := ends.ends
  induction h with
  | settled found =>
    subst accepted
    cases step_settled_iff.1 found with
    | done => exact absurd rooted not_rooted_nil
  | @goesOn place place' last tasks tasks' entries later outcome found others ih =>
    obtain ⟨current, seen, here, moved⟩ := step_goesOn_iff.1 found
    have le : place' ≤ n := by
      have le := place_step_le ends (Nat.le_of_lt less) tasks
      rwa [found] at le
    rcases rooted with rfl | enclosed
    · obtain ⟨rfl, ⟨ended, -⟩ | ⟨enclosed, -⟩⟩ := moved.definitions
      · rw [ends.first _ less current here] at ended
        cases ended
      · exact ih accepted less (.inr enclosed)
    · rcases moved.enclosed enclosed with enclosed' | ⟨rfl, brace, rfl⟩
      · refine ih accepted (Nat.lt_of_le_of_ne le ?_) (.inr enclosed')
        rintro rfl
        exact others.not_enclosed_of_end accepted atEnd isEnd enclosed'
      · by_cases last_brace : place + 1 = n
        · exact ⟨current, by rw [← last_brace]; exact here, brace⟩
        · exact ih accepted (by omega) (.inl rfl)

/-! ### A stream that begins like an accepted one -/

/-- A decision depends on what it sees. -/
theorem Moves.congr (h : stream.Moves place current tasks seen entries place' tasks')
    (same : stream' seen = stream seen) :
    stream'.Moves place current tasks seen entries place' tasks' := by
  cases h with
  | become decided => exact .become decided
  | enter decided => exact .enter decided
  | take decided => exact .take decided
  | look decided found => exact .look decided (same.trans found)
  | note decided => exact .note decided

/-- The end of the input is not looked at from a brace in front of it: only a name is looked beyond. -/
theorem Moves.seen_lt {after : Terminal → Bool}
    (h : stream.Moves place current tasks seen entries place' tasks') (here : stream place = .ok current)
    (spaced : Spaced after (symbolsOf tasks)) (less : place < n)
    (brace : ∃ token, stream (n - 1) = .ok token ∧ token.terminal = .symbol .rightBrace) : seen < n := by
  cases h with
  | @look task behind tasks next decided found =>
    have looks := Task.decide_look current.terminal spaced
    rw [decided] at looks
    refine Nat.lt_of_le_of_ne less ?_
    rintro rfl
    obtain ⟨token, found, brace⟩ := brace
    cases here.symm.trans found
    cases brace.symm.trans looks.1
  | _ => exact less

/-- A stream that begins like an accepted one is checked like that one up to its end, and then it goes on
between definitions. -/
theorem Checks.goes_on {after : Terminal → Bool} {entries' : Derivation} {outcome' : Except Fault Unit}
    {last' : Nat} (h : stream.Checks place tasks entries outcome last) (accepted : outcome = .ok ())
    (ends : EndsAt stream n) (le : place ≤ n) (rooted : Rooted tasks)
    (spaced : Spaced after (symbolsOf tasks)) (same : ∀ i < n, stream' i = stream i)
    (later : stream'.Checks n [.definitions] entries' outcome' last') :
    stream'.Checks place tasks (entries ++ entries') outcome' last' := by
  obtain ⟨final, atEnd, isEnd⟩ := ends.ends
  induction h with
  | settled found =>
    subst accepted
    cases step_settled_iff.1 found with
    | done => exact absurd rooted not_rooted_nil
  | @goesOn place place' last tasks tasks' entries others_entries outcome found others ih =>
    obtain ⟨current, seen, here, moved⟩ := step_goesOn_iff.1 found
    rcases Nat.eq_or_lt_of_le le with rfl | less
    · -- at the end, no definition is open, and nothing more is recorded
      cases atEnd.symm.trans here
      rcases rooted with rfl | enclosed
      · obtain ⟨rfl, ⟨-, rfl, rfl⟩ | ⟨enclosed, -⟩⟩ := moved.definitions
        · cases others with
          | settled => exact later
          | goesOn found' =>
            obtain ⟨_, _, _, moved'⟩ := step_goesOn_iff.1 found'
            cases moved'
        · exact absurd enclosed (others.not_enclosed_of_end accepted here isEnd)
      · exact absurd enclosed ((Checks.goesOn found others).not_enclosed_of_end accepted here isEnd)
    · have le' : place' ≤ n := by
        have le := place_step_le ends le tasks
        rwa [found] at le
      have rooted' : Rooted tasks' := by
        rcases rooted with rfl | enclosed
        · obtain ⟨-, ⟨ended, -⟩ | ⟨enclosed, -⟩⟩ := moved.definitions
          · rw [ends.first place less current here] at ended
            cases ended
          · exact .inr enclosed
        · exact (moved.enclosed enclosed).symm.imp And.left id
      have brace := (Checks.goesOn found others).exists_brace accepted ends less rooted
      have seen_lt := moved.seen_lt here spaced less brace
      rw [List.append_assoc]
      exact .goesOn (step_goesOn_iff.2 ⟨current, seen, (same place less).trans here,
        moved.congr (same seen seen_lt)⟩) (ih accepted le' rooted' (moved.spaced spaced))

/-- The check of a program enters it, unless it begins with a fault. -/
theorem Checks.of_program (h : stream.Checks 0 [.program] entries outcome last) :
    (∃ fault, stream 0 = .error fault ∧ entries = [] ∧ outcome = .error fault.toFault) ∨
      ∃ token later, stream 0 = .ok token ∧ entries = .enter .program :: later ∧
        stream.Checks 0 [.definitions] later outcome last := by
  cases found : stream 0 with
  | error fault =>
    have settled : stream.Checks 0 [.program] [] (.error fault.toFault) 0 :=
      .settled (step_settled_iff.2 (.missing found))
    obtain ⟨rfl, rfl, -⟩ := h.unique settled
    exact .inl ⟨fault, rfl, rfl, rfl⟩
  | ok token =>
    cases h with
    | settled found' => cases (step_program found).symm.trans found'
    | goesOn found' later =>
      cases (step_program found).symm.trans found'
      exact .inr ⟨token, _, rfl, rfl, later⟩

/-- What is recorded between definitions is nothing, or it starts with a rule. -/
theorem Checks.entries_of_definitions (h : stream.Checks place [.definitions] entries outcome last) :
    entries = [] ∨ ∃ rule later, entries = .enter rule :: later := by
  cases h with
  | settled => exact .inl rfl
  | goesOn found others =>
    obtain ⟨current, seen, here, moved⟩ := step_goesOn_iff.1 found
    obtain ⟨rfl, ⟨-, rfl, rfl⟩ | ⟨-, rule, rfl⟩⟩ := moved.definitions
    · cases others with
      | settled => exact .inl rfl
      | goesOn found' =>
        obtain ⟨_, _, _, moved'⟩ := step_goesOn_iff.1 found'
        cases moved'
    · exact .inr ⟨rule, _, rfl⟩

/-- The check of a program goes on alike from between definitions, farther down in another stream. -/
theorem Checks.lowered {upper : List Char} (h : stream.Checks 0 [.program] entries outcome last)
    (same : ∀ i, stream' (n + i) = outcomeBelow upper (stream i)) :
    ∃ last', stream'.Checks n [.definitions] entries.tail (movedResult (Span.below upper) outcome)
      last' := by
  rcases h.of_program with ⟨fault, found, rfl, rfl⟩ | ⟨token, later, -, rfl, others⟩
  · have there := same 0
    rw [found] at there
    exact ⟨n, .settled (step_settled_iff.2 (.missing there))⟩
  · have spaced : Spaced (fun _ => false) (symbolsOf [.definitions]) := spaced_start
    exact ⟨n + last, others.moved _ spaced (.plain rfl) fun i _ _ => same i⟩

end Outcomes

/-! ### Texts -/

variable {upper lower : String}

/-- A record enters the program first, unless the text begins with a fault. -/
theorem trace_starts (text : String) :
    (∃ fault, (Lexer.ofString text).advance.1 = .error fault ∧ (trace text).2 = []) ∨
      ∃ token later, (Lexer.ofString text).advance.1 = .ok token ∧
        (trace text).2 = .enter .program :: later := by
  obtain ⟨last, checks, -⟩ := exists_checks text
  rcases checks.of_program with ⟨fault, found, record, -⟩ | ⟨token, later, found, record, -⟩
  · exact .inl ⟨fault, found, record⟩
  · exact .inr ⟨token, later, found, record⟩

/-- The record of an accepted text enters the program first. -/
theorem exists_checks_of_accepted (accepted : check upper = .ok ()) :
    ∃ token later last, streamOf upper 0 = .ok token ∧ (trace upper).2 = .enter .program :: later ∧
      (streamOf upper).Checks 0 [.definitions] later (.ok ()) last := by
  obtain ⟨last, checks, -⟩ := exists_checks upper
  rw [accepted] at checks
  rcases checks.of_program with ⟨fault, -, -, failed⟩ | ⟨token, later, found, record, others⟩
  · cases failed
  · exact ⟨token, later, last, found, record, others⟩

/-- The check of both texts enters the program, does what is left to do of the upper one, and then what the
lower one does between definitions. If there is nothing but a fault, no program is entered. -/
theorem exists_checks_lines (lower : String) (accepted : check upper = .ok ()) :
    ∃ later entries last, (trace upper).2 = .enter .program :: later ∧
      (streamOf (upper ++ "\n" ++ lower)).Checks 0 [.program] entries
        (Outcomes.movedResult (Span.below upper.toList) (check lower)) last ∧
      (entries = .enter .program :: (later ++ (trace lower).2.tail) ∨
        entries = [] ∧ later = [] ∧ (trace lower).2 = []) ∧
      ((trace lower).2.tail = [] ∨ ∃ rule others, (trace lower).2.tail = .enter rule :: others) := by
  obtain ⟨first, later, lastUpper, found, record, checksUpper⟩ := exists_checks_of_accepted accepted
  obtain ⟨lastLower, checksLower, -⟩ := exists_checks lower
  obtain ⟨n, -, ends⟩ := Lexer.exists_end (Lexer.start upper.toList)
  have both : streamOf (upper ++ "\n" ++ lower) =
      (Lexer.start (upper.toList ++ '\n' :: lower.toList)).outcome :=
    congrArg Lexer.outcome (Lexer.ofString_lines upper lower)
  have before : ∀ i < n, streamOf (upper ++ "\n" ++ lower) i = streamOf upper i := by
    intro i less
    rw [both]
    exact Lexer.outcome_upper _ ends less
  have behind : ∀ i, streamOf (upper ++ "\n" ++ lower) (n + i) =
      outcomeBelow upper.toList (streamOf lower i) := by
    intro i
    rw [both]
    exact Lexer.outcome_lower _ ends i
  obtain ⟨last, lowered⟩ := checksLower.lowered behind
  have spaced : Spaced (fun _ => false) (symbolsOf [.definitions]) := Outcomes.spaced_start
  have whole := checksUpper.goes_on rfl ends (Nat.zero_le n) (.inl rfl) spaced before lowered
  cases start : streamOf (upper ++ "\n" ++ lower) 0 with
  | ok token =>
    exact ⟨later, _, last, record, .goesOn (Outcomes.step_program start) whole, .inl rfl,
      lowered.entries_of_definitions⟩
  | error fault =>
    -- the upper text is empty, and the lower one begins with the fault
    have none : n = 0 := by
      by_contra some
      rw [before 0 (Nat.pos_of_ne_zero some), found] at start
      cases start
    subst none
    have nothing : (trace lower).2 = [] := by
      rcases trace_starts lower with ⟨-, -, nothing⟩ | ⟨token, -, found', -⟩
      · exact nothing
      · have there : _ = outcomeBelow upper.toList (Lexer.ofString lower).advance.1 := behind 0
        rw [found', start] at there
        cases there
    have missing : ∀ tasks, (streamOf (upper ++ "\n" ++ lower)).Checks 0 tasks [] _ 0 := fun _ =>
      .settled (Outcomes.step_settled_iff.2 (.missing start))
    obtain ⟨empty, outcome_eq, -⟩ := whole.unique (missing [.definitions])
    obtain ⟨later_eq, -⟩ := List.append_eq_nil_iff.1 empty
    rw [outcome_eq]
    exact ⟨later, [], 0, record, missing [.program], .inr ⟨rfl, later_eq, nothing⟩,
      lowered.entries_of_definitions⟩

/-- A text below an accepted one is checked as if it stood alone: it is accepted, or it has the same fault,
farther down. The expressions of both are those of the upper and then those of the lower one. Where the
upper one has a definition, the same goes for the rules, only that the program is entered once; it is not
entered in a text that begins with a lexical fault. -/
theorem check_lines (upper lower : String) (accepted : check upper = .ok ()) :
    check (upper ++ "\n" ++ lower) = (match check lower with
      | .ok () => .ok ()
      | .error fault => .error (fault.below upper.toList)) ∧
    (trace (upper ++ "\n" ++ lower)).1 = check (upper ++ "\n" ++ lower) ∧
    (trace (upper ++ "\n" ++ lower)).2.expressions =
      (trace upper).2.expressions ++ (trace lower).2.expressions ∧
    (.functionDefinition ∈ (trace upper).2.rules ∨ .typeDefinition ∈ (trace upper).2.rules →
      match (Lexer.ofString lower).advance.1 with
      | .error _ => (trace lower).2.rules = [] ∧
          (trace (upper ++ "\n" ++ lower)).2.rules = (trace upper).2.rules
      | .ok _ => ∃ rules, (trace lower).2.rules = .program :: rules ∧
          (trace (upper ++ "\n" ++ lower)).2.rules = (trace upper).2.rules ++ rules) := by
  obtain ⟨later, entries, last, record, checks, entries_eq, starts⟩ := exists_checks_lines lower accepted
  obtain ⟨outcome, traced⟩ := eq_of_checks checks
  rw [traced, outcome, record]
  refine ⟨?_, rfl, ?_, ?_⟩
  · cases check lower <;> rfl
  · -- what the lower text enters first has no expressions in front of it
    have lower_eq : (trace lower).2.expressions = Derivation.expressions (trace lower).2.tail := by
      rcases trace_starts lower with ⟨-, -, nothing⟩ | ⟨-, rest, -, record⟩
      · rw [nothing]
        rfl
      · rw [record]
        rfl
    rw [lower_eq]
    rcases entries_eq with rfl | ⟨rfl, rfl, nothing⟩
    · exact expressions_append_entered later _ starts
    · rw [nothing]
      rfl
  · intro defines
    have some : later ≠ [] := by
      rintro rfl
      rcases defines with found | found <;> simp [Derivation.rules, Step.rule?] at found
    obtain rfl := entries_eq.resolve_right fun nothing => some nothing.2.1
    have both : Derivation.rules (.enter .program :: (later ++ (trace lower).2.tail)) =
        Derivation.rules (.enter .program :: later) ++ Derivation.rules (trace lower).2.tail :=
      Derivation.rules_append (.enter .program :: later) _
    rw [both]
    rcases trace_starts lower with ⟨fault, found, nothing⟩ | ⟨token, rest, found, record⟩
    · rw [found, nothing]
      exact ⟨rfl, List.append_nil _⟩
    · rw [found, record]
      exact ⟨_, rfl, rfl⟩

/-- A type that breaks off below a function: it is blamed one line down, and both are in the record. -/
theorem check_lines_type :
    check "fun void f() \x7b x = 1 \x7d" = .ok () ∧
      check "type t \x7b var n = y - \x7d" =
        .error ⟨.grammatical (.expectedExpression "'\x7d'"), ⟨21, 22, 1, 22⟩⟩ ∧
      check "fun void f() \x7b x = 1 \x7d\ntype t \x7b var n = y - \x7d" =
        .error ⟨.grammatical (.expectedExpression "'\x7d'"), ⟨44, 45, 2, 22⟩⟩ ∧
      (trace "fun void f() \x7b x = 1 \x7d\ntype t \x7b var n = y - \x7d").2.expressions = ["1", "y"] ∧
      (trace "fun void f() \x7b x = 1 \x7d\ntype t \x7b var n = y - \x7d").2.rules =
        [.program, .functionDefinition, .parameters, .block, .assignment] ++
          [.typeDefinition, .declaration] := by
  have accepted : check "fun void f() \x7b x = 1 \x7d" = .ok () := by cbv
  have rejected : check "type t \x7b var n = y - \x7d" =
      .error ⟨.grammatical (.expectedExpression "'\x7d'"), ⟨21, 22, 1, 22⟩⟩ := by cbv
  obtain ⟨outcome, -, expressions, rules⟩ :=
    check_lines "fun void f() \x7b x = 1 \x7d" "type t \x7b var n = y - \x7d" accepted
  have rules_upper : (trace "fun void f() \x7b x = 1 \x7d").2.rules =
      [.program, .functionDefinition, .parameters, .block, .assignment] := by cbv
  have rules_lower : (trace "type t \x7b var n = y - \x7d").2.rules =
      [.program, .typeDefinition, .declaration] := by cbv
  refine ⟨accepted, rejected, ?_, ?_, ?_⟩
  · rw [rejected] at outcome
    exact outcome
  · have expressions_upper : (trace "fun void f() \x7b x = 1 \x7d").2.expressions = ["1"] := by cbv
    have expressions_lower : (trace "type t \x7b var n = y - \x7d").2.expressions = ["y"] := by cbv
    rw [expressions_upper, expressions_lower] at expressions
    exact expressions
  · have first : ∃ token, (Lexer.ofString "type t \x7b var n = y - \x7d").advance.1 = .ok token :=
      ⟨⟨.keyword .type, "type", ⟨0, 4, 1, 1⟩⟩, by cbv⟩
    obtain ⟨token, first⟩ := first
    have rules := rules (.inl (by rw [rules_upper]; decide))
    rw [first, rules_upper, rules_lower] at rules
    obtain ⟨later, same, rules⟩ := rules
    rw [← (List.cons.inj same).2] at rules
    exact rules

end SyntaxCheck
