import SyntaxCheck.Proofs.Grammar.Balance
import SyntaxCheck.Proofs.Lexer.Writing
import SyntaxCheck.Proofs.Recognizer.Concatenation
import SyntaxCheck.Proofs.Recognizer.Locality
import SyntaxCheck.Proofs.Recognizer.Nesting

/-!
# Braces that close what is open

A text that ends inside braces becomes a program when just the missing braces are put below it. No other text
that is rejected becomes one so.

* `Outcomes.Accepts`, `Outcomes.accepts_of_goesOn` - a check that goes well from a place on;
* `Outcomes.ClosedAt`, `Outcomes.accepts_of_closedAt` - as many braces as are due, and then the end of the
  input;
* `Outcomes.Checks.beside` - a check that fails at the end of the input, and one that finds a brace there;
* `closedBy`, `check_closedBy_iff` - a text with braces below it, and when that is a program;
* `openBraces`, `eq_openBraces` - how many braces are open in a text, and so missing below it;
* `exists_closedBy`, `unterminated_of_closedBy` - the braces that are due, and texts that any braces complete;
* `check_closedBy` - the missing braces, and no other ones, make a program of a text.
-/

namespace SyntaxCheck

namespace Outcomes

variable {stream stream' : Outcomes} {place place' last n k : Nat} {tasks tasks' behind : List Task}
  {task : Task} {entries : Derivation} {fault : Fault} {current : Token} {outcome : Except Fault Unit}

/-! ### Checks that go well -/

/-- The check accepts the stream from the place on. -/
def Accepts (stream : Outcomes) (place : Nat) (tasks : List Task) : Prop :=
  ∃ entries last, stream.Checks place tasks entries (.ok ()) last

/-- One decision does not matter. -/
theorem accepts_of_goesOn (found : stream.step place tasks = .goesOn entries place' tasks') :
    stream.Accepts place tasks ↔ stream.Accepts place' tasks' := by
  constructor
  · rintro ⟨all, last, checks⟩
    cases checks with
    | settled settled => cases found.symm.trans settled
    | goesOn found' others =>
      cases found.symm.trans found'
      exact ⟨_, last, others⟩
  · rintro ⟨later, last, others⟩
    exact ⟨_, last, .goesOn found others⟩

/-- A token that is refused is not accepted. -/
theorem not_accepts_of_refuse {refusal : Refusal} (here : stream place = .ok current)
    (decided : task.decide current.terminal = .refuse refusal) :
    ¬stream.Accepts place (task :: behind) := by
  rintro ⟨entries, last, checks⟩
  have settled : stream.step place (task :: behind) = .settled (.error (refusal.fault current)) place :=
    step_settled_iff.2 (.refuse here decided)
  obtain ⟨-, other, -⟩ := checks.unique (.settled settled)
  cases other

/-- A task may be left out where nothing is to come in its place. -/
theorem accepts_of_leave (here : stream place = .ok current)
    (decided : task.decide current.terminal = .become [])
    (later : stream.Accepts place behind) : stream.Accepts place (task :: behind) :=
  (accepts_of_goesOn (step_goesOn_iff.2 ⟨current, place, here, .become decided⟩)).2 later

/-- A task may be left out behind a token that is all that was to come in its place. -/
theorem accepts_of_drop (here : stream place = .ok current)
    (decided : task.decide current.terminal = .take fun _ => [])
    (later : stream.Accepts (place + 1) behind) : stream.Accepts place (task :: behind) :=
  (accepts_of_goesOn (step_goesOn_iff.2 ⟨current, place, here, .take decided⟩)).2 later

/-! ### Braces that are due -/

/-- From the place on, there are just so many closing braces, and then the input ends. -/
inductive ClosedAt (stream : Outcomes) : Nat → Nat → Prop
  | ended {place : Nat} {token : Token} (here : stream place = .ok token)
      (ended : token.isEndOfInput = true) : ClosedAt stream place 0
  | brace {place count : Nat} {token : Token} (here : stream place = .ok token)
      (brace : token.terminal = .symbol .rightBrace) (later : ClosedAt stream (place + 1) count) :
      ClosedAt stream place (count + 1)

/-- The braces that are due when the tasks are done. -/
def braces (tasks : List Task) : Nat := (tasks.map Task.layer).count .brace

theorem braces_cons (task : Task) (tasks : List Task) :
    braces (task :: tasks) = braces tasks + if task.layer = .brace then 1 else 0 := by
  simp [braces, List.count_cons]

theorem ClosedAt.here {count : Nat} (h : stream.ClosedAt place count) :
    ∃ token, stream place = .ok token ∧
      (token.terminal = .endOfInput ∨ token.terminal = .symbol .rightBrace) := by
  cases h with
  | ended here ended => exact ⟨_, here, .inl (Token.terminal_of_isEndOfInput ended)⟩
  | brace here brace => exact ⟨_, here, .inr brace⟩

theorem ClosedAt.brace_of_pos {count : Nat} (h : stream.ClosedAt place count) (some : 1 ≤ count) :
    ∃ token, stream place = .ok token ∧ token.terminal = .symbol .rightBrace := by
  cases h with
  | ended => cases some
  | brace here brace => exact ⟨_, here, brace⟩

theorem ClosedAt.of_collects {answer : Lexer.Answer} {tokens : List Token} {count j : Nat}
    (h : Collects stream place answer j) (found : answer = .ok tokens)
    (classes : tokens.map Token.terminal = List.replicate count (.symbol .rightBrace) ++ [.endOfInput]) :
    stream.ClosedAt place count := by
  induction h generalizing tokens count with
  | fault => cases found
  | ended here ended =>
    cases found
    cases count with
    | zero => exact .ended here ended
    | succ count =>
      have lengths := congrArg List.length classes
      simp at lengths
  | @more i j token answer here more later ih =>
    cases answer with
    | error fault => cases found
    | ok others =>
      cases found
      cases count with
      | zero =>
        have last : token.terminal = .endOfInput := (List.cons.inj classes).1
        rw [Token.isEndOfInput, last] at more
        cases more
      | succ count =>
        obtain ⟨brace, classes⟩ := List.cons.inj classes
        exact .brace here brace (ih rfl classes)

/-- A closing brace is due behind what stands between two braces. -/
theorem braces_pos (layered : Layered (task.layer :: behind.map Task.layer) = true)
    (body : task.layer = .body) : 1 ≤ braces (task :: behind) := by
  rw [body] at layered
  obtain ⟨other, -⟩ | ⟨next, later, some, precedes⟩ := layered_next layered
  · cases other
  obtain rfl : next = .brace := of_decide_eq_true precedes
  rw [braces_cons, braces, some, List.count_cons_self]
  omega

/-- Where the input ends, there are no more definitions. -/
theorem accepts_definitions (closed : stream.ClosedAt place 0) : stream.Accepts place [.definitions] := by
  obtain ⟨here, ended⟩ := closed
  refine accepts_of_leave here ?_ ⟨_, place, .settled (step_settled_iff.2 (.done here))⟩
  rw [Token.terminal_of_isEndOfInput ended]
  rfl

/-- What stands between braces or behind one is done when the braces that are due have come. -/
theorem accepts_of_closedAt (closed : stream.ClosedAt place (braces tasks))
    (layered : Layered (tasks.map Task.layer) = true)
    (first : ∀ layer ∈ (tasks.map Task.layer).head?, layer ≠ .inner ∧ layer ≠ .opening) :
    stream.Accepts place tasks := by
  induction tasks generalizing place with
  | nil =>
    obtain ⟨here⟩ : stream.ClosedAt place 0 := closed
    exact ⟨_, place, .settled (step_settled_iff.2 (.done here))⟩
  | cons task behind ih =>
    have kept := layered_tail layered
    obtain ⟨notInner, notOpening⟩ := first _ rfl
    -- what is behind the task is no part of a statement
    have others : ∀ layer ∈ (behind.map Task.layer).head?, layer ≠ .inner ∧ layer ≠ .opening := by
      intro layer found
      rcases layered_next layered with ⟨-, none⟩ | ⟨second, later, some, precedes⟩
      · rw [none] at found
        cases found
      · rw [some] at found
        obtain rfl := Option.some.inj found
        revert precedes notInner notOpening
        cases task.layer <;> cases second <;> decide
    have whole := closed
    rw [braces_cons] at closed
    cases task with
    | program =>
      obtain rfl := List.map_eq_nil_iff.1 (eq_nil_of_definitions layered)
      obtain ⟨token, here, -⟩ := closed.here
      exact (accepts_of_goesOn (step_goesOn_iff.2 ⟨token, place, here, .enter rfl⟩)).2
        (accepts_definitions closed)
    | definitions =>
      obtain rfl := List.map_eq_nil_iff.1 (eq_nil_of_definitions layered)
      exact accepts_definitions closed
    | clauses =>
      obtain ⟨token, here, ended | brace⟩ := closed.here
      · exact accepts_of_leave here (by rw [ended]; rfl) (ih closed kept others)
      · exact accepts_of_leave here (by rw [brace]; rfl) (ih closed kept others)
    | fields | statements =>
      obtain ⟨token, here, brace⟩ := whole.brace_of_pos (braces_pos layered rfl)
      exact accepts_of_leave here (by rw [brace]; rfl) (ih closed kept others)
    | head m | mark m =>
      have brace : m = .symbol .rightBrace := by
        cases m with
        | keyword => exact absurd rfl notInner
        | symbol s => cases s <;> first | rfl | exact absurd rfl notInner
      subst brace
      obtain _ | ⟨here, brace, later⟩ := closed
      exact accepts_of_drop here (by rw [brace]; rfl) (ih later kept others)
    | block | statement => exact absurd rfl notOpening
    | _ => exact absurd rfl notInner

/-! ### Braces in the place of the end of the input -/

/-- In front of the end of the input, a decision is the same if a brace is in its place. -/
theorem Moves.beside {seen : Nat} {final brace : Token}
    (h : stream.Moves place current tasks seen entries place' tasks') (less : place < n)
    (same : ∀ i < n, stream' i = stream i) (atEnd : stream n = .ok final)
    (isEnd : final.terminal = .endOfInput) (there : stream' n = .ok brace)
    (isBrace : brace.terminal = .symbol .rightBrace) :
    stream'.Moves place current tasks seen entries place' tasks' := by
  cases h with
  | become decided => exact .become decided
  | enter decided => exact .enter decided
  | take decided => exact .take decided
  | note decided => exact .note decided
  | @look task behind tasks next decided found =>
    rcases Nat.lt_or_eq_of_le less with before | rfl
    · exact .look decided ((same _ before).trans found)
    · have alike := task.decide_meetsEnd current.terminal
      rw [decided] at alike
      have chosen : tasks next.terminal = tasks brace.terminal := by
        cases atEnd.symm.trans found
        rw [isEnd, isBrace]
        exact alike
      rw [chosen]
      exact .look decided there

/-- At the end of the input, a decision is the same about a brace that is in its place, unless the check is
done. -/
theorem Moves.beside_end {seen : Nat} {final brace : Token}
    (h : stream.Moves place final tasks seen entries place' tasks')
    (isEnd : final.terminal = .endOfInput) (nested : Nested .endOfInput tasks)
    (isBrace : brace.terminal = .symbol .rightBrace) :
    stream'.Moves place brace tasks seen entries place' tasks' ∨ place' = place ∧ tasks' = [] := by
  have closes : ∀ {task : Task} {decision : Decision}, task.decide final.terminal = decision →
      decision.ClosesLike task.layer (task.decide brace.terminal) := by
    intro task decision decided
    rw [← decided, isEnd, isBrace]
    exact task.decide_closesLike
  cases h with
  | @become task behind tasks decided =>
    rcases closes decided with same | ⟨last, none⟩
    · exact .inl (.become same)
    · cases none
      have layered := nested.layered
      rw [List.map_cons, last] at layered
      exact .inr ⟨rfl, List.map_eq_nil_iff.1 (eq_nil_of_definitions layered)⟩
  | enter decided =>
    rcases closes decided with same | ⟨-, other⟩
    · exact .inl (.enter same)
    · cases other
  | note decided =>
    rcases closes decided with same | ⟨-, other⟩
    · exact .inl (.note same)
    · cases other
  | take decided => exact (closes decided).elim
  | look decided => exact (closes decided).elim

/-- A check that fails at the end of the input does so with the tasks that a check has which finds a brace
there. -/
theorem Checks.beside {final : Token} (h : stream.Checks place tasks entries outcome last)
    (failed : outcome = .error fault) (fails : last = n) (ends : EndsAt stream n) (le : place ≤ n)
    (nested : ∀ current, stream place = .ok current → Nested current.terminal tasks)
    (atEnd : stream n = .ok final) (isEnd : final.terminal = .endOfInput) :
    ∃ task behind refusal, fault = Refusal.fault refusal final ∧
      task.decide .endOfInput = .refuse refusal ∧ Nested .endOfInput (task :: behind) ∧
      ∀ (stream' : Outcomes) (brace : Token), (∀ i < n, stream' i = stream i) →
        stream' n = .ok brace → brace.terminal = .symbol .rightBrace →
        (stream'.Accepts place tasks ↔ stream'.Accepts n (task :: behind)) := by
  induction h with
  | settled found =>
    subst failed fails
    cases step_settled_iff.1 found with
    | missing missed => cases atEnd.symm.trans missed
    | look _ _ missed => cases atEnd.symm.trans missed
    | @refuse current task behind refusal here decided =>
      cases atEnd.symm.trans here
      rw [isEnd] at decided
      exact ⟨task, behind, refusal, rfl, decided, isEnd ▸ nested final atEnd, fun _ _ _ _ _ => Iff.rfl⟩
  | @goesOn place place' last tasks tasks' entries later outcome found others ih =>
    obtain ⟨current, seen, here, moved⟩ := step_goesOn_iff.1 found
    have le' : place' ≤ n := by
      have le := place_step_le ends le tasks
      rwa [found] at le
    have nested' : ∀ next, stream place' = .ok next → Nested next.terminal tasks' := by
      intro next found'
      refine moved.nested (nested current here) ?_
      rintro rfl
      cases here.symm.trans found'
      rfl
    obtain ⟨task, behind, refusal, fault_eq, decided, stays, accepts⟩ := ih failed fails le' nested'
    refine ⟨task, behind, refusal, fault_eq, decided, stays, fun stream' brace same there isBrace =>
      Iff.trans ?_ (accepts stream' brace same there isBrace)⟩
    rcases Nat.lt_or_eq_of_le le with less | rfl
    · have moved' := moved.beside less same atEnd isEnd there isBrace
      exact accepts_of_goesOn (step_goesOn_iff.2 ⟨current, seen, (same place less).trans here, moved'⟩)
    · cases atEnd.symm.trans here
      rcases moved.beside_end isEnd (isEnd ▸ nested final atEnd) isBrace with moved' | ⟨rfl, rfl⟩
      · exact accepts_of_goesOn (step_goesOn_iff.2 ⟨brace, seen, there, moved'⟩)
      · -- a check that is done does not fail
        subst failed
        cases others with
        | settled found =>
          cases step_settled_iff.1 found with
          | missing missed => cases atEnd.symm.trans missed
        | goesOn found =>
          obtain ⟨_, _, _, moved'⟩ := step_goesOn_iff.1 found
          cases moved'

/-- The decision that settles the outcome. -/
theorem Checks.settles (h : stream.Checks place tasks entries outcome last) :
    ∃ place' tasks', stream.Settles place' tasks' outcome last := by
  induction h with
  | settled found => exact ⟨_, _, step_settled_iff.1 found⟩
  | goesOn _ _ ih => exact ih

end Outcomes

/-! ### Texts -/

/-- The text with closing braces in the line below it. -/
def closedBy (text : String) (count : Nat) : String :=
  text ++ "\n" ++ String.ofList (List.replicate count '\x7d')

/-- How many more braces are opened than closed. -/
def openBraces (tokens : List Token) : Int :=
  (tokens.map Token.terminal).count (.symbol .leftBrace) -
    (tokens.map Token.terminal).count (.symbol .rightBrace)

/-- The tokens of a line of closing braces. -/
theorem tokenize_braces (count : Nat) :
    ∃ tokens, (Lexer.ofString (String.ofList (List.replicate count '\x7d'))).tokenize.1 = .ok tokens ∧
      tokens.map Token.terminal = List.replicate count (.symbol .rightBrace) ++ [.endOfInput] := by
  have writes : Writes (List.replicate count (Mark.symbol .rightBrace).item)
      (String.ofList (List.replicate count '\x7d')).toList := by
    rw [String.toList_ofList]
    induction count with
    | zero => exact .nil
    | succ count ih => exact ih.symbol .rightBrace (by simp [Ends])
  obtain ⟨clean, items⟩ := drain_of_writes writes
  refine ⟨_, tokenize_ok_iff.2 ⟨rfl, clean⟩, ?_⟩
  have classes := congrArg (List.map fun item => item.1.terminal) items
  rw [List.map_map, List.map_append, List.map_replicate] at classes
  exact classes

/-- Below the text are just so many braces; above, nothing has changed. -/
theorem streamOf_closedBy {text : String} {n : Nat} (ends : EndsAt (streamOf text) n) (count : Nat) :
    (∀ i < n, streamOf (closedBy text count) i = streamOf text i) ∧
      (streamOf (closedBy text count)).ClosedAt n count := by
  have both : streamOf (closedBy text count) =
      (Lexer.start (text.toList ++ '\n' :: List.replicate count '\x7d')).outcome := by
    rw [streamOf, closedBy, Lexer.ofString_lines, String.toList_ofList]
  obtain ⟨tokens, tokenized, classes⟩ := tokenize_braces count
  rw [Lexer.ofString, String.toList_ofList] at tokenized
  obtain ⟨j, collected, -⟩ :=
    Lexer.collects_tokenize (Lexer.start (List.replicate count '\x7d')) 0
  have answer : ((Lexer.start (List.replicate count '\x7d')).advanced 0).tokenize.1 = .ok tokens := tokenized
  rw [answer] at collected
  rw [both]
  refine ⟨fun i less => Lexer.outcome_upper _ ends less, ?_⟩
  have lower : ∀ i, outcomeBelow text.toList
        ((Lexer.start (List.replicate count '\x7d')).outcome (0 + i)) =
      (Lexer.start (text.toList ++ '\n' :: List.replicate count '\x7d')).outcome (n + i) := by
    intro i
    rw [Nat.zero_add, Lexer.outcome_lower _ ends]
  obtain ⟨l, below⟩ := (collected.relocated text.toList).shift lower
  refine .of_collects below rfl ?_
  rw [List.map_map]
  exact classes

/-- The tokens of a text with braces below it: those of the text, without its end, and the braces. -/
theorem tokenize_closedBy (text : String) (count : Nat) :
    ∃ below : List Token,
      below.map Token.terminal = List.replicate count (.symbol .rightBrace) ++ [.endOfInput] ∧
      (Lexer.ofString (closedBy text count)).tokenize.1 =
        (Lexer.ofString text).tokenize.1.map (·.filter (!·.isEndOfInput) ++ below) := by
  obtain ⟨lower, tokenized, classes⟩ := tokenize_braces count
  obtain ⟨n, -, ends⟩ := (Lexer.ofString text).exists_end
  obtain ⟨i, collected, -⟩ := Lexer.collects_tokenize (Lexer.ofString text) 0
  obtain ⟨j, collected', -⟩ :=
    Lexer.collects_tokenize (Lexer.ofString (String.ofList (List.replicate count '\x7d'))) 0
  obtain ⟨k, both⟩ := Lexer.collects_lines _ ends (Nat.zero_le n) collected collected'
  obtain ⟨l, whole, -⟩ := Lexer.collects_tokenize (Lexer.ofString (closedBy text count)) 0
  rw [← Lexer.ofString_lines] at both
  have answer := (whole.unique both).1
  rw [Lexer.advanced, Lexer.advanced, Lexer.advanced, tokenized] at answer
  refine ⟨lower.map (Token.below text.toList), ?_, ?_⟩
  · rw [List.map_map]
    exact classes
  · rw [answer]
    cases (Lexer.ofString text).tokenize.1 <;> rfl

/-- A text with braces below it is a program just when its tokens and the braces make one. -/
theorem check_closedBy_iff (text : String) (count : Nat) :
    check (closedBy text count) = .ok () ↔ ∃ tokens, (Lexer.ofString text).tokenize.1 = .ok tokens ∧
      Generates ((tokens.filter (!·.isEndOfInput)).map Token.terminal ++
        (List.replicate count (.symbol .rightBrace) ++ [.endOfInput])) := by
  obtain ⟨below, classes, both⟩ := tokenize_closedBy text count
  rw [check_ok_iff_drain]
  constructor
  · rintro ⟨clean, generates⟩
    have tokenized := tokenize_ok_iff.2 ⟨rfl, clean⟩
    rw [both] at tokenized
    cases upper : (Lexer.ofString text).tokenize.1 with
    | error fault =>
      rw [upper] at tokenized
      cases tokenized
    | ok tokens =>
      rw [upper] at tokenized
      rw [← Except.ok.inj tokenized, List.map_append, classes] at generates
      exact ⟨tokens, rfl, generates⟩
  · rintro ⟨tokens, upper, generates⟩
    rw [upper] at both
    obtain ⟨same, clean⟩ := tokenize_ok_iff.1 both
    refine ⟨clean, ?_⟩
    rw [same, List.map_append, classes]
    exact generates

/-- The end of the input is the last token, and only that. -/
theorem terminals_of_tokenize {text : String} {tokens : List Token}
    (tokenized : (Lexer.ofString text).tokenize.1 = .ok tokens) :
    tokens.map Token.terminal =
      (tokens.filter (!·.isEndOfInput)).map Token.terminal ++ [.endOfInput] := by
  obtain ⟨rfl, clean⟩ := tokenize_ok_iff.1 tokenized
  obtain ⟨before, last, same, ended, goesOn⟩ := Lexer.exists_drain_eq_concat clean
  have kept : before.filter (!·.isEndOfInput) = before :=
    List.filter_eq_self.2 fun token found => by rw [goesOn token found]; rfl
  rw [same, List.filter_append, kept, List.map_append]
  simp [ended, Token.terminal_of_isEndOfInput ended]

/-- Just the braces that are open are missing. -/
theorem eq_openBraces {text : String} {tokens : List Token} {count : Nat}
    (tokenized : (Lexer.ofString text).tokenize.1 = .ok tokens)
    (accepted : check (closedBy text count) = .ok ()) : openBraces tokens = count := by
  obtain ⟨tokens', tokenized', generates⟩ := (check_closedBy_iff text count).1 accepted
  cases tokenized.symm.trans tokenized'
  have balanced := generates.count_braces
  rw [openBraces, terminals_of_tokenize tokenized]
  -- the braces below open nothing, and the end of the input is no brace
  have closing : (List.replicate count (Terminal.symbol .rightBrace)).count (Terminal.symbol .leftBrace) =
      0 := by simp [List.count_replicate]
  have ending : ∀ s : Symbol, [Terminal.endOfInput].count (Terminal.symbol s) = 0 := by simp
  simp only [List.count_append, closing, ending, List.count_replicate_self] at balanced ⊢
  omega

/-- Only the end of the input leaves braces open. -/
theorem Task.decide_openBraces {task : Task} {now : Terminal}
    (decided : task.decide now = .refuse .openBraces) : now = .endOfInput := by
  have meets := task.decide_meetsEnd now
  rwa [decided] at meets

theorem eq_openBraces_of_cause {refusal : Refusal} {token : Token}
    (unterminated : (refusal.fault token).cause = .grammatical .unterminatedBlock) :
    refusal = .openBraces := by
  cases refusal <;> first | rfl | cases unterminated

/-- Braces are left open at the end of the input. -/
theorem Outcomes.Checks.ends_of_openBraces {stream : Outcomes} {entries : Derivation} {fault : Fault}
    {last : Nat} (h : stream.Checks 0 [.program] entries (.error fault) last)
    (unterminated : fault.cause = .grammatical .unterminatedBlock) :
    ∃ token, stream last = .ok token ∧ token.isEndOfInput = true := by
  obtain ⟨place, tasks, settles⟩ := h.settles
  cases settles with
  | missing | look => cases unterminated
  | @refuse current task behind refusal here decided =>
    obtain rfl := eq_openBraces_of_cause unterminated
    exact ⟨current, here, beq_iff_eq.2 (Task.decide_openBraces decided)⟩

/-- At the start of a check, its tasks are nested. -/
theorem nested_program (now : Terminal) : Nested now [.program] := ⟨rfl, nofun⟩

section Text

variable {text : String} {fault : Fault} {n : Nat}

theorem check_ok_iff_accepts (text : String) :
    check text = .ok () ↔ (streamOf text).Accepts 0 [.program] := by
  constructor
  · intro accepted
    obtain ⟨last, checks, -⟩ := exists_checks text
    rw [accepted] at checks
    exact ⟨_, last, checks⟩
  · rintro ⟨entries, last, checks⟩
    exact (eq_of_checks checks).1

/-- If a check fails at the end of a text, there are tasks with which the braces below the text are
checked. -/
theorem exists_tasks_closedBy {entries : Derivation}
    (checks : (streamOf text).Checks 0 [.program] entries (.error fault) n)
    (ends : EndsAt (streamOf text) n) :
    ∃ task behind refusal final, fault = Refusal.fault refusal final ∧
      task.decide .endOfInput = .refuse refusal ∧ Nested .endOfInput (task :: behind) ∧
      ∀ count, 1 ≤ count → (check (closedBy text count) = .ok () ↔
        (streamOf (closedBy text count)).Accepts n (task :: behind)) := by
  obtain ⟨final, atEnd, isEnd⟩ := ends.ends
  obtain ⟨task, behind, refusal, fault_eq, decided, nested, accepts⟩ :=
    checks.beside rfl rfl ends (Nat.zero_le _) (fun _ _ => nested_program _) atEnd
      (Token.terminal_of_isEndOfInput isEnd)
  refine ⟨task, behind, refusal, final, fault_eq, decided, nested, fun count some => ?_⟩
  obtain ⟨same, closed⟩ := streamOf_closedBy ends count
  obtain ⟨brace, there, isBrace⟩ := closed.brace_of_pos some
  rw [check_ok_iff_accepts]
  exact accepts _ _ same there isBrace

/-- If the text ends inside braces, as many braces as are due make it a program. -/
theorem exists_closedBy {entries : Derivation}
    (checks : (streamOf text).Checks 0 [.program] entries (.error fault) n)
    (ends : EndsAt (streamOf text) n) (unterminated : fault.cause = .grammatical .unterminatedBlock) :
    ∃ count, 1 ≤ count ∧ check (closedBy text count) = .ok () := by
  obtain ⟨task, behind, refusal, final, rfl, decided, nested, accepts⟩ :=
    exists_tasks_closedBy checks ends
  have closes := task.decide_closesLike
  rw [decided] at closes
  rcases closes with ⟨-, body, -⟩ | ⟨other, -⟩
  · have some := Outcomes.braces_pos nested.layered body
    refine ⟨_, some, (accepts _ some).2
      (Outcomes.accepts_of_closedAt (streamOf_closedBy ends _).2 nested.layered ?_)⟩
    rintro layer found
    obtain rfl := Option.some.inj found
    rw [body]
    exact ⟨nofun, nofun⟩
  · exact absurd (eq_openBraces_of_cause unterminated) other

/-- If some braces make a program of the text, it ends inside braces. -/
theorem unterminated_of_closedBy {entries : Derivation}
    (checks : (streamOf text).Checks 0 [.program] entries (.error fault) n)
    (ends : EndsAt (streamOf text) n) {count : Nat} (some : 1 ≤ count)
    (accepted : check (closedBy text count) = .ok ()) :
    fault.cause = .grammatical .unterminatedBlock := by
  obtain ⟨task, behind, refusal, final, rfl, decided, nested, accepts⟩ :=
    exists_tasks_closedBy checks ends
  have accepted := (accepts count some).1 accepted
  have closes := task.decide_closesLike
  rw [decided] at closes
  rcases closes with ⟨rfl, -, -⟩ | ⟨-, brace | ⟨other, refused⟩⟩
  · rfl
  · -- no closing brace is due where the input ends
    cases nested.due (congrArg Option.some brace)
  · obtain ⟨brace, there, isBrace⟩ := (streamOf_closedBy ends count).2.brace_of_pos some
    rw [← isBrace] at refused
    exact absurd accepted (Outcomes.not_accepts_of_refuse there refused)

end Text

/-- A text that ends inside braces becomes a program when just as many closing braces are put below it as are
open in it. If any braces below a text that is rejected make it a program, then it ends inside braces. -/
theorem check_closedBy (text : String) (fault : Fault) (rejected : check text = .error fault) :
    (fault.cause = .grammatical .unterminatedBlock → ∃ (tokens : List Token) (missing : Nat),
      (Lexer.ofString text).tokenize.1 = .ok tokens ∧ openBraces tokens = missing ∧ 1 ≤ missing ∧
        ∀ count, check (closedBy text count) = .ok () ↔ count = missing) ∧
    ∀ count, check (closedBy text count) = .ok () →
      fault.cause = .grammatical .unterminatedBlock ∧ fault.AtEnd text := by
  obtain ⟨last, checks, -⟩ := exists_checks text
  obtain ⟨n, -, ends⟩ := (Lexer.ofString text).exists_end
  rw [rejected] at checks
  have le := checks.le_end ends (Nat.zero_le n)
  constructor
  · intro unterminated
    obtain ⟨token, here, ended⟩ := checks.ends_of_openBraces unterminated
    obtain rfl : last = n := by
      refine Nat.le_antisymm le (Nat.le_of_not_lt fun less => ?_)
      rw [ends.first last less token here] at ended
      cases ended
    obtain ⟨missing, some, accepted⟩ := exists_closedBy checks ends unterminated
    obtain ⟨tokens, tokenized, -⟩ := (check_closedBy_iff text missing).1 accepted
    have balance := eq_openBraces tokenized accepted
    refine ⟨tokens, missing, tokenized, balance, some, fun count => ⟨fun accepted' => ?_, ?_⟩⟩
    · exact Int.ofNat.inj ((eq_openBraces tokenized accepted').symm.trans balance)
    · rintro rfl
      exact accepted
  · intro count accepted
    -- the check comes to the end of the text
    obtain rfl : last = n := by
      refine Nat.le_antisymm le (Nat.le_of_not_lt fun less => ?_)
      have same := (streamOf_closedBy ends count).1
      obtain ⟨other, -⟩ := eq_of_checks (checks.congr fun i le => same i (Nat.lt_of_le_of_lt le less))
      rw [accepted] at other
      cases other
    refine ⟨unterminated_of_closedBy checks ends ?_ accepted, Fault.atEnd_of_checks checks ends⟩
    -- a line without braces adds nothing
    refine Nat.one_le_iff_ne_zero.2 ?_
    rintro rfl
    obtain ⟨tokens, tokenized, generates⟩ := (check_closedBy_iff text 0).1 accepted
    rw [List.replicate_zero, List.nil_append, ← terminals_of_tokenize tokenized] at generates
    obtain ⟨rfl, clean⟩ := tokenize_ok_iff.1 tokenized
    have well := (check_ok_iff_drain text).2 ⟨clean, generates⟩
    rw [rejected] at well
    cases well

/-- A return without a value, inside a condition and a function: two braces are missing, and just two. -/
theorem check_closedBy_return :
    (check "fun void f() \x7b if (a) \x7b return" =
        .error ⟨.grammatical .unterminatedBlock, ⟨30, 30, 1, 31⟩⟩ ∧
      ∀ count, check (closedBy "fun void f() \x7b if (a) \x7b return" count) = .ok () ↔ count = 2) ∧
    Fault.AtEnd "fun void f() \x7b if (a) \x7b return"
      ⟨.grammatical .unterminatedBlock, ⟨30, 30, 1, 31⟩⟩ := by
  have rejected : check "fun void f() \x7b if (a) \x7b return" =
      .error ⟨.grammatical .unterminatedBlock, ⟨30, 30, 1, 31⟩⟩ := by cbv
  obtain ⟨closes, others⟩ := check_closedBy _ _ rejected
  have accepted : check (closedBy "fun void f() \x7b if (a) \x7b return" 2) = .ok () := by cbv
  obtain ⟨tokens, missing, -, -, -, just⟩ := closes rfl
  obtain rfl := (just 2).1 accepted
  exact ⟨⟨rejected, just⟩, (others 2 accepted).2⟩

end SyntaxCheck
