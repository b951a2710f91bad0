import Mathlib
import SyntaxCheck.Proofs.Grammar.Ending
import SyntaxCheck.Proofs.Lexer.Writing
import SyntaxCheck.Proofs.Recognizer.Language
import SyntaxCheck.Proofs.Recognizer.Lead

/-!
# Faults are found as early as possible

* `Accepted`, `Viable` - the words of accepted texts, and their beginnings;
* `accepted_iff`, `viable_of_generates` - in terms of derivations;
* `Machine.tracks_of_reaches` - the machines of a run keep track of what was read;
* `Machine.fault_of_run` - a run that fails has read the beginning of a program, and fails because of its
  current token or because of a lexical fault behind it;
* `check_fault_earliest` - where and why a text is rejected.
-/

namespace SyntaxCheck

/-! ### Words of accepted texts -/

/-- The classes of the tokens of an accepted text, without the end of the input. -/
def Accepted (word : List Terminal) : Prop :=
  ∃ text tokens, check text = .ok () ∧ (Lexer.ofString text).tokenize.1 = .ok tokens ∧
    tokens.map Token.terminal = word ++ [.endOfInput]

/-- The beginning of a word of an accepted text. -/
def Viable (word : List Terminal) : Prop :=
  ∃ later, Accepted (word ++ later)

theorem accepted_iff {word : List Terminal} :
    Accepted word ↔ Generates (word ++ [.endOfInput]) := by
  constructor
  · rintro ⟨text, tokens, accepted, found, classes⟩
    obtain ⟨rfl, -⟩ := tokenize_ok_iff.1 found
    rw [← classes]
    exact ((check_ok_iff_drain text).1 accepted).2
  · intro generates
    obtain ⟨init, same, noEnd⟩ := generates.ends
    obtain ⟨rfl, -⟩ := List.append_inj' same rfl
    obtain ⟨text, clean, classes⟩ := exists_text word noEnd
    exact ⟨text, _, (check_ok_iff_drain text).2 ⟨clean, classes ▸ generates⟩,
      tokenize_ok_iff.2 ⟨rfl, clean⟩, classes⟩

/-- What is the beginning of a program without the end of the input is the beginning of a word. -/
theorem viable_of_generates {word later : List Terminal} (noEnd : .endOfInput ∉ word)
    (h : Generates (word ++ later)) : Viable word := by
  obtain ⟨init, same, -⟩ := h.ends
  rcases List.eq_nil_or_concat later with rfl | ⟨later, last, rfl⟩
  · rw [List.append_nil] at same
    rw [same] at noEnd
    exact absurd (List.mem_append_right _ List.mem_cons_self) noEnd
  · rw [List.concat_eq_append, ← List.append_assoc] at same
    obtain ⟨-, same⟩ := List.append_inj' same rfl
    obtain rfl := List.singleton_inj.1 same
    refine ⟨later, accepted_iff.2 ?_⟩
    rwa [List.concat_eq_append, ← List.append_assoc] at h

theorem generates_of_viable {word : List Terminal} (h : Viable word) :
    ∃ later, Generates (word ++ later) := by
  obtain ⟨later, accepted⟩ := h
  refine ⟨later ++ [.endOfInput], ?_⟩
  rw [← List.append_assoc]
  exact accepted_iff.1 accepted

/-- Every terminal is the class of a token. -/
theorem exists_tokens (word : List Terminal) :
    ∃ tokens : List Token, tokens.map Token.terminal = word := by
  refine ⟨word.map fun t => ⟨t.sample.1, "", default⟩, ?_⟩
  rw [List.map_map]
  exact (List.map_congr_left fun t _ => t.terminal_sample).trans (List.map_id word)

theorem not_mem_endOfInput {tokens : List Token}
    (goesOn : ∀ token ∈ tokens, token.isEndOfInput = false) :
    .endOfInput ∉ tokens.map Token.terminal := by
  intro found
  obtain ⟨token, among, same⟩ := List.mem_map.1 found
  exact Bool.eq_false_iff.1 (goesOn token among) (beq_iff_eq.2 same)

/-! ### Runs that fail -/

namespace Machine

variable {base : Derivation} {all read : List Token} {ending : Option LexicalFault}
  {machine : Machine} {task : Task} {behind : List Task}

/-- No program goes on with a token that is refused. -/
theorem Tracks.not_generates {refusal : Refusal} (h : machine.Tracks base all ending read)
    (led : machine.Led) (top : machine.tasks = task :: behind)
    (decided : task.decide machine.current.terminal = .refuse refusal) (word : List Terminal) :
    ¬Generates (read.map Token.terminal ++ machine.current.terminal :: word) := by
  intro generates
  obtain ⟨tokens, rfl⟩ := exists_tokens word
  have same : (read ++ machine.current :: tokens).map Token.terminal =
      read.map Token.terminal ++ machine.current.terminal :: tokens.map Token.terminal := by
    rw [List.map_append, List.map_cons]
  rw [← same, generates_iff, derivable_map_iff] at generates
  obtain ⟨forest, derived⟩ := generates
  obtain ⟨tree, rfl⟩ := List.length_eq_one_iff.1 derived.length_eq
  have admits : machine.Admits tokens := by
    intro _ next found
    rw [led.shown_eq_none top decided] at found
    cases found
  obtain ⟨_, refused, -⟩ := h.carries top decided admits derived
  exact refused

/-- Where no token could be fetched, a program may go on. -/
theorem Tracks.viable_of_take {tasks : Token → List Task} (h : machine.Tracks base all ending read)
    (top : machine.tasks = task :: behind)
    (decided : task.decide machine.current.terminal = .take tasks) :
    ∃ word, Generates ((read ++ [machine.current]).map Token.terminal ++ word) := by
  obtain ⟨word, derived⟩ := exists_derivable (symbolsOf (tasks machine.current ++ behind))
  refine ⟨word, ?_⟩
  rw [List.map_append, List.append_assoc]
  exact h.taken top decided derived

/-- Where no token could be shown, a program may go on. -/
theorem Tracks.viable_of_look {tasks : Terminal → List Task}
    (h : machine.Tracks base all ending read) (top : machine.tasks = task :: behind)
    (decided : task.decide machine.current.terminal = .look tasks) :
    ∃ word, Generates ((read ++ [machine.current]).map Token.terminal ++ word) := by
  have spaced := h.spaced
  rw [top] at spaced
  have looks := task.decide_look machine.current.terminal spaced
  have unfolds := task.decide_unfolding behind machine.current
  rw [decided] at looks unfolds
  -- any terminal will do as the one that was not shown
  obtain ⟨word, derived⟩ := derivable_of_nameLed (looks.2 .endOfInput)
  refine ⟨word, ?_⟩
  rw [List.map_append, List.append_assoc]
  apply h.sound
  rw [top]
  refine (unfolds .endOfInput).derivable ?_
  rw [looks.1]
  exact derived

/-- A run that misses a token has the lexical fault behind it. -/
theorem Tracks.missing {lexical : LexicalFault} (h : machine.Tracks base all ending read)
    (more : machine.current.isEndOfInput = false)
    (stops : machine.ahead = [] ∧ machine.ending = some lexical)
    (viable : ∃ word, Generates ((read ++ [machine.current]).map Token.terminal ++ word)) :
    ∃ lexical', ending = some lexical' ∧ lexical.toFault = lexical'.toFault ∧
      (∀ token ∈ all, token.isEndOfInput = false) ∧
      ∃ word, Generates (all.map Token.terminal ++ word) := by
  have whole : read ++ [machine.current] = all := by
    rw [← h.input_eq, input, stops.1]
  rw [whole] at viable
  refine ⟨lexical, h.ending_eq.symm.trans stops.2, rfl, ?_, viable⟩
  intro token found
  rw [← whole] at found
  rcases List.mem_append.1 found with found | found
  · exact h.goesOn token found
  · exact List.mem_singleton.1 found ▸ more

/-- Every state of a run keeps track, and while it shows a token it is led by a name. -/
theorem tracks_of_reaches {lexer : Lexer} {current : Token} {events : List Event} {final : Machine}
    (fresh : lexer.shown = none) (reached : (start lexer current events).Reaches final) :
    (∃ read, final.Tracks (Event.steps events.reverse) (start lexer current events).input
      (start lexer current events).ending read) ∧ final.Led := by
  refine reached.preserves (P := fun machine => (∃ read, machine.Tracks
    (Event.steps events.reverse) (start lexer current events).input
    (start lexer current events).ending read) ∧ machine.Led) ?_ ⟨⟨[], tracks_start _ _ _⟩, ?_⟩
  · rintro a b ⟨⟨read, tracks⟩, led⟩ moved
    exact ⟨tracks.moves moved, led.moves tracks.spaced moved⟩
  · intro shown
    rw [start, fresh] at shown
    cases shown

/-- A run that fails has read the beginning of a program. It fails because no program goes on with the
current token, or because of a lexical fault behind it. -/
theorem fault_of_run {lexer : Lexer} {current : Token} {events : List Event} {fault : Fault}
    {left : Machine} (fresh : lexer.shown = none)
    (failed : (start lexer current events).run = (.error fault, left)) :
    (∃ read token refusal, read ++ [token] <+: (start lexer current events).input ∧
      fault = Refusal.fault refusal token ∧
      (∀ token ∈ read, token.isEndOfInput = false) ∧
      (∃ word, Generates (read.map Token.terminal ++ word)) ∧
      ∀ word, ¬Generates (read.map Token.terminal ++ token.terminal :: word)) ∨
    ∃ lexical, (start lexer current events).ending = some lexical ∧ fault = lexical.toFault ∧
      (∀ token ∈ (start lexer current events).input, token.isEndOfInput = false) ∧
      ∃ word, Generates ((start lexer current events).input.map Token.terminal ++ word) := by
  obtain ⟨final, reached, fails⟩ := fails_of_run failed
  obtain ⟨⟨read, tracks⟩, led⟩ := tracks_of_reaches fresh reached
  cases fails with
  | @refuse task behind refusal top decided =>
    exact .inl ⟨read, left.current, refusal, tracks.isPrefix, rfl, tracks.goesOn, tracks.viable,
      tracks.not_generates led top decided⟩
  | @take task behind tasks lexical lexer top decided missing =>
    have more := more_of_decide decided id
    exact .inr (tracks.missing more (ahead_of_missing more missing)
      (tracks.viable_of_take top decided))
  | @look task behind tasks lexical lexer top decided missing =>
    have more := more_of_decide decided id
    exact .inr (tracks.missing more (ahead_of_missing more (Lexer.peek_error missing))
      (tracks.viable_of_look top decided))

end Machine

/-! ### Texts that are rejected -/

/-- The description of a token that a cause holds. -/
def GrammarCause.found? : GrammarCause → Option String
  | .unexpectedToken _ found | .expectedIdentifier found | .expectedType found => some found
  | .expectedExpression found | .expectedStatement found | .unexpectedTopLevel found => some found
  | .unterminatedBlock => none

theorem Refusal.found?_cause (refusal : Refusal) (description : String) :
    ∀ found ∈ (refusal.cause description).found?, found = description := by
  intro found same
  cases refusal <;> first | exact (Option.some.inj same).symm | cases same

/-- A rejected text has a token that no program goes on with, or a lexical fault behind the beginning of
a program. -/
theorem fault_of_check {text : String} {fault : Fault} (rejected : check text = .error fault) :
    (∃ before token refusal, before ++ [token] <+: (Lexer.ofString text).drain.tokens ∧
      fault = Refusal.fault refusal token ∧
      (∀ token ∈ before, token.isEndOfInput = false) ∧
      (∃ word, Generates (before.map Token.terminal ++ word)) ∧
      ∀ word, ¬Generates (before.map Token.terminal ++ token.terminal :: word)) ∨
    ∃ lexical, (Lexer.ofString text).drain.fault = some lexical ∧ fault = lexical.toFault ∧
      (∀ token ∈ (Lexer.ofString text).drain.tokens, token.isEndOfInput = false) ∧
      ∃ word, Generates ((Lexer.ofString text).drain.tokens.map Token.terminal ++ word) := by
  cases next : (Lexer.ofString text).advance with
  | mk answer lexer =>
    cases answer with
    | error lexical =>
      rw [check_of_missing next] at rejected
      injection rejected with rejected
      obtain ⟨word, derived⟩ := exists_derivable [.part .program]
      rw [Lexer.drain_of_fault next]
      exact .inr ⟨lexical, rfl, rejected.symm, by simp, word, generates_iff.2 derived⟩
    | ok token =>
      obtain ⟨tokens_eq, fault_eq⟩ := Machine.drain_of_advance [.program]
        ((Lexer.ofString text).scanEvents token) next
      have fresh := (Lexer.ofString text).shown_advance
      rw [next] at fresh
      rw [check_of_advance next] at rejected
      rw [tokens_eq, fault_eq]
      exact Machine.fault_of_run fresh (Prod.ext rejected rfl)

/-- A rejected text is rejected at the earliest place. A grammatical fault lies at the first token that
no accepted text has behind the tokens before it. A lexical fault is the first one of the text, and some
accepted text goes on from the tokens before it. -/
theorem check_fault_earliest (text : String) (fault : Fault) (rejected : check text = .error fault) :
    (∀ cause, fault.cause = .grammatical cause →
      ∃ before token cursor,
        (Cursor.start text.toList).Scans (before ++ [token]) cursor ∧
        fault.span = token.span ∧ (∀ found ∈ cause.found?, found = token.describe) ∧
        Viable (before.map Token.terminal) ∧
        (token.isEndOfInput = true → ¬Accepted (before.map Token.terminal)) ∧
        (token.isEndOfInput = false → ¬Viable ((before ++ [token]).map Token.terminal))) ∧
    ∀ cause, fault.cause = .lexical cause →
      ∃ before cursor lexical,
        (Cursor.start text.toList).Scans before cursor ∧ cursor.scan.1 = .error lexical ∧
        (Lexer.ofString text).tokenize.1 = .error lexical ∧ fault = lexical.toFault ∧
        Viable (before.map Token.terminal) := by
  rcases fault_of_check rejected with ⟨before, token, refusal, scanned, rfl, goesOn, ⟨word, begins⟩,
    never⟩ | ⟨lexical, found, rfl, goesOn, word, begins⟩
  · refine ⟨?_, fun cause other => by cases other⟩
    rintro cause same
    injection same with same
    subst same
    obtain ⟨cursor, scans⟩ := Lexer.scans_of_isPrefix (Cursor.start text.toList) scanned
    refine ⟨before, token, cursor, scans, rfl, refusal.found?_cause _,
      viable_of_generates (not_mem_endOfInput goesOn) begins, ?_, ?_⟩
    · intro ended accepted
      refine never [] ?_
      rw [Token.terminal_of_isEndOfInput ended]
      exact accepted_iff.1 accepted
    · intro _ viable
      obtain ⟨later, generates⟩ := generates_of_viable viable
      refine never later ?_
      rwa [List.map_append, List.append_assoc] at generates
  · refine ⟨fun cause other => (by cases other), ?_⟩
    rintro cause same
    obtain ⟨cursor, scans, missing⟩ :=
      Lexer.scans_of_fault (Cursor.start text.toList) found
    refine ⟨_, cursor, lexical, scans, missing, ?_, rfl,
      viable_of_generates (not_mem_endOfInput goesOn) begins⟩
    exact tokenize_error_iff.2 found

/-- A brace where a value is due is blamed, and a literal of two characters before it is blamed first. -/
theorem check_fault_earliest_value :
    (∃ before token cursor,
      check "fun void f() \x7b x = \x7d" =
        .error ⟨.grammatical (.expectedExpression "'\x7d'"), token.span⟩ ∧
      token.span = ⟨19, 20, 1, 20⟩ ∧
      (Cursor.start "fun void f() \x7b x = \x7d".toList).Scans (before ++ [token]) cursor ∧
      Viable (before.map Token.terminal) ∧
      ¬Viable ((before ++ [token]).map Token.terminal)) ∧
    ∃ before cursor,
      check "fun void f() \x7b x = 'ab' \x7d" =
        .error ⟨.lexical .invalidCharLiteral, ⟨19, 21, 1, 20⟩⟩ ∧
      (Cursor.start "fun void f() \x7b x = 'ab' \x7d".toList).Scans before cursor ∧
      cursor.scan.1 = .error ⟨.invalidCharLiteral, ⟨19, 21, 1, 20⟩⟩ ∧
      Viable (before.map Token.terminal) := by
  constructor
  · have rejected : check "fun void f() \x7b x = \x7d" =
        .error ⟨.grammatical (.expectedExpression "'\x7d'"), ⟨19, 20, 1, 20⟩⟩ := by cbv
    obtain ⟨before, token, cursor, scans, place, found, viable, -, never⟩ :=
      (check_fault_earliest _ _ rejected).1 _ rfl
    have place : ⟨19, 20, 1, 20⟩ = token.span := place
    refine ⟨before, token, cursor, ?_, place.symm, scans, viable, never ?_⟩
    · rw [← place]
      exact rejected
    · -- the end of the input would be described as such
      have described : "'\x7d'" = token.describe := found _ rfl
      by_contra ended
      rw [Bool.not_eq_false, Token.isEndOfInput_iff] at ended
      unfold Token.describe at described
      rw [ended] at described
      have differ : "'\x7d'" ≠ "end of input" := by decide
      exact differ described
  · have rejected : check "fun void f() \x7b x = 'ab' \x7d" =
        .error ⟨.lexical .invalidCharLiteral, ⟨19, 21, 1, 20⟩⟩ := by cbv
    obtain ⟨before, cursor, lexical, scans, missing, -, same, viable⟩ :=
      (check_fault_earliest _ _ rejected).2 _ rfl
    refine ⟨before, cursor, rejected, scans, ?_, viable⟩
    obtain ⟨cause, span⟩ := lexical
    injection same with cause_eq span_eq
    injection cause_eq with cause_eq
    have cause_eq : .invalidCharLiteral = cause := cause_eq
    have span_eq : ⟨19, 21, 1, 20⟩ = span := span_eq
    rw [missing, cause_eq, span_eq]

end SyntaxCheck
