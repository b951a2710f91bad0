import SyntaxCheck.Proofs.Recognizer.Tracking
import SyntaxCheck.Recognizer.Session

/-!
# The language that is recognized

* `Machine.run_of_derives`, `Machine.generates_of_run`, `Machine.run_ok_iff` - a run from a fresh state ends
  without a fault just when its input is a program;
* `check_ok_iff_drain`, `check_ok_iff_generates` - a text is accepted just when its tokens are derivable.
-/

namespace SyntaxCheck

namespace Machine

variable {lexer : Lexer} {current : Token} {events : List Event}

/-- A program without lexical faults is recognized, and its record is that of its tree. -/
theorem run_of_derives {tree : Tree Token}
    (clean : (start lexer current events).ending = none)
    (derived : Derives Token.terminal [.part .program] [tree] (start lexer current events).input) :
    ∃ final, (start lexer current events).run = (.ok (), final) ∧ final.current.isEndOfInput = true ∧
      Event.steps final.events.reverse = Event.steps events.reverse ++ tree.steps := by
  obtain ⟨final, reached, ends⟩ := run_cases (start lexer current events)
  obtain ⟨read, tracks⟩ := (tracks_start lexer current events).reaches reached
  rw [← tracks.input_eq] at derived
  rcases ends with ⟨done, run_eq⟩ | ⟨fault, left, failed, -⟩
  · -- no tasks are left, so no entries are
    obtain ⟨later, records, same⟩ := tracks.complete tree _ final.admits_ahead derived
    rw [done] at records
    obtain ⟨_, _, rfl⟩ := records
    have ended := tracks.anchored
    unfold Anchored at ended
    rw [done] at ended
    refine ⟨final, run_eq, ended, ?_⟩
    rw [same]
    exact (List.append_nil _).symm
  · -- no decision refuses the current token, and no token is missing
    exfalso
    have clean := tracks.ending_eq.trans clean
    cases failed with
    | @refuse task behind refusal top decided =>
      obtain ⟨_, refused, -⟩ := tracks.carries top decided final.admits_ahead derived
      exact refused
    | @take task behind tasks fault lexer top decided missing =>
      have more := more_of_decide decided id
      rw [(ahead_of_missing more missing).2] at clean
      cases clean
    | @look task behind tasks fault lexer top decided missing =>
      have more := more_of_decide decided id
      rw [(ahead_of_missing more (Lexer.peek_error missing)).2] at clean
      cases clean

/-- What is recognized is a program without lexical faults. -/
theorem generates_of_run {final : Machine}
    (accepted : (start lexer current events).run = (.ok (), final)) :
    (start lexer current events).ending = none ∧
      Generates ((start lexer current events).input.map Token.terminal) := by
  obtain ⟨final', reached, ends⟩ := run_cases (start lexer current events)
  obtain ⟨read, tracks⟩ := (tracks_start lexer current events).reaches reached
  rcases ends with ⟨done, -⟩ | ⟨fault, left, -, run_eq⟩
  · have ended := tracks.anchored
    unfold Anchored at ended
    rw [done] at ended
    have ended : final'.current.isEndOfInput = true := ended
    constructor
    · rw [← tracks.ending_eq, ending, if_pos ended]
    · -- all that is left is the end of the input, and that is what no tasks derive
      rw [← tracks.input_eq, input, ahead, if_pos ended, List.map_append]
      refine tracks.sound [] ?_
      rw [done]
      exact Derivable.nil.token ended
  · rw [run_eq] at accepted
    cases accepted

/-- A run accepts just the programs without lexical faults. -/
theorem run_ok_iff : (start lexer current events).run.1 = .ok () ↔
    (start lexer current events).ending = none ∧
      Generates ((start lexer current events).input.map Token.terminal) := by
  constructor
  · intro accepted
    exact generates_of_run (Prod.ext accepted rfl)
  · rintro ⟨clean, generates⟩
    rw [generates_iff, derivable_map_iff] at generates
    obtain ⟨forest, derived⟩ := generates
    obtain ⟨tree, rfl⟩ := List.length_eq_one_iff.1 derived.length_eq
    obtain ⟨final, run_eq, -⟩ := run_of_derives clean derived
    exact congrArg Prod.fst run_eq

end Machine

/-! ### Texts -/

section Text

variable {text : String} {token : Token} {lexer : Lexer}

/-- The run that checks a text whose first token is there. -/
theorem parse_of_advance (session : Session) (fresh : session.current = none)
    (fetched : session.lexer.advance = (.ok token, lexer)) :
    session.parse = session.parseFrom lexer token (session.lexer.scanEvents token) := by
  unfold Session.parse
  rw [fresh]
  dsimp only
  rw [fetched]

theorem check_of_advance (fetched : (Lexer.ofString text).advance = (.ok token, lexer)) :
    check text =
      (Machine.start lexer token ((Lexer.ofString text).scanEvents token)).run.1 := by
  unfold check
  rw [parse_of_advance (Session.ofString text) rfl fetched]
  rfl

theorem check_of_missing {fault : LexicalFault}
    (missing : (Lexer.ofString text).advance = (.error fault, lexer)) :
    check text = .error fault.toFault := by
  unfold check Session.parse
  have fresh : (Session.ofString text).lexer = Lexer.ofString text := rfl
  dsimp only [Session.ofString, Session.ofLexer]
  rw [missing]

/-- A text is accepted just when its tokens are handed out without a fault and are a program. -/
theorem check_ok_iff_drain (text : String) :
    check text = .ok () ↔ (Lexer.ofString text).drain.fault = none ∧
      Generates ((Lexer.ofString text).drain.tokens.map Token.terminal) := by
  cases next : (Lexer.ofString text).advance with
  | mk answer lexer =>
    cases answer with
    | error fault =>
      rw [check_of_missing next, Lexer.drain_of_fault next]
      simp
    | ok token =>
      obtain ⟨tokens_eq, fault_eq⟩ := Machine.drain_of_advance [.program]
        ((Lexer.ofString text).scanEvents token) next
      rw [check_of_advance next, tokens_eq, fault_eq]
      exact Machine.run_ok_iff

/-- The texts that are accepted are those whose tokens are derivable from the start of the grammar. -/
theorem check_ok_iff_generates (text : String) :
    check text = .ok () ↔
      ∃ tokens, (Lexer.ofString text).tokenize.1 = .ok tokens ∧
        Generates (tokens.map Token.terminal) := by
  rw [check_ok_iff_drain]
  constructor
  · rintro ⟨clean, generates⟩
    exact ⟨_, tokenize_ok_iff.2 ⟨rfl, clean⟩, generates⟩
  · rintro ⟨tokens, found, generates⟩
    obtain ⟨rfl, clean⟩ := tokenize_ok_iff.1 found
    exact ⟨clean, generates⟩

end Text

end SyntaxCheck
