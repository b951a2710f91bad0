import SyntaxCheck.Proofs.Recognizer.Transport
import SyntaxCheck.Proofs.Recognizer.Viability

/-!
# What comes behind a fault does not matter

A check stops at the first fault, and nothing behind the line of that fault was read. So any other lines
may stand there.

* `Lexer.HandsOut`, `Machine.refused_of_run` - a token that is refused is the last one that was scanned;
* `Outcomes.Checks.of_fault` - the token or fault of the stream that a check fails at;
* `lineEnd`, `Fault.AtEnd` - the end of the line of a place, and faults at the end of the input;
* `check_fault_local` - other lines behind a fault.
-/

namespace SyntaxCheck

/-! ### What was scanned -/

namespace Lexer

variable {text : List Char} {tokens : List Token} {lexer lexer' : Lexer} {token : Token}

/-- Scans of the text found just these tokens, which were handed out, and the one that is shown. -/
def HandsOut (text : List Char) (tokens : List Token) (lexer : Lexer) : Prop :=
  (Cursor.start text).Scans (tokens ++ lexer.shown.toList) lexer.cursor

theorem HandsOut.advance (h : HandsOut text tokens lexer)
    (fetched : lexer.advance = (.ok token, lexer')) : HandsOut text (tokens ++ [token]) lexer' := by
  unfold HandsOut at h ⊢
  unfold Lexer.advance at fetched
  cases shown : lexer.shown with
  | some token' =>
    rw [shown] at h fetched
    cases fetched
    simpa using h
  | none =>
    rw [shown] at h fetched
    injection fetched with found left
    subst left
    rw [Option.toList_none, List.append_nil] at h ⊢
    exact h.concat (Prod.ext found rfl)

theorem HandsOut.peek (h : HandsOut text tokens lexer)
    (shown : lexer.peek = (.ok token, lexer')) : HandsOut text tokens lexer' := by
  unfold Lexer.peek at shown
  split at shown
  · cases shown
    exact h
  · rename_i none
    split at shown
    · rename_i scanned
      cases shown
      unfold HandsOut at h ⊢
      rw [none, Option.toList_none, List.append_nil] at h
      exact h.concat scanned
    · cases shown

end Lexer

namespace Machine

variable {text : List Char} {machine machine' : Machine} {read : List Token}

/-- Every step keeps to what was scanned. -/
theorem handsOut_of_moves (h : machine.lexer.HandsOut text (read ++ [machine.current]))
    (moved : machine.Moves machine') :
    ∃ read', machine'.lexer.HandsOut text (read' ++ [machine'.current]) := by
  cases moved with
  | become | enter | note => exact ⟨read, h⟩
  | take _ _ fetched => exact ⟨_, h.advance fetched⟩
  | look _ _ shown => exact ⟨read, h.peek shown⟩

/-- Where a run fails because of a token, that token was scanned last, and none is shown. -/
theorem refused_of_run {lexer : Lexer} {current : Token} {events : List Event} {fault : Fault}
    {left : Machine} {cause : GrammarCause} (fresh : lexer.shown = none)
    (scanned : lexer.HandsOut text (read ++ [current]))
    (failed : (start lexer current events).run = (.error fault, left))
    (refused : fault.cause = .grammatical cause) :
    ∃ before refusal, fault = Refusal.fault refusal left.current ∧ left.lexer.shown = none ∧
      (Cursor.start text).Scans (before ++ [left.current]) left.lexer.cursor := by
  obtain ⟨final, reached, fails⟩ := fails_of_run failed
  obtain ⟨-, led⟩ := tracks_of_reaches fresh reached
  obtain ⟨read, handsOut⟩ : ∃ read, final.lexer.HandsOut text (read ++ [final.current]) := by
    refine reached.preserves
      (P := fun machine => ∃ read, machine.lexer.HandsOut text (read ++ [machine.current])) ?_
      ⟨read, scanned⟩
    rintro a b ⟨read, handsOut⟩ moved
    exact handsOut_of_moves handsOut moved
  cases fails with
  | refuse top decided =>
    have none := led.shown_eq_none top decided
    refine ⟨read, _, rfl, none, ?_⟩
    unfold Lexer.HandsOut at handsOut
    rwa [none, Option.toList_none, List.append_nil] at handsOut
  | take => cases refused
  | look => cases refused

end Machine

/-- Scans keep the cursor in the text. -/
theorem Cursor.Scans.standsIn {cursor cursor' : Cursor} {tokens : List Token} {text : List Char}
    (h : cursor.Scans tokens cursor') (stands : cursor.StandsIn text) : cursor'.StandsIn text := by
  induction h with
  | refl => exact stands
  | @step cursor cursor' cursor'' token tokens scanned _ ih =>
    have finds := cursor.finds_scan
    rw [scanned] at finds
    exact ih (stands.scan finds).1

/-- A text rejected because of a token: the session has scanned just the tokens up to that one. -/
theorem session_of_refused {text : String} {fault : Fault} {cause : GrammarCause}
    (rejected : check text = .error fault) (refused : fault.cause = .grammatical cause) :
    ∃ before token refusal, fault = Refusal.fault refusal token ∧
      (Session.ofString text).parse.2.current = some token ∧
      (Session.ofString text).parse.2.lexer.shown = none ∧
      (Cursor.start text.toList).Scans (before ++ [token])
        (Session.ofString text).parse.2.lexer.cursor := by
  rcases (Session.ofString text).parse_cases with ⟨machine, starts, same⟩ |
    ⟨lexical, lexer, -, -, same⟩
  · cases starts with
    | again held => cases held
    | @fetched token lexer fresh found =>
      rw [check, same] at rejected
      rw [same]
      have none := (Session.ofString text).lexer.shown_advance
      rw [found] at none
      have first : (Lexer.ofString text).HandsOut text.toList [] := .refl _
      obtain ⟨before, refusal, fault_eq, shown, scans⟩ :=
        Machine.refused_of_run none (first.advance found) (Prod.ext rejected rfl) refused
      exact ⟨before, _, refusal, fault_eq, rfl, shown, scans⟩
  · rw [check, same] at rejected
    cases rejected
    cases refused

/-! ### The fault of a stream -/

namespace Outcomes

variable {stream : Outcomes} {place last : Nat} {tasks : List Task} {entries : Derivation}
  {outcome : Except Fault Unit} {fault : Fault}

/-- A check fails at a token or fault of the stream. -/
theorem Checks.of_fault (h : stream.Checks place tasks entries outcome last)
    (failed : outcome = .error fault) :
    (∃ token refusal, stream last = .ok token ∧ fault = Refusal.fault refusal token) ∨
      ∃ lexical, stream last = .error lexical ∧ fault = lexical.toFault := by
  induction h with
  | settled found =>
    subst failed
    cases step_settled_iff.1 found with
    | missing missed => exact .inr ⟨_, missed, rfl⟩
    | refuse here => exact .inl ⟨_, _, here, rfl⟩
    | look _ _ missed => exact .inr ⟨_, missed, rfl⟩
  | goesOn _ _ ih => exact ih failed

/-- It meets no fault before. -/
theorem Checks.ok_of_lt (h : stream.Checks place tasks entries outcome last) {i : Nat}
    (from_place : place ≤ i) (before : i < last) : ∃ token, stream i = .ok token := by
  induction h with
  | @settled place last tasks outcome found =>
    cases step_settled_iff.1 found with
    | look here =>
      obtain rfl : i = place := by omega
      exact ⟨_, here⟩
    | _ => omega
  | @goesOn place place' last tasks tasks' entries later outcome found others ih =>
    obtain ⟨current, seen, here, -⟩ := step_goesOn_iff.1 found
    by_cases same : i = place
    · exact ⟨current, same ▸ here⟩
    · refine ih ?_ before
      have next := stream.place_step place tasks
      rw [found] at next
      rcases next with next | ⟨next, -⟩ <;> simp only [Advance.place] at next <;> omega

end Outcomes

/-- Where no fault is met, the tokens up to the end of the input are collected. -/
theorem EndsAt.collects {stream : Outcomes} {i n : Nat} (ends : EndsAt stream n) (le : i ≤ n)
    (clean : ∀ k, i ≤ k → k < n → ∃ token, stream k = .ok token) :
    ∃ tokens, Collects stream i (.ok tokens) (n + 1) ∧ ∀ token, stream n = .ok token → token ∈ tokens := by
  obtain ⟨last, atEnd, isEnd⟩ := ends.ends
  -- from the end back to the index
  induction le using Nat.decreasingInduction with
  | self =>
    refine ⟨[last], .ended atEnd isEnd, fun token found => ?_⟩
    cases atEnd.symm.trans found
    exact List.mem_singleton_self _
  | of_succ k less ih =>
    obtain ⟨tokens, collected, mem⟩ := ih fun l from_l => clean l (Nat.le_of_succ_le from_l)
    obtain ⟨token, found⟩ := clean k (Nat.le_refl k) less
    exact ⟨token :: tokens, .more found (ends.first k less token found) collected,
      fun token' found' => List.mem_cons_of_mem _ (mem token' found')⟩

/-! ### Other lines behind a fault -/

/-- Where the line of a place ends: at the next newline, or with the text. -/
def lineEnd (text : List Char) (offset : Nat) : Nat :=
  offset + ((text.drop offset).takeWhile (· ≠ '\n')).length

/-- The fault lies at the token that ends the input. -/
def Fault.AtEnd (text : String) (fault : Fault) : Prop :=
  ∃ tokens token, (Lexer.ofString text).tokenize.1 = .ok tokens ∧ token ∈ tokens ∧
    token.isEndOfInput = true ∧ fault.span = token.span

/-- A text goes no further than the line of a place, or it goes on with a newline there. -/
theorem take_lineEnd (text : List Char) (offset : Nat) :
    text.take (lineEnd text offset) = text ∨
      ∃ lower, text = text.take (lineEnd text offset) ++ '\n' :: lower := by
  have line := List.takeWhile_append_dropWhile (p := (· ≠ '\n')) (l := text.drop offset)
  have stops := stops_dropWhile (· ≠ '\n') (text.drop offset)
  unfold lineEnd
  generalize (text.drop offset).takeWhile (· ≠ '\n') = part at line
  cases behind : (text.drop offset).dropWhile (· ≠ '\n') with
  | nil =>
    rw [behind, List.append_nil] at line
    refine .inl (List.take_of_length_le ?_)
    rw [line, List.length_drop]
    omega
  | cons c lower =>
    rw [behind] at line stops
    have newline : c = '\n' := by simpa using stops c rfl
    have whole : text.take offset ++ part ++ '\n' :: lower = text := by
      rw [List.append_assoc, ← newline, line, List.take_append_drop]
    have length : (text.take offset ++ part).length = offset + part.length := by
      have lengths := congrArg List.length line
      simp only [List.length_append, List.length_cons, List.length_drop, List.length_take] at lengths ⊢
      omega
    have taken : text.take (offset + part.length) = text.take offset ++ part := by
      conv_lhs => rw [← whole, ← length]
      exact List.take_left
    exact .inr ⟨lower, by rw [taken, whole]⟩

/-- A check that comes to the end of the input fails there. -/
theorem Fault.atEnd_of_checks {text : String} {fault : Fault} {entries : Derivation} {n : Nat}
    (checks : (streamOf text).Checks 0 [.program] entries (.error fault) n)
    (ends : EndsAt (streamOf text) n) : fault.AtEnd text := by
  obtain ⟨last, atEnd, isEnd⟩ := ends.ends
  obtain ⟨tokens, collected, mem⟩ :=
    ends.collects (Nat.zero_le n) fun k from_k less => checks.ok_of_lt from_k less
  obtain ⟨j, tokenized, -⟩ := Lexer.collects_tokenize (Lexer.ofString text) 0
  obtain ⟨answer, -⟩ := tokenized.unique collected
  refine ⟨tokens, last, answer, mem last atEnd, isEnd, ?_⟩
  rcases checks.of_fault rfl with ⟨token, refusal, found, rfl⟩ | ⟨lexical, found, -⟩
  · cases atEnd.symm.trans found
    rfl
  · cases atEnd.symm.trans found

/-- The place of a token or fault. -/
def spanOf : Except LexicalFault Token → Span
  | .ok token => token.span
  | .error fault => fault.span

theorem spanOf_moved (move : Span → Span) (outcome : Except LexicalFault Token) :
    spanOf (movedOutcome move outcome) = move (spanOf outcome) := by
  cases outcome <;> rfl

/-- Whatever lines come behind, the stream is the same up to what starts in front of them. -/
theorem streamOf_take {text : String} {upper : List Char} {last : Nat} (more : String)
    (split : upper = text.toList ∨ ∃ lower, text.toList = upper ++ '\n' :: lower ∧
      (spanOf (streamOf text last)).start ≤ upper.length)
    (goesOn : ∀ n, EndsAt (streamOf text) n → last < n) {i : Nat} (le : i ≤ last) :
    streamOf (String.ofList upper ++ "\n" ++ more) i = streamOf text i := by
  obtain ⟨n, -, ends⟩ := Lexer.exists_end (Lexer.start upper)
  have both : streamOf (String.ofList upper ++ "\n" ++ more) =
      (Lexer.start (upper ++ '\n' :: more.toList)).outcome := by
    rw [streamOf, Lexer.ofString_lines, String.toList_ofList]
  rw [both]
  rcases split with rfl | ⟨lower, split, starts⟩
  · exact Lexer.outcome_upper _ ends (Nat.lt_of_le_of_lt le (goesOn n ends))
  · have stream : streamOf text = (Lexer.start (upper ++ '\n' :: lower)).outcome := by
      rw [streamOf, Lexer.ofString, split]
    rw [stream] at starts ⊢
    -- what comes from the lower lines starts behind the newline
    have less : last < n := by
      by_contra behind
      obtain ⟨k, rfl⟩ := Nat.exists_eq_add_of_le (Nat.le_of_not_lt behind)
      rw [Lexer.outcome_lower lower ends, spanOf_moved] at starts
      simp only [Span.below] at starts
      omega
    have before := Nat.lt_of_le_of_lt le less
    rw [Lexer.outcome_upper _ ends before, Lexer.outcome_upper lower ends before]

/-- A text is rejected at the first fault. If it lies at a token, just the tokens up to that one were
scanned: the lexer stands right behind it and shows none. Unless the fault lies at the end of the input,
any other lines may stand behind the line where it starts: the same fault is found at the same place, and
the same record is kept. -/
theorem check_fault_local (text : String) (fault : Fault) (rejected : check text = .error fault) :
    (∀ cause, fault.cause = .grammatical cause →
      ∃ before token refusal, fault = Refusal.fault refusal token ∧
        (Session.ofString text).parse.2.current = some token ∧
        (Session.ofString text).parse.2.lexer.shown = none ∧
        (Cursor.start text.toList).Scans (before ++ [token])
          (Session.ofString text).parse.2.lexer.cursor ∧
        (Session.ofString text).parse.2.lexer.cursor.position.offset = token.span.stop ∧
        (Session.ofString text).parse.2.lexer.cursor.rest = text.toList.drop token.span.stop) ∧
    (¬fault.AtEnd text → ∀ more : String,
      let upper := String.ofList (text.toList.take (lineEnd text.toList fault.span.start))
      check (upper ++ "\n" ++ more) = .error fault ∧ trace (upper ++ "\n" ++ more) = trace text) := by
  refine ⟨fun cause refused => ?_, fun notEnd more => ?_⟩
  · obtain ⟨before, token, refusal, fault_eq, current, shown, scans⟩ :=
      session_of_refused rejected refused
    obtain ⟨cursor, earlier, scanned⟩ := scans.of_concat
    have stands := earlier.standsIn (Cursor.standsIn_start text.toList)
    have finds := cursor.finds_scan
    rw [scanned] at finds
    obtain ⟨-, -, stop⟩ := stands.of_token finds
    obtain ⟨passed, split, place⟩ := (stands.scan finds).1
    have offset : token.span.stop = passed.length := by
      rw [stop, place]
      simp [Position.first]
    refine ⟨before, token, refusal, fault_eq, current, shown, scans, stop.symm, ?_⟩
    rw [← split, offset, List.drop_left]
  · obtain ⟨last, checks, record⟩ := exists_checks text
    rw [rejected] at checks record
    have goesOn : ∀ n, EndsAt (streamOf text) n → last < n := by
      intro n ends
      refine Nat.lt_of_le_of_ne (checks.le_end ends (Nat.zero_le n)) ?_
      rintro rfl
      exact notEnd (Fault.atEnd_of_checks checks ends)
    have place : (spanOf (streamOf text last)).start = fault.span.start := by
      rcases checks.of_fault rfl with ⟨token, refusal, found, rfl⟩ | ⟨lexical, found, rfl⟩ <;>
        rw [found] <;> rfl
    -- a newline in front of which the line ends lies behind the start of the fault
    have split : text.toList.take (lineEnd text.toList fault.span.start) = text.toList ∨
        ∃ lower, text.toList =
            text.toList.take (lineEnd text.toList fault.span.start) ++ '\n' :: lower ∧
          (spanOf (streamOf text last)).start ≤
            (text.toList.take (lineEnd text.toList fault.span.start)).length := by
      rcases take_lineEnd text.toList fault.span.start with all | ⟨lower, split⟩
      · exact .inl all
      refine .inr ⟨lower, split, ?_⟩
      have lengths := congrArg List.length split
      rw [List.length_append, List.length_cons, List.length_take] at lengths
      rw [place, List.length_take]
      unfold lineEnd at lengths ⊢
      omega
    obtain ⟨outcome_eq, record_eq⟩ :=
      eq_of_checks (checks.congr fun i le => streamOf_take more split goesOn le)
    exact ⟨outcome_eq, record_eq.trans record.symm⟩

/-- A brace where a value is due is the last token that was scanned. The character that no token starts with,
in the next line, may be replaced by an open literal. -/
theorem check_fault_local_value :
    (∃ before token refusal,
      check "fun void f() \x7b\n x = \x7d\n$" = .error (Refusal.fault refusal token) ∧
      token.span = ⟨20, 21, 2, 6⟩ ∧
      (Cursor.start "fun void f() \x7b\n x = \x7d\n$".toList).Scans (before ++ [token])
        (Session.ofString "fun void f() \x7b\n x = \x7d\n$").parse.2.lexer.cursor ∧
      (Session.ofString "fun void f() \x7b\n x = \x7d\n$").parse.2.lexer.cursor.rest = ['\n', '$']) ∧
    check "fun void f() \x7b\n x = \x7d\n'" = check "fun void f() \x7b\n x = \x7d\n$" ∧
    trace "fun void f() \x7b\n x = \x7d\n'" = trace "fun void f() \x7b\n x = \x7d\n$" := by
  have rejected : check "fun void f() \x7b\n x = \x7d\n$" =
      .error ⟨.grammatical (.expectedExpression "'\x7d'"), ⟨20, 21, 2, 6⟩⟩ := by cbv
  obtain ⟨scanned, others⟩ := check_fault_local _ _ rejected
  constructor
  · obtain ⟨before, token, refusal, fault_eq, -, -, scans, -, rest⟩ := scanned _ rfl
    have place : ⟨20, 21, 2, 6⟩ = token.span := congrArg Located.span fault_eq
    refine ⟨before, token, refusal, rejected.trans (congrArg Except.error fault_eq), place.symm, scans, ?_⟩
    rw [rest, ← place]
    decide
  · -- the text has no end of the input, since it has a lexical fault
    have notEnd : ¬Fault.AtEnd "fun void f() \x7b\n x = \x7d\n$"
        ⟨.grammatical (.expectedExpression "'\x7d'"), ⟨20, 21, 2, 6⟩⟩ := by
      rintro ⟨tokens, -, found, -⟩
      have missing : (Lexer.ofString "fun void f() \x7b\n x = \x7d\n$").tokenize.1.isOk = false := by cbv
      rw [found] at missing
      cases missing
    obtain ⟨outcome_eq, record_eq⟩ := others notEnd "'"
    exact ⟨outcome_eq.trans rejected.symm, record_eq⟩

end SyntaxCheck
