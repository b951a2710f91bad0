import SyntaxCheck.Proofs.Recognizer.Messages
import SyntaxCheck.Proofs.Recognizer.Scanned
import SyntaxCheck.Text.Search

/-!
# The journal and the record of one check

Both are written about the same events. So they agree on the rules that were entered, and the tokens of the
journal are those that were scanned, each once. Which rules and tokens these are, is read from the messages.

* `journal_trace`, `journal_debug`, `journal_info` - the journal at each detail;
* `Event.entrance?`, `entrances` - the rules that were entered, and where;
* `journal_entrances`, `rules_eq_entrances` - they are told by the journal and by the record;
* `journal_tokens` - the tokens that the journal tells;
* `check_observed` - nothing that is written down changes a check, and all of it agrees.
-/

namespace SyntaxCheck

/-! ### Each detail -/

theorem Event.detail_ne_info {event : Event} {entry : Entry} (told : event.entry? = some entry) :
    entry.detail ≠ .info := by
  cases event with
  | scanned token =>
    unfold entry? at told
    dsimp only at told
    split at told <;> cases told
    exact nofun
  | grouped => cases told
  | _ => cases told; exact nofun

/-- At the most detail, every entry is shown. -/
theorem journal_trace (events : List Event) : journal .trace events = events.filterMap Event.entry? := by
  refine List.filter_eq_self.2 fun entry _ => ?_
  cases entry.detail <;> rfl

/-- At less detail, some of them are. -/
theorem journal_debug (events : List Event) :
    journal .debug events = (journal .trace events).filter (·.detail = .debug) := by
  rw [journal_trace]
  refine List.filter_congr fun entry found => ?_
  obtain ⟨event, -, told⟩ := List.mem_filterMap.1 found
  have deeper := Event.detail_ne_info told
  revert deeper
  cases entry.detail <;> decide

/-- At the least detail, none is. -/
theorem journal_info (events : List Event) : journal .info events = [] := by
  refine List.filter_eq_nil_iff.2 fun entry found => ?_
  obtain ⟨event, -, told⟩ := List.mem_filterMap.1 found
  have deeper := Event.detail_ne_info told
  revert deeper
  cases entry.detail <;> decide

/-! ### Rules -/

/-- The rule that was entered, and where. -/
def Event.entrance? : Event → Option (Rule × Span)
  | .entered rule span => some (rule, span)
  | _ => none

/-- The rules that were entered, and where. -/
def entrances (events : List Event) : List (Rule × Span) := events.filterMap Event.entrance?

/-- The message of the entry starts with the word. -/
def Entry.startsWith (word : String) (entry : Entry) : Bool :=
  SyntaxCheck.startsWith word.toList entry.message.toList

section Words

attribute [local simp] Event.entry? Event.entrance? Event.token? entranceEntry tokenEntry Entry.startsWith
  startsWith List.isPrefixOf Option.filter

/-- The messages about rules and those about tokens are told apart by their first words. -/
theorem Event.filter_entry? (event : Event) :
    event.entry?.filter (·.startsWith "enter ") = event.entrance?.map entranceEntry ∧
      event.entry?.filter (·.startsWith "lexed ") =
        (event.token?.filter (!·.isEndOfInput)).map tokenEntry := by
  cases event with
  | scanned token => cases ended : token.isEndOfInput <;> simp [ended]
  | defined sort name => cases sort <;> simp [DefinitionSort.name]
  | entered | grouped | completed => simp

end Words

/-- A journal tells all that is told of each event. -/
theorem journal_trace_cons (event : Event) (events : List Event) :
    journal .trace (event :: events) = event.entry?.toList ++ journal .trace events := by
  rw [journal_trace, journal_trace, List.filterMap_cons]
  cases event.entry? <;> rfl

/-- The rules that the journal tells are those that were entered. -/
theorem journal_entrances (events : List Event) :
    (journal .trace events).filter (·.startsWith "enter ") = (entrances events).map entranceEntry := by
  induction events with
  | nil => rfl
  | cons event events ih =>
    have first := congrArg Option.toList event.filter_entry?.1
    rw [Option.toList_filter, Option.toList_map] at first
    have entered : entrances (event :: events) = event.entrance?.toList ++ entrances events := by
      rw [entrances, List.filterMap_cons]
      cases event.entrance? <;> rfl
    rw [journal_trace_cons, List.filter_append, ih, first, entered, List.map_append]

/-- The tokens that the journal tells are those that were scanned, without the end of the input. -/
theorem journal_tokens (events : List Event) :
    (journal .trace events).filter (·.startsWith "lexed ") =
      ((scannedTokens events).filter (!·.isEndOfInput)).map tokenEntry := by
  induction events with
  | nil => rfl
  | cons event events ih =>
    have first := congrArg Option.toList event.filter_entry?.2
    rw [Option.toList_filter, Option.toList_map, Option.toList_filter] at first
    have scanned : scannedTokens (event :: events) = event.token?.toList ++ scannedTokens events :=
      scannedTokens_append [event] events
    rw [journal_trace_cons, List.filter_append, ih, first, scanned, List.filter_append, List.map_append]

/-- The rules of a record are those that were entered, if no rule is entered in disguise. -/
theorem rules_eq_entrances {events : List Event} (plain : ∀ event ∈ events, event.IsPlain) :
    (Event.steps events).rules = (entrances events).map Prod.fst := by
  induction events with
  | nil => rfl
  | cons event events ih =>
    obtain ⟨first, others⟩ := List.forall_mem_cons.1 plain
    have steps : Event.steps (event :: events) = event.step?.toList ++ Event.steps events :=
      Event.steps_append [event] events
    rw [steps, Derivation.rules_append, ih others]
    cases event with
    | grouped step =>
      have none : Derivation.rules [step] = [] := by
        rw [Derivation.rules, List.filterMap_cons, first step rfl]
        rfl
      exact congrArg (· ++ _) none
    | _ => rfl

/-! ### Checks -/

/-- A record that is kept changes nothing but itself. -/
theorem Session.parse_traced (session : Session) :
    session.traced.parse.1 = session.parse.1 ∧ session.traced.parse.2.lexer = session.parse.2.lexer ∧
      session.traced.parse.2.current = session.parse.2.current := by
  unfold parse traced
  cases session.current with
  | some token => exact ⟨rfl, rfl, rfl⟩
  | none =>
    cases session.lexer.advance with
    | mk answer lexer => cases answer <;> exact ⟨rfl, rfl, rfl⟩

/-- The record of a text is what is kept of the events of its check. -/
theorem trace_eq_steps (text : String) :
    trace text = (check text, Event.steps (Session.ofString text).parse.1.events) := by
  have same := (Session.ofString text).parse_traced.1
  rw [trace, Session.record_parse, same, check]
  rfl

/-- Nothing that is written down changes a check, and all that is written down agrees. Whoever watches a check,
whatever it keeps of what happens, the check is the same. The journal tells the rules of the record in order,
and each token that was scanned, once: all of them, those up to the one that is refused, or those in front of
the lexical fault. No other rules, kinds of tokens or places have the same messages. -/
theorem check_observed (text : String) :
    (∀ session : Session,
      session.traced.parse.1 = session.parse.1 ∧
      session.traced.parse.2.lexer = session.parse.2.lexer ∧
      session.traced.parse.2.current = session.parse.2.current ∧
      (∀ (σ : Type) (see : σ → Event → σ) (seen : σ),
        (session.watch see seen).outcome = session.parse.1.outcome ∧
        (session.watch see seen).lexer = session.parse.2.lexer ∧
        (session.watch see seen).current = session.parse.2.current) ∧
      ∀ limit record, (session.watch (Notes.see limit) ⟨record, []⟩).seen =
        ⟨record.map (· ++ Event.steps session.parse.1.events),
          journal limit session.parse.1.events⟩) ∧
    let told := fun limit => journal limit (Session.ofString text).parse.1.events
    told .debug = (told .trace).filter (·.detail = .debug) ∧ told .info = [] ∧
    (∃ entered : List (Rule × Span),
      (told .trace).filter (·.startsWith "enter ") = entered.map entranceEntry ∧
      (trace text).2.rules = entered.map Prod.fst ∧
      ∀ others : List (Rule × Span),
        others.map entranceEntry = (told .trace).filter (·.startsWith "enter ") →
        others.map (fun e => e.2.holding e.1) = entered.map fun e => e.2.holding e.1) ∧
    ∃ (scanned : List Token) (cursor : Cursor),
      (Cursor.start text.toList).Scans scanned cursor ∧
      (told .trace).filter (·.startsWith "lexed ") =
        (scanned.filter (!·.isEndOfInput)).map tokenEntry ∧
      (∀ others : List Token,
        others.map tokenEntry = (told .trace).filter (·.startsWith "lexed ") →
        others.map (fun t => t.span.holding t.kind) =
          (scanned.filter (!·.isEndOfInput)).map fun t => t.span.holding t.kind) ∧
      (check text = .ok () → (Lexer.ofString text).tokenize.1 = .ok scanned) ∧
      (∀ cause span, check text = .error ⟨.grammatical cause, span⟩ →
        ∃ before token, scanned = before ++ [token] ∧ token.span = span) ∧
      ∀ cause span, check text = .error ⟨.lexical cause, span⟩ →
        cursor.scan.1 = .error ⟨cause, span⟩ := by
  obtain ⟨cursor, scans, upTo, plain⟩ := scanned_check text
  refine ⟨fun session => ?_, journal_debug _, journal_info _,
    ⟨entrances _, journal_entrances _, ?_, fun others same => ?_⟩, _, cursor, scans, journal_tokens _,
    fun others same => ?_, upTo.of_ok, fun _ _ => upTo.of_grammatical, fun _ _ => upTo.of_lexical⟩
  · obtain ⟨same, lexer, current⟩ := session.parse_traced
    refine ⟨same, lexer, current, fun σ see seen => ?_, fun limit record => ?_⟩
    · rw [session.watch_eq]
      exact ⟨rfl, rfl, rfl⟩
    · rw [session.watch_eq, Notes.foldl_see, List.nil_append]
  · rw [trace_eq_steps]
    exact rules_eq_entrances plain
  · rw [journal_entrances] at same
    exact holding_of_entranceEntries same
  · rw [journal_tokens] at same
    have numbers := scans.holdsNumber
    exact holding_of_tokenEntries (fun token among => numbers token (List.mem_of_mem_filter among)) same

set_option maxRecDepth 4000 in
/-- The messages about a call name its rules and its tokens, the values in them escaped. Where the token behind a
name was looked at, it is the last one that was scanned, or it was not scanned as it is none. -/
theorem check_observed_call :
    let text := "fun void f() \x7b g(\"a\\n\") \x7d"
    let told : List Entry := [⟨.trace, "lexed Fun at 1:1"⟩, ⟨.trace, "enter program at 1:1"⟩,
      ⟨.trace, "enter function definition at 1:1"⟩, ⟨.trace, "lexed Void at 1:5"⟩,
      ⟨.trace, "lexed Ident(\"f\") at 1:10"⟩, ⟨.trace, "lexed LParen at 1:11"⟩, ⟨.debug, "function 'f' at 1:10"⟩,
      ⟨.trace, "lexed RParen at 1:12"⟩, ⟨.trace, "enter parameter list at 1:12"⟩,
      ⟨.trace, "lexed LBrace at 1:14"⟩, ⟨.trace, "enter block at 1:14"⟩, ⟨.trace, "lexed Ident(\"g\") at 1:16"⟩,
      ⟨.trace, "lexed LParen at 1:17"⟩, ⟨.trace, "enter call statement at 1:16"⟩,
      ⟨.trace, "lexed StringLit(\"a\\n\") at 1:18"⟩, ⟨.trace, "lexed RParen at 1:23"⟩,
      ⟨.trace, "lexed RBrace at 1:25"⟩, ⟨.debug, "parse complete at 1:26"⟩]
    (∃ (entered : List (Rule × Span)) (scanned : List Token),
      journal .trace (Session.ofString text).parse.1.events = told ∧
      (trace text).2.rules = entered.map Prod.fst ∧
      entered.map (fun e => e.2.holding e.1) = [(.program, 1, 1), (.functionDefinition, 1, 1),
        (.parameters, 1, 12), (.block, 1, 14), (.callStatement, 1, 16)] ∧
      (Lexer.ofString text).tokenize.1 = .ok scanned ∧
      (scanned.filter (!·.isEndOfInput)).map (fun t => t.span.holding t.kind) =
        [(.keyword .fun_, 1, 1), (.keyword .void, 1, 5), (.identifier "f", 1, 10), (.symbol .leftParen, 1, 11),
          (.symbol .rightParen, 1, 12), (.symbol .leftBrace, 1, 14), (.identifier "g", 1, 16),
          (.symbol .leftParen, 1, 17), (.string "a\n", 1, 18), (.symbol .rightParen, 1, 23),
          (.symbol .rightBrace, 1, 25)]) ∧
    (∃ before token, ((journal .trace (Session.ofString "fun void f() \x7b g \x7d $").parse.1.events).filter
        (·.startsWith "lexed ") = ((before ++ [token]).filter (!·.isEndOfInput)).map tokenEntry) ∧
      token.span = ⟨17, 18, 1, 18⟩) ∧
    ∃ (scanned : List Token) (cursor : Cursor),
      (Cursor.start "fun void f() \x7b g $".toList).Scans scanned cursor ∧
      cursor.scan.1 = .error ⟨.unexpectedChar '$', ⟨17, 18, 1, 18⟩⟩ := by
  intro text told
  refine ⟨?_, ?_, ?_⟩
  · have told_eq : journal .trace (Session.ofString text).parse.1.events = told := by
      subst text told
      cbv
    have accepted : check text = .ok () := by
      subst text
      cbv
    obtain ⟨-, -, -, ⟨entered, -, rules, names⟩, scanned, -, -, -, kinds, all, -⟩ := check_observed text
    dsimp only at names kinds
    rw [told_eq] at names kinds
    -- what the messages are about is read from them
    have entered_at := names [(.program, ⟨0, 0, 1, 1⟩), (.functionDefinition, ⟨0, 0, 1, 1⟩),
      (.parameters, ⟨0, 0, 1, 12⟩), (.block, ⟨0, 0, 1, 14⟩), (.callStatement, ⟨0, 0, 1, 16⟩)] (by decide +kernel)
    have scanned_at := kinds [⟨.keyword .fun_, "", ⟨0, 0, 1, 1⟩⟩, ⟨.keyword .void, "", ⟨0, 0, 1, 5⟩⟩,
      ⟨.identifier "f", "", ⟨0, 0, 1, 10⟩⟩, ⟨.symbol .leftParen, "", ⟨0, 0, 1, 11⟩⟩,
      ⟨.symbol .rightParen, "", ⟨0, 0, 1, 12⟩⟩, ⟨.symbol .leftBrace, "", ⟨0, 0, 1, 14⟩⟩,
      ⟨.identifier "g", "", ⟨0, 0, 1, 16⟩⟩, ⟨.symbol .leftParen, "", ⟨0, 0, 1, 17⟩⟩,
      ⟨.string "a\n", "", ⟨0, 0, 1, 18⟩⟩, ⟨.symbol .rightParen, "", ⟨0, 0, 1, 23⟩⟩,
      ⟨.symbol .rightBrace, "", ⟨0, 0, 1, 25⟩⟩] (by decide +kernel)
    exact ⟨entered, scanned, told_eq, rules, entered_at.symm, all accepted, scanned_at.symm⟩
  · have rejected : check "fun void f() \x7b g \x7d $" = .error ⟨.grammatical
        (.unexpectedToken "'=' in assignment" "'\x7d'"), ⟨17, 18, 1, 18⟩⟩ := by cbv
    obtain ⟨-, -, -, -, scanned, -, -, told, -, -, upTo, -⟩ := check_observed "fun void f() \x7b g \x7d $"
    obtain ⟨before, token, rfl, place⟩ := upTo _ _ rejected
    exact ⟨before, token, told, place⟩
  · obtain ⟨-, -, -, -, scanned, cursor, scans, -, -, -, -, upTo⟩ := check_observed "fun void f() \x7b g $"
    exact ⟨scanned, cursor, scans, upTo _ _ (by cbv)⟩

end SyntaxCheck
