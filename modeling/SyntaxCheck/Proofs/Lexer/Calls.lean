import SyntaxCheck.Proofs.Lexeme.LongestMatch
import SyntaxCheck.Proofs.Lexer.Drain

/-!
# Calls of a lexer

A lexer is asked to show tokens, to hand them out, and to hand out all of them, in any order. Its answers
are those of a reader of one stream, which is what repeated calls of `Lexer.advance` hand out.

* `Lexer.Call`, `Lexer.calls` - what is asked for, and the answers to several calls;
* `Lexer.advanced`, `Lexer.outcome` - the stream of tokens and faults;
* `Reader`, `Reader.Answers`, `Reader.Runs` - an index into a stream, and whether the token there is held;
* `Lexer.Reads` - a lexer stands where a reader does, and `Lexer.Reads.calls` keeps it so;
* `Lexer.outcome_of_end` - behind the end of the input comes the end of the input;
* `Lexer.calls_read_stream` - any calls of a lexer are answered as by a reader.
-/

namespace SyntaxCheck

namespace Lexer

/-! ### Calls -/

/-- What a lexer is asked for. -/
inductive Call
  /-- The next token, which stays next. -/
  | peek
  /-- The next token, handed out. -/
  | advance
  /-- All tokens up to the end of the input, handed out. -/
  | tokenize
  deriving DecidableEq

/-- The tokens that answer a call, or a fault. -/
abbrev Answer := Except LexicalFault (List Token)

/-- The answer of one token or fault. -/
def single (outcome : Except LexicalFault Token) : Answer := outcome.map fun token => [token]

/-- The answer to a call, and the lexer afterwards. -/
def call (lexer : Lexer) : Call → Answer × Lexer
  | .peek => (single lexer.peek.1, lexer.peek.2)
  | .advance => (single lexer.advance.1, lexer.advance.2)
  | .tokenize => lexer.tokenize

/-- The answers to several calls, and the lexer afterwards. -/
def calls (lexer : Lexer) : List Call → List Answer × Lexer
  | [] => ([], lexer)
  | c :: later =>
    let next := (lexer.call c).2.calls later
    ((lexer.call c).1 :: next.1, next.2)

/-! ### The stream of outcomes -/

/-- The lexer after so many tokens or faults were handed out. -/
def advanced (lexer : Lexer) : Nat → Lexer
  | 0 => lexer
  | n + 1 => (lexer.advanced n).advance.2

/-- What is handed out behind so many tokens or faults. -/
def outcome (lexer : Lexer) (n : Nat) : Except LexicalFault Token := (lexer.advanced n).advance.1

theorem advance_advanced (lexer : Lexer) (n : Nat) :
    (lexer.advanced n).advance = (lexer.outcome n, lexer.advanced (n + 1)) := rfl

theorem advanced_succ (lexer : Lexer) (n : Nat) :
    lexer.advanced (n + 1) = lexer.advance.2.advanced n := by
  induction n with
  | zero => rfl
  | succ n ih => exact congrArg (·.advance.2) ih

theorem outcome_succ (lexer : Lexer) (n : Nat) :
    lexer.outcome (n + 1) = lexer.advance.2.outcome n := by
  rw [outcome, advanced_succ]
  rfl

/-- The stream depends only on what comes next. -/
theorem outcome_congr {a b : Lexer} (same : a.advance = b.advance) : a.outcome = b.outcome := by
  funext n
  cases n with
  | zero => exact congrArg Prod.fst same
  | succ n => rw [outcome_succ, outcome_succ, same]

/-- No token is shown while tokens are only handed out. -/
theorem shown_advanced {fresh : Lexer} (h : fresh.shown = none) (n : Nat) :
    (fresh.advanced n).shown = none := by
  cases n with
  | zero => exact h
  | succ n => exact shown_advance _

end Lexer

open Lexer

/-! ### Readers of a stream -/

/-- An index into a stream of outcomes, and whether the token there was shown already. -/
structure Reader where
  index : Nat
  held : Bool

/-- The outcomes from one index to another: tokens up to the end of the input, or up to a fault. -/
inductive Collects (outcomes : Nat → Except LexicalFault Token) : Nat → Answer → Nat → Prop
  | fault {i : Nat} {fault : LexicalFault} (found : outcomes i = .error fault) :
      Collects outcomes i (.error fault) (i + 1)
  | ended {i : Nat} {token : Token} (found : outcomes i = .ok token)
      (ended : token.isEndOfInput = true) : Collects outcomes i (.ok [token]) (i + 1)
  | more {i j : Nat} {token : Token} {answer : Answer} (found : outcomes i = .ok token)
      (more : token.isEndOfInput = false) (later : Collects outcomes (i + 1) answer j) :
      Collects outcomes i (answer.map (token :: ·)) j

namespace Reader

/-- How a reader of a stream answers a call. A token that is shown is held, whether or not it was
held before; a fault in its place is passed over. -/
inductive Answers (outcomes : Nat → Except LexicalFault Token) : Reader → Call → Answer → Reader → Prop
  | shows {i : Nat} {held : Bool} {token : Token} (found : outcomes i = .ok token) :
      Answers outcomes ⟨i, held⟩ .peek (.ok [token]) ⟨i, true⟩
  | misses {i : Nat} {fault : LexicalFault} (found : outcomes i = .error fault) :
      Answers outcomes ⟨i, false⟩ .peek (.error fault) ⟨i + 1, false⟩
  | hands {i : Nat} {held : Bool} :
      Answers outcomes ⟨i, held⟩ .advance (single (outcomes i)) ⟨i + 1, false⟩
  | collects {i j : Nat} {held : Bool} {answer : Answer} (collected : Collects outcomes i answer j) :
      Answers outcomes ⟨i, held⟩ .tokenize answer ⟨j, false⟩

/-- How a reader of a stream answers several calls. -/
inductive Runs (outcomes : Nat → Except LexicalFault Token) :
    Reader → List Call → List Answer → Reader → Prop
  | nil (reader : Reader) : Runs outcomes reader [] [] reader
  | cons {reader reader' reader'' : Reader} {c : Call} {answer : Answer} {later : List Call}
      {answers : List Answer} (first : Answers outcomes reader c answer reader')
      (others : Runs outcomes reader' later answers reader'') :
      Runs outcomes reader (c :: later) (answer :: answers) reader''

end Reader

/-! ### A lexer as a reader -/

namespace Lexer

variable {fresh lexer lexer' : Lexer} {reader : Reader} {token : Token} {fault : LexicalFault}

/-- The lexer stands where the reader of the stream of a fresh lexer does. -/
inductive Reads (fresh : Lexer) : Reader → Lexer → Prop
  | next (i : Nat) : Reads fresh ⟨i, false⟩ (fresh.advanced i)
  | held {i : Nat} {token : Token} {lexer : Lexer}
      (shown : (fresh.advanced i).peek = (.ok token, lexer)) : Reads fresh ⟨i, true⟩ lexer

/-- Whether or not a token is held, the same is handed out. -/
theorem Reads.advance_eq (h : Reads fresh reader lexer) :
    lexer.advance = (fresh.advanced reader.index).advance := by
  cases h with
  | next i => rfl
  | held shown => exact (peek_ok shown).2.2

theorem tokenize_of_fault (h : lexer.advance = (.error fault, lexer')) :
    lexer.tokenize = (.error fault, lexer') := by
  rw [tokenize, drain_of_fault h]

theorem tokenize_of_end (h : lexer.advance = (.ok token, lexer'))
    (ended : token.isEndOfInput = true) : lexer.tokenize = (.ok [token], lexer') := by
  rw [tokenize, drain_of_end h ended]

theorem tokenize_of_more (h : lexer.advance = (.ok token, lexer'))
    (more : token.isEndOfInput = false) :
    lexer.tokenize = (lexer'.tokenize.1.map (token :: ·), lexer'.tokenize.2) := by
  rw [tokenize, drain_of_more h more, tokenize]
  dsimp only
  cases lexer'.drain.fault <;> rfl

theorem tokenize_congr {a b : Lexer} (same : a.advance = b.advance) : a.tokenize = b.tokenize := by
  rw [tokenize, tokenize, drain_congr same]

/-- To hand out all tokens is to hand them out one after the other. -/
theorem collects_tokenize (fresh : Lexer) (i : Nat) :
    ∃ j, Collects fresh.outcome i (fresh.advanced i).tokenize.1 j ∧
      (fresh.advanced i).tokenize.2 = fresh.advanced j := by
  -- by what is left in front of the end of the input
  induction left : (fresh.advanced i).remaining using Nat.strongRecOn generalizing i with
  | ind n ih =>
    have next := advance_advanced fresh i
    cases found : fresh.outcome i with
    | error fault =>
      rw [found] at next
      rw [tokenize_of_fault next]
      exact ⟨i + 1, .fault found, rfl⟩
    | ok token =>
      rw [found] at next
      cases ended : token.isEndOfInput with
      | true =>
        rw [tokenize_of_end next ended]
        exact ⟨i + 1, .ended found ended, rfl⟩
      | false =>
        have fewer := remaining_advance_lt next ended
        obtain ⟨j, collected, stands⟩ := ih _ (left ▸ fewer) (i + 1) rfl
        rw [tokenize_of_more next ended]
        exact ⟨j, .more found ended collected, stands⟩

/-- A lexer answers a call as the reader does, and stands where it does afterwards. -/
theorem Reads.call (h : Reads fresh reader lexer) (c : Call) :
    ∃ reader', Reader.Answers fresh.outcome reader c (lexer.call c).1 reader' ∧
      Reads fresh reader' (lexer.call c).2 := by
  cases c with
  | peek =>
    cases h with
    | next i =>
      cases shown : (fresh.advanced i).peek with
      | mk answer left =>
        simp only [Lexer.call, shown]
        cases answer with
        | ok token =>
          exact ⟨⟨i, true⟩, .shows (peek_ok shown).2.1, .held shown⟩
        | error fault =>
          have next := peek_error shown
          rw [advance_advanced] at next
          injection next with found stands
          refine ⟨⟨i + 1, false⟩, .misses found, ?_⟩
          rw [← stands]
          exact .next (i + 1)
    | @held i token lexer shown =>
      -- a token that is shown is shown again
      obtain ⟨stays, found, -⟩ := peek_ok shown
      have again : lexer.peek = (.ok token, lexer) := by rw [peek, stays]
      simp only [Lexer.call, again]
      exact ⟨⟨i, true⟩, .shows found, .held shown⟩
  | advance =>
    obtain ⟨i, held⟩ := reader
    simp only [Lexer.call, h.advance_eq]
    exact ⟨⟨i + 1, false⟩, .hands, .next (i + 1)⟩
  | tokenize =>
    obtain ⟨i, held⟩ := reader
    obtain ⟨j, collected, stands⟩ := collects_tokenize fresh i
    simp only [Lexer.call, tokenize_congr h.advance_eq]
    refine ⟨⟨j, false⟩, .collects collected, ?_⟩
    rw [stands]
    exact .next j

/-- The same for several calls. -/
theorem Reads.calls (h : Reads fresh reader lexer) (cs : List Call) :
    ∃ reader', Reader.Runs fresh.outcome reader cs (lexer.calls cs).1 reader' ∧
      Reads fresh reader' (lexer.calls cs).2 := by
  induction cs generalizing reader lexer with
  | nil => exact ⟨reader, .nil reader, h⟩
  | cons c cs ih =>
    obtain ⟨reader', first, stands⟩ := h.call c
    obtain ⟨reader'', others, stands⟩ := ih stands
    exact ⟨reader'', .cons first others, stands⟩

/-- A token that is shown changes no later answer. -/
theorem calls_of_peek (h : lexer.peek = (.ok token, lexer')) (cs : List Call) :
    (lexer'.calls cs).1 = (lexer.calls cs).1 := by
  obtain ⟨stays, -, same⟩ := peek_ok h
  cases cs with
  | nil => rfl
  | cons c cs =>
    have answered : lexer'.call c = lexer.call c := by
      cases c with
      | peek =>
        have again : lexer'.peek = (.ok token, lexer') := by rw [peek, stays]
        rw [Lexer.call, Lexer.call, again, h]
      | advance => rw [Lexer.call, Lexer.call, same]
      | tokenize => exact tokenize_congr same
    simp only [Lexer.calls, answered]

end Lexer

/-! ### What is answered -/

/-- The tokens of an answer. -/
def Lexer.Answer.tokens : Answer → List Token
  | .ok tokens => tokens
  | .error _ => []

section Stream

variable {outcomes : Nat → Except LexicalFault Token} {i j : Nat} {c : Call} {cs : List Call}
  {answer : Answer} {answers : List Answer} {reader reader' : Reader} {token : Token}
  {fault : LexicalFault}

theorem Collects.lt (h : Collects outcomes i answer j) : i < j := by
  induction h with
  | fault => exact Nat.lt_succ_self _
  | ended => exact Nat.lt_succ_self _
  | more _ _ _ ih => exact Nat.lt_of_succ_lt ih

/-- Another stream that goes on in the same way collects the same. -/
theorem Collects.shift {outcomes' : Nat → Except LexicalFault Token} {k : Nat}
    (h : Collects outcomes i answer j) (same : ∀ n, outcomes (i + n) = outcomes' (k + n)) :
    ∃ l, Collects outcomes' k answer l := by
  induction h generalizing k with
  | fault found => exact ⟨k + 1, .fault ((same 0).symm.trans found)⟩
  | ended found ended => exact ⟨k + 1, .ended ((same 0).symm.trans found) ended⟩
  | @more i j token answer found more later ih =>
    obtain ⟨l, collected⟩ := ih (k := k + 1) fun n => by
      rw [Nat.add_right_comm, Nat.add_assoc, same, Nat.add_right_comm, Nat.add_assoc]
    exact ⟨l, .more ((same 0).symm.trans found) more collected⟩

/-- The tokens that are collected stand in the stream. -/
theorem Collects.of_mem (h : Collects outcomes i answer j) (found : token ∈ answer.tokens) :
    ∃ k, i ≤ k ∧ k < j ∧ outcomes k = .ok token := by
  induction h with
  | fault => cases found
  | @ended i first ended_eq _ =>
    obtain rfl := List.mem_singleton.1 found
    exact ⟨i, Nat.le_refl _, Nat.lt_succ_self _, ended_eq⟩
  | @more i j first answer more_eq _ later ih =>
    cases answer with
    | error fault => cases found
    | ok tokens =>
      rcases List.mem_cons.1 found with rfl | found
      · exact ⟨i, Nat.le_refl _, Nat.lt_of_succ_lt later.lt, more_eq⟩
      · obtain ⟨k, from_i, to_j, same⟩ := ih found
        exact ⟨k, Nat.le_of_succ_le from_i, to_j, same⟩

/-- A fault that ends it does, too. -/
theorem Collects.of_fault (h : Collects outcomes i answer j) (found : answer = .error fault) :
    ∃ k, outcomes k = .error fault := by
  induction h with
  | @fault i other found_eq =>
    injection found with same
    exact ⟨i, same ▸ found_eq⟩
  | ended => cases found
  | @more i j first answer _ _ _ ih =>
    cases answer with
    | error other => exact ih found
    | ok tokens => cases found

/-- What holds between outcomes in the order of the stream holds between the tokens collected. -/
theorem Collects.pairwise {R : Token → Token → Prop} (h : Collects outcomes i answer j)
    (ordered : ∀ k l a b, k ≤ l → outcomes k = .ok a → outcomes l = .ok b → R a b) :
    answer.tokens.Pairwise R := by
  induction h with
  | fault => exact .nil
  | ended => exact List.pairwise_singleton _ _
  | @more i j first answer more_eq _ later ih =>
    cases answer with
    | error fault => exact .nil
    | ok tokens =>
      refine .cons (fun token found => ?_) ih
      obtain ⟨k, from_i, -, same⟩ := later.of_mem found
      exact ordered i k _ _ (by omega) more_eq same

/-- There is one way to collect. -/
theorem Collects.unique {answer' : Answer} {j' : Nat} (h : Collects outcomes i answer j)
    (h' : Collects outcomes i answer' j') : answer = answer' ∧ j = j' := by
  induction h generalizing answer' j' with
  | fault found =>
    cases h' with
    | fault found' => exact ⟨Except.error.inj (found.symm.trans found') ▸ rfl, rfl⟩
    | ended found' => cases found.symm.trans found'
    | more found' => cases found.symm.trans found'
  | ended found ended =>
    cases h' with
    | fault found' => cases found.symm.trans found'
    | ended found' => exact ⟨Except.ok.inj (found.symm.trans found') ▸ rfl, rfl⟩
    | more found' more =>
      rw [← Except.ok.inj (found.symm.trans found'), ended] at more
      cases more
  | more found more _ ih =>
    cases h' with
    | fault found' => cases found.symm.trans found'
    | ended found' ended =>
      rw [← Except.ok.inj (found.symm.trans found'), more] at ended
      cases ended
    | more found' _ later' =>
      obtain ⟨rfl, same⟩ := ih later'
      exact ⟨Except.ok.inj (found.symm.trans found') ▸ rfl, same⟩

namespace Reader

/-- A reader answers a call in one way. -/
theorem Answers.unique {answer' : Answer} {reader'' : Reader}
    (h : Answers outcomes reader c answer reader')
    (h' : Answers outcomes reader c answer' reader'') : answer = answer' ∧ reader' = reader'' := by
  cases h with
  | shows found =>
    cases h' with
    | shows found' => exact ⟨Except.ok.inj (found.symm.trans found') ▸ rfl, rfl⟩
    | misses found' => cases found.symm.trans found'
  | misses found =>
    cases h' with
    | shows found' => cases found.symm.trans found'
    | misses found' => exact ⟨Except.error.inj (found.symm.trans found') ▸ rfl, rfl⟩
  | hands =>
    cases h' with
    | hands => exact ⟨rfl, rfl⟩
  | collects collected =>
    cases h' with
    | collects collected' =>
      obtain ⟨same, rfl⟩ := collected.unique collected'
      exact ⟨same, rfl⟩

theorem Runs.unique {answers' : List Answer} {reader'' : Reader}
    (h : Runs outcomes reader cs answers reader')
    (h' : Runs outcomes reader cs answers' reader'') : answers = answers' ∧ reader' = reader'' := by
  induction h generalizing answers' reader'' with
  | nil =>
    cases h'
    exact ⟨rfl, rfl⟩
  | cons first _ ih =>
    cases h' with
    | cons first' others' =>
      obtain ⟨rfl, rfl⟩ := first.unique first'
      obtain ⟨rfl, same⟩ := ih others'
      exact ⟨rfl, same⟩

theorem Answers.index_le (h : Answers outcomes reader c answer reader') :
    reader.index ≤ reader'.index := by
  cases h with
  | shows => exact Nat.le_refl _
  | misses => exact Nat.le_succ _
  | hands => exact Nat.le_succ _
  | collects collected => exact Nat.le_of_lt collected.lt

/-- The tokens of an answer stand in the stream between the places of the reader. -/
theorem Answers.of_mem (h : Answers outcomes reader c answer reader')
    (found : token ∈ answer.tokens) :
    ∃ k, reader.index ≤ k ∧ k ≤ reader'.index ∧ outcomes k = .ok token := by
  cases h with
  | @shows i held first same =>
    obtain rfl := List.mem_singleton.1 found
    exact ⟨i, Nat.le_refl _, Nat.le_refl _, same⟩
  | misses => cases found
  | @hands i held =>
    cases same : outcomes i with
    | error fault =>
      rw [same] at found
      cases found
    | ok first =>
      rw [same] at found
      obtain rfl := List.mem_singleton.1 found
      exact ⟨i, Nat.le_refl _, Nat.le_succ _, same⟩
  | collects collected =>
    obtain ⟨k, from_i, to_j, same⟩ := collected.of_mem found
    exact ⟨k, from_i, Nat.le_of_lt to_j, same⟩

theorem Answers.of_fault (h : Answers outcomes reader c (.error fault) reader') :
    ∃ k, outcomes k = .error fault := by
  generalize same : Except.error fault = answer at h
  cases h with
  | shows => cases same
  | @misses i other found =>
    injection same with same
    exact ⟨i, same ▸ found⟩
  | @hands i held =>
    cases found : outcomes i with
    | error other =>
      rw [found] at same
      injection same with same
      exact ⟨i, same ▸ found⟩
    | ok token =>
      rw [found] at same
      cases same
  | collects collected => exact collected.of_fault same.symm

theorem Answers.pairwise {R : Token → Token → Prop} (h : Answers outcomes reader c answer reader')
    (ordered : ∀ k l a b, k ≤ l → outcomes k = .ok a → outcomes l = .ok b → R a b) :
    answer.tokens.Pairwise R := by
  cases h with
  | shows => exact List.pairwise_singleton _ _
  | misses => exact .nil
  | @hands i held =>
    cases outcomes i with
    | error fault => exact .nil
    | ok token => exact List.pairwise_singleton _ _
  | collects collected => exact collected.pairwise ordered

theorem Runs.of_mem (h : Runs outcomes reader cs answers reader') (among : answer ∈ answers)
    (found : token ∈ answer.tokens) : ∃ k, reader.index ≤ k ∧ outcomes k = .ok token := by
  induction h with
  | nil => cases among
  | cons first _ ih =>
    rcases List.mem_cons.1 among with rfl | among
    · obtain ⟨k, from_i, -, same⟩ := first.of_mem found
      exact ⟨k, from_i, same⟩
    · obtain ⟨k, from_i, same⟩ := ih among
      exact ⟨k, Nat.le_trans first.index_le from_i, same⟩

theorem Runs.of_fault (h : Runs outcomes reader cs answers reader')
    (among : .error fault ∈ answers) : ∃ k, outcomes k = .error fault := by
  induction h with
  | nil => cases among
  | cons first _ ih =>
    rcases List.mem_cons.1 among with rfl | among
    · exact first.of_fault
    · exact ih among

/-- What holds between outcomes in the order of the stream holds between all the tokens answered. -/
theorem Runs.pairwise {R : Token → Token → Prop} (h : Runs outcomes reader cs answers reader')
    (ordered : ∀ k l a b, k ≤ l → outcomes k = .ok a → outcomes l = .ok b → R a b) :
    (answers.flatMap Answer.tokens).Pairwise R := by
  induction h with
  | nil => exact .nil
  | cons first others ih =>
    rw [List.flatMap_cons, List.pairwise_append]
    refine ⟨first.pairwise ordered, ih, fun a found b behind => ?_⟩
    obtain ⟨answer, among, behind⟩ := List.mem_flatMap.1 behind
    obtain ⟨k, -, to_k, same⟩ := first.of_mem found
    obtain ⟨l, from_l, same'⟩ := others.of_mem among behind
    exact ordered k l a b (Nat.le_trans to_k from_l) same same'

/-- Where only one token is left in the stream, all calls are answered by it. -/
theorem Runs.of_constant (h : Runs outcomes reader cs answers reader')
    (ended : token.isEndOfInput = true)
    (constant : ∀ k, reader.index ≤ k → outcomes k = .ok token) :
    ∀ answer ∈ answers, answer = .ok [token] := by
  induction h with
  | nil => simp
  | @cons reader reader' _ c answer _ _ first _ ih =>
    have found := constant reader.index (Nat.le_refl _)
    have one : answer = .ok [token] := by
      cases first with
      | shows same =>
        rw [same] at found
        injection found with found
        rw [found]
      | misses same =>
        rw [same] at found
        cases found
      | hands =>
        rw [found]
        rfl
      | collects collected =>
        cases collected with
        | fault same =>
          rw [same] at found
          cases found
        | ended same =>
          rw [same] at found
          injection found with found
          rw [found]
        | more same more =>
          rw [same] at found
          injection found with found
          rw [found, ended] at more
          cases more
    intro other among
    rcases List.mem_cons.1 among with rfl | among
    · exact one
    · exact ih (fun k from_k => constant k (Nat.le_trans first.index_le from_k)) other among

end Reader

end Stream

/-! ### The end of the input -/

/-- Where a scan finds the end of the input, the next one does, too. -/
theorem Cursor.scan_of_end {cursor cursor' : Cursor} {token : Token}
    (scanned : cursor.scan = (.ok token, cursor')) (ended : token.isEndOfInput = true) :
    cursor'.scan = (.ok token, cursor') := by
  unfold Cursor.scan at scanned
  split at scanned
  dsimp only at scanned
  split at scanned
  · injection scanned with same left
    injection same with same
    subst same left
    rfl
  · -- no lexeme is the end of the input
    rename_i c text
    unfold Cursor.scanLexeme at scanned
    split at scanned
    · rename_i kind lexeme rest read
      injection scanned with same
      injection same with same
      subst same
      obtain ⟨isLexeme, -⟩ := readLexeme_eq_token_iff.1 read
      have kind_eq := Token.isEndOfInput_iff.1 ended
      cases isLexeme <;> cases kind_eq
    · injection scanned with same
      cases same

namespace Lexer

theorem advance_of_end {lexer lexer' : Lexer} {token : Token} (fresh : lexer.shown = none)
    (h : lexer.advance = (.ok token, lexer')) (ended : token.isEndOfInput = true) :
    lexer'.advance = (.ok token, lexer') := by
  unfold advance at h
  rw [fresh] at h
  injection h with found left
  have again := Cursor.scan_of_end (Prod.ext found rfl) ended
  rw [← left, advance]
  simp only [again]

/-- Behind the end of the input comes nothing but the end of the input. -/
theorem outcome_of_end {fresh : Lexer} {token : Token} {i j : Nat} (none : fresh.shown = none)
    (found : fresh.outcome i = .ok token) (ended : token.isEndOfInput = true) (behind : i ≤ j) :
    fresh.outcome j = .ok token := by
  induction behind with
  | refl => exact found
  | @step j _ ih =>
    have next := advance_advanced fresh j
    rw [ih] at next
    exact congrArg Prod.fst (advance_of_end (shown_advanced none j) next ended)

/-! ### Lexers of a text -/

/-- Any calls of a lexer are answered as by a reader of the stream that repeated calls of `advance` hand
out. So a token that is shown takes nothing away from later answers, and where the end of the input is
answered, it is answered from then on. -/
theorem calls_read_stream (text : String) (cs : List Call) :
    (∀ answers, (∃ reader, Reader.Runs (ofString text).outcome ⟨0, false⟩ cs answers reader) ↔
      answers = ((ofString text).calls cs).1) ∧
    (∀ token left, ((ofString text).calls cs).2.peek = (.ok token, left) →
      ∀ later, (left.calls later).1 = (((ofString text).calls cs).2.calls later).1) ∧
    ∀ c answer left token, ((ofString text).calls cs).2.call c = (answer, left) →
      token ∈ answer.tokens → token.isEndOfInput = true →
        ∀ later, ∀ answer' ∈ (left.calls later).1, answer' = .ok [token] := by
  have fresh : (ofString text).shown = none := rfl
  have started : Reads (ofString text) ⟨0, false⟩ (ofString text) := .next 0
  obtain ⟨reader, runs, stands⟩ := started.calls cs
  refine ⟨fun answers => ⟨?_, ?_⟩, fun token left shown later => calls_of_peek shown later, ?_⟩
  · rintro ⟨reader', runs'⟩
    exact (runs'.unique runs).1
  · rintro rfl
    exact ⟨reader, runs⟩
  intro c answer left token answered found ended later
  obtain ⟨reader', first, stands'⟩ := stands.call c
  rw [answered] at first stands'
  obtain ⟨k, -, to_k, same⟩ := first.of_mem found
  obtain ⟨reader'', runs', -⟩ := stands'.calls later
  exact runs'.of_constant ended fun l from_l =>
    outcome_of_end fresh same ended (Nat.le_trans to_k from_l)

end Lexer

end SyntaxCheck
