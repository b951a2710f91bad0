import Mathlib
import SyntaxCheck.Proofs.Json.Exact
import SyntaxCheck.Proofs.Json.Variant
import SyntaxCheck.Proofs.Report.Roundtrip

/-!
# Reading reports and feedback from other texts

Each kind of data is read from any value that says the same as the one written for it, and from no value in which
a key is missing or repeated. So it does not depend on the layout of a text, and all of its content is needed.

* `Json.toList?_of_varies`, `Json.toList?_of_breaks` - lists;
* `Suggestion.toOption?_of_held` - a replacement that is null may be left out;
* `Report.ofJson?_of_varies`, `Report.ofJson?_of_breaks` - a report, and so for each kind of data;
* `Feedback.parse?_varied` - the texts of reports and feedback.
-/

namespace SyntaxCheck

/-! ### Lists -/

namespace Json

variable {α : Type} {read : Json → Option α} {write : α → Json} {items : List α} {other : Json}

theorem toList?_of_varies (each : ∀ item ∈ items, ∀ other, (write item).Varies other → read other = some item)
    (h : (array (items.map write)).Varies other) : toList? read other = some items := by
  cases h with
  | @array _ varied varies =>
    show varied.mapM read = some items
    rw [List.forall₂_map_left_iff] at varies
    induction varies with
    | nil => rfl
    | cons first _ ih =>
      rw [List.forall_mem_cons] at each
      rw [List.mapM_cons, each.1 _ first, ih each.2]
      rfl

theorem toList?_of_breaks (each : ∀ item ∈ items, ∀ other, (write item).Breaks other → read other = none)
    (h : (array (items.map write)).Breaks other) : toList? read other = none := by
  cases h with
  | @item _ others i value held first second breaks =>
    obtain ⟨item, among, rfl⟩ := Option.map_eq_some_iff.1 (List.getElem?_map ▸ first)
    have broken := each item (List.mem_of_getElem? among) held breaks
    show others.mapM read = none
    -- if all of them were read, so would be the broken one
    cases all : others.mapM read with
    | none => rfl
    | some results =>
      obtain ⟨result, -, found⟩ := exists_mem_zip (forall₂_of_mapM all) (List.mem_of_getElem? second)
      cases broken.symm.trans found

theorem Varies.eq_ofString {text : String} (h : (ofString text).Varies other) : other = ofString text := by
  cases h
  rfl

theorem Varies.eq_ofNat {n : Nat} (h : (ofNat n).Varies other) : other = ofNat n := by
  cases h
  rfl

end Json

open Json

variable {other : Json}

/-! ### Parts of a report -/

namespace Place

variable {place : Place}

theorem ofJson?_of_varies (fits : place.Fits) (h : place.toJson.Varies other) : ofJson? other = some place := by
  have read : ∃ values, other.fields? ["file", "line", "column"] = some values ∧
      List.Forall₂ Held _ values := Varies.fields h rfl (by decide)
  obtain ⟨_, fields, _ | ⟨⟨file⟩, _ | ⟨⟨line⟩, _ | ⟨⟨column⟩, ⟨⟩⟩⟩⟩⟩ := read
  rw [ofJson?, fields, file.eq_ofString, line.eq_ofNat, column.eq_ofNat]
  simp only [toText?_ofString, toNat?_ofNat fits.1, toNat?_ofNat fits.2]
  rfl

theorem ofJson?_of_breaks (h : place.toJson.Breaks other) : ofJson? other = none := by
  unfold ofJson?
  split
  · rename_i file line column fields
    rcases Breaks.fields h rfl fields with ⟨key, value, -, among⟩ | ⟨key, value, held, among, breaks⟩
    · simp at among
    · simp at among
      obtain ⟨⟨rfl, rfl⟩, rfl⟩ | ⟨⟨rfl, rfl⟩, rfl⟩ | ⟨⟨rfl, rfl⟩, rfl⟩ := among <;> cases breaks
  · rfl

end Place

namespace Suggestion

variable {suggestion : Suggestion}

theorem toOption?_of_held {value : Option Json}
    (held : Held ("replacement", Json.ofOption (suggestion.replacement.map .ofString)) value) :
    (Json.ofOption value).toOption? toText? = some suggestion.replacement := by
  generalize suggestion.replacement = replacement at held
  cases replacement with
  | none =>
    -- null, or left out
    cases held with
    | member varies => cases varies; rfl
    | replacement => rfl
  | some text =>
    cases held with
    | member varies =>
      rw [Varies.eq_ofString varies]
      exact toOption?_ofOption (some text)

theorem ofJson?_of_varies (h : suggestion.toJson.Varies other) : ofJson? other = some suggestion := by
  have read : ∃ values, other.fields? ["message", "replacement"] = some values ∧
      List.Forall₂ Held _ values := Varies.fields h rfl (by decide)
  obtain ⟨_, fields, _ | ⟨⟨message⟩, _ | ⟨replacement, ⟨⟩⟩⟩⟩ := read
  rw [ofJson?, fields, message.eq_ofString]
  simp only [toText?_ofString, toOption?_of_held replacement]
  rfl

theorem ofJson?_of_breaks (h : suggestion.toJson.Breaks other) : ofJson? other = none := by
  unfold ofJson?
  split
  · rename_i message replacement fields
    rcases Breaks.fields h rfl fields with ⟨key, value, needed, among⟩ | ⟨key, value, held, among, breaks⟩
    · simp at among
      exact absurd among.1.1 needed
    · simp at among
      obtain ⟨⟨rfl, rfl⟩, rfl⟩ | ⟨⟨rfl, rfl⟩, rfl⟩ := among
      · cases breaks
      · generalize suggestion.replacement = replacement at breaks
        cases replacement <;> cases breaks
  · rfl

end Suggestion

/-! ### Reports -/

namespace Phase

theorem ofJson?_of_varies {phase : Phase} (h : (Json.ofString phase.name).Varies other) :
    ofJson? other = some phase := by
  rw [h.eq_ofString]
  exact ofJson?_name phase

end Phase

namespace Report

variable {report : Report}

theorem ofJson?_of_varies (fits : report.Fits) (h : report.toJson.Varies other) :
    ofJson? other = some report := by
  have read : ∃ values, other.fields? ["code", "kind", "message", "location", "suggestions"] = some values ∧
      List.Forall₂ Held _ values := Varies.fields h rfl (by decide)
  obtain ⟨_, fields, _ | ⟨⟨code⟩, _ | ⟨⟨kind⟩, _ | ⟨⟨message⟩, _ | ⟨⟨location⟩, _ | ⟨⟨suggestions⟩, ⟨⟩⟩⟩⟩⟩⟩⟩ :=
    read
  have all := toList?_of_varies (fun _ _ _ varies => Suggestion.ofJson?_of_varies varies) suggestions
  rw [ofJson?, fields, code.eq_ofString, message.eq_ofString]
  simp only [toText?_ofString, Phase.ofJson?_of_varies kind, Place.ofJson?_of_varies fits location, all]
  rfl

theorem ofJson?_of_breaks (h : report.toJson.Breaks other) : ofJson? other = none := by
  unfold ofJson?
  split
  · rename_i code kind message location suggestions fields
    rcases Breaks.fields h rfl fields with ⟨key, value, -, among⟩ | ⟨key, value, held, among, breaks⟩
    · simp at among
    · simp at among
      obtain ⟨⟨rfl, rfl⟩, rfl⟩ | ⟨⟨rfl, rfl⟩, rfl⟩ | ⟨⟨rfl, rfl⟩, rfl⟩ | ⟨⟨rfl, rfl⟩, rfl⟩ |
        ⟨⟨rfl, rfl⟩, rfl⟩ := among
      iterate 3 cases breaks
      · simp [Place.ofJson?_of_breaks breaks]
      · have broken := toList?_of_breaks (fun _ _ _ broken => Suggestion.ofJson?_of_breaks broken) breaks
        simp [broken]
  · rfl

end Report

/-! ### Feedback -/

namespace Stats

variable {stats : Stats}

theorem ofJson?_of_varies (fits : stats.Fits) (h : stats.toJson.Varies other) : ofJson? other = some stats := by
  have read : ∃ values, other.fields? ["parse_time_us", "loc"] = some values ∧
      List.Forall₂ Held _ values := Varies.fields h rfl (by decide)
  obtain ⟨_, fields, _ | ⟨⟨parseTime⟩, _ | ⟨⟨lines⟩, ⟨⟩⟩⟩⟩ := read
  rw [ofJson?, fields, parseTime.eq_ofNat, lines.eq_ofNat]
  simp only [toNat?_ofNat fits.1, toNat?_ofNat fits.2]
  rfl

theorem ofJson?_of_breaks (h : stats.toJson.Breaks other) : ofJson? other = none := by
  unfold ofJson?
  split
  · rename_i parseTime lines fields
    rcases Breaks.fields h rfl fields with ⟨key, value, -, among⟩ | ⟨key, value, held, among, breaks⟩
    · simp at among
    · simp at among
      obtain ⟨⟨rfl, rfl⟩, rfl⟩ | ⟨⟨rfl, rfl⟩, rfl⟩ := among <;> cases breaks
  · rfl

end Stats

namespace Feedback

variable {feedback : Feedback}

theorem ofJson?_of_varies (fits : feedback.Fits) (h : feedback.toJson.Varies other) :
    ofJson? other = some feedback := by
  have read : ∃ values, other.fields? ["success", "source_file", "diagnostics", "stats"] = some values ∧
      List.Forall₂ Held _ values := Varies.fields h rfl (by decide)
  obtain ⟨_, fields, _ | ⟨⟨success⟩, _ | ⟨⟨file⟩, _ | ⟨⟨diagnostics⟩, _ | ⟨⟨stats⟩, ⟨⟩⟩⟩⟩⟩⟩ := read
  have all := toList?_of_varies
    (fun report mem _ varies => Report.ofJson?_of_varies (fits.diagnostics report mem) varies) diagnostics
  cases success
  rw [ofJson?, fields, file.eq_ofString]
  simp only [toBool?, toText?_ofString, all, Stats.ofJson?_of_varies fits.stats stats]
  rfl

theorem ofJson?_of_breaks (h : feedback.toJson.Breaks other) : ofJson? other = none := by
  unfold ofJson?
  split
  · rename_i success file diagnostics stats fields
    rcases Breaks.fields h rfl fields with ⟨key, value, -, among⟩ | ⟨key, value, held, among, breaks⟩
    · simp at among
    · simp at among
      obtain ⟨⟨rfl, rfl⟩, rfl⟩ | ⟨⟨rfl, rfl⟩, rfl⟩ | ⟨⟨rfl, rfl⟩, rfl⟩ | ⟨⟨rfl, rfl⟩, rfl⟩ := among
      iterate 2 cases breaks
      · have broken := toList?_of_breaks (fun _ _ _ broken => Report.ofJson?_of_breaks broken) breaks
        simp [broken]
      · simp [Stats.ofJson?_of_breaks breaks]
  · rfl

/-- Reports and feedback are read from every text that says the same as the one written for them, and from none
that is spoiled. -/
theorem parse?_varied {report : Report} {feedback : Feedback} (fits : report.Fits) (fits' : feedback.Fits) :
    (report.toJson.VariedText report.toJson.pretty ∧
      (∀ text, report.toJson.VariedText text → Report.parse? text = some report) ∧
      ∀ text, report.toJson.SpoiledText text → Report.parse? text = none) ∧
    feedback.toJson.VariedText feedback.toJson.pretty ∧ feedback.toJson.VariedText feedback.toJson.compact ∧
      (∀ text, feedback.toJson.VariedText text → parse? text = some feedback) ∧
      ∀ text, feedback.toJson.SpoiledText text → parse? text = none := by
  refine ⟨⟨report.plain_toJson.variedText _, fun text varied => ?_, fun text spoiled => ?_⟩,
    feedback.plain_toJson.variedText _, feedback.plain_toJson.variedText _, fun text varied => ?_,
    fun text spoiled => ?_⟩
  · exact bind_parse?_of_varied (fun _ => Report.ofJson?_of_varies fits) varied
  · exact bind_parse?_of_spoiled (fun _ => Report.ofJson?_of_breaks) spoiled
  · exact bind_parse?_of_varied (fun _ => ofJson?_of_varies fits') varied
  · exact bind_parse?_of_spoiled (fun _ => ofJson?_of_breaks) spoiled

set_option maxRecDepth 4000 in
/-- Keys in another order, one among them that is not known, and escapes for any character do not matter. A key
that is written twice in two ways, and a word behind the report, do. -/
theorem parse?_varied_escapes :
    let report : Report := ⟨"S0001", .grammatical, "\n😀", ⟨"a", 3, 7⟩, [⟨"m", none⟩]⟩
    let feedback : Feedback := ⟨true, "a", [], ⟨0, 1⟩⟩
    let text := "\x7b\"x\": [\x7b\"code\": -1e5\x7d, \"\\ud800\"], " ++
      "\"suggestions\":[\x7b\"message\":\"\\u006D\"\x7d],\t" ++
      "\"location\":\x7b\"file\":\"a\",\"line\":3,\"column\":7\x7d, \"message\":\"\\u000a\\ud83d\\ude00\"," ++
      "\"k\\u0069nd\" :\"syntax\",\n\"code\":\"S0001\"\x7d "
    let twice := "\x7b\"success\":true,\"source_file\":\"a\",\"diagnostics\":[]," ++
      "\"stats\":\x7b\"parse_time_us\":0,\"loc\":1,\"\\u006coc\":1\x7d\x7d"
    (report.Fits ∧ feedback.Fits) ∧ report.toJson.VariedText text ∧ Report.parse? text = some report ∧
      Report.parse? (text ++ " null") = none ∧ feedback.toJson.SpoiledText twice ∧ parse? twice = none := by
  intro report feedback text twice
  have fits : report.Fits := ⟨by decide, by decide⟩
  have fits' : feedback.Fits := ⟨nofun, by decide, by decide⟩
  obtain ⟨⟨-, reads, refuses⟩, -, -, -, refuses'⟩ := parse?_varied fits fits'
  have varied : report.toJson.VariedText text := by
    have location : report.place.toJson.Varies
        (.record [("file", .ofString "a"), ("line", .ofNat 3), ("column", .ofNat 7)]) :=
      report.place.plain_toJson.varies
    have suggestions : (Json.array (report.suggestions.map Suggestion.toJson)).Varies
        (.array [.record [("message", .ofString "m")]]) := by
      have noOther : ∀ m ∈ ([] : List (String × Json)), m.1 ∉ ["message", "replacement"] := List.forall_mem_nil _
      have order : [("message", Json.ofString "m")].Perm ([("message", Json.ofString "m")] ++ []) := .refl _
      exact .array (.cons (.object (.member (.text _) (.replacement rfl .nil)) noOther order) .nil)
    have keeps : Keeps _ [("code", .ofString "S0001"), ("kind", .ofString "syntax"), ("message", .ofString "\n😀"),
        ("location", .record [("file", .ofString "a"), ("line", .ofNat 3), ("column", .ofNat 7)]),
        ("suggestions", .array [.record [("message", .ofString "m")]])] :=
      .member (.text _) (.member (.text _) (.member (.text _) (.member location (.member suggestions .nil))))
    have unknown : ∀ m ∈ [("x", Json.array [.record [("code", .number "-1e5".toList)], .text [.unpaired 0xd800]])],
        m.1 ∉ ["code", "kind", "message", "location", "suggestions"] :=
      List.forall_mem_singleton.2 (by decide)
    have written : (Json.record [
        ("x", .array [.record [("code", .number "-1e5".toList)], .text [.unpaired 0xd800]]),
        ("suggestions", .array [.record [("message", .ofString "m")]]),
        ("location", .record [("file", .ofString "a"), ("line", .ofNat 3), ("column", .ofNat 7)]),
        ("message", .ofString "\n😀"), ("kind", .ofString "syntax"), ("code", .ofString "S0001")]).WrittenAs text :=
      cut_of_jsonTokens (by subst text; cbv)
    exact ⟨_, .object keeps unknown (List.reverse_perm _), written⟩
  have spoiled : feedback.toJson.SpoiledText twice := by
    have known : "loc" ∈ ["parse_time_us", "loc"] := by decide
    have stats : feedback.stats.toJson.Breaks
        (.record [("parse_time_us", .ofNat 0), ("loc", .ofNat 1), ("loc", .ofNat 1)]) :=
      .repeated known (by decide)
    have breaks : feedback.toJson.Breaks (.record [("success", .bool true), ("source_file", .ofString "a"),
        ("diagnostics", .array []),
        ("stats", .record [("parse_time_us", .ofNat 0), ("loc", .ofNat 1), ("loc", .ofNat 1)])]) :=
      .member (.tail _ (.tail _ (.tail _ (.head _)))) (.tail _ (.tail _ (.tail _ (.head _)))) stats
    exact .broken breaks (cut_of_jsonTokens (by cbv))
  exact ⟨⟨fits, fits'⟩, varied, reads _ varied, refuses _ (.followed varied ⟨'n', by decide, rfl⟩), spoiled,
    refuses' _ spoiled⟩

end Feedback

end SyntaxCheck
