import SyntaxCheck.Proofs.Json.Layout
import SyntaxCheck.Proofs.Json.Record
import SyntaxCheck.Report.Encoding

/-!
# Reports and feedback are read back

Each kind of data is written as a plain value, from which it is read again; so it is read from the texts
of the value in either layout. Numbers have to fit into a word.

* `Report.Fits`, `Feedback.Fits` - the numbers fit;
* `Place.ofJson?_toJson`, `Suggestion.ofJson?_toJson`, `Report.ofJson?_toJson`, `Stats.ofJson?_toJson`,
  `Feedback.ofJson?_toJson` - each kind of data is read from the value that is written for it;
* `Feedback.parse?_written` - reports and feedback are read from their texts.
-/

namespace SyntaxCheck

namespace Json

/-- The items of a list are read back if each of them is. -/
theorem toList?_map {α : Type} {read : Json → Option α} {write : α → Json} {items : List α}
    (each : ∀ item ∈ items, read (write item) = some item) :
    toList? read (.array (items.map write)) = some items := by
  show (items.map write).mapM read = some items
  rw [List.mapM_map]
  exact (mapM_some each).trans (congrArg some (List.map_id items))

theorem toText?_ofString (text : String) : (ofString text).toText? = some text :=
  JsonText.toString?_ofString text

/-- A list is plain if all of its items are. -/
theorem plain_map {α : Type} {write : α → Json} (plain : ∀ item, (write item).Plain)
    (items : List α) : (Json.array (items.map write)).Plain := by
  refine .array fun value mem => ?_
  obtain ⟨item, -, rfl⟩ := List.mem_map.1 mem
  exact plain item

end Json

/-! ### Parts of a report -/

namespace Phase

theorem ofJson?_name (phase : Phase) : ofJson? (.ofString phase.name) = some phase := by
  show (Json.ofString phase.name).toText?.bind ofName? = some phase
  rw [Json.toText?_ofString, Option.bind_some]
  cases phase <;> rfl

end Phase

namespace Place

/-- The line and the column fit into words. -/
def Fits (place : Place) : Prop := place.line ≤ Json.wordMax ∧ place.column ≤ Json.wordMax

theorem plain_toJson (place : Place) : place.toJson.Plain := by
  refine Json.plain_record ?_
  simp only [List.forall_mem_cons]
  exact ⟨.text _, Json.plain_ofNat _, Json.plain_ofNat _, nofun⟩

theorem ofJson?_toJson {place : Place} (fits : place.Fits) :
    ofJson? place.toJson = some place := by
  have fields : place.toJson.fields? ["file", "line", "column"] =
      some [some (.ofString place.file), some (.ofNat place.line), some (.ofNat place.column)] :=
    Json.fields?_record rfl (by decide)
  rw [ofJson?, fields]
  simp only [Json.toText?_ofString, Json.toNat?_ofNat fits.1, Json.toNat?_ofNat fits.2]
  rfl

end Place

namespace Suggestion

theorem plain_toJson (suggestion : Suggestion) : suggestion.toJson.Plain := by
  have replacement : (Json.ofOption (suggestion.replacement.map .ofString)).Plain := by
    cases suggestion.replacement with
    | none => exact .null
    | some text => exact .text text
  refine Json.plain_record ?_
  simp only [List.forall_mem_cons]
  exact ⟨.text _, replacement, nofun⟩

/-- A missing replacement is written as null, and the text "null" as a string. -/
theorem toOption?_ofOption (replacement : Option String) :
    (Json.ofOption (replacement.map .ofString)).toOption? Json.toText? = some replacement := by
  cases replacement with
  | none => rfl
  | some text => exact congrArg (Option.map some) (Json.toText?_ofString text)

theorem ofJson?_toJson (suggestion : Suggestion) : ofJson? suggestion.toJson = some suggestion := by
  have fields : suggestion.toJson.fields? ["message", "replacement"] =
      some [some (.ofString suggestion.message),
        some (.ofOption (suggestion.replacement.map .ofString))] :=
    Json.fields?_record rfl (by decide)
  -- the value of the key is there, null or not
  have replacement : (Json.ofOption (some (.ofOption (suggestion.replacement.map .ofString)))).toOption?
      Json.toText? = some suggestion.replacement := toOption?_ofOption suggestion.replacement
  rw [ofJson?, fields]
  simp only [Json.toText?_ofString, replacement]
  rfl

end Suggestion

/-! ### Reports -/

namespace Report

/-- The numbers of the report fit into words. -/
def Fits (report : Report) : Prop := report.place.Fits

theorem plain_toJson (report : Report) : report.toJson.Plain := by
  refine Json.plain_record ?_
  simp only [List.forall_mem_cons]
  exact ⟨.text _, .text _, .text _, report.place.plain_toJson,
    Json.plain_map Suggestion.plain_toJson report.suggestions, nofun⟩

theorem ofJson?_toJson {report : Report} (fits : report.Fits) :
    ofJson? report.toJson = some report := by
  have fields : report.toJson.fields? ["code", "kind", "message", "location", "suggestions"] =
      some [some (.ofString report.code), some (.ofString report.phase.name),
        some (.ofString report.message), some report.place.toJson,
        some (.array (report.suggestions.map Suggestion.toJson))] :=
    Json.fields?_record rfl (by decide)
  have suggestions : (Json.array (report.suggestions.map Suggestion.toJson)).toList?
      Suggestion.ofJson? = some report.suggestions :=
    Json.toList?_map fun suggestion _ => suggestion.ofJson?_toJson
  rw [ofJson?, fields]
  simp only [Json.toText?_ofString, Phase.ofJson?_name, Place.ofJson?_toJson fits, suggestions]
  rfl

/-- A report is read from its text. -/
theorem parse?_pretty {report : Report} (fits : report.Fits) :
    parse? report.toJson.pretty = some report := by
  rw [parse?, report.plain_toJson.parse?_pretty, Option.bind_some, ofJson?_toJson fits]

end Report

/-! ### Feedback -/

namespace Stats

/-- The numbers of the statistics fit into words. -/
def Fits (stats : Stats) : Prop := stats.parseTime ≤ Json.wordMax ∧ stats.lines ≤ Json.wordMax

theorem plain_toJson (stats : Stats) : stats.toJson.Plain := by
  refine Json.plain_record ?_
  simp only [List.forall_mem_cons]
  exact ⟨Json.plain_ofNat _, Json.plain_ofNat _, nofun⟩

theorem ofJson?_toJson {stats : Stats} (fits : stats.Fits) :
    ofJson? stats.toJson = some stats := by
  have fields : stats.toJson.fields? ["parse_time_us", "loc"] =
      some [some (.ofNat stats.parseTime), some (.ofNat stats.lines)] :=
    Json.fields?_record rfl (by decide)
  rw [ofJson?, fields]
  simp only [Json.toNat?_ofNat fits.1, Json.toNat?_ofNat fits.2]
  rfl

end Stats

namespace Feedback

/-- The numbers of the feedback fit into words. -/
structure Fits (feedback : Feedback) : Prop where
  diagnostics : ∀ report ∈ feedback.diagnostics, report.Fits
  stats : feedback.stats.Fits

theorem plain_toJson (feedback : Feedback) : feedback.toJson.Plain := by
  refine Json.plain_record ?_
  simp only [List.forall_mem_cons]
  exact ⟨.bool _, .text _, Json.plain_map Report.plain_toJson feedback.diagnostics,
    feedback.stats.plain_toJson, nofun⟩

theorem ofJson?_toJson {feedback : Feedback} (fits : feedback.Fits) :
    ofJson? feedback.toJson = some feedback := by
  have fields : feedback.toJson.fields? ["success", "source_file", "diagnostics", "stats"] =
      some [some (.bool feedback.success), some (.ofString feedback.file),
        some (.array (feedback.diagnostics.map Report.toJson)), some feedback.stats.toJson] :=
    Json.fields?_record rfl (by decide)
  have diagnostics : (Json.array (feedback.diagnostics.map Report.toJson)).toList?
      Report.ofJson? = some feedback.diagnostics :=
    Json.toList?_map fun report mem => Report.ofJson?_toJson (fits.diagnostics report mem)
  rw [ofJson?, fields]
  simp only [Json.toBool?, Json.toText?_ofString, diagnostics, Stats.ofJson?_toJson fits.stats]
  rfl

/-- Feedback is read from its text on many lines. -/
theorem parse?_pretty {feedback : Feedback} (fits : feedback.Fits) :
    parse? feedback.toJson.pretty = some feedback := by
  rw [parse?, feedback.plain_toJson.parse?_pretty, Option.bind_some, ofJson?_toJson fits]

/-- Feedback is read from its text on one line. -/
theorem parse?_compact {feedback : Feedback} (fits : feedback.Fits) :
    parse? feedback.toJson.compact = some feedback := by
  rw [parse?, feedback.plain_toJson.parse?_compact, Option.bind_some, ofJson?_toJson fits]

/-- Reports and feedback are read back from all of their texts. The two texts of feedback differ only in
blanks outside of strings, and the one on one line has none there. -/
theorem parse?_written {report : Report} {feedback : Feedback} (fits : report.Fits)
    (fits' : feedback.Fits) :
    Report.parse? report.toJson.pretty = some report ∧
      parse? feedback.toJson.pretty = some feedback ∧
      parse? feedback.toJson.compact = some feedback ∧
      unspaced .outside feedback.toJson.pretty.toList =
        unspaced .outside feedback.toJson.compact.toList ∧
      unspaced .outside feedback.toJson.compact.toList = feedback.toJson.compact.toList := by
  have pretty : unspaced .outside feedback.toJson.pretty.toList =
      feedback.toJson.compact.toList := by
    rw [Json.pretty, Json.compact, String.toList_ofList, String.toList_ofList]
    exact feedback.plain_toJson.unspaced_write _
  have compact : unspaced .outside feedback.toJson.compact.toList =
      feedback.toJson.compact.toList := by
    rw [Json.compact, String.toList_ofList]
    exact feedback.plain_toJson.unspaced_write _
  exact ⟨Report.parse?_pretty fits, parse?_pretty fits', parse?_compact fits',
    pretty.trans compact.symm, compact⟩

/-- The largest numbers, characters that must be escaped and others, a missing replacement and one that
is called null are read back. -/
theorem parse?_written_hard :
    let report : Report := ⟨"S\"0\\", .grammatical, "\x00\x1f\x7f \n😀",
      ⟨"a\tb", Json.wordMax, Json.wordMax⟩, [⟨"", none⟩, ⟨"[ ]", some "null"⟩]⟩
    let feedback : Feedback := ⟨false, "\\", [report, ⟨"", .lexical, "", ⟨"", 0, 0⟩, []⟩],
      ⟨Json.wordMax, 0⟩⟩
    (report.Fits ∧ feedback.Fits) ∧ Report.parse? report.toJson.pretty = some report ∧
      parse? feedback.toJson.pretty = some feedback ∧
      parse? feedback.toJson.compact = some feedback ∧
      unspaced .outside feedback.toJson.pretty.toList =
        unspaced .outside feedback.toJson.compact.toList := by
  intro report feedback
  have fits : report.Fits := ⟨Nat.le_refl _, Nat.le_refl _⟩
  have fits' : feedback.Fits := by
    refine ⟨?_, Nat.le_refl _, Nat.zero_le _⟩
    simp only [feedback, List.forall_mem_cons]
    exact ⟨fits, ⟨Nat.zero_le _, Nat.zero_le _⟩, nofun⟩
  obtain ⟨read, pretty, compact, same, -⟩ := parse?_written fits fits'
  exact ⟨⟨fits, fits'⟩, read, pretty, compact, same⟩

end Feedback

end SyntaxCheck
