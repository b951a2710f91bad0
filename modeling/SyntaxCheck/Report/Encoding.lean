import SyntaxCheck.Json.Printer
import SyntaxCheck.Json.Reader
import SyntaxCheck.Report.Feedback

/-!
# Reports and feedback as JSON

* `Report.toJson`, `Feedback.toJson` - the values that are written;
* `Report.ofJson?`, `Feedback.ofJson?` - and read back: from an object, whose unknown keys are passed over,
  or from an array of the values in order;
* `Report.parse?`, `Feedback.parse?` - read from a text.
-/

namespace SyntaxCheck

/-! ### Writing -/

namespace Place

/-- A place as an object. -/
def toJson (place : Place) : Json := .record [
  ("file", .ofString place.file),
  ("line", .ofNat place.line),
  ("column", .ofNat place.column)]

end Place

namespace Suggestion

/-- A suggestion as an object. -/
def toJson (suggestion : Suggestion) : Json := .record [
  ("message", .ofString suggestion.message),
  ("replacement", .ofOption (suggestion.replacement.map .ofString))]

end Suggestion

namespace Report

/-- A report as an object. -/
def toJson (report : Report) : Json := .record [
  ("code", .ofString report.code),
  ("kind", .ofString report.phase.name),
  ("message", .ofString report.message),
  ("location", report.place.toJson),
  ("suggestions", .array (report.suggestions.map Suggestion.toJson))]

end Report

namespace Stats

/-- The statistics as an object. -/
def toJson (stats : Stats) : Json := .record [
  ("parse_time_us", .ofNat stats.parseTime),
  ("loc", .ofNat stats.lines)]

end Stats

namespace Feedback

/-- The feedback as an object. -/
def toJson (feedback : Feedback) : Json := .record [
  ("success", .bool feedback.success),
  ("source_file", .ofString feedback.file),
  ("diagnostics", .array (feedback.diagnostics.map Report.toJson)),
  ("stats", feedback.stats.toJson)]

end Feedback

/-! ### Reading -/

namespace Json

/-- All items of an array, each read in the same way. -/
def toList? {α : Type} (read : Json → Option α) (value : Json) : Option (List α) :=
  value.toItems?.bind fun items => items.mapM read

end Json

namespace Phase

/-- A phase by its name. -/
def ofName? (name : String) : Option Phase :=
  if name = Phase.lexical.name then some .lexical
  else if name = Phase.grammatical.name then some .grammatical
  else none

/-- A phase, given by its name or as an object with that single key and no value. -/
def ofJson? : Json → Option Phase
  | .object [(key, .null)] => key.toString?.bind ofName?
  | value => value.toText?.bind ofName?

end Phase

namespace Place

/-- A place from an object or array. -/
def ofJson? (value : Json) : Option Place :=
  match value.fields? ["file", "line", "column"] with
  | some [some file, some line, some column] => do
    return ⟨← file.toText?, ← line.toNat?, ← column.toNat?⟩
  | _ => none

end Place

namespace Suggestion

/-- A suggestion from an object or array. In an object the replacement may be left out. -/
def ofJson? (value : Json) : Option Suggestion :=
  match value.fields? ["message", "replacement"] with
  | some [some message, replacement] => do
    return ⟨← message.toText?, ← (Json.ofOption replacement).toOption? Json.toText?⟩
  | _ => none

end Suggestion

namespace Report

/-- A report from an object or array. -/
def ofJson? (value : Json) : Option Report :=
  match value.fields? ["code", "kind", "message", "location", "suggestions"] with
  | some [some code, some kind, some message, some location, some suggestions] => do
    return ⟨← code.toText?, ← Phase.ofJson? kind, ← message.toText?, ← Place.ofJson? location,
      ← suggestions.toList? Suggestion.ofJson?⟩
  | _ => none

/-- A report from a text. -/
def parse? (text : String) : Option Report := (Json.parse? text).bind ofJson?

end Report

namespace Stats

/-- Statistics from an object or array. -/
def ofJson? (value : Json) : Option Stats :=
  match value.fields? ["parse_time_us", "loc"] with
  | some [some parseTime, some lines] => do return ⟨← parseTime.toNat?, ← lines.toNat?⟩
  | _ => none

end Stats

namespace Feedback

/-- Feedback from an object or array. -/
def ofJson? (value : Json) : Option Feedback :=
  match value.fields? ["success", "source_file", "diagnostics", "stats"] with
  | some [some success, some file, some diagnostics, some stats] => do
    return ⟨← success.toBool?, ← file.toText?, ← diagnostics.toList? Report.ofJson?,
      ← Stats.ofJson? stats⟩
  | _ => none

/-- Feedback from a text. -/
def parse? (text : String) : Option Feedback := (Json.parse? text).bind ofJson?

end Feedback

end SyntaxCheck
