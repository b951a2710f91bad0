import SyntaxCheck.Recognizer.Session
import SyntaxCheck.Report.Basic
import SyntaxCheck.Text.Lines

/-!
# The outcome of checking a file

* `Stats`, `Feedback` - how long a file is and how long the check took, and the outcome with them;
* `Feedback.ofCheck` - the feedback on a file with a text.
-/

namespace SyntaxCheck

/-- The microseconds that a check took, and the number of lines checked. -/
structure Stats where
  parseTime : Nat
  lines : Nat
  deriving DecidableEq

/-- The outcome of checking a file. -/
structure Feedback where
  success : Bool
  file : String
  diagnostics : List Report
  stats : Stats
  deriving DecidableEq

namespace Feedback

/-- The reports of an outcome: one on its fault. -/
def reports (file : String) : Except Fault Unit → List Report
  | .ok _ => []
  | .error fault => [.ofFault file fault]

/-- The feedback on a file with a text, for a check that took so many microseconds. -/
def ofCheck (file text : String) (parseTime : Nat) : Feedback :=
  let outcome := check text
  ⟨outcome.isOk, file, reports file outcome, ⟨parseTime, lineCount text.toList⟩⟩

end Feedback

end SyntaxCheck
