import SyntaxCheck.CommandLine.Arguments
import SyntaxCheck.CommandLine.FileTree
import SyntaxCheck.Report.Encoding
import SyntaxCheck.Text.Padding

/-!
# What the commands print

* `Output` - the two streams and whether all went well; outputs are joined one behind the other;
* `checkFile`, `checkFiles` - the output of checking one text, and files up to one that cannot be read;
* `tokenLine`, `listTokens` - a line for each token;
* `showTrace` - the grouping of every expression;
* `Request.answer` - the output and exit code of a request.
-/

namespace SyntaxCheck

/-- What is printed on either stream, and whether all went well. -/
structure Output where
  stdout : String
  stderr : String
  ok : Bool
  deriving DecidableEq

namespace Output

/-- Nothing is printed. -/
def silent : Output := ⟨"", "", true⟩

/-- One output behind another. -/
def append (a b : Output) : Output := ⟨a.stdout ++ b.stdout, a.stderr ++ b.stderr, a.ok && b.ok⟩

instance : Append Output := ⟨append⟩

end Output

/-- Every text on a line of its own. -/
def linesOf (texts : List String) : String :=
  String.join (texts.map fun text => text ++ "\n")

/-- A file cannot be read. -/
def unreadable (file : String) (fault : ReadFault) : Output :=
  ⟨"", linesOf ["error: failed to read " ++ file ++ ": " ++ fault.message], false⟩

/-! ### Checking -/

/-- A report with its suggestions. -/
def reportLines (report : Report) : List String :=
  report.render :: report.suggestions.map fun s => "  help: " ++ s.message

/-- The output about a file. -/
def showFeedback (format : Format) (feedback : Feedback) : Output :=
  match format with
  | .json => ⟨linesOf [feedback.toJson.compact], "", feedback.success⟩
  | .text =>
    ⟨if feedback.success then linesOf ["ok: " ++ feedback.file] else "",
      linesOf (feedback.diagnostics.flatMap reportLines), feedback.success⟩

/-- Check the text of a file. The time that it takes is left at zero. -/
def checkFile (format : Format) (file text : String) : Output :=
  showFeedback format (.ofCheck file text 0)

/-- Check files up to the first one that cannot be read. -/
def checkFiles (format : Format) (read : String → Except ReadFault String) : List String → Output
  | [] => .silent
  | file :: files =>
    match read file with
    | .error fault => unreadable file fault
    | .ok text => checkFile format file text ++ checkFiles format read files

/-! ### One file -/

/-- The fault that ends the work on a file. -/
def showFault (format : Format) (file : String) (fault : Fault) : Output :=
  let report := Report.ofFault file fault
  match format with
  | .json => ⟨linesOf [report.toJson.pretty], "", false⟩
  | .text => ⟨"", linesOf [report.render], false⟩

/-- Line, column, sort and text of a token in columns. -/
def tokenLine (token : Token) : String :=
  String.ofList (padStart 4 (Nat.toDigits 10 token.span.line) ++ [':'] ++
    padEnd 3 (Nat.toDigits 10 token.span.column) ++ [' '] ++
    padEnd 8 token.terminal.category.toList ++ [' '] ++ token.lexeme.toList)

/-- List the tokens of a text, up to its end or the first fault. The list is the same in any format. -/
def listTokens (format : Format) (file text : String) : Output :=
  let drained := (Lexer.ofString text).drain
  let listed : Output := ⟨linesOf (drained.tokens.map tokenLine), "", true⟩
  match drained.fault with
  | none => listed
  | some fault => listed ++ showFault format file fault.toFault

/-- The expressions of a program, one to a line or as a list. -/
def showExpressions (format : Format) (expressions : List String) : Output :=
  match format with
  | .json => ⟨linesOf [(Json.array (expressions.map .ofString)).pretty], "", true⟩
  | .text => ⟨linesOf expressions, "", true⟩

/-- Show how the expressions of a text are grouped, if it is a program. -/
def showTrace (format : Format) (file text : String) : Output :=
  match trace text with
  | (.ok _, record) => showExpressions format record.expressions
  | (.error fault, _) => showFault format file fault

/-- The output of work on the text of a file. -/
def withText (read : String → Except ReadFault String) (file : String)
    (work : String → Output) : Output :=
  match read file with
  | .error fault => unreadable file fault
  | .ok text => work text

/-! ### Requests -/

/-- The output of a command. -/
def Command.output (format : Format) (read : String → Except ReadFault String) : Command → Output
  | .check files => checkFiles format read files
  | .tokens file => withText read file (listTokens format file)
  | .trace file => withText read file (showTrace format file)

/-- The files that a request needs. -/
def Request.files : Request → List String
  | .run _ (.check files) => files
  | .run _ (.tokens file) => [file]
  | .run _ (.trace file) => [file]
  | _ => []

/-- What a program prints on either stream, and its exit code. -/
structure Answer where
  exit : Nat
  stdout : String
  stderr : String
  deriving DecidableEq

/-- How the program is to be used. -/
def usage : String :=
  "Usage: tessc [--format text|json] (check FILE... | tokens FILE | trace FILE)"

/-- The answer to a request, given the texts of files. -/
def Request.answer (read : String → Except ReadFault String) : Request → Answer
  | .run format command =>
    let output := command.output format read
    ⟨if output.ok then 0 else 1, output.stdout, output.stderr⟩
  | .version => ⟨0, linesOf ["tessc 0.1.0"], ""⟩
  | .help => ⟨0, linesOf [usage], ""⟩
  | .misuse => ⟨2, "", linesOf [usage]⟩

end SyntaxCheck
