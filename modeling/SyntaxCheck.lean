import SyntaxCheck.Journal
import SyntaxCheck.Main
import SyntaxCheck.Proofs.Grammar.Basic
import SyntaxCheck.Proofs.Grammar.Derivation
import SyntaxCheck.Proofs.Grammar.Lookahead
import SyntaxCheck.Proofs.Derivation.Expression
import SyntaxCheck.Proofs.Grammar.Meaning
import SyntaxCheck.Proofs.Recognizer.Symbols
import SyntaxCheck.Proofs.Recognizer.Record
import SyntaxCheck.Proofs.Recognizer.Following
import SyntaxCheck.Proofs.Lexer.Drain
import SyntaxCheck.Proofs.Recognizer.Run
import SyntaxCheck.Proofs.Grammar.Completion
import SyntaxCheck.Proofs.Recognizer.Tracking
import SyntaxCheck.Proofs.Recognizer.Language
import SyntaxCheck.Proofs.Recognizer.Trace
import SyntaxCheck.Proofs.Lexeme.Exact
import SyntaxCheck.Proofs.Lexeme.LongestMatch
import SyntaxCheck.Proofs.Lexer.Scans
import SyntaxCheck.Proofs.Grammar.Ending
import SyntaxCheck.Proofs.Recognizer.Lead
import SyntaxCheck.Proofs.Recognizer.Viability
import SyntaxCheck.Proofs.Lexer.Calls
import SyntaxCheck.Proofs.Lexer.Tiling
import SyntaxCheck.Proofs.Grammar.Composition
import SyntaxCheck.Proofs.Recognizer.Lockstep
import SyntaxCheck.Proofs.Recognizer.Regrouping
import SyntaxCheck.Proofs.Derivation.Operands
import SyntaxCheck.Proofs.Recognizer.History
import SyntaxCheck.Proofs.Recognizer.Supply
import SyntaxCheck.Proofs.Lexer.Progress
import SyntaxCheck.Proofs.Recognizer.Stream
import SyntaxCheck.Proofs.Recognizer.Repetition
import SyntaxCheck.Proofs.Json.Roundtrip
import SyntaxCheck.Proofs.Json.Layout
import SyntaxCheck.Proofs.Json.Record
import SyntaxCheck.Proofs.Report.Roundtrip
import SyntaxCheck.Proofs.Lexeme.Line
import SyntaxCheck.Proofs.Lexer.Lines
import SyntaxCheck.Proofs.Recognizer.Transport
import SyntaxCheck.Proofs.Recognizer.Locality
import SyntaxCheck.Proofs.Recognizer.Concatenation
import SyntaxCheck.Proofs.Text.SingleLine
import SyntaxCheck.Proofs.Lexeme.SingleLine
import SyntaxCheck.Proofs.Report.Location
import SyntaxCheck.Proofs.CommandLine.Files
import SyntaxCheck.Proofs.Recognizer.Remarks
import SyntaxCheck.Proofs.Recognizer.SingleLine
import SyntaxCheck.Proofs.CommandLine.Lines
import SyntaxCheck.Proofs.CommandLine.Agreement
import SyntaxCheck.Proofs.Recognizer.Watched
import SyntaxCheck.Proofs.Recognizer.Scanned
import SyntaxCheck.Proofs.Recognizer.Journal
import SyntaxCheck.Proofs.Grammar.Balance
import SyntaxCheck.Proofs.Recognizer.Nesting
import SyntaxCheck.Proofs.Recognizer.Closing
import SyntaxCheck.Proofs.Lexer.Exhaustion
import SyntaxCheck.Proofs.Lexer.Separation
import SyntaxCheck.Proofs.Recognizer.Foresight
import SyntaxCheck.Proofs.Recognizer.Headings
import SyntaxCheck.Proofs.Report.Parenthesis
import SyntaxCheck.Proofs.Recognizer.Pace
import SyntaxCheck.Proofs.Recognizer.Budget
import SyntaxCheck.Proofs.Derivation.Postfix
import SyntaxCheck.Proofs.Lexer.Literals
import SyntaxCheck.Proofs.Binary64.Value
import SyntaxCheck.Proofs.Binary64.Rounding
import SyntaxCheck.Proofs.Lexer.Doubles
import SyntaxCheck.Proofs.Json.Variant
import SyntaxCheck.Proofs.Recognizer.Reliance
import SyntaxCheck.Proofs.Json.Exact
import SyntaxCheck.Proofs.Report.Loading
import SyntaxCheck.Proofs.Binary64.Shortest
import SyntaxCheck.Proofs.Text.Quoted
import SyntaxCheck.Proofs.Binary64.Text
import SyntaxCheck.Proofs.Recognizer.Messages
