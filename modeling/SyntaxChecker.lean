import SyntaxChecker.Analyser
import SyntaxChecker.Check
import SyntaxChecker.CommandLine
import SyntaxChecker.CommandLine.Arguments
import SyntaxChecker.CommandLine.Request
import SyntaxChecker.CommandLine.Transcript
import SyntaxChecker.Cursor
import SyntaxChecker.Directory
import SyntaxChecker.Event
import SyntaxChecker.Fault
import SyntaxChecker.Fault.CauseGraph
import SyntaxChecker.Grammar
import SyntaxChecker.Lexeme
import SyntaxChecker.Lexer
import SyntaxChecker.Main
import SyntaxChecker.Proofs.Grammar.Predictive
import SyntaxChecker.Proofs.Grammar.Tree
import SyntaxChecker.Rule
import SyntaxChecker.Sink
import SyntaxChecker.Snippet
import SyntaxChecker.SourceText
import SyntaxChecker.Supply
import SyntaxChecker.Symbol
import SyntaxChecker.Text.CodeRange
import SyntaxChecker.Text.DecimalDigit
import SyntaxChecker.Text.Printable
import SyntaxChecker.Text.Quoted
import SyntaxChecker.Text.Word
import SyntaxChecker.Token
import SyntaxChecker.Proofs.Grammar.Viable
import SyntaxChecker.Proofs.Analyser.Journal
import SyntaxChecker.Proofs.Analyser.Prediction
import SyntaxChecker.Proofs.Analyser.Recognition
import SyntaxChecker.Proofs.Analyser.Course
import SyntaxChecker.Proofs.Analyser.ErrorChain
import SyntaxChecker.Proofs.Lexer.LexicalGrammar
import SyntaxChecker.Proofs.Lexer.Place
import SyntaxChecker.Proofs.Lexer.Tokenization
import SyntaxChecker.Proofs.Analyser.Balance
import SyntaxChecker.Proofs.Analyser.SinkFault
import SyntaxChecker.Proofs.Analyser.Origin
import SyntaxChecker.Proofs.Analyser.CalmSinks
import SyntaxChecker.Proofs.Lexer.Lines
import SyntaxChecker.Proofs.Lexer.Deliveries
import SyntaxChecker.Proofs.Lexer.Yield
import SyntaxChecker.Proofs.Caret
import SyntaxChecker.Proofs.Analyser.Depth
import SyntaxChecker.Proofs.Analyser.Accord
import SyntaxChecker.Proofs.OnDemand
import SyntaxChecker.Proofs.Lexer.Stream
import SyntaxChecker.Proofs.Lexer.Session
import SyntaxChecker.Proofs.Lexer.Positions
import SyntaxChecker.Proofs.Analyser.Expectation
import SyntaxChecker.Proofs.Analyser.Lookahead
import SyntaxChecker.Proofs.Lexer.Seam
import SyntaxChecker.Proofs.Analyser.Tee
import SyntaxChecker.Proofs.Analyser.Account
import SyntaxChecker.Proofs.CommandLine.Written
import SyntaxChecker.Proofs.CommandLine.Agreement
import SyntaxChecker.Proofs.Lexer.Printing
import SyntaxChecker.Proofs.Loading
import SyntaxChecker.Proofs.Analyser.TraceText
import SyntaxChecker.Proofs.Lexer.Progress
import SyntaxChecker.Proofs.Analyser.Growth
import SyntaxChecker.Proofs.CauseChain
import SyntaxChecker.Proofs.CommandLine.Files
import SyntaxChecker.Proofs.Quotation
import SyntaxChecker.Proofs.CommandLine.Listing
import SyntaxChecker.Proofs.Analyser.Record
import SyntaxChecker.Proofs.Splitting
