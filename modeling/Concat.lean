import Concat.Console.Complete
import Concat.Console.Files
import Concat.Console.Highlight
import Concat.Console.History
import Concat.Console.Limit
import Concat.Console.LineReader
import Concat.Console.Repl
import Concat.Console.Runner
import Concat.Console.Transcript
import Concat.Dictionary
import Concat.Machine.Basic
import Concat.Machine.Run
import Concat.Main
import Concat.Prelude
import Concat.Proofs.Nesting
import Concat.Proofs.Rules
import Concat.Proofs.Runs
import Concat.Program
import Concat.Reading
import Concat.Report.Basic
import Concat.Report.Render
import Concat.Report.Source
import Concat.Session
import Concat.Span
import Concat.Stack
import Concat.Text.Blank
import Concat.Text.Grapheme
import Concat.Text.Pad
import Concat.Text.Quote
import Concat.Text.Width
import Concat.Token
import Concat.Tree.Basic
import Concat.Tree.Printer
import Concat.Tree.Walk
import Concat.Proofs.Repair
import Concat.Proofs.RoundTrip
import Concat.Proofs.Atomicity
import Concat.Proofs.Splitting
import Concat.Proofs.Segmentation
import Concat.Proofs.BareTokens
import Concat.Proofs.Reaching
import Concat.Proofs.StackWords
import Concat.Proofs.BooleanWords
import Concat.Proofs.Continuation
import Concat.Proofs.ByteOrder
import Concat.Proofs.Completion
import Concat.Proofs.Highlighting
import Concat.Proofs.DepthWalk
import Concat.Proofs.Containers
