import DeskCalc.Text.Ranges
import DeskCalc.Text.Blank
import DeskCalc.Text.Word
import DeskCalc.Text.Printable
import DeskCalc.Text.Quoted
import DeskCalc.Text.Utf8
import DeskCalc.Number.Format
import DeskCalc.Number.Numeral
import DeskCalc.Number.Shortest
import DeskCalc.Number.Layout
import DeskCalc.Number.Scalar
import DeskCalc.Operator.Basic
import DeskCalc.Fault
import DeskCalc.Operator.Apply
import DeskCalc.Token.Basic
import DeskCalc.Token.Lexer
import DeskCalc.Token.Printer
import DeskCalc.Text.ByteOrder
import DeskCalc.Table.Basic
import DeskCalc.Table.Lemmas
import DeskCalc.Formula
import DeskCalc.Trace
import DeskCalc.Evaluation
import DeskCalc.Command.Basic
import DeskCalc.Command.Reader
import DeskCalc.Memory.Basic
import DeskCalc.Memory.Saved
import DeskCalc.Console
import DeskCalc.Main
import DeskCalc.Proofs.Expression.Basic
import DeskCalc.Proofs.Expression.Evaluation
import DeskCalc.Proofs.Expression.Grammar
import DeskCalc.Proofs.Expression.Steps
import DeskCalc.Proofs.Expression.Acceptance
import DeskCalc.Proofs.Expression.Faults
import DeskCalc.Proofs.Expression.Tally
import DeskCalc.Proofs.Expression.Accounts
import DeskCalc.Proofs.Expression.Substitution
import DeskCalc.Proofs.Expression.Groups
import DeskCalc.Proofs.Expression.Shapes
import DeskCalc.Proofs.Text.Words
import DeskCalc.Proofs.Token.Spacing
import DeskCalc.Proofs.Token.OnePass
import DeskCalc.Proofs.Command.Shapes
import DeskCalc.Proofs.Command.Reading
import DeskCalc.Proofs.Number.Rounding
import DeskCalc.Proofs.Number.Nearest
import DeskCalc.Proofs.Number.Grammar
import DeskCalc.Proofs.Number.Printing
import DeskCalc.Proofs.Number.Stored
import DeskCalc.Proofs.Token.Printing
import DeskCalc.Proofs.Text.Decoding
import DeskCalc.Proofs.Memory.Entering
import DeskCalc.Proofs.Console.Lines
import DeskCalc.Proofs.Console.Conversation
import DeskCalc.Proofs.Console.Limits
import DeskCalc.Proofs.Number.Literals
import DeskCalc.Proofs.Token.Literals
import DeskCalc.Proofs.Token.WellFormed
import DeskCalc.Proofs.Token.Scanning
import DeskCalc.Proofs.Command.WellFormed
import DeskCalc.Proofs.Memory.WellFormed
import DeskCalc.Proofs.Memory.Parts
import DeskCalc.Proofs.Memory.History
import DeskCalc.Proofs.Memory.Separation
import DeskCalc.Proofs.Memory.Saved
import DeskCalc.Proofs.Command.Spelling
import DeskCalc.Proofs.Command.Printing
import DeskCalc.Proofs.Memory.Rebuilding
import DeskCalc.Proofs.Memory.Routes
import DeskCalc.Proofs.Memory.Usable
import DeskCalc.Proofs.Memory.Calls
import DeskCalc.Proofs.Command.Refusals
import DeskCalc.Proofs.Memory.Faults
import DeskCalc.Proofs.Command.Trimming
import DeskCalc.Proofs.Memory.Trimming
import DeskCalc.Proofs.Command.Equals
import DeskCalc.Proofs.Number.Characters
import DeskCalc.Proofs.Memory.Quoting
import DeskCalc.Proofs.Console.Newlines
import DeskCalc.Proofs.Memory.Shadowing
import DeskCalc.Proofs.Expression.Levels
import DeskCalc.Proofs.Memory.Commuting
import DeskCalc.Proofs.Table.LastWrite
import DeskCalc.Proofs.Number.Nearest
