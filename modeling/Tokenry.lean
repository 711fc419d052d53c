import Tokenry.Breakdown
import Tokenry.Command
import Tokenry.Command.Arguments
import Tokenry.Command.Path
import Tokenry.Definition
import Tokenry.Document.Cursor
import Tokenry.Document.Node
import Tokenry.Document.Plain
import Tokenry.Document.Read
import Tokenry.Document.Scalar
import Tokenry.Document.Token
import Tokenry.Document.Tokens
import Tokenry.Grammar
import Tokenry.Grammar.Config
import Tokenry.Kind
import Tokenry.Location
import Tokenry.Main
import Tokenry.Matching
import Tokenry.Number.Binary64
import Tokenry.Number.Reading
import Tokenry.Number.Shortest
import Tokenry.Pattern.Fault
import Tokenry.Pattern.Input
import Tokenry.Pattern.Matcher
import Tokenry.Pattern.Node
import Tokenry.Pattern.Parser
import Tokenry.Proofs.Agreement
import Tokenry.Proofs.Attempt
import Tokenry.Proofs.Command
import Tokenry.Proofs.Grammar
import Tokenry.Proofs.Grammar.Format
import Tokenry.Proofs.Grammar.Independence
import Tokenry.Proofs.Grammar.Outcome
import Tokenry.Proofs.Grammar.Rearrangement
import Tokenry.Proofs.Json
import Tokenry.Proofs.Json.RoundTrip
import Tokenry.Proofs.Kind
import Tokenry.Proofs.Kind.Naming
import Tokenry.Proofs.Location
import Tokenry.Proofs.Pattern.Bounds
import Tokenry.Proofs.Pattern.Flawed
import Tokenry.Proofs.Pattern.Store
import Tokenry.Proofs.Rule.Coverage
import Tokenry.Proofs.Rule.Extent
import Tokenry.Proofs.Rule.March
import Tokenry.Proofs.Rule.Record
import Tokenry.Proofs.Rule.Unfolding
import Tokenry.Proofs.Scan.Failure
import Tokenry.Proofs.Scan.Lossless
import Tokenry.Proofs.Scan.Order
import Tokenry.Proofs.Scan.Steps
import Tokenry.Proofs.Schema.Blame
import Tokenry.Proofs.Schema.Containers
import Tokenry.Proofs.Schema.Load
import Tokenry.Proofs.Schema.Report
import Tokenry.Proofs.Schema.RoundTrip
import Tokenry.Proofs.Schema.Soundness
import Tokenry.Proofs.Schema.Stability
import Tokenry.Proofs.Session
import Tokenry.Proofs.Session.Identity
import Tokenry.Proofs.Session.Patterns
import Tokenry.Proofs.Table
import Tokenry.Proofs.Table.Representation
import Tokenry.Proofs.Text.Escaping
import Tokenry.Proofs.Text.Literal
import Tokenry.Proofs.Text.Quoted
import Tokenry.Proofs.Trivia
import Tokenry.Proofs.Value
import Tokenry.Rule.Book
import Tokenry.Rule.Context
import Tokenry.Rule.Production
import Tokenry.Rule.Tree
import Tokenry.Schema
import Tokenry.Schema.Load
import Tokenry.Session
import Tokenry.Table
import Tokenry.Text.Classes
import Tokenry.Text.Folding
import Tokenry.Text.Hex
import Tokenry.Text.Identifier
import Tokenry.Text.Intervals
import Tokenry.Text.Literal
import Tokenry.Text.Printable
import Tokenry.Text.Quoted
import Tokenry.Text.Utf8
import Tokenry.Value
import Tokenry.Value.Json
