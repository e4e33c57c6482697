import LineScript.Arithmetic.Form
import LineScript.Construct.Basic
import LineScript.Construct.Inline
import LineScript.Construct.Let
import LineScript.Double.Shortest
import LineScript.Main
import LineScript.Output.Render
import LineScript.Proofs.Construct.Ends
import LineScript.Proofs.Output.Quoting
import LineScript.Proofs.Program.Binding
import LineScript.Proofs.Program.Execution
import LineScript.Proofs.Program.Naming
import LineScript.Proofs.Session.BehindBrace
import LineScript.Proofs.Session.Brackets
import LineScript.Proofs.Session.Expansion
import LineScript.Proofs.Session.FirstFailure
import LineScript.Proofs.Session.IfElse
import LineScript.Proofs.Session.Intact
import LineScript.Proofs.Session.Layout
import LineScript.Proofs.Session.Nesting
import LineScript.Proofs.Session.Overflow
import LineScript.Proofs.Session.Records
import LineScript.Proofs.Session.Strictness
import LineScript.Proofs.Session.Tracing
import LineScript.Proofs.Source.CommentText
import LineScript.Proofs.Source.Stability
import LineScript.Proofs.Symbols.Calls
import LineScript.Proofs.Symbols.Chain
import LineScript.Proofs.Symbols.Identities
import LineScript.Proofs.Symbols.Snapshots
import LineScript.Proofs.Value.Grammars
import LineScript.Session.Exec
import LineScript.Source.Line
import LineScript.Symbols.Alias
import LineScript.Text.Identifier
import LineScript.Value.Literal
import LineScript.Proofs.Construct.Bindings
import LineScript.Proofs.Construct.Keywords
import LineScript.Proofs.Output.Parentheses
import LineScript.Proofs.Program.BareNames
import LineScript.Proofs.Symbols.Listing
import LineScript.Proofs.Value.Refusals
import LineScript.Proofs.Session.BlockWork
import LineScript.Proofs.Arithmetic.LongestMatch
import LineScript.Proofs.Construct.KeywordPlace
import LineScript.Proofs.Output.MatchingPair
