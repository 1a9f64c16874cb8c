import LineScope.Command.Arguments
import LineScope.Command.Report
import LineScope.Command.Run
import LineScope.Config
import LineScope.Error
import LineScope.Files
import LineScope.Grammar.Bundled
import LineScope.Grammar.CSharp.Rules
import LineScope.Grammar.CSharp.Scanner
import LineScope.Grammar.Item
import LineScope.Grammar.Lexicon
import LineScope.Grammar.Parse
import LineScope.Grammar.Pattern
import LineScope.Grammar.Place
import LineScope.Grammar.Production
import LineScope.Grammar.Python.Rules
import LineScope.Grammar.Python.Scanner
import LineScope.Grammar.Rule
import LineScope.Grammar.Rust.Rules
import LineScope.Grammar.Rust.Scanner
import LineScope.Grammar.Stack
import LineScope.Grammar.State
import LineScope.Grammar.Tree
import LineScope.Json.Reader
import LineScope.Json.Value
import LineScope.Json.Writer
import LineScope.Language
import LineScope.LineRange
import LineScope.Main
import LineScope.Parser.Calls
import LineScope.Parser.Handle
import LineScope.Parser.Registry
import LineScope.Parser.Source
import LineScope.Path
import LineScope.Proofs.Command.Column
import LineScope.Proofs.Command.Excerpt
import LineScope.Proofs.Command.Load
import LineScope.Proofs.Command.Status
import LineScope.Proofs.Config.Caseless
import LineScope.Proofs.Config.Extensions
import LineScope.Proofs.LineRange.Grammar
import LineScope.Proofs.LineRange.Written
import LineScope.Proofs.Lookup
import LineScope.Proofs.Parser.Calls
import LineScope.Proofs.Parser.Context
import LineScope.Proofs.Parser.Languages
import LineScope.Proofs.Parser.Session
import LineScope.Proofs.Parser.Verdict
import LineScope.Proofs.Path
import LineScope.Proofs.Summary
import LineScope.Proofs.Text.Case
import LineScope.Proofs.Text.Lenient
import LineScope.Proofs.Text.Lines
import LineScope.Proofs.Text.Numeral
import LineScope.Proofs.Text.Paint
import LineScope.Proofs.Text.Utf8
import LineScope.Proofs.Tree.Composition
import LineScope.Proofs.Tree.Containment
import LineScope.Proofs.Tree.Outermost
import LineScope.Proofs.Tree.Overflow
import LineScope.Proofs.Tree.Preorder
import LineScope.Proofs.Tree.Rendering
import LineScope.Proofs.Tree.RoundTrip
import LineScope.Proofs.Tree.Selection
import LineScope.Proofs.Tree.Shift
import LineScope.Proofs.Tree.Snapshot
import LineScope.Proofs.Tree.Span
import LineScope.Proofs.Tree.Sweep
import LineScope.Proofs.Tree.Visits
import LineScope.Proofs.Tree.Winner
import LineScope.Proofs.Tree.WrappedSpan
import LineScope.Scope
import LineScope.Span
import LineScope.Summary
import LineScope.Text.Case
import LineScope.Text.CaseTable
import LineScope.Text.Identifier
import LineScope.Text.Lines
import LineScope.Text.Numeral
import LineScope.Text.Paint
import LineScope.Text.Quoted
import LineScope.Text.Shortest
import LineScope.Text.Terminal
import LineScope.Text.Utf8
import LineScope.Text.White
import LineScope.Tree.Node
import LineScope.Tree.Outline
import LineScope.Tree.Outline.Edit
import LineScope.Tree.Outline.Json
import LineScope.Tree.Search
import LineScope.Tree.Source
import LineScope.Validity
import LineScope.Word
import LineScope.Yaml.Cursor
import LineScope.Yaml.Form
import LineScope.Yaml.Node
import LineScope.Yaml.Problem
import LineScope.Yaml.Scalar
import LineScope.Yaml.Scanner
import LineScope.Yaml.Token
