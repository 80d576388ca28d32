import LiveArith.Build
import LiveArith.Cache
import LiveArith.Check
import LiveArith.Cli.Config
import LiveArith.Cli.Grammar
import LiveArith.Cli.Help
import LiveArith.Cli.Parse
import LiveArith.Cli.Run
import LiveArith.Diagnostic
import LiveArith.Edit
import LiveArith.Buffer
import LiveArith.Engine
import LiveArith.Expr.Basic
import LiveArith.Expr.Hash
import LiveArith.Expr.Map
import LiveArith.Expr.Print
import LiveArith.Fault
import LiveArith.Files
import LiveArith.Hash.Xxh3
import LiveArith.History
import LiveArith.Json.Doc
import LiveArith.Log.Attr
import LiveArith.Log.Event
import LiveArith.Log.Handler
import LiveArith.Log.Level
import LiveArith.Log.Logger
import LiveArith.Machine.Program
import LiveArith.Main
import LiveArith.Module
import LiveArith.Number.Binary64
import LiveArith.Number.FloatSyntax
import LiveArith.Number.IntSyntax
import LiveArith.Number.Layout
import LiveArith.Number.Power
import LiveArith.Number.Shortest
import LiveArith.Number.Word
import LiveArith.Profile
import LiveArith.Prompt.Field
import LiveArith.Prompt.Match
import LiveArith.Prompt.Model
import LiveArith.Random
import LiveArith.Report
import LiveArith.Script
import LiveArith.Script.Check
import LiveArith.Script.Failure
import LiveArith.Script.Fold
import LiveArith.Script.Parse
import LiveArith.Script.Run
import LiveArith.Script.Token
import LiveArith.Script.Tree
import LiveArith.Session
import LiveArith.Stress
import LiveArith.Syntax.Digest
import LiveArith.Syntax.Kind
import LiveArith.Syntax.Node
import LiveArith.Syntax.Parser
import LiveArith.Syntax.Tree
import LiveArith.Text.Base64
import LiveArith.Text.Blank
import LiveArith.Text.Case
import LiveArith.Text.Cells
import LiveArith.Text.Columns
import LiveArith.Text.Grapheme
import LiveArith.Text.Letter
import LiveArith.Text.Path
import LiveArith.Text.Printable
import LiveArith.Text.Quote
import LiveArith.Text.Ranges
import LiveArith.Text.Unicode17
import LiveArith.Text.Utf8
import LiveArith.Text.Width
import LiveArith.Text.Wrap
import LiveArith.Time.Civil
import LiveArith.Time.Duration
import LiveArith.Time.Layout
import LiveArith.Time.Stamp
import LiveArith.Tool
import LiveArith.Value
import LiveArith.Yaml
import LiveArith.Yaml.Read
import LiveArith.Proofs.Syntax.Grammar
import LiveArith.Proofs.Syntax.Scan
import LiveArith.Proofs.Syntax.Steps
import LiveArith.Proofs.Syntax.Complete
import LiveArith.Proofs.Syntax.Regroup
import LiveArith.Proofs.Syntax.Sound
import LiveArith.Proofs.Syntax.Language
import LiveArith.Proofs.Syntax.Reuse
import LiveArith.Proofs.Syntax.Shape
import LiveArith.Proofs.Syntax.Move
import LiveArith.Proofs.Syntax.Edit
import LiveArith.Proofs.Syntax.Reparse
import LiveArith.Proofs.Machine.Compile
import LiveArith.Proofs.Engine.Cached
import LiveArith.Proofs.Session.OneShot
import LiveArith.Proofs.Engine.Books
import LiveArith.Proofs.Number.Decimal
import LiveArith.Proofs.Syntax.Build
import LiveArith.Proofs.Syntax.Invariant
import LiveArith.Proofs.Number.Rounding
import LiveArith.Proofs.Number.Shortest
import LiveArith.Proofs.Number.Bits
import LiveArith.Proofs.Number.FloatText
import LiveArith.Proofs.Engine.Sweep
import LiveArith.Proofs.Session.Offsets
import LiveArith.Proofs.Engine.Hits
import LiveArith.Proofs.Syntax.Printed
import LiveArith.Proofs.Syntax.Reprint
import LiveArith.Proofs.Expr.Encoding
import LiveArith.Proofs.Module.Lifecycle
import LiveArith.Proofs.Engine.Keys
import LiveArith.Proofs.Prompt.Field
import LiveArith.Proofs.Prompt.Steady
import LiveArith.Proofs.Diagnostic.Snippet
import LiveArith.Proofs.Files.ReadBack
import LiveArith.Proofs.History.Persist
import LiveArith.Proofs.Syntax.Stale
import LiveArith.Proofs.Number.Magnitude
import LiveArith.Proofs.Syntax.Phrase
import LiveArith.Proofs.Cli.Config
import LiveArith.Proofs.Syntax.Seal
import LiveArith.Proofs.Stress.Generator
import LiveArith.Proofs.Stress.Run
