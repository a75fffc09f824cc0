import FlatProjection.Catalog.Basic
import FlatProjection.Catalog.Load
import FlatProjection.CommandLine.Command
import FlatProjection.CommandLine.Parse
import FlatProjection.CommandLine.Run
import FlatProjection.Config.Basic
import FlatProjection.Config.Load
import FlatProjection.Eval.Interpreter
import FlatProjection.Eval.Machine
import FlatProjection.Eval.Value
import FlatProjection.Expr.Basic
import FlatProjection.Expr.Codec
import FlatProjection.Expr.Equality
import FlatProjection.Expr.Render
import FlatProjection.Expr.Type
import FlatProjection.Host.Files
import FlatProjection.Json.Decode
import FlatProjection.Json.Reader
import FlatProjection.Json.Value
import FlatProjection.Json.Writer
import FlatProjection.Lowering.Basic
import FlatProjection.Main
import FlatProjection.Number.Binary64
import FlatProjection.Number.Layout
import FlatProjection.Number.Nearest
import FlatProjection.Number.Shortest
import FlatProjection.Plan.Basic
import FlatProjection.Projection.Parser
import FlatProjection.Projection.Step
import FlatProjection.Projection.Term
import FlatProjection.Flatten.Policy
import FlatProjection.Flatten.Flattener
import FlatProjection.Flatten.Shape
import FlatProjection.Proofs.Traversal
import FlatProjection.Proofs.Flatten.Layout
import FlatProjection.Proofs.Flatten.Outcome
import FlatProjection.Proofs.Flatten.Regroup
import FlatProjection.Proofs.Flatten.RoundTrip
import FlatProjection.Proofs.Flatten.FlatTuple
import FlatProjection.Proofs.Flatten.Typing
import FlatProjection.Proofs.Flatten.Fields
import FlatProjection.Proofs.Eval.Grouping
import FlatProjection.Proofs.Eval.Equations
import FlatProjection.Proofs.Eval.Scope
import FlatProjection.Proofs.Eval.GroupBy
import FlatProjection.Proofs.Eval.Frame
import FlatProjection.Proofs.Projection.Lexical
import FlatProjection.Proofs.Projection.Tokens
import FlatProjection.Proofs.Projection.Grammar
import FlatProjection.Proofs.Projection.Language
import FlatProjection.Text.Alphabetic
import FlatProjection.Text.Blank
import FlatProjection.Text.Ranges
import FlatProjection.Text.Similarity
import FlatProjection.Yaml.Document
import FlatProjection.Yaml.Event
import FlatProjection.Yaml.Read
import FlatProjection.Yaml.Scanner
import FlatProjection.Yaml.Token
import FlatProjection.Proofs.Lowering.Resolution
import FlatProjection.Proofs.Json.Decoding
import FlatProjection.Proofs.Plan.Codec
import FlatProjection.Proofs.Catalog.TypeText
import FlatProjection.Proofs.Catalog.Loading
import FlatProjection.Proofs.Eval.JsonForm
import FlatProjection.Proofs.Projection.Failures
