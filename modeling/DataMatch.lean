import DataMatch.Binary64.Basic
import DataMatch.Binary64.Rounding
import DataMatch.Command.Arguments
import DataMatch.Command.Check
import DataMatch.Command.Files
import DataMatch.Command.Program
import DataMatch.Decimal.Basic
import DataMatch.Decimal.Layout
import DataMatch.Decimal.Shortest
import DataMatch.Decode
import DataMatch.Document
import DataMatch.Error
import DataMatch.Event
import DataMatch.Expectation.Basic
import DataMatch.Expectation.Outline
import DataMatch.Expectation.Record
import DataMatch.Format.Basic
import DataMatch.Format.Csv
import DataMatch.Format.Document
import DataMatch.Format.JsonLines
import DataMatch.Json.Number
import DataMatch.Json.Reader
import DataMatch.Json.Scan
import DataMatch.Json.Text
import DataMatch.Json.Token
import DataMatch.Main
import DataMatch.Match.Compare
import DataMatch.Match.Data
import DataMatch.Match.Demand
import DataMatch.Match.Operator
import DataMatch.Match.Walk
import DataMatch.Path
import DataMatch.Proofs.Comparison
import DataMatch.Proofs.Decision
import DataMatch.Proofs.Elements
import DataMatch.Proofs.Equality
import DataMatch.Proofs.Grammar
import DataMatch.Proofs.Growth
import DataMatch.Proofs.Iteration
import DataMatch.Proofs.JsonLine
import DataMatch.Proofs.Location
import DataMatch.Proofs.Mismatch
import DataMatch.Proofs.Nesting
import DataMatch.Proofs.Ordering
import DataMatch.Proofs.Projection
import DataMatch.Proofs.ReadBack
import DataMatch.Proofs.Reading
import DataMatch.Proofs.Rearranging
import DataMatch.Proofs.Relevance
import DataMatch.Proofs.Relocation
import DataMatch.Proofs.Responses
import DataMatch.Proofs.Stages
import DataMatch.Proofs.Transitivity
import DataMatch.Proofs.Wording
import DataMatch.Report
import DataMatch.Required
import DataMatch.ResponseErrors
import DataMatch.Text.Blank
import DataMatch.Text.Bytes
import DataMatch.Text.Casing
import DataMatch.Text.Integer
import DataMatch.Text.Quoted
import DataMatch.Text.Ranges
import DataMatch.Text.Table.Casing
import DataMatch.Text.Table.Printing
import DataMatch.Time.Calendar
import DataMatch.Time.Format
import DataMatch.Time.Pattern
import DataMatch.Time.Timestamp
import DataMatch.Transform
import DataMatch.Value.Basic
import DataMatch.Value.Comparison
import DataMatch.Value.Lookup
import DataMatch.Yaml.Basic
import DataMatch.Yaml.Encoding
import DataMatch.Yaml.Event
import DataMatch.Yaml.Node
import DataMatch.Yaml.Resolution
import DataMatch.Yaml.Scalar
import DataMatch.Yaml.Scan
import DataMatch.Yaml.Token
import DataMatch.Yaml.Tree
import DataMatch.Proofs.Words
import DataMatch.Proofs.Duality
import DataMatch.Proofs.Literals
import DataMatch.Proofs.Columns
import DataMatch.Proofs.Lines
import DataMatch.Proofs.Presence
import DataMatch.Proofs.Numerals
import DataMatch.Proofs.Calendar
import DataMatch.Proofs.FixedWidth
import DataMatch.Proofs.Timestamps
import DataMatch.Proofs.UtcText
import DataMatch.Proofs.Instants
import DataMatch.Proofs.Patterns
import DataMatch.Proofs.Stability
import DataMatch.Proofs.UtcTransform
import DataMatch.Proofs.Descent
import DataMatch.Proofs.FieldDocuments
import DataMatch.Proofs.IndexKeys
import DataMatch.Proofs.JsonNumbers
import DataMatch.Proofs.JsonText
import DataMatch.Proofs.JsonTokens
import DataMatch.Proofs.ReportedErrors
import DataMatch.Proofs.Rounding
