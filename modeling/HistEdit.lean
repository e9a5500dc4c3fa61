import HistEdit.Argument.Error
import HistEdit.Argument.Row
import HistEdit.Argument.Tokens
import HistEdit.Argument.Type
import HistEdit.Canvas
import HistEdit.Clause
import HistEdit.CommandLine
import HistEdit.Configuration
import HistEdit.Configuration.Reader
import HistEdit.Data.Json
import HistEdit.Data.JsonReader
import HistEdit.Data.Toml.Reader
import HistEdit.Data.Toml.Scalar
import HistEdit.Data.Toml.Table
import HistEdit.Data.Value
import HistEdit.Data.Yaml.Node
import HistEdit.Data.Yaml.Reader
import HistEdit.Data.Yaml.Scalar
import HistEdit.Document.Load
import HistEdit.Document.Reader
import HistEdit.Document.Record
import HistEdit.Document.Tree
import HistEdit.Error
import HistEdit.Evaluation
import HistEdit.Expression
import HistEdit.Expression.Cursor
import HistEdit.Expression.Reader
import HistEdit.Expression.Report
import HistEdit.Expression.Segment
import HistEdit.Expression.Substitution
import HistEdit.Field
import HistEdit.FileTree
import HistEdit.Flags
import HistEdit.Function.Action
import HistEdit.Function.Builtin
import HistEdit.Function.Registry
import HistEdit.Grouping
import HistEdit.Groups
import HistEdit.Histogram
import HistEdit.History
import HistEdit.Log
import HistEdit.Log.Filter
import HistEdit.Main
import HistEdit.Number.Binary
import HistEdit.Number.Layout
import HistEdit.Number.Read
import HistEdit.Number.Shortest
import HistEdit.Palette
import HistEdit.Pattern
import HistEdit.Pattern.CharSet
import HistEdit.Pattern.GroupNames
import HistEdit.Pattern.Machine
import HistEdit.Pattern.Program
import HistEdit.Pattern.Reader
import HistEdit.Pattern.Search
import HistEdit.Pattern.Template
import HistEdit.Pattern.Tree
import HistEdit.Program
import HistEdit.Proofs.Agreement
import HistEdit.Proofs.Assignment
import HistEdit.Proofs.BareCall
import HistEdit.Proofs.Binding
import HistEdit.Proofs.BlockBody
import HistEdit.Proofs.Braces
import HistEdit.Proofs.ByteOrder
import HistEdit.Proofs.ByteScan
import HistEdit.Proofs.ByteSearch
import HistEdit.Proofs.CanvasCalls
import HistEdit.Proofs.CheckedValues
import HistEdit.Proofs.ClauseCoding
import HistEdit.Proofs.Cursor
import HistEdit.Proofs.Decimal
import HistEdit.Proofs.Directives
import HistEdit.Proofs.DocumentOrder
import HistEdit.Proofs.Escape
import HistEdit.Proofs.FileFrame
import HistEdit.Proofs.FlagCoding
import HistEdit.Proofs.FlagGrammar
import HistEdit.Proofs.FlagReading
import HistEdit.Proofs.FlagRun
import HistEdit.Proofs.Gathering
import HistEdit.Proofs.Gating
import HistEdit.Proofs.GroupFrame
import HistEdit.Proofs.GroupOperations
import HistEdit.Proofs.GroupRun
import HistEdit.Proofs.GroupTests
import HistEdit.Proofs.Guard
import HistEdit.Proofs.Inlining
import HistEdit.Proofs.Interchange
import HistEdit.Proofs.Laziness
import HistEdit.Proofs.Matches
import HistEdit.Proofs.Metadata
import HistEdit.Proofs.NormalForm
import HistEdit.Proofs.NormalText
import HistEdit.Proofs.OutputFile
import HistEdit.Proofs.OutputOption
import HistEdit.Proofs.Painting
import HistEdit.Proofs.Place
import HistEdit.Proofs.ReachableCanvas
import HistEdit.Proofs.Reading
import HistEdit.Proofs.Registration
import HistEdit.Proofs.Repetition
import HistEdit.Proofs.Replacement
import HistEdit.Proofs.Resolution
import HistEdit.Proofs.Result
import HistEdit.Proofs.Run
import HistEdit.Proofs.Scan
import HistEdit.Proofs.Segment
import HistEdit.Proofs.Selection
import HistEdit.Proofs.Separator
import HistEdit.Proofs.Settlement
import HistEdit.Proofs.Sorting
import HistEdit.Proofs.Splitting
import HistEdit.Proofs.StyleCalls
import HistEdit.Proofs.TemplateReading
import HistEdit.Proofs.Text
import HistEdit.Proofs.Tokens
import HistEdit.Proofs.TrailingGap
import HistEdit.Proofs.Traversal
import HistEdit.Proofs.Tuples
import HistEdit.Proofs.Turns
import HistEdit.Proofs.Twins
import HistEdit.Proofs.Undefined
import HistEdit.Proofs.Versions
import HistEdit.Proofs.WriteBack
import HistEdit.Report
import HistEdit.Subject
import HistEdit.Text.Bytes
import HistEdit.Text.Slice
import HistEdit.Text.Space
import HistEdit.Text.Unicode.CaseOrbit
import HistEdit.Text.Unicode.Category
import HistEdit.Text.Unicode.Property
import HistEdit.Text.Unicode.Ranges
import HistEdit.Text.Unicode.Script
