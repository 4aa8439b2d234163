import Recordwise.Binding
import Recordwise.Builtin
import Recordwise.Calendar.Date
import Recordwise.Calendar.Instant
import Recordwise.Calendar.LocalTime
import Recordwise.Charset
import Recordwise.DatePattern.Basic
import Recordwise.DatePattern.Cache
import Recordwise.DatePattern.Reading
import Recordwise.DatePattern.Writing
import Recordwise.Decimal.Dyadic
import Recordwise.Decimal.Reading
import Recordwise.Decimal.Shortest
import Recordwise.Document.Basic
import Recordwise.Document.Format
import Recordwise.Document.Json
import Recordwise.Document.Json.Number
import Recordwise.Document.Toml.Line
import Recordwise.Document.Toml.Scalar
import Recordwise.Document.Toml.Tree
import Recordwise.Evaluation.Context
import Recordwise.Evaluation.Eval
import Recordwise.Evaluation.Expression
import Recordwise.Failure
import Recordwise.Functions.Argument
import Recordwise.Functions.Choice
import Recordwise.Functions.Numeric
import Recordwise.Functions.Signature
import Recordwise.Functions.Temporal
import Recordwise.Functions.Text
import Recordwise.Log
import Recordwise.Proofs.Binding.Arrival
import Recordwise.Proofs.Binding.Consistency
import Recordwise.Proofs.Binding.Lookup
import Recordwise.Proofs.Calendar.NextDay
import Recordwise.Proofs.Calendar.Numbering
import Recordwise.Proofs.Calendar.Shown
import Recordwise.Proofs.DatePattern.BlankEnds
import Recordwise.Proofs.DatePattern.EmptyLiteral
import Recordwise.Proofs.DatePattern.Keeping
import Recordwise.Proofs.DatePattern.Segmentation
import Recordwise.Proofs.DatePattern.Separators
import Recordwise.Proofs.DatePattern.Spelling
import Recordwise.Proofs.DatePattern.WrittenDate
import Recordwise.Proofs.Decimal.Arithmetic
import Recordwise.Proofs.Decimal.Conversion
import Recordwise.Proofs.Decimal.Denotation
import Recordwise.Proofs.Decimal.Encoding
import Recordwise.Proofs.Decimal.Integral
import Recordwise.Proofs.Decimal.Nearest
import Recordwise.Proofs.Decimal.Order
import Recordwise.Proofs.Decimal.Rounding
import Recordwise.Proofs.Decimal.Written
import Recordwise.Proofs.Evaluation.CacheIndependence
import Recordwise.Proofs.Evaluation.Coherence
import Recordwise.Proofs.Evaluation.IntegerComparison
import Recordwise.Proofs.Evaluation.Lookups
import Recordwise.Proofs.Evaluation.Refusing
import Recordwise.Proofs.Evaluation.Running
import Recordwise.Proofs.Failure.EveryMember
import Recordwise.Proofs.Failure.FailsWith
import Recordwise.Proofs.Failure.Refusal
import Recordwise.Proofs.Functions.CalendarParts
import Recordwise.Proofs.Functions.DateNormalization
import Recordwise.Proofs.Functions.EpochRoundTrip
import Recordwise.Proofs.Functions.FormatOrder
import Recordwise.Proofs.Functions.IntegerArithmetic
import Recordwise.Proofs.Functions.NullArguments
import Recordwise.Proofs.Functions.OffCalendar
import Recordwise.Proofs.Functions.Refusing
import Recordwise.Proofs.Functions.Substring
import Recordwise.Proofs.Listing.Distinct
import Recordwise.Proofs.Listing.Lookup
import Recordwise.Proofs.Query.Accepting
import Recordwise.Proofs.Query.Diagnosing
import Recordwise.Proofs.Query.Grammar
import Recordwise.Proofs.Query.Layout
import Recordwise.Proofs.Query.Lexing
import Recordwise.Proofs.Query.Parsing
import Recordwise.Proofs.Query.Precedence
import Recordwise.Proofs.Query.Quoting
import Recordwise.Proofs.Query.Resolution
import Recordwise.Proofs.Query.Rewriting
import Recordwise.Proofs.Query.RoundTrip
import Recordwise.Proofs.Query.Tokens
import Recordwise.Proofs.Record.Acceptance
import Recordwise.Proofs.Record.Cutting
import Recordwise.Proofs.Record.DelimitedRoundTrip
import Recordwise.Proofs.Record.Expressiveness
import Recordwise.Proofs.Record.KeyedAcceptance
import Recordwise.Proofs.Record.KeyedReading
import Recordwise.Proofs.Record.KeyedRoundTrip
import Recordwise.Proofs.Record.Rejecting
import Recordwise.Proofs.Record.Splitting
import Recordwise.Proofs.Record.Transport
import Recordwise.Proofs.Settings.UsableFormats
import Recordwise.Proofs.Text.Utf8
import Recordwise.Proofs.Transform.Contributions
import Recordwise.Proofs.Transform.Creation
import Recordwise.Proofs.Transform.Delivery
import Recordwise.Proofs.Transform.EntryOrder
import Recordwise.Proofs.Transform.Failures
import Recordwise.Proofs.Transform.History
import Recordwise.Proofs.Transform.OffCalendar
import Recordwise.Proofs.Transform.Reporting
import Recordwise.Proofs.Transform.Result
import Recordwise.Proofs.Transform.SelectOrder
import Recordwise.Proofs.Value.IntegerReading
import Recordwise.Proofs.Value.Numbers
import Recordwise.Proofs.Zone.Earliest
import Recordwise.Query.Diagnosis
import Recordwise.Query.Parser
import Recordwise.Query.Plan
import Recordwise.Query.Printer
import Recordwise.Query.Syntax
import Recordwise.Query.Token
import Recordwise.Record.Codec
import Recordwise.Record.Delimited
import Recordwise.Record.Escape
import Recordwise.Record.Keyed
import Recordwise.Schema
import Recordwise.Settings.Basic
import Recordwise.Settings.Document
import Recordwise.Settings.Pipeline
import Recordwise.Text.Blank
import Recordwise.Text.CaseMapping
import Recordwise.Text.CaseTable
import Recordwise.Text.Utf8
import Recordwise.Transform
import Recordwise.Value
import Recordwise.Zone.Basic
import Recordwise.Zone.Find
import Recordwise.Zone.Table
