import ValueSchema.BigInt
import ValueSchema.Calendar.Day
import ValueSchema.Calendar.Instant
import ValueSchema.Calendar.Timestamp
import ValueSchema.Check
import ValueSchema.Codec
import ValueSchema.Context
import ValueSchema.Double.Basic
import ValueSchema.Double.Decimal
import ValueSchema.Double.Shortest
import ValueSchema.Double.Text
import ValueSchema.Format.Accepts
import ValueSchema.Format.Address
import ValueSchema.Format.Host
import ValueSchema.Format.Text
import ValueSchema.Format.Url
import ValueSchema.Issue
import ValueSchema.Json.Basic
import ValueSchema.Json.Reader
import ValueSchema.Key
import ValueSchema.Leaf.Basic
import ValueSchema.Leaf.Date
import ValueSchema.Leaf.Exact
import ValueSchema.Leaf.Number
import ValueSchema.Leaf.Text
import ValueSchema.Message
import ValueSchema.Object
import ValueSchema.Parse
import ValueSchema.Path
import ValueSchema.Pattern.Bracket
import ValueSchema.Pattern.CharClass
import ValueSchema.Pattern.Flags
import ValueSchema.Pattern.Reader
import ValueSchema.Pattern.Regex
import ValueSchema.Pattern.Sign
import ValueSchema.Power
import ValueSchema.Report
import ValueSchema.Schema.Basic
import ValueSchema.Schema.Discriminated
import ValueSchema.Schema.Kinds
import ValueSchema.Schema.Shape
import ValueSchema.Schema.Validate
import ValueSchema.Text.Blank
import ValueSchema.Text.Casing
import ValueSchema.Text.CasingTable
import ValueSchema.Text.CategoryTable
import ValueSchema.Text.Digits
import ValueSchema.Text.FoldingTable
import ValueSchema.Text.HostTable
import ValueSchema.Text.Parts
import ValueSchema.Text.PropertyTable
import ValueSchema.Text.Punycode
import ValueSchema.Text.Quoted
import ValueSchema.Text.Runs
import ValueSchema.Text.ScriptTable
import ValueSchema.Text.VisibilityTable
import ValueSchema.Validator.Basic
import ValueSchema.Validator.Choice
import ValueSchema.Validator.Collection
import ValueSchema.Validator.Size
import ValueSchema.Validator.Wrapper
import ValueSchema.Value.Basic
import ValueSchema.Value.Coerce
import ValueSchema.Value.Json
import ValueSchema.Value.Merge
import ValueSchema.Value.Same
import ValueSchema.Proofs.Schema.Parts
import ValueSchema.Proofs.Schema.Runs
import ValueSchema.Proofs.Explained
import ValueSchema.Proofs.Union.Kinds
import ValueSchema.Proofs.Validator.Accepted
import ValueSchema.Proofs.Union.Order
import ValueSchema.Proofs.Modes.Abridged
import ValueSchema.Proofs.Modes.Collections
import ValueSchema.Proofs.Modes.Choices
import ValueSchema.Proofs.Modes.EntryPoints
import ValueSchema.Proofs.Guard
import ValueSchema.Proofs.Leaf.Stable
import ValueSchema.Proofs.Stability.Collections
import ValueSchema.Proofs.Stability.Schemas
import ValueSchema.Proofs.Budget.Heights
import ValueSchema.Proofs.Budget.Extends
import ValueSchema.Proofs.Budget.Suffices
import ValueSchema.Proofs.Value.Same
import ValueSchema.Proofs.Union.Tags
import ValueSchema.Proofs.Place.Located
import ValueSchema.Proofs.Budget.Guarded
import ValueSchema.Proofs.Order.Alike
import ValueSchema.Proofs.Order.Built
import ValueSchema.Proofs.Order.Meets
import ValueSchema.Proofs.Order.Collections
import ValueSchema.Proofs.Order.Schemas
import ValueSchema.Proofs.Value.Compatible
import ValueSchema.Proofs.Intersection
import ValueSchema.Proofs.Codec.RoundTrip
import ValueSchema.Proofs.Value.WellFormed
import ValueSchema.Proofs.Repetition
import ValueSchema.Proofs.Words.Reworded
import ValueSchema.Proofs.Words.Combinators
import ValueSchema.Proofs.Words.Schemas
import ValueSchema.Proofs.Breakdown.Basic
import ValueSchema.Proofs.Breakdown.Collections
import ValueSchema.Proofs.Breakdown.Objects
import ValueSchema.Proofs.Value.DeepMerge
import ValueSchema.Proofs.Object.OptionalFields
import ValueSchema.Proofs.Value.Equality
import ValueSchema.Proofs.Value.Occurrences
import ValueSchema.Proofs.Object.Composition
import ValueSchema.Proofs.Object.Required
import ValueSchema.Proofs.Value.ThroughJson
import ValueSchema.Proofs.Text.Numerals
import ValueSchema.Proofs.Double.FromText
import ValueSchema.Proofs.BigInt.Conversion
import ValueSchema.Proofs.Calendar.SameDay
import ValueSchema.Proofs.Calendar.Millis
import ValueSchema.Proofs.Calendar.Printed
import ValueSchema.Proofs.Builder.Pipelines
import ValueSchema.Proofs.Report.Flattened
import ValueSchema.Proofs.Object.AnyNames
import ValueSchema.Proofs.Codec.EntryPoints
import ValueSchema.Proofs.Key.Chained
import ValueSchema.Proofs.Place.Written
