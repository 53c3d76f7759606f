import FeatureFlags.Binary64.Basic
import FeatureFlags.Binary64.Decimal
import FeatureFlags.Binary64.Shortest
import FeatureFlags.Cache.Basic
import FeatureFlags.Calendar.Date
import FeatureFlags.Calendar.Rfc3339
import FeatureFlags.Calendar.Timestamp
import FeatureFlags.CommandLine
import FeatureFlags.Config.Environment
import FeatureFlags.Config.Error
import FeatureFlags.Config.File
import FeatureFlags.Config.Layer
import FeatureFlags.Config.Load
import FeatureFlags.Config.Resolve
import FeatureFlags.Daemon
import FeatureFlags.Evaluation
import FeatureFlags.Event
import FeatureFlags.Flag.Basic
import FeatureFlags.Flag.Configuration
import FeatureFlags.Flag.Error
import FeatureFlags.Flag.Id
import FeatureFlags.Flag.Key
import FeatureFlags.Flag.Validation
import FeatureFlags.Flag.Value
import FeatureFlags.Hub
import FeatureFlags.Json.Basic
import FeatureFlags.Json.Document
import FeatureFlags.Json.Numeral
import FeatureFlags.Json.Quoted
import FeatureFlags.Json.Reader
import FeatureFlags.Json.Token
import FeatureFlags.Json.Wire
import FeatureFlags.Json.Writer
import FeatureFlags.Log.Filter
import FeatureFlags.Log.Line
import FeatureFlags.Main
import FeatureFlags.Murmur
import FeatureFlags.Pattern.Basic
import FeatureFlags.Pattern.Bracket
import FeatureFlags.Pattern.Escape
import FeatureFlags.Pattern.Expr
import FeatureFlags.Pattern.Match
import FeatureFlags.Pattern.Modes
import FeatureFlags.Pattern.Parser
import FeatureFlags.Pattern.Size
import FeatureFlags.Proofs.Binary64.Decimal
import FeatureFlags.Proofs.Binary64.Nearest
import FeatureFlags.Proofs.Binary64.Reading
import FeatureFlags.Proofs.Binary64.Rounding
import FeatureFlags.Proofs.Binary64.Shortest
import FeatureFlags.Proofs.Cache.Accounts
import FeatureFlags.Proofs.Cache.Entries
import FeatureFlags.Proofs.Cache.Failure
import FeatureFlags.Proofs.Cache.History
import FeatureFlags.Proofs.Cache.Invariant
import FeatureFlags.Proofs.Cache.Loading
import FeatureFlags.Proofs.Cache.Refresh
import FeatureFlags.Proofs.Cache.Removal
import FeatureFlags.Proofs.Cache.Rest
import FeatureFlags.Proofs.Cache.Serving
import FeatureFlags.Proofs.Cache.Slots
import FeatureFlags.Proofs.Calendar.Date
import FeatureFlags.Proofs.Calendar.Rfc3339
import FeatureFlags.Proofs.Config.Environment
import FeatureFlags.Proofs.Config.Layering
import FeatureFlags.Proofs.Daemon
import FeatureFlags.Proofs.Deployment
import FeatureFlags.Proofs.Evaluation.Dependence
import FeatureFlags.Proofs.Evaluation.FirstRule
import FeatureFlags.Proofs.Evaluation.Rollout
import FeatureFlags.Proofs.Evaluation.Serving
import FeatureFlags.Proofs.Event
import FeatureFlags.Proofs.Flag.Fitting
import FeatureFlags.Proofs.Flag.Key
import FeatureFlags.Proofs.Flag.Value
import FeatureFlags.Proofs.Flag.Violation
import FeatureFlags.Proofs.Hub.Conservation
import FeatureFlags.Proofs.Hub.Course
import FeatureFlags.Proofs.Hub.Delivery
import FeatureFlags.Proofs.Hub.History
import FeatureFlags.Proofs.Hub.Invariant
import FeatureFlags.Proofs.Hub.Operations
import FeatureFlags.Proofs.Hub.Owner
import FeatureFlags.Proofs.Hub.Registration
import FeatureFlags.Proofs.Hub.Withdrawal
import FeatureFlags.Proofs.Json.Document
import FeatureFlags.Proofs.Json.Double
import FeatureFlags.Proofs.Json.Equality
import FeatureFlags.Proofs.Json.Number
import FeatureFlags.Proofs.Json.Numeral
import FeatureFlags.Proofs.Json.Quoted
import FeatureFlags.Proofs.Json.Reader
import FeatureFlags.Proofs.Json.Record
import FeatureFlags.Proofs.Json.Reread
import FeatureFlags.Proofs.Json.Text
import FeatureFlags.Proofs.Json.Token
import FeatureFlags.Proofs.Json.Value
import FeatureFlags.Proofs.Json.Wire
import FeatureFlags.Proofs.Publication
import FeatureFlags.Proofs.RoundTrip
import FeatureFlags.Proofs.Rule.Comparison
import FeatureFlags.Proofs.Rule.Compiled
import FeatureFlags.Proofs.Rule.Integer
import FeatureFlags.Proofs.Rule.Membership
import FeatureFlags.Proofs.Rule.Negation
import FeatureFlags.Proofs.Rule.Order
import FeatureFlags.Proofs.Scope
import FeatureFlags.Proofs.Service.Bulk
import FeatureFlags.Proofs.Service.Limits
import FeatureFlags.Proofs.Store.Entries
import FeatureFlags.Proofs.Store.Invariant
import FeatureFlags.Proofs.Store.Isolation
import FeatureFlags.Proofs.Store.Snapshot
import FeatureFlags.Proofs.Store.Upsert
import FeatureFlags.Proofs.Stream.Session
import FeatureFlags.Proofs.Stream.Step
import FeatureFlags.Proofs.Table
import FeatureFlags.Proofs.Text.Digit
import FeatureFlags.Proofs.Text.Split
import FeatureFlags.Proofs.Usage.Aggregator
import FeatureFlags.Proofs.Usage.Stale
import FeatureFlags.Proofs.Usage.Totals
import FeatureFlags.Proofs.Uuid
import FeatureFlags.Proofs.WireFormats
import FeatureFlags.Queue
import FeatureFlags.Rule.Comparison
import FeatureFlags.Rule.Condition
import FeatureFlags.Rule.Operator
import FeatureFlags.Rule.TargetingRule
import FeatureFlags.Scope
import FeatureFlags.Service
import FeatureFlags.Store.Basic
import FeatureFlags.Store.Snapshot
import FeatureFlags.Store.Source
import FeatureFlags.Stream.Basic
import FeatureFlags.Stream.Message
import FeatureFlags.Table
import FeatureFlags.Text.Blank
import FeatureFlags.Text.Digit
import FeatureFlags.Text.Split
import FeatureFlags.Toml.Quoted
import FeatureFlags.Toml.Reader
import FeatureFlags.Toml.Scalar
import FeatureFlags.Toml.Tree
import FeatureFlags.Toml.Value
import FeatureFlags.Unicode.ByteRange
import FeatureFlags.Unicode.CategoryData
import FeatureFlags.Unicode.CharSet
import FeatureFlags.Unicode.FoldingData
import FeatureFlags.Unicode.LowerCase
import FeatureFlags.Unicode.LowerCaseData
import FeatureFlags.Unicode.Property
import FeatureFlags.Unicode.PropertyData
import FeatureFlags.Unicode.ScriptData
import FeatureFlags.Unicode.ScriptExtensionData
import FeatureFlags.Usage
import FeatureFlags.Uuid
