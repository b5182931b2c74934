import UptimeMonitor.Assertion.Coercion
import UptimeMonitor.Assertion.Outcome
import UptimeMonitor.Board.Basic
import UptimeMonitor.Bytes.Base64
import UptimeMonitor.Bytes.Hex
import UptimeMonitor.Bytes.Lossy
import UptimeMonitor.Bytes.Utf8
import UptimeMonitor.CommandLine.Arguments
import UptimeMonitor.CommandLine.Program
import UptimeMonitor.Config.Basic
import UptimeMonitor.Config.EnvFile
import UptimeMonitor.Config.Environment
import UptimeMonitor.Crypto.Aes
import UptimeMonitor.Crypto.Gcm
import UptimeMonitor.Crypto.P256
import UptimeMonitor.Crypto.Sha256
import UptimeMonitor.Crypto.Tape
import UptimeMonitor.Decimal.Binary64
import UptimeMonitor.Decimal.Integer
import UptimeMonitor.Decimal.Reader
import UptimeMonitor.Decimal.Shortest
import UptimeMonitor.Decimal.Text
import UptimeMonitor.Extract.Path
import UptimeMonitor.Extract.Variables
import UptimeMonitor.Http.Header
import UptimeMonitor.Http.Message
import UptimeMonitor.Http.Method
import UptimeMonitor.Http.Network
import UptimeMonitor.Json.Basic
import UptimeMonitor.Json.Decode
import UptimeMonitor.Json.Draft
import UptimeMonitor.Json.Position
import UptimeMonitor.Json.Reader
import UptimeMonitor.Json.Writer
import UptimeMonitor.Main
import UptimeMonitor.Notify.Chat
import UptimeMonitor.Notify.Config
import UptimeMonitor.Notify.Dispatch
import UptimeMonitor.Notify.Notice
import UptimeMonitor.Notify.Sealing
import UptimeMonitor.Notify.Sender
import UptimeMonitor.Notify.Template
import UptimeMonitor.Pattern.Basic
import UptimeMonitor.Pattern.CharSet
import UptimeMonitor.Pattern.Parser
import UptimeMonitor.Pattern.Property
import UptimeMonitor.Proofs.Assertion.Duals
import UptimeMonitor.Proofs.Assertion.Equality
import UptimeMonitor.Proofs.Assertion.Precedence
import UptimeMonitor.Proofs.Board.EffectiveStatus
import UptimeMonitor.Proofs.Board.History
import UptimeMonitor.Proofs.Board.Retention
import UptimeMonitor.Proofs.Bytes.Base64
import UptimeMonitor.Proofs.Bytes.Spelling
import UptimeMonitor.Proofs.Concurrency.CheckTask
import UptimeMonitor.Proofs.Concurrency.Course
import UptimeMonitor.Proofs.Concurrency.Footprint
import UptimeMonitor.Proofs.Concurrency.KeyPair
import UptimeMonitor.Proofs.Concurrency.Sweeping
import UptimeMonitor.Proofs.Concurrency.Swept
import UptimeMonitor.Proofs.Concurrency.Task
import UptimeMonitor.Proofs.Crypto.Agreement
import UptimeMonitor.Proofs.Crypto.Group
import UptimeMonitor.Proofs.Crypto.Primes
import UptimeMonitor.Proofs.Decimal.Integers
import UptimeMonitor.Proofs.Decimal.Order
import UptimeMonitor.Proofs.Extract.Bodies
import UptimeMonitor.Proofs.Extract.Interpolation
import UptimeMonitor.Proofs.Extract.Navigation
import UptimeMonitor.Proofs.Extract.Paths
import UptimeMonitor.Proofs.Http.RepeatedFields
import UptimeMonitor.Proofs.Http.Routes
import UptimeMonitor.Proofs.Http.Unanswered
import UptimeMonitor.Proofs.Json.Equality
import UptimeMonitor.Proofs.Json.Fields
import UptimeMonitor.Proofs.Json.Members
import UptimeMonitor.Proofs.Json.Nesting
import UptimeMonitor.Proofs.Json.NumberLiterals
import UptimeMonitor.Proofs.Json.Parts
import UptimeMonitor.Proofs.Json.Records
import UptimeMonitor.Proofs.Json.Refilling
import UptimeMonitor.Proofs.Json.RoundTrip
import UptimeMonitor.Proofs.Json.Scalars
import UptimeMonitor.Proofs.Notify.Embeds
import UptimeMonitor.Proofs.Notify.Frame
import UptimeMonitor.Proofs.Notify.Isolation
import UptimeMonitor.Proofs.Notify.Requests
import UptimeMonitor.Proofs.Notify.Sealing
import UptimeMonitor.Proofs.Notify.Tellings
import UptimeMonitor.Proofs.Notify.Templates
import UptimeMonitor.Proofs.Notify.Threshold
import UptimeMonitor.Proofs.Notify.WebPush
import UptimeMonitor.Proofs.Push.Deliveries
import UptimeMonitor.Proofs.Push.Keys
import UptimeMonitor.Proofs.Push.Records
import UptimeMonitor.Proofs.Push.Tokens
import UptimeMonitor.Proofs.Run.Budget
import UptimeMonitor.Proofs.Run.Building
import UptimeMonitor.Proofs.Run.Collection
import UptimeMonitor.Proofs.Run.Failing
import UptimeMonitor.Proofs.Run.Halting
import UptimeMonitor.Proofs.Run.HeaderMerging
import UptimeMonitor.Proofs.Run.Requests
import UptimeMonitor.Proofs.Run.Severity
import UptimeMonitor.Proofs.Run.Steps
import UptimeMonitor.Proofs.Run.Summary
import UptimeMonitor.Proofs.Run.Threading
import UptimeMonitor.Proofs.Script.Defects
import UptimeMonitor.Proofs.Script.Reading
import UptimeMonitor.Proofs.Script.RoundTrip
import UptimeMonitor.Proofs.Script.TypedView
import UptimeMonitor.Proofs.Seed.Filling
import UptimeMonitor.Proofs.Status.History
import UptimeMonitor.Proofs.Status.RollingUp
import UptimeMonitor.Proofs.Status.Window
import UptimeMonitor.Proofs.Store.CheckLog
import UptimeMonitor.Proofs.Store.Counts
import UptimeMonitor.Proofs.Store.Days
import UptimeMonitor.Proofs.Store.Keyed
import UptimeMonitor.Proofs.Store.Newest
import UptimeMonitor.Proofs.Store.NotifyOn
import UptimeMonitor.Proofs.Store.References
import UptimeMonitor.Proofs.Store.Subscriptions
import UptimeMonitor.Proofs.Store.WellFormed
import UptimeMonitor.Proofs.Sweep.Check
import UptimeMonitor.Proofs.Sweep.Debounce
import UptimeMonitor.Proofs.Sweep.Downtime
import UptimeMonitor.Proofs.Sweep.Maintenance
import UptimeMonitor.Proofs.Sweep.Order
import UptimeMonitor.Proofs.Sweep.Restart
import UptimeMonitor.Proofs.Sweep.Runs
import UptimeMonitor.Proofs.Sweep.Transitions
import UptimeMonitor.Proofs.Sweep.Upkeep
import UptimeMonitor.Push.Encryption
import UptimeMonitor.Push.Message
import UptimeMonitor.Push.Vapid
import UptimeMonitor.Run.Basic
import UptimeMonitor.Run.Execution
import UptimeMonitor.Run.Report
import UptimeMonitor.Run.Verdict
import UptimeMonitor.Script.Basic
import UptimeMonitor.Script.Codec
import UptimeMonitor.Script.Validation
import UptimeMonitor.Seed.Basic
import UptimeMonitor.Status.Basic
import UptimeMonitor.Status.Counts
import UptimeMonitor.Status.Effective
import UptimeMonitor.Status.History
import UptimeMonitor.Store.Basic
import UptimeMonitor.Store.Codec
import UptimeMonitor.Store.Keyed
import UptimeMonitor.Store.Record
import UptimeMonitor.Sweep.Basic
import UptimeMonitor.Text.Blank
import UptimeMonitor.Text.LetterCase
import UptimeMonitor.Text.Quoted
import UptimeMonitor.Text.Split
import UptimeMonitor.Time.Date
import UptimeMonitor.Time.Instant
import UptimeMonitor.Time.Reader
import UptimeMonitor.Toml.Reader
import UptimeMonitor.Toml.Scalar
import UptimeMonitor.Toml.Table
import UptimeMonitor.Unicode.BinaryProperty
import UptimeMonitor.Unicode.CaseFolding
import UptimeMonitor.Unicode.GeneralCategory
import UptimeMonitor.Unicode.GraphemeExtend
import UptimeMonitor.Unicode.Script
import UptimeMonitor.Unicode.Word
import UptimeMonitor.Url.Basic
import UptimeMonitor.Url.Domain
import UptimeMonitor.Url.Parser
import UptimeMonitor.Url.Punycode
