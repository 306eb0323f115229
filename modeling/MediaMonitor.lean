import MediaMonitor.Backend
import MediaMonitor.Calendar.Date
import MediaMonitor.Calendar.Instant
import MediaMonitor.Candidate.Browser
import MediaMonitor.Candidate.Query
import MediaMonitor.Candidate.Selection
import MediaMonitor.Candidate.Sort
import MediaMonitor.Deletion.ByteSize
import MediaMonitor.Deletion.Coordinator
import MediaMonitor.Deletion.CrossServer
import MediaMonitor.Deletion.Outcome
import MediaMonitor.Deletion.Progress
import MediaMonitor.Deletion.Reading
import MediaMonitor.Deletion.StreamFrame
import MediaMonitor.Deletion.Tally
import MediaMonitor.Distinct
import MediaMonitor.Error
import MediaMonitor.ErrorNote
import MediaMonitor.Event.Basic
import MediaMonitor.Event.Bus
import MediaMonitor.Event.Decode
import MediaMonitor.Event.Subscription
import MediaMonitor.Http.Backend
import MediaMonitor.Http.Message
import MediaMonitor.Http.Retry
import MediaMonitor.Json.Basic
import MediaMonitor.Json.Reader
import MediaMonitor.Json.Record
import MediaMonitor.Json.Writer
import MediaMonitor.Library.Item
import MediaMonitor.Library.Rule
import MediaMonitor.Log.Directive
import MediaMonitor.Log.Entry
import MediaMonitor.Log.Filter
import MediaMonitor.Log.Forwarder
import MediaMonitor.Log.Level
import MediaMonitor.Log.Pattern
import MediaMonitor.Log.Redaction
import MediaMonitor.Log.Value
import MediaMonitor.Number.Checked
import MediaMonitor.Number.Double
import MediaMonitor.Number.Duration
import MediaMonitor.Number.Literal
import MediaMonitor.Number.Rounding
import MediaMonitor.RunId
import MediaMonitor.Scenario.Delivery
import MediaMonitor.Scenario.Script
import MediaMonitor.Scenario.Service
import MediaMonitor.Scenario.World
import MediaMonitor.Service
import MediaMonitor.Settings
import MediaMonitor.SortedMap
import MediaMonitor.Sse.Parser
import MediaMonitor.Sync.Key
import MediaMonitor.Sync.Launch
import MediaMonitor.Sync.Operation
import MediaMonitor.Sync.Status
import MediaMonitor.Sync.Table
import MediaMonitor.Sync.Tracker
import MediaMonitor.Text.Alphanumeric
import MediaMonitor.Text.Blank
import MediaMonitor.Text.Hexadecimal
import MediaMonitor.Text.Integer
import MediaMonitor.Text.LowerCase
import MediaMonitor.Text.Octets
import MediaMonitor.Text.Percent
import MediaMonitor.Text.Printable
import MediaMonitor.Text.Quoted
import MediaMonitor.Text.Split
import MediaMonitor.Text.Utf8
import MediaMonitor.Proofs.RunId
import MediaMonitor.Proofs.Sse.Parser
import MediaMonitor.Proofs.Sse.Blocks
import MediaMonitor.Proofs.Text.Blank
import MediaMonitor.Proofs.Text.Utf8
import MediaMonitor.Proofs.Text.Chunks
import MediaMonitor.Proofs.Candidate.Browser
import MediaMonitor.Proofs.Deletion.Digest
import MediaMonitor.Proofs.Deletion.Coherence
import MediaMonitor.Proofs.Deletion.Move
import MediaMonitor.Proofs.Deletion.Course
import MediaMonitor.Proofs.Deletion.LatestRun
import MediaMonitor.Proofs.Deletion.RunEvents
import MediaMonitor.Proofs.Deletion.Tally
import MediaMonitor.Proofs.Deletion.Reconciled
import MediaMonitor.Proofs.Deletion.Classified
import MediaMonitor.Proofs.Deletion.Verdict
import MediaMonitor.Proofs.Deletion.SoleRun
import MediaMonitor.Proofs.Deletion.Cancellation
import MediaMonitor.Proofs.Deletion.Frames
import MediaMonitor.Proofs.Deletion.Skipping
import MediaMonitor.Proofs.Deletion.Account
import MediaMonitor.Proofs.Deletion.FinalFrame
import MediaMonitor.Proofs.Deletion.CrossServer
import MediaMonitor.Proofs.Sync.Table
import MediaMonitor.Proofs.Sync.Course
import MediaMonitor.Proofs.Sync.Journal
import MediaMonitor.Proofs.Sync.Stays
import MediaMonitor.Proofs.Sync.Cadence
import MediaMonitor.Proofs.Sync.Registration
import MediaMonitor.Proofs.Sync.Line
import MediaMonitor.Proofs.Sync.Failures
import MediaMonitor.Proofs.Sync.Launch
import MediaMonitor.Proofs.Deletion.Selected
import MediaMonitor.Proofs.Sync.Keys
import MediaMonitor.Proofs.Sync.View
import MediaMonitor.Proofs.Sync.Tick
import MediaMonitor.Proofs.Sync.Apart
import MediaMonitor.Proofs.Sync.Shutdown
import MediaMonitor.Proofs.Text.Integer
import MediaMonitor.Proofs.Json.Legible
import MediaMonitor.Proofs.Json.Record
import MediaMonitor.Proofs.SortedMap
import MediaMonitor.Proofs.Calendar.Instant
import MediaMonitor.Proofs.Records
import MediaMonitor.Proofs.Sync.HandOver
import MediaMonitor.Proofs.Http.Requests
import MediaMonitor.Proofs.Scenario.Calls
import MediaMonitor.Proofs.Scenario.Service
import MediaMonitor.Proofs.Text.Percent
import MediaMonitor.Proofs.Sync.Encoding
import MediaMonitor.Proofs.Candidate.Query
import MediaMonitor.Proofs.Deletion.Reclaimed
import MediaMonitor.Proofs.Json.Prefix
import MediaMonitor.Proofs.Http.ErrorBody
import MediaMonitor.Proofs.Traversal
import MediaMonitor.Proofs.Number.Rounding
import MediaMonitor.Proofs.Deletion.ByteSize
import MediaMonitor.Proofs.Log.Redaction
import MediaMonitor.Proofs.Log.Secrecy
import MediaMonitor.Proofs.Json.Respelling
import MediaMonitor.Proofs.Compatibility
import MediaMonitor.Proofs.Number.Checked
import MediaMonitor.Proofs.Number.Duration
import MediaMonitor.Proofs.Http.Retry
import MediaMonitor.Proofs.Deletion.ByteUnit
import MediaMonitor.Proofs.Settings
import MediaMonitor.Proofs.Event.Receiver
import MediaMonitor.Proofs.Event.Listening
