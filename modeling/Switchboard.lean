import Switchboard.Action
import Switchboard.Block
import Switchboard.Block.Boundary
import Switchboard.Call.Event
import Switchboard.Call.Session
import Switchboard.Call.Status
import Switchboard.Config.Dialect
import Switchboard.Config.Environment
import Switchboard.Config.Files
import Switchboard.Config.Load
import Switchboard.Config.Path
import Switchboard.Config.Report
import Switchboard.Config.Value
import Switchboard.Config.VariableFile
import Switchboard.Config.Violation
import Switchboard.Connection
import Switchboard.Connection.Attempt
import Switchboard.Connection.EventQueue
import Switchboard.Connection.Link
import Switchboard.Connection.Retry
import Switchboard.Connection.Settings
import Switchboard.Connection.Status
import Switchboard.Connection.Supervisor
import Switchboard.Correlator
import Switchboard.Decoder
import Switchboard.Dispatch
import Switchboard.Error
import Switchboard.Event
import Switchboard.Event.SipHash
import Switchboard.Frame
import Switchboard.Headers
import Switchboard.Ini
import Switchboard.Job
import Switchboard.Job.Queue
import Switchboard.Json
import Switchboard.Json.Parser
import Switchboard.Json5
import Switchboard.Number.Binary64
import Switchboard.Number.Spelling
import Switchboard.Number.Word
import Switchboard.Originate
import Switchboard.Originate.Template
import Switchboard.Pipeline
import Switchboard.Reconnect
import Switchboard.Response
import Switchboard.Ron
import Switchboard.Settings
import Switchboard.Text.Blank
import Switchboard.Text.Case
import Switchboard.Text.Composition
import Switchboard.Text.Letter
import Switchboard.Text.Mark
import Switchboard.Text.Printable
import Switchboard.Text.Quoted
import Switchboard.Text.Scan
import Switchboard.Text.Table
import Switchboard.Text.Utf8
import Switchboard.Time.Duration
import Switchboard.Time.Span
import Switchboard.Time.Timestamp
import Switchboard.Toml
import Switchboard.Toml.Number
import Switchboard.Toml.Text
import Switchboard.Tracker
import Switchboard.Tracker.Window
import Switchboard.Url
import Switchboard.Url.Direction
import Switchboard.Url.Domain
import Switchboard.Url.Joining
import Switchboard.Url.Mapping
import Switchboard.Url.Punycode
import Switchboard.Webhook
import Switchboard.Yaml
import Switchboard.Yaml.Document
import Switchboard.Yaml.Layout
import Switchboard.Yaml.Lexer
import Switchboard.Yaml.Node
import Switchboard.Yaml.Scalar
import Switchboard.Yaml.Tag
import Switchboard.Yaml.Token
import Switchboard.Proofs.Correlator.Desk
import Switchboard.Proofs.Correlator.Effects
import Switchboard.Proofs.Correlator.Registry
import Switchboard.Proofs.Correlator.Refinement
import Switchboard.Proofs.Exchange.Invariant
import Switchboard.Proofs.Exchange.Pairing
import Switchboard.Proofs.Exchange.Shift
import Switchboard.Proofs.Event.Copy
import Switchboard.Proofs.Dispatch.Table
import Switchboard.Proofs.Tracker.Run
import Switchboard.Proofs.Tracker.Window
import Switchboard.Proofs.Tracker.Memory
import Switchboard.Proofs.Tracker.Redelivery
import Switchboard.Proofs.Call.Record
import Switchboard.Proofs.Tracker.Sessions
import Switchboard.Proofs.Tracker.Refusal
import Switchboard.Proofs.Block.Boundary
import Switchboard.Proofs.Decoder.Arrival
import Switchboard.Proofs.Block.Lines
import Switchboard.Proofs.Text.Blank
import Switchboard.Proofs.Action.Framing
import Switchboard.Proofs.Block.Rendering
import Switchboard.Proofs.Decoder.RoundTrip
import Switchboard.Proofs.Call.Table
import Switchboard.Proofs.Call.Snapshot
import Switchboard.Proofs.Tracker.Status
import Switchboard.Proofs.Tracker.Reports
import Switchboard.Proofs.Tracker.Order
import Switchboard.Proofs.Job.Payload
import Switchboard.Proofs.Job.Queue
import Switchboard.Proofs.Job.Bench
import Switchboard.Proofs.Pipeline.Flow
import Switchboard.Proofs.Pipeline.Requests
import Switchboard.Proofs.Correlator.Attended
import Switchboard.Proofs.Correlator.Closing
import Switchboard.Proofs.Exchange.Closing
import Switchboard.Proofs.Exchange.Echo
import Switchboard.Proofs.Connection.Happening
import Switchboard.Proofs.Connection.Parting
import Switchboard.Proofs.Connection.Attempt
import Switchboard.Proofs.Connection.Ready
import Switchboard.Proofs.Connection.Outcome
import Switchboard.Proofs.Connection.Relay
import Switchboard.Proofs.Tracker.Isolation
import Switchboard.Proofs.Connection.Originating
import Switchboard.Proofs.Tracker.Registration
import Switchboard.Proofs.Decoder.Resync
import Switchboard.Proofs.Decoder.Backlog
import Switchboard.Proofs.Decoder.Limit
import Switchboard.Proofs.Block.Grammar
import Switchboard.Proofs.Event.Fingerprint
import Switchboard.Proofs.Event.Reading
import Switchboard.Proofs.Correlator.Disconnect
import Switchboard.Proofs.Call.Notification
import Switchboard.Proofs.Call.Bridging
import Switchboard.Proofs.Call.Failure
import Switchboard.Proofs.Call.Transparency
import Switchboard.Proofs.Tracker.Bookkeeping
import Switchboard.Proofs.Connection.Precedence
import Switchboard.Proofs.Originate.Template
import Switchboard.Proofs.Originate.Substitution
import Switchboard.Proofs.Action.Building
import Switchboard.Proofs.Action.ReadBack
import Switchboard.Proofs.Headers.Snapshot
import Switchboard.Proofs.Dispatch.Visits
import Switchboard.Proofs.Reconnect.Band
import Switchboard.Proofs.Connection.Retry
import Switchboard.Proofs.Job.Reading
import Switchboard.Proofs.Decoder.Ending
