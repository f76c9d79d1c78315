import HostMonitor.Agent
import HostMonitor.Agent.Local
import HostMonitor.Agent.Scene
import HostMonitor.Check.Aggregator
import HostMonitor.Check.Command
import HostMonitor.Check.Execution
import HostMonitor.Check.Filter
import HostMonitor.Check.Message
import HostMonitor.Check.Report
import HostMonitor.Check.Runner
import HostMonitor.Check.Status
import HostMonitor.Companion
import HostMonitor.Config
import HostMonitor.Dialogue
import HostMonitor.Digest.Sha1
import HostMonitor.Failure
import HostMonitor.Files.Path
import HostMonitor.Files.Tree
import HostMonitor.Host.IdFile
import HostMonitor.Host.Machine
import HostMonitor.Host.Record
import HostMonitor.Host.Refresher
import HostMonitor.Host.Registration
import HostMonitor.Iteration
import HostMonitor.Json.Form
import HostMonitor.Json.Reader
import HostMonitor.Json.Value
import HostMonitor.Json.Writer
import HostMonitor.Launch
import HostMonitor.Main
import HostMonitor.Metric.Builtin
import HostMonitor.Metric.Delta
import HostMonitor.Metric.Key
import HostMonitor.Metric.Producer
import HostMonitor.Metric.Sample
import HostMonitor.Number.Binary64
import HostMonitor.Number.Power
import HostMonitor.Number.Shortest
import HostMonitor.Posting.Ingest
import HostMonitor.Posting.Mode
import HostMonitor.Posting.Offset
import HostMonitor.Posting.Pipeline
import HostMonitor.Posting.Queue
import HostMonitor.Posting.Scheduler
import HostMonitor.Proofs.Posting.Custody
import HostMonitor.Proofs.Posting.Drain
import HostMonitor.Proofs.Posting.Ledger
import HostMonitor.Proofs.Posting.Move
import HostMonitor.Proofs.Posting.Pacing
import HostMonitor.Proofs.Posting.Queue
import HostMonitor.Proofs.Posting.Run
import HostMonitor.Proofs.Posting.Termination
import HostMonitor.Regex.Reader
import HostMonitor.Regex.Syntax
import HostMonitor.Rehearsal.Checking
import HostMonitor.Rehearsal.Exchanging
import HostMonitor.Rehearsal.Ingesting
import HostMonitor.Rehearsal.Launching
import HostMonitor.Rehearsal.Log
import HostMonitor.Rehearsal.Play
import HostMonitor.Rehearsal.Posting
import HostMonitor.Rehearsal.Producing
import HostMonitor.Rehearsal.Refreshing
import HostMonitor.Rehearsal.Registering
import HostMonitor.Rehearsal.Running
import HostMonitor.Rehearsal.Script
import HostMonitor.Rehearsal.Steps
import HostMonitor.Rehearsal.Stopping
import HostMonitor.Rehearsal.Storing
import HostMonitor.Service.Call
import HostMonitor.Service.Error
import HostMonitor.Service.Product
import HostMonitor.Service.Request
import HostMonitor.Service.Response
import HostMonitor.Service.Retry
import HostMonitor.Shell.Arithmetic
import HostMonitor.Shell.Format
import HostMonitor.Shell.Reader
import HostMonitor.Shell.Run
import HostMonitor.Shell.Session
import HostMonitor.Shell.Syntax
import HostMonitor.Shell.Token
import HostMonitor.Shutdown.Fanout
import HostMonitor.Shutdown.Signals
import HostMonitor.Table
import HostMonitor.Text.Blank
import HostMonitor.Text.CaseTable
import HostMonitor.Text.Quoted
import HostMonitor.Text.Uppercase
import HostMonitor.Text.Utf8
import HostMonitor.Text.WordTable
import HostMonitor.Time.Calendar
import HostMonitor.Time.Instant
import HostMonitor.Time.Moment
import HostMonitor.Time.Rfc3339
import HostMonitor.Time.Span
import HostMonitor.Time.Ticker
import HostMonitor.Toml.Reader
import HostMonitor.Toml.Scalar
import HostMonitor.Toml.Value
import HostMonitor.Web.Percent
import HostMonitor.Web.Url
import HostMonitor.Proofs.Posting.Posts
import HostMonitor.Proofs.Posting.Retries
import HostMonitor.Proofs.Posting.Effort
import HostMonitor.Proofs.Posting.Completion
import HostMonitor.Proofs.Posting.Backpressure
import HostMonitor.Proofs.Posting.Precedence
import HostMonitor.Proofs.Posting.Mailbox
import HostMonitor.Proofs.Posting.Rounds
import HostMonitor.Proofs.Posting.Sends
import HostMonitor.Proofs.Posting.Lossless
import HostMonitor.Proofs.Posting.Admission
import HostMonitor.Proofs.Posting.Flow
import HostMonitor.Proofs.Posting.Tracking
import HostMonitor.Proofs.Posting.Provenance
import HostMonitor.Proofs.Posting.Upload
import HostMonitor.Proofs.Machine
import HostMonitor.Proofs.Check.Move
import HostMonitor.Proofs.Check.Ledger
import HostMonitor.Proofs.Check.Rounds
import HostMonitor.Proofs.Check.Accounting
import HostMonitor.Proofs.Check.Urgency
import HostMonitor.Proofs.Shutdown.Fanout
import HostMonitor.Proofs.Agent.Move
import HostMonitor.Proofs.Agent.Calls
import HostMonitor.Proofs.Agent.Reachable
import HostMonitor.Proofs.Agent.Joining
import HostMonitor.Proofs.Agent.Signals
import HostMonitor.Proofs.Agent.Ending
import HostMonitor.Proofs.Shutdown.Delivery
import HostMonitor.Proofs.Posting.Ingestion
import HostMonitor.Proofs.Dialogue
import HostMonitor.Proofs.Host.Registration
import HostMonitor.Proofs.Text.Utf8
import HostMonitor.Proofs.Text.Order
import HostMonitor.Proofs.Table
import HostMonitor.Proofs.Files.Tree
import HostMonitor.Proofs.Host.Restart
import HostMonitor.Proofs.Service.Repetition
import HostMonitor.Proofs.Check.Compression
import HostMonitor.Proofs.Config
import HostMonitor.Proofs.Time.Calendar
import HostMonitor.Proofs.Time.Rfc3339
import HostMonitor.Proofs.Json.Form
import HostMonitor.Proofs.Wire
import HostMonitor.Proofs.Posting.Batching
import HostMonitor.Proofs.Posting.Offset
import HostMonitor.Proofs.Host.CustomHosts
import HostMonitor.Proofs.Service.Reporting
import HostMonitor.Proofs.Text.Blank
import HostMonitor.Proofs.Check.Message
import HostMonitor.Proofs.Metric.Growth
import HostMonitor.Proofs.Metric.Supply
import HostMonitor.Proofs.Metric.Timetable
import HostMonitor.Proofs.Metric.Steady
