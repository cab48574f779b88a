import Portcullis.Admission.Decision
import Portcullis.Admission.Endpoint
import Portcullis.Admission.Request
import Portcullis.Admission.Source
import Portcullis.Admission.Target
import Portcullis.Command.Basic
import Portcullis.Command.Run
import Portcullis.Command.Switch
import Portcullis.Compile.Binding
import Portcullis.Compile.Build
import Portcullis.Compile.Emission
import Portcullis.Compile.Error
import Portcullis.Compile.Group
import Portcullis.Compile.Pass
import Portcullis.Counter.Backoff
import Portcullis.Counter.Retry
import Portcullis.Counter.Update
import Portcullis.Counter.Writer
import Portcullis.Daemon.Follower
import Portcullis.Daemon.Life
import Portcullis.Daemon.Startup
import Portcullis.Datum.Basic
import Portcullis.Datum.Slots
import Portcullis.Files.Deed
import Portcullis.Files.Disk
import Portcullis.Files.Fault
import Portcullis.Files.Path
import Portcullis.Files.Staged
import Portcullis.Files.Tree
import Portcullis.Files.Watch
import Portcullis.Gateway
import Portcullis.Json.Printer
import Portcullis.Json.Reader
import Portcullis.Main
import Portcullis.Net.Address
import Portcullis.Net.Certificate
import Portcullis.Net.Listening
import Portcullis.Net.Socket
import Portcullis.Proofs.Admission.Faults
import Portcullis.Proofs.Admission.ListenerId
import Portcullis.Proofs.Admission.Verdict
import Portcullis.Proofs.Compile.Replacement
import Portcullis.Proofs.Compile.Rollback
import Portcullis.Proofs.Files.LawfulDisk
import Portcullis.Proofs.Files.Staged
import Portcullis.Proofs.Files.Trial
import Portcullis.Proofs.Reconcile.Freshness
import Portcullis.Proofs.Reconcile.Loaded
import Portcullis.Proofs.Reconcile.Plant
import Portcullis.Proofs.Routing.Emission
import Portcullis.Proofs.Routing.Grouping
import Portcullis.Proofs.Routing.PortMap
import Portcullis.Proofs.Routing.Resolution
import Portcullis.Proofs.Routing.ServerNames
import Portcullis.Proofs.Runs
import Portcullis.Proofs.Store.Reload
import Portcullis.Proofs.Supervision.Crash
import Portcullis.Proofs.Supervision.Machine
import Portcullis.Proofs.Supervision.Ownership
import Portcullis.Proofs.Supervision.Performance
import Portcullis.Proofs.Supervision.Processes
import Portcullis.Proofs.Supervision.Transitions
import Portcullis.Proofs.Text.Decimal
import Portcullis.Proofs.Text.Utf8
import Portcullis.Proxy.Config
import Portcullis.Proxy.Piece
import Portcullis.Proxy.Render
import Portcullis.Reconcile.Outcome
import Portcullis.Reconcile.Trigger
import Portcullis.Report.Problem
import Portcullis.Report.Result
import Portcullis.Report.Vocabulary
import Portcullis.Settings.Basic
import Portcullis.Settings.Check
import Portcullis.Settings.Load
import Portcullis.Settings.Record
import Portcullis.Store.AccessList
import Portcullis.Store.Basic
import Portcullis.Store.Error
import Portcullis.Store.Lookup
import Portcullis.Store.Persist
import Portcullis.Store.Routing
import Portcullis.Store.Row
import Portcullis.Store.Snapshot
import Portcullis.Store.Table
import Portcullis.Supervision.Conduct
import Portcullis.Supervision.Error
import Portcullis.Supervision.Installed
import Portcullis.Supervision.Operation
import Portcullis.Supervision.Phase
import Portcullis.Supervision.Process
import Portcullis.Supervision.Station
import Portcullis.Supervision.Supervisor
import Portcullis.Telemetry.Directive
import Portcullis.Telemetry.Event
import Portcullis.Telemetry.Filter
import Portcullis.Telemetry.Journal
import Portcullis.Text.Blank
import Portcullis.Text.Decimal
import Portcullis.Text.Utf8
import Portcullis.Time
import Portcullis.Toml.Number
import Portcullis.Toml.Quoted
import Portcullis.Toml.Reader
import Portcullis.Toml.Tree
import Portcullis.Proofs.Routing.Order
import Portcullis.Proofs.Routing.Refusal
import Portcullis.Proofs.Routing.Consistency
import Portcullis.Proofs.Admission.Guard
import Portcullis.Proofs.Routing.Pools
import Portcullis.Proofs.Routing.Wiring
import Portcullis.Proofs.Compile.Repetition
import Portcullis.Proofs.Proxy.Injective
import Portcullis.Proofs.Proxy.Legible
import Portcullis.Proofs.Routing.Reading
import Portcullis.Proofs.Net.Numeral
import Portcullis.Proofs.Net.Canonical
import Portcullis.Proofs.Json.RoundTrip
import Portcullis.Proofs.Store.Codec
import Portcullis.Proofs.Files.Sound
import Portcullis.Proofs.Files.Deeds
import Portcullis.Proofs.Store.Operations
import Portcullis.Proofs.Store.Tallies
import Portcullis.Proofs.Store.Lossless
import Portcullis.Proofs.Store.Plain
import Portcullis.Proofs.Admission.Hearing
import Portcullis.Proofs.Counter.Office
import Portcullis.Proofs.Counter.Books
import Portcullis.Proofs.Counter.Conservation
import Portcullis.Proofs.Counter.Oblivious
import Portcullis.Proofs.Reconcile.Rounds
import Portcullis.Proofs.Reconcile.Served
import Portcullis.Proofs.Reconcile.Meddling
import Portcullis.Proofs.Daemon.Vigil
import Portcullis.Proofs.Daemon.Convergence
import Portcullis.Proofs.Store.Entry
import Portcullis.Proofs.Admission.Spelling
import Portcullis.Proofs.Routing.Unreadable
import Portcullis.Proofs.Routing.Dangling
import Portcullis.Proofs.Routing.VirtualHosts
import Portcullis.Proofs.Routing.Locality
import Portcullis.Proofs.Store.Takeover
import Portcullis.Proofs.Admission.Lookup
import Portcullis.Proofs.Store.Loading
import Portcullis.Proofs.Routing.Targets
import Portcullis.Proofs.Files.Places
import Portcullis.Proofs.Compile.Outputs
import Portcullis.Proofs.Counter.Backoff
import Portcullis.Proofs.Counter.Calls
import Portcullis.Proofs.Supervision.Probe
import Portcullis.Proofs.Supervision.Startup
import Portcullis.Proofs.Proxy.Building
import Portcullis.Proofs.Counter.Ceiling
import Portcullis.Proofs.Files.Walks
import Portcullis.Proofs.Compile.Undoing
