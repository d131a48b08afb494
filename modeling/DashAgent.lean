import DashAgent.Change.Entry
import DashAgent.Change.EntryError
import DashAgent.Change.Fields
import DashAgent.Change.NumberedQueue
import DashAgent.Change.Queue
import DashAgent.CommandLine
import DashAgent.Context
import DashAgent.Daemon
import DashAgent.Daemon.AgentWorker
import DashAgent.Daemon.EventLoop
import DashAgent.Daemon.Recorder
import DashAgent.Daemon.RecorderLog
import DashAgent.Daemon.Replay
import DashAgent.Daemon.Worker
import DashAgent.FileAccess
import DashAgent.Main
import DashAgent.Net.IpAddress
import DashAgent.Net.IpPrefix
import DashAgent.Net.MacAddress
import DashAgent.Overlay.Eni
import DashAgent.Overlay.Mapping
import DashAgent.Overlay.MappingTable
import DashAgent.Overlay.NamedTable
import DashAgent.Overlay.Route
import DashAgent.Overlay.RouteRule
import DashAgent.Overlay.RoutingTable
import DashAgent.Overlay.Vnet
import DashAgent.Proofs.Context
import DashAgent.Proofs.Daemon.AmpleRounds
import DashAgent.Proofs.Daemon.Census
import DashAgent.Proofs.Daemon.Confluence
import DashAgent.Proofs.Daemon.Conservation
import DashAgent.Proofs.Daemon.Lane
import DashAgent.Proofs.Daemon.MappingAgreement
import DashAgent.Proofs.Daemon.ParentAgreement
import DashAgent.Proofs.Daemon.RemovalOrder
import DashAgent.Proofs.Daemon.ReplayOrder
import DashAgent.Proofs.Daemon.RouteAgreement
import DashAgent.Proofs.Daemon.Runs
import DashAgent.Proofs.Daemon.SharedEntries
import DashAgent.Proofs.Daemon.SharedRequests
import DashAgent.Proofs.Daemon.Streams
import DashAgent.Proofs.Daemon.Taking
import DashAgent.Proofs.Daemon.Tidiness
import DashAgent.Proofs.Daemon.Turns
import DashAgent.Proofs.Daemon.Views
import DashAgent.Proofs.EntryKeys
import DashAgent.Proofs.KeyedList
import DashAgent.Proofs.Monitor
import DashAgent.Proofs.Net.IpAddress
import DashAgent.Proofs.Net.MacAddress
import DashAgent.Proofs.NumberedQueue
import DashAgent.Proofs.Overlay.Configuration
import DashAgent.Proofs.Overlay.GatePass
import DashAgent.Proofs.Overlay.KeyTexts
import DashAgent.Proofs.Overlay.MappingConduct
import DashAgent.Proofs.Overlay.MappingCounts
import DashAgent.Proofs.Overlay.MappingIntake
import DashAgent.Proofs.Overlay.MappingNames
import DashAgent.Proofs.Overlay.MappingObjects
import DashAgent.Proofs.Overlay.MappingPass
import DashAgent.Proofs.Overlay.MappingStaging
import DashAgent.Proofs.Overlay.MappingSteps
import DashAgent.Proofs.Overlay.NamedIntake
import DashAgent.Proofs.Overlay.NamedObjects
import DashAgent.Proofs.Overlay.PaChanges
import DashAgent.Proofs.Overlay.PaPass
import DashAgent.Proofs.Overlay.PaPlan
import DashAgent.Proofs.Overlay.PaReferences
import DashAgent.Proofs.Overlay.PaRequests
import DashAgent.Proofs.Overlay.PaSharing
import DashAgent.Proofs.Overlay.PaTurnover
import DashAgent.Proofs.Overlay.PaWords
import DashAgent.Proofs.Overlay.Register
import DashAgent.Proofs.Overlay.RegisterConduct
import DashAgent.Proofs.Overlay.Removals
import DashAgent.Proofs.Overlay.RepeatedPasses
import DashAgent.Proofs.Overlay.Replays
import DashAgent.Proofs.Overlay.RoutingIntake
import DashAgent.Proofs.Overlay.RoutingObjects
import DashAgent.Proofs.Overlay.RoutingRequests
import DashAgent.Proofs.Overlay.Scratch
import DashAgent.Proofs.Overlay.Shapes
import DashAgent.Proofs.Overlay.Sites
import DashAgent.Proofs.Overlay.SoleRequests
import DashAgent.Proofs.Overlay.SoleTables
import DashAgent.Proofs.Overlay.TableSteps
import DashAgent.Proofs.Overlay.Unapplied
import DashAgent.Proofs.Overlay.Uptakes
import DashAgent.Proofs.Queue
import DashAgent.Proofs.Reconcile.Conduct
import DashAgent.Proofs.Reconcile.Fates
import DashAgent.Proofs.Reconcile.Intake
import DashAgent.Proofs.Reconcile.Invariant
import DashAgent.Proofs.Reconcile.Repetition
import DashAgent.Proofs.Reconcile.Replays
import DashAgent.Proofs.Reconcile.Scratch
import DashAgent.Proofs.Reconcile.Settlement
import DashAgent.Proofs.Reconcile.Shape
import DashAgent.Proofs.Reconcile.Shelf
import DashAgent.Proofs.Reconcile.Stream
import DashAgent.Proofs.Reconcile.Uptake
import DashAgent.Proofs.Reconcile.Watched
import DashAgent.Proofs.Resource.Accounts
import DashAgent.Proofs.Resource.Alarms
import DashAgent.Proofs.Resource.Books
import DashAgent.Proofs.Resource.Calls
import DashAgent.Proofs.Resource.Configuring
import DashAgent.Proofs.Resource.Counting
import DashAgent.Proofs.Resource.Excursions
import DashAgent.Proofs.Resource.Polls
import DashAgent.Proofs.Resource.Pools
import DashAgent.Proofs.Resource.Postings
import DashAgent.Proofs.Resource.Queries
import DashAgent.Proofs.Resource.Rearming
import DashAgent.Proofs.Resource.Records
import DashAgent.Proofs.Resource.Rows
import DashAgent.Proofs.Resource.Settings
import DashAgent.Proofs.Resource.Showing
import DashAgent.Proofs.Resource.Upkeep
import DashAgent.Proofs.Resource.Utilization
import DashAgent.Proofs.Switch.Ample
import DashAgent.Proofs.Switch.Answering
import DashAgent.Proofs.Switch.Chunking
import DashAgent.Proofs.Switch.Flush
import DashAgent.Proofs.Switch.FlushInvariant
import DashAgent.Proofs.Switch.Gate
import DashAgent.Proofs.Switch.History
import DashAgent.Proofs.Switch.Interruption
import DashAgent.Proofs.Switch.Ledger
import DashAgent.Proofs.Switch.Placing
import DashAgent.Proofs.Switch.Recording
import DashAgent.Proofs.Switch.Requests
import DashAgent.Proofs.Switch.Settings
import DashAgent.Proofs.Switch.Simulator
import DashAgent.Proofs.Switch.Stager
import DashAgent.Proofs.Switch.Status
import DashAgent.Proofs.Switch.Watch
import DashAgent.Proofs.Table
import DashAgent.Proofs.Text
import DashAgent.Proofs.Words
import DashAgent.Reconcile.Decision
import DashAgent.Reconcile.Pass
import DashAgent.Resource.Counter
import DashAgent.Resource.Event
import DashAgent.Resource.Kind
import DashAgent.Resource.Monitor
import DashAgent.Resource.Monitor.Accounting
import DashAgent.Resource.Monitor.Configuration
import DashAgent.Resource.Monitor.Polling
import DashAgent.Resource.Telemetry
import DashAgent.Resource.Threshold
import DashAgent.Resource.UnknownName
import DashAgent.Roster
import DashAgent.Switch.BulkStager
import DashAgent.Switch.Driver
import DashAgent.Switch.FaultGate
import DashAgent.Switch.Object
import DashAgent.Switch.Simulator
import DashAgent.Switch.Status
import DashAgent.Table
import DashAgent.Table.References
import DashAgent.Text.Duration
import DashAgent.Text.Json
import DashAgent.Text.JsonString
import DashAgent.Text.Numeral
import DashAgent.Text.Printable
import DashAgent.Text.Quoted
import DashAgent.Text.Split
