import DashAgent.Resource.Event
import DashAgent.Resource.Telemetry

/-!
# The resource monitor

The monitor keeps the used and available counts of every resource and its sub-pools, the thresholds
they are watched against, the published telemetry and the threshold events. This module holds its
state; `Monitor.Accounting` moves the used counts, `Monitor.Configuration` the thresholds, and
`Monitor.Polling` the available counts, the telemetry and the events.
-/
namespace DashAgent

/-- What is tracked for one resource. -/
structure ResourceRecord where
  thresholds : Thresholds
  counters : Table SubPool Counter
  /-- The driver answers for the resource. Once it does not, it never does again. -/
  supported : Bool
  deriving DecidableEq, Repr

namespace ResourceRecord

/-- The record of a resource at start-up: global resources have their counter from the beginning,
sub-pools appear when they are first used or reported. -/
def new (r : Resource) : ResourceRecord where
  thresholds := .default
  counters := if r.isGlobal then Table.empty.insert .global (.new 0) else .empty
  supported := true

def counter? (r : ResourceRecord) (p : SubPool) : Option Counter := r.counters.get? p

/-- The counter of a sub-pool; one that was not there counts nothing yet. -/
def counterOrNew (r : ResourceRecord) (p : SubPool) : Counter :=
  (r.counter? p).getD (.new (p.objectId?.getD 0))

def setCounter (r : ResourceRecord) (p : SubPool) (c : Counter) : ResourceRecord :=
  { r with counters := r.counters.insert p c }

/-- The record in which a sub-pool has a counter. -/
def ensure (r : ResourceRecord) (p : SubPool) : ResourceRecord :=
  if r.counters.contains p then r else r.setCounter p (r.counterOrNew p)

def dropCounter (r : ResourceRecord) (p : SubPool) : ResourceRecord :=
  { r with counters := r.counters.erase p }

end ResourceRecord

inductive AccountingUse where
  | global
  | acl
  | aclTable
  | dashAcl
  deriving DecidableEq, Repr

def AccountingUse.text : AccountingUse → String
  | global => "global accounting"
  | acl => "ACL accounting"
  | aclTable => "ACL table accounting"
  | dashAcl => "DASH ACL accounting"

inductive ConfigurationError where
  | badPollingInterval (value : String)
  | unknownField (field : String)
  | unknownName (error : UnknownName)
  | badValue (field value : String)
  deriving DecidableEq, Repr

def ConfigurationError.message : ConfigurationError → String
  | badPollingInterval value => "Invalid polling interval: " ++ value
  | unknownField field => "Unknown field: " ++ field
  | unknownName e => e.message
  | badValue field value => "Invalid value for " ++ field ++ ": " ++ value

inductive MonitorError where
  | invalidThreshold (error : ThresholdError)
  /-- The thresholds that a configuration gives one resource are refused. -/
  | invalidConfiguration (resource : Resource) (error : ThresholdError)
  | counterUnderflow (resource : Resource) (subPool : SubPool)
  | counterNotFound (resource : Resource) (subPool : SubPool)
  | inadmissible (resource : Resource) (use : AccountingUse)
  | unreadable (error : ConfigurationError)
  deriving DecidableEq, Repr

def MonitorError.message : MonitorError → String
  | invalidThreshold e => "Invalid threshold: " ++ e.message
  | invalidConfiguration r e => "Invalid threshold: " ++ r.name ++ ": " ++ e.message
  | counterUnderflow r p => "Counter underflow: " ++ r.name ++ " " ++ p.row
  | counterNotFound r p => "Counter not found: " ++ r.name ++ " " ++ p.row
  | inadmissible r use => r.name ++ " cannot be used for " ++ use.text
  | unreadable e => "Parse error: " ++ e.message

instance : ToString MonitorError := ⟨MonitorError.message⟩

structure MonitorStats where
  timerExpirations : Nat
  thresholdEvents : Nat
  configUpdates : Nat
  increments : Nat
  decrements : Nat
  deriving DecidableEq, Repr

def MonitorStats.zero : MonitorStats := ⟨0, 0, 0, 0, 0⟩

/-- The state of resource accounting. -/
structure Monitor where
  /-- Milliseconds between polls. -/
  pollingMs : Nat
  records : Roster Resource ResourceRecord
  telemetry : Telemetry
  /-- The published events, in order. -/
  events : List ThresholdEvent
  stats : MonitorStats

namespace Monitor

def defaultPollingMs : Nat := 300000

/-- A monitor that has counted nothing. The telemetry of an earlier run stays, except for the row
of the whole switch. -/
def new (pollingMs : Nat) (telemetry : Telemetry) : Monitor where
  pollingMs
  records := Roster.tabulate .new
  telemetry := telemetry.delete SubPool.global.row
  events := []
  stats := .zero

def record (m : Monitor) (r : Resource) : ResourceRecord := m.records.get r

def modifyRecord (m : Monitor) (r : Resource) (f : ResourceRecord → ResourceRecord) : Monitor :=
  { m with records := m.records.modify r f }

def counter? (m : Monitor) (r : Resource) (p : SubPool) : Option Counter :=
  (m.record r).counter? p

def used? (m : Monitor) (r : Resource) (p : SubPool) : Option UInt32 :=
  (m.counter? r p).map Counter.used

def available? (m : Monitor) (r : Resource) (p : SubPool) : Option UInt32 :=
  (m.counter? r p).map Counter.available

def globalUsed? (m : Monitor) (r : Resource) : Option UInt32 := m.used? r .global

end Monitor

end DashAgent
