import DashAgent.Change.Fields
import DashAgent.Resource.Monitor

/-!
# Configuration of the monitor

Thresholds are set one resource at a time or by a list of configuration fields. Such a list is read
and checked as a whole before anything changes: the last value given to a component counts, and a
component that is not given keeps the value in force. A new threshold type begins every excursion of
its resource afresh.
-/
namespace DashAgent

/-- The component of a resource's thresholds that a configuration field sets. -/
inductive ThresholdField where
  | type
  | low
  | high
  deriving DecidableEq, Repr

namespace ThresholdField

/-- What a configuration field of this component ends in. -/
def ending : ThresholdField → String
  | type => "_threshold_type"
  | low => "_low_threshold"
  | high => "_high_threshold"

/-- The resource and component that a configuration field names. -/
def parse? (field : String) : Option (Resource × ThresholdField) :=
  [type, low, high].findSome? fun kind =>
    (Text.dropSuffix? kind.ending.toList field.toList).bind fun stem =>
      (Resource.parse? (String.ofList stem)).map fun r => (r, kind)

end ThresholdField

structure ConfigurationDraft where
  pollingMs : Option Nat
  /-- The thresholds of the resources mentioned, in the order of their first mention. -/
  thresholds : List (Resource × Thresholds)
  deriving DecidableEq, Repr

namespace Monitor

def setPollingMs (m : Monitor) (ms : Nat) : Monitor :=
  { m with pollingMs := ms, stats := { m.stats with configUpdates := m.stats.configUpdates + 1 } }

/-- The record with other thresholds; a change of type rearms every sub-pool. -/
def applyThresholds (t : Thresholds) (r : ResourceRecord) : ResourceRecord :=
  { r with
    thresholds := t
    counters :=
      if r.thresholds.type = t.type then r.counters
      else r.counters.mapValues fun c => { c with exceededCount := 0 } }

def installThresholds (m : Monitor) (r : Resource) (t : Thresholds) : Monitor :=
  { m.modifyRecord r (applyThresholds t) with
    stats := { m.stats with configUpdates := m.stats.configUpdates + 1 } }

/-- The answer of a configuration call, beside the monitor after the call. -/
abbrev Answered := Except MonitorError Unit × Monitor

def Answered.accepted : Answered → Except MonitorError Monitor
  | (.ok (), m) => .ok m
  | (.error e, _) => .error e

/-- A caller that gives up on a refusal has no use for the monitor beside it. -/
instance : Coe Answered (Except MonitorError Monitor) := ⟨Answered.accepted⟩

/-- Replaces the thresholds of a resource by valid ones. -/
def trySetThresholds (m : Monitor) (r : Resource) (t : Thresholds) : Answered :=
  match t.validate with
  | .error e => (.error (.invalidThreshold e), m)
  | .ok () => (.ok (), m.installThresholds r t)

def setThresholdType (m : Monitor) (r : Resource) (type : ThresholdType) : Answered :=
  m.trySetThresholds r { (m.record r).thresholds with type := type }

def setThresholds (m : Monitor) (r : Resource) (low high : UInt32) : Answered :=
  m.trySetThresholds r { (m.record r).thresholds with low := low, high := high }

/-! ## Configuration fields -/

/-- The thresholds with one component read from a configuration value. -/
def readComponent (t : Thresholds) (kind : ThresholdField) (field value : String) :
    Except ConfigurationError Thresholds :=
  match kind with
  | .type =>
    match ThresholdType.parse value with
    | .ok type => .ok { t with type := type }
    | .error e => .error (.unknownName e)
  | .low =>
    match readUInt32? value with
    | some low => .ok { t with low := low }
    | none => .error (.badValue field value)
  | .high =>
    match readUInt32? value with
    | some high => .ok { t with high := high }
    | none => .error (.badValue field value)

/-- The pairs with the value of a key replaced, or added at the end. -/
def assign {α β : Type} [DecidableEq α] (key : α) (value : β) : List (α × β) → List (α × β)
  | [] => [(key, value)]
  | e :: rest => if e.1 = key then (key, value) :: rest else e :: assign key value rest

def readField (m : Monitor) (draft : ConfigurationDraft) (field value : String) :
    Except ConfigurationError ConfigurationDraft :=
  if field = "polling_interval" then
    match readUInt64? value with
    | some (seconds + 1) => .ok { draft with pollingMs := some ((seconds + 1) * 1000) }
    | _ => .error (.badPollingInterval value)
  else
    match ThresholdField.parse? field with
    | none => .error (.unknownField field)
    | some (r, kind) => do
      let current := (draft.thresholds.lookup r).getD (m.record r).thresholds
      let thresholds ← readComponent current kind field value
      .ok { draft with thresholds := assign r thresholds draft.thresholds }

/-- Reads configuration fields in order, up to the first that cannot be understood. -/
def readFields (m : Monitor) :
    List (String × String) → ConfigurationDraft → Except ConfigurationError ConfigurationDraft
  | [], draft => .ok draft
  | (field, value) :: rest, draft => do
    let draft ← m.readField draft field value
    readFields m rest draft

/-- Refuses a draft with invalid thresholds, naming the first resource that has them. -/
def checkDraft : List (Resource × Thresholds) → Except MonitorError Unit
  | [] => .ok ()
  | (r, t) :: rest =>
    match t.validate with
    | .error e => .error (.invalidConfiguration r e)
    | .ok () => checkDraft rest

def applyDraft (m : Monitor) (draft : ConfigurationDraft) : Monitor :=
  let m := match draft.pollingMs with
    | some ms => m.setPollingMs ms
    | none => m
  draft.thresholds.foldl (fun m (r, t) => m.installThresholds r t) m

/-- Applies configuration fields, all of them or none. -/
def configure (m : Monitor) (fields : List (String × String)) : Answered :=
  match m.readFields fields ⟨none, []⟩ with
  | .error e => (.error (.unreadable e), m)
  | .ok draft =>
    match checkDraft draft.thresholds with
    | .error e => (.error e, m)
    | .ok () => (.ok (), m.applyDraft draft)

end Monitor

end DashAgent
