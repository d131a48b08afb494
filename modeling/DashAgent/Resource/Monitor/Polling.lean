import DashAgent.Resource.Monitor
import DashAgent.Switch.Driver

/-!
# Polling, publishing and checking

On every tick of its timer the monitor asks the driver what is left of every supported resource,
publishes the used and available counts, and checks the thresholds. A query that fails leaves the
last known count in place; a resource that the driver does not support is given up for good and its
fields are taken out of the telemetry.
-/
namespace DashAgent.Monitor

/-- Records what is available in a sub-pool, up to the largest count. -/
def setAvailable (m : Monitor) (r : Resource) (p : SubPool) (available : Nat) : Monitor :=
  m.modifyRecord r fun record =>
    record.setCounter p
      { record.counterOrNew p with available := UInt32.ofNat (min available 0xffffffff) }

/-- Stores an answer, or hands back why there is none. -/
def storeAnswer (m : Monitor) (r : Resource) (p : SubPool) (answer : Except Status Nat) :
    Option Status × Monitor :=
  match answer with
  | .ok available => (none, m.setAvailable r p available)
  | .error status => (some status, m)

section Queries

variable {δ : Type} [Driver δ]

/-- A scalar attribute as a count; any other value is a failure. -/
def askCount (id : ObjectId) (what : AttributeId) (d : δ) : Except Status Nat × δ :=
  let (answer, d) := Driver.readAttribute id what d
  (answer.bind fun value =>
    match value.count? with
    | some n => .ok n
    | none => .error .failure, d)

/-- The remaining capacity by object type, or by a switch attribute where that fails. -/
def askObject (type : ObjectType) (qualifiers : List Qualifier)
    (fallback : Option CapacityAttribute) (d : δ) : Except Status Nat × δ :=
  let switch := Driver.switchId d
  match Driver.availability type qualifiers d, fallback with
  | (.error _, d), some what => askCount switch (.capacity what) d
  | answer, _ => answer

/-- How a sub-pool of its own is asked for; `none` where the query is not about this sub-pool. -/
def askSubPool (query : CapacityQuery) (p : SubPool) : Option (δ → Except Status Nat × δ) :=
  match query, p with
  | .aclTable what, .aclTable id => some (askCount id what)
  | .extensionTable, .extTable name =>
    some (Driver.availability .genericProgrammable [.objectName name])
  | .dashAclRule, .dashAclGroup id => some (Driver.availability .dashAclRule [.dashAclGroup id])
  | _, _ => none

/-- Asks for every sub-pool in turn and hands back the first failure. -/
def pollSubPools (r : Resource) : List SubPool → Monitor → δ → Option Status × Monitor × δ
  | [], m, d => (none, m, d)
  | p :: rest, m, d =>
    match askSubPool r.query p with
    | none => pollSubPools r rest m d
    | some ask =>
      let (answer, d) := ask d
      let (failure, m) := m.storeAnswer r p answer
      let (later, m, d) := pollSubPools r rest m d
      (failure.or later, m, d)

/-- Records a list of ACL resources, one sub-pool each. -/
def setAclResources (m : Monitor) (r : Resource) (list : List AclResource) : Monitor :=
  list.foldl
    (fun m a => m.setAvailable r (.acl a.stage a.bindPoint) a.available.toNat) m

/-- Asks for what is left of a resource and hands back why it is not known. -/
def queryResource (r : Resource) (m : Monitor) (d : δ) : Option Status × Monitor × δ :=
  match r.query with
  | .object type qualifiers fallback =>
    let (answer, d) := askObject type qualifiers fallback d
    let (failure, m) := m.storeAnswer r .global answer
    (failure, m, d)
  | .switch what =>
    let (answer, d) := askCount (Driver.switchId d) (.capacity what) d
    let (failure, m) := m.storeAnswer r .global answer
    (failure, m, d)
  | .aclList what =>
    match Driver.readAttribute (Driver.switchId d) what d with
    | (.ok (.aclResources list), d) => (none, m.setAclResources r list, d)
    | (.ok _, d) => (none, m, d)
    | (.error status, d) => (some status, m, d)
  | .aclTable _ | .extensionTable | .dashAclRule =>
    pollSubPools r (m.record r).counters.keys m d

def giveUp (m : Monitor) (r : Resource) : Monitor :=
  let withdraw := fun (t : Telemetry) (p : SubPool) =>
    t.deleteFields p.row [r.usedField, r.availableField]
  { m.modifyRecord r fun record => { record with supported := false } with
    telemetry := (m.record r).counters.keys.foldl withdraw m.telemetry }

/-- Refreshes what is left of one resource, if the driver supports it. -/
def pollResource (r : Resource) (m : Monitor) (d : δ) : Monitor × δ :=
  if (m.record r).supported then
    match queryResource r m d with
    | (some status, m, d) => (if status.isNotSupported then m.giveUp r else m, d)
    | (none, m, d) => (m, d)
  else (m, d)

def pollEach : List Resource → Monitor → δ → Monitor × δ
  | [], m, d => (m, d)
  | r :: rest, m, d =>
    let (m, d) := pollResource r m d
    pollEach rest m d

def poll (m : Monitor) (d : δ) : Monitor × δ := pollEach Resource.all m d

end Queries

def publishRecord (r : Resource) (record : ResourceRecord) (t : Telemetry) : Telemetry :=
  if record.supported then
    record.counters.entries.foldl
      (fun t (p, c) => t.set p.row
        [(r.usedField, toString c.used.toNat), (r.availableField, toString c.available.toNat)]) t
  else t

def publish (m : Monitor) : Monitor :=
  { m with
    telemetry := Resource.all.foldl (fun t r => publishRecord r (m.record r) t) m.telemetry }

/-- The event that a check of a counter publishes, if it begins or ends an excursion. -/
def eventOf? (r : Resource) (t : Thresholds) (p : SubPool) (c : Counter) :
    Option ThresholdEvent :=
  match (c.check t).1 with
  | .exceeded _ percent true =>
    some ⟨r, p, .exceeded, t.type, percent, c.used, c.available⟩
  | .cleared _ percent => some ⟨r, p, .clear, t.type, percent, c.used, c.available⟩
  | .exceeded _ _ false | .normal => none

def checkResource (m : Monitor) (r : Resource) : Monitor :=
  let record := m.record r
  if record.supported then
    let t := record.thresholds
    let events := record.counters.entries.filterMap fun (p, c) => eventOf? r t p c
    { m.modifyRecord r fun record =>
        { record with counters := record.counters.mapValues fun c => (c.check t).2 } with
      events := m.events ++ events
      stats := { m.stats with thresholdEvents := m.stats.thresholdEvents + events.length } }
  else m

def checkThresholds (m : Monitor) : Monitor := Resource.all.foldl checkResource m

def onTimer {δ : Type} [Driver δ] (m : Monitor) (d : δ) : Monitor × δ :=
  let m := { m with stats := { m.stats with timerExpirations := m.stats.timerExpirations + 1 } }
  let (m, d) := m.poll d
  (m.publish.checkThresholds, d)

end DashAgent.Monitor
