import DashAgent.Resource.Monitor

/-!
# Accounting of used entries

The used counts move only through these calls, one for every object that was created or removed. A
call that does not suit its resource is refused. An increment makes the counter of a sub-pool that
has none; a decrement needs a counter above zero. Removing an ACL table or a DASH ACL group drops
the sub-pools that belong to it and their telemetry row.
-/
namespace DashAgent.Monitor

/-- The answer of an accounting call: the new used count, beside the monitor after the call. -/
abbrev Accounted := Except MonitorError UInt32 × Monitor

def countUp (m : Monitor) (r : Resource) (p : SubPool) : Accounted :=
  let c := ((m.record r).counterOrNew p).increment
  (.ok c.used,
    { m.modifyRecord r (·.setCounter p c) with
      stats := { m.stats with increments := m.stats.increments + 1 } })

def countDown (m : Monitor) (r : Resource) (p : SubPool) : Accounted :=
  match m.counter? r p with
  | none => (.error (.counterNotFound r p), m)
  | some c =>
    match c.decrement? with
    | none => (.error (.counterUnderflow r p), m)
    | some c =>
      (.ok c.used,
        { m.modifyRecord r (·.setCounter p c) with
          stats := { m.stats with decrements := m.stats.decrements + 1 } })

def dropSubPool (m : Monitor) (r : Resource) (p : SubPool) : Monitor :=
  m.modifyRecord r (·.dropCounter p)

def dropRow (m : Monitor) (p : SubPool) : Monitor :=
  { m with telemetry := m.telemetry.delete p.row }

def refuse (m : Monitor) (r : Resource) (use : AccountingUse) : Accounted :=
  (.error (.inadmissible r use), m)

/-- An object of a resource that is counted for the whole switch was created. -/
def incrementUsed (m : Monitor) (r : Resource) : Accounted :=
  if r.isGlobal then m.countUp r .global else m.refuse r .global

/-- An object of a resource that is counted for the whole switch was removed. -/
def decrementUsed (m : Monitor) (r : Resource) : Accounted :=
  if r.isGlobal then m.countDown r .global else m.refuse r .global

def incrementAcl (m : Monitor) (r : Resource) (stage : AclStage) (bindPoint : AclBindPoint) :
    Accounted :=
  if r.isAcl then m.countUp r (.acl stage bindPoint) else m.refuse r .acl

/-- An ACL table or group was removed. The sub-pools of a removed table go, whatever the answer. -/
def decrementAcl (m : Monitor) (r : Resource) (stage : AclStage) (bindPoint : AclBindPoint)
    (table : ObjectId) : Accounted :=
  if r.isAcl then
    let (answer, m) := m.countDown r (.acl stage bindPoint)
    if r = .aclTable ∧ table ≠ 0 then
      let p := SubPool.aclTable table
      (answer, ((m.dropSubPool .aclEntry p).dropSubPool .aclCounter p).dropRow p)
    else (answer, m)
  else m.refuse r .acl

def incrementAclTable (m : Monitor) (r : Resource) (table : ObjectId) : Accounted :=
  if r.isPerAclTable then m.countUp r (.aclTable table) else m.refuse r .aclTable

def decrementAclTable (m : Monitor) (r : Resource) (table : ObjectId) : Accounted :=
  if r.isPerAclTable then m.countDown r (.aclTable table) else m.refuse r .aclTable

def incrementExtTable (m : Monitor) (name : String) : Accounted :=
  m.countUp .extTable (.extTable name)

def decrementExtTable (m : Monitor) (name : String) : Accounted :=
  m.countDown .extTable (.extTable name)

/-- A DASH ACL group or rule was created. A group is given an empty sub-pool of rules, so that
their capacity is known before the first rule. -/
def incrementDashAcl (m : Monitor) (r : Resource) (group : ObjectId) : Accounted :=
  match r.ruleOf? with
  | some rule =>
    let (answer, m) := m.countUp r .global
    (answer, m.modifyRecord rule (·.ensure (.dashAclGroup group)))
  | none =>
    if r.isDashAclRule then m.countUp r (.dashAclGroup group) else m.refuse r .dashAcl

/-- A DASH ACL group or rule was removed. The rules of a removed group go, whatever the answer. -/
def decrementDashAcl (m : Monitor) (r : Resource) (group : ObjectId) : Accounted :=
  match r.ruleOf? with
  | some rule =>
    let (answer, m) := m.countDown r .global
    (answer, (m.dropSubPool rule (.dashAclGroup group)).dropRow (.dashAclGroup group))
  | none =>
    if r.isDashAclRule then m.countDown r (.dashAclGroup group) else m.refuse r .dashAcl

end DashAgent.Monitor
