import DashAgent.Resource.Monitor.Accounting

/-!
# Shared context

What the workers of one agent share: the resource monitor, and the identifiers of the programmed
VNETs and ENIs by name, through which a child object finds its parent.
-/
namespace DashAgent

/-- The state shared between tables. -/
structure Context where
  monitor : Monitor
  vnetIds : Table String (Oid .vnet)
  eniIds : Table String (Oid .eni)
  /-- Why accounting was skipped, for the log. Nothing else tells of a refused accounting call. -/
  skipped : List MonitorError

namespace Context

def new (monitor : Monitor) : Context := ⟨monitor, .empty, .empty, []⟩

variable (c : Context)

def vnetId? (name : String) : Option (Oid .vnet) := c.vnetIds.get? name

def eniId? (name : String) : Option (Oid .eni) := c.eniIds.get? name

/-- What an accounting call reads and writes. -/
def accounts : Monitor × List MonitorError := (c.monitor, c.skipped)

/-- The context after an accounting call. A refusal is logged. -/
def account (call : Monitor.Accounted) : Context :=
  { c with
    monitor := call.2
    skipped := match call.1 with
      | .ok _ => c.skipped
      | .error e => c.skipped ++ [e] }

def count (r : Resource) : Context := c.account (c.monitor.incrementUsed r)

def uncount (r : Resource) : Context := c.account (c.monitor.decrementUsed r)

def addVnet (name : String) (id : Oid .vnet) : Context :=
  { c with vnetIds := c.vnetIds.insert name id }

def removeVnet (name : String) : Context := { c with vnetIds := c.vnetIds.erase name }

def addEni (name : String) (id : Oid .eni) : Context :=
  { c with eniIds := c.eniIds.insert name id }

def removeEni (name : String) : Context := { c with eniIds := c.eniIds.erase name }

/-- Gives a VNET a raw identifier; zero takes it away. -/
def setVnet (name : String) (id : ObjectId) : Context :=
  (Oid.ofRaw? id).elim (c.removeVnet name) (c.addVnet name)

def setEni (name : String) (id : ObjectId) : Context :=
  (Oid.ofRaw? id).elim (c.removeEni name) (c.addEni name)

end Context

end DashAgent
