import DashAgent.Daemon.Worker
import DashAgent.Overlay.Eni
import DashAgent.Overlay.MappingTable
import DashAgent.Overlay.RouteRule
import DashAgent.Overlay.Vnet
import DashAgent.Resource.Monitor.Configuration

/-!
# The workers of the agent

Four workers program the switch and configure its monitoring, parents before children: the monitor
configuration, VNETs with their mappings, ENIs, and routes with their rules. A worker of two tables
reconciles the first one first; if that fails the second one waits for the next turn.
-/
namespace DashAgent

/-! ## Monitor configuration -/

structure ConfigurationWorker where
  queue : ChangeQueue

namespace ConfigurationWorker

def tableName : String := "CRM"

def key : String := "Config"

def new : ConfigurationWorker := ⟨.new tableName 0 ChangeQueue.defaultBatchSize⟩

/-- Applies one change and tells whether it was accepted. -/
def apply (e : Entry) (c : Context) : Bool × Context :=
  if e.op = .set ∧ e.key = key then
    let (answer, monitor) := c.monitor.configure e.fields
    (answer.isOk, { c with monitor })
  else (false, c)

def applyAll : List Entry → Context → Summary × Context
  | [], c => (.empty, c)
  | e :: rest, c =>
    let (accepted, c) := apply e c
    let (summary, c) := applyAll rest c
    (Summary.merge
      (if accepted then { Summary.empty with committed := 1 }
        else { Summary.empty with dropped := 1 }) summary, c)

/-- Applies everything pending. Nothing is sent to the driver and nothing is put back. -/
def work (w : ConfigurationWorker) (c : Context) : Summary × ConfigurationWorker × Context :=
  let (es, queue) := w.queue.drain
  let (summary, c) := applyAll es c
  (summary, ⟨queue⟩, c)

end ConfigurationWorker

/-! ## VNETs and mappings -/

structure VnetWorker where
  vnetQueue : ChangeQueue
  mappingQueue : ChangeQueue
  vnets : VnetTable
  mappings : MappingTable

namespace VnetWorker

/-- VNETs and mappings come before what refers to them. -/
def priority : Int := 10

def new (batchSize : Nat) : VnetWorker where
  vnetQueue := .new VnetTable.name priority batchSize
  mappingQueue := .new MappingTable.name priority batchSize
  vnets := .new BulkStager.defaultBulkSize
  mappings := .new BulkStager.defaultBulkSize

def consumes (table : String) : Bool := table = VnetTable.name || table = MappingTable.name

def enqueue (w : VnetWorker) (table : String) (es : List Entry) : VnetWorker :=
  if table = VnetTable.name then { w with vnetQueue := w.vnetQueue.addAll es }
  else if table = MappingTable.name then { w with mappingQueue := w.mappingQueue.addAll es }
  else w

section Work

variable {δ : Type} [Driver δ]

def workVnets (w : VnetWorker) (c : Context) (d : δ) :
    Except DriverError Summary × VnetWorker × Context × δ :=
  let (answer, p) := VnetTable.bulk.reconcile ⟨w.vnetQueue, w.vnets, c, d⟩
  (answer, { w with vnetQueue := p.queue, vnets := p.table }, p.env, p.switch)

def workMappings (w : VnetWorker) (c : Context) (d : δ) :
    Except DriverError Summary × VnetWorker × Context × δ :=
  let (answer, p) := MappingTable.bulk.reconcile ⟨w.mappingQueue, w.mappings, c, d⟩
  (answer, { w with mappingQueue := p.queue, mappings := p.table }, p.env, p.switch)

/-- One pass over the VNETs and, if it succeeds, one over the mappings. -/
def work (w : VnetWorker) (c : Context) (d : δ) :
    Except DriverError Summary × VnetWorker × Context × δ :=
  match w.workVnets c d with
  | (.error e, w, c, d) => (.error e, w, c, d)
  | (.ok first, w, c, d) =>
    let (answer, w, c, d) := w.workMappings c d
    (answer.map first.merge, w, c, d)

end Work

def hasPending (w : VnetWorker) : Bool := w.vnetQueue.hasPending || w.mappingQueue.hasPending

def pending (w : VnetWorker) : List String := w.vnetQueue.dump ++ w.mappingQueue.dump

end VnetWorker

/-! ## ENIs -/

structure EniWorker where
  queue : ChangeQueue
  enis : EniTable

namespace EniWorker

/-- ENIs come after VNETs and before routes. -/
def priority : Int := 20

def new (batchSize : Nat) : EniWorker where
  queue := .new EniTable.name priority batchSize
  enis := .new BulkStager.defaultBulkSize

def work {δ : Type} [Driver δ] (w : EniWorker) (c : Context) (d : δ) :
    Except DriverError Summary × EniWorker × Context × δ :=
  let (answer, p) := EniTable.bulk.reconcile ⟨w.queue, w.enis, c, d⟩
  (answer, ⟨p.queue, p.table⟩, p.env, p.switch)

end EniWorker

/-! ## Routes and rules -/

structure RouteWorker where
  routeQueue : ChangeQueue
  ruleQueue : ChangeQueue
  routes : RouteTable
  rules : RuleTable

namespace RouteWorker

/-- Routes and rules come after all they refer to. -/
def priority : Int := 30

def new (batchSize : Nat) : RouteWorker where
  routeQueue := .new RouteTable.name priority batchSize
  ruleQueue := .new RuleTable.name priority batchSize
  routes := .new BulkStager.defaultBulkSize
  rules := .new BulkStager.defaultBulkSize

def consumes (table : String) : Bool := table = RouteTable.name || table = RuleTable.name

def enqueue (w : RouteWorker) (table : String) (es : List Entry) : RouteWorker :=
  if table = RouteTable.name then { w with routeQueue := w.routeQueue.addAll es }
  else if table = RuleTable.name then { w with ruleQueue := w.ruleQueue.addAll es }
  else w

section Work

variable {δ : Type} [Driver δ]

def workRoutes (w : RouteWorker) (c : Context) (d : δ) :
    Except DriverError Summary × RouteWorker × Context × δ :=
  let (answer, p) := RouteTable.bulk.reconcile ⟨w.routeQueue, w.routes, c, d⟩
  (answer, { w with routeQueue := p.queue, routes := p.table }, p.env, p.switch)

def workRules (w : RouteWorker) (c : Context) (d : δ) :
    Except DriverError Summary × RouteWorker × Context × δ :=
  let (answer, p) := RuleTable.bulk.reconcile ⟨w.ruleQueue, w.rules, c, d⟩
  (answer, { w with ruleQueue := p.queue, rules := p.table }, p.env, p.switch)

def work (w : RouteWorker) (c : Context) (d : δ) :
    Except DriverError Summary × RouteWorker × Context × δ :=
  match w.workRoutes c d with
  | (.error e, w, c, d) => (.error e, w, c, d)
  | (.ok first, w, c, d) =>
    let (answer, w, c, d) := w.workRules c d
    (answer.map first.merge, w, c, d)

end Work

def hasPending (w : RouteWorker) : Bool := w.routeQueue.hasPending || w.ruleQueue.hasPending

def pending (w : RouteWorker) : List String := w.routeQueue.dump ++ w.ruleQueue.dump

end RouteWorker

/-! ## All of them -/

inductive AgentWorker where
  | configuration (worker : ConfigurationWorker)
  | vnet (worker : VnetWorker)
  | eni (worker : EniWorker)
  | route (worker : RouteWorker)

namespace AgentWorker

/-- The workers of an agent, in the order in which they are registered. -/
def all (batchSize : Nat) : List AgentWorker :=
  [.configuration .new, .vnet (.new batchSize), .eni (.new batchSize), .route (.new batchSize)]

def vnet? : AgentWorker → Option VnetWorker
  | vnet w => some w
  | _ => none

def eni? : AgentWorker → Option EniWorker
  | eni w => some w
  | _ => none

def route? : AgentWorker → Option RouteWorker
  | route w => some w
  | _ => none

instance : Worker AgentWorker where
  name
    | configuration _ => "CrmConfigOrch"
    | vnet _ => "DashVnetOrch"
    | eni _ => "DashEniOrch"
    | route _ => "DashRouteOrch"
  priority
    | configuration _ => 0
    | vnet _ => VnetWorker.priority
    | eni _ => EniWorker.priority
    | route _ => RouteWorker.priority
  consumes
    | configuration _, table => table = ConfigurationWorker.tableName
    | vnet _, table => VnetWorker.consumes table
    | eni _, table => table = EniTable.name
    | route _, table => RouteWorker.consumes table
  enqueue
    | configuration w, _, es => configuration ⟨w.queue.addAll es⟩
    | vnet w, table, es => vnet (w.enqueue table es)
    | eni w, _, es => eni { w with queue := w.queue.addAll es }
    | route w, table, es => route (w.enqueue table es)
  work
    | configuration w, c, d =>
      let (summary, w, c) := w.work c
      (.ok summary, configuration w, c, d)
    | vnet w, c, d =>
      let (answer, w, c, d) := w.work c d
      (answer, vnet w, c, d)
    | eni w, c, d =>
      let (answer, w, c, d) := w.work c d
      (answer, eni w, c, d)
    | route w, c, d =>
      let (answer, w, c, d) := w.work c d
      (answer, route w, c, d)
  hasPending
    | configuration w => w.queue.hasPending
    | vnet w => w.hasPending
    | eni w => w.queue.hasPending
    | route w => w.hasPending
  pending
    | configuration w => w.queue.dump
    | vnet w => w.pending
    | eni w => w.queue.dump
    | route w => w.pending
  onTimer w := w

end AgentWorker

end DashAgent
