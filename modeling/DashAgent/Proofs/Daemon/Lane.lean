import DashAgent.Daemon.AgentWorker
import DashAgent.Proofs.Daemon.Turns
import DashAgent.Proofs.Overlay.MappingConduct
import DashAgent.Proofs.Overlay.RegisterConduct
import DashAgent.Proofs.Reconcile.Stream

/-!
# One table in a daemon

While only one table has pending changes, the rounds of an agent are the passes of this table. A
`Seat` says how a worker holds the table; with the seat taken in a daemon whose other workers are
idle, routing its changes, running a round and waiting until nothing is pending come down to
`Pass.receive`, `BulkTable.reconcile` and a few passes more.
-/
namespace DashAgent

namespace OverlayTable

def name : OverlayTable → String
  | vnet => VnetTable.name
  | mapping => MappingTable.name
  | eni => EniTable.name
  | route => RouteTable.name
  | rule => RuleTable.name

def read? : OverlayTable → Entry → Option OverlayConfig
  | vnet => VnetTable.read?
  | mapping => MappingTable.read?
  | eni => EniTable.read?
  | route => RouteTable.read?
  | rule => RuleTable.read?

/-- A change of a table is well-formed, and its parents are programmed. -/
def Valid : OverlayTable → Context → Entry → Prop
  | vnet => fun _ => VnetTable.Valid
  | mapping => MappingTable.Valid
  | eni => EniTable.Valid
  | route => RouteTable.Valid
  | rule => RuleTable.Valid

/-- The types of the objects behind a table. -/
def types : OverlayTable → List ObjectType
  | vnet => [.vnet]
  | mapping => [.outboundCaToPaEntry, .paValidationEntry]
  | eni => [.eni]
  | route => [.outboundRoutingEntry]
  | rule => [.inboundRoutingEntry]

end OverlayTable

/-- The configuration that a worker has programmed for a key of a table. -/
def AgentWorker.config? (table : OverlayTable) (key : String) : AgentWorker → Option OverlayConfig
  | configuration _ => none
  | vnet w =>
    match table with
    | .vnet => (w.vnets.vnets.get? key).map fun v => .vnet v.config
    | .mapping => w.mappings.config? key
    | .eni | .route | .rule => none
  | eni w =>
    match table with
    | .eni => (w.enis.enis.get? key).map fun e => .eni e.config
    | .vnet | .mapping | .route | .rule => none
  | route w =>
    match table with
    | .route => (w.routes.routes.get? key).map fun r => .route r.config
    | .rule => (w.rules.rules.get? key).map fun r => .rule r.config
    | .vnet | .mapping | .eni => none

def Daemon.config? {δ : Type} (d : Daemon AgentWorker δ) (table : OverlayTable) (key : String) :
    Option OverlayConfig :=
  d.workers.findSome? (AgentWorker.config? table key)

def Daemon.follow {ω δ : Type} [Worker ω] [Driver δ] (name : String) :
    List StreamEvent → Daemon ω δ → Daemon ω δ
  | [], d => d
  | .arrive es :: rest, d => follow name rest (d.routeChange ⟨name, es⟩)
  | .pass :: rest, d => follow name rest d.processOnce.2

/-! ## Surroundings -/

def AgentWorker.holds : AgentWorker → OverlayTable → Bool
  | vnet _, .vnet | vnet _, .mapping => true
  | eni _, .eni => true
  | route _, .route | route _, .rule => true
  | _, _ => false

theorem consumes_name (w : AgentWorker) (table : OverlayTable) :
    Worker.consumes w table.name = w.holds table := by
  cases w <;> cases table <;> rfl

theorem AgentWorker.config?_of_not_holds {w : AgentWorker} {table : OverlayTable}
    (h : w.holds table = false) (key : String) : w.config? table key = none := by
  cases w <;> cases table <;> first | rfl | cases h

/-- Other workers, with nothing pending and without the table. -/
def Bystanders (table : OverlayTable) (ws : List AgentWorker) : Prop :=
  ∀ w ∈ ws, Worker.hasPending w = false ∧ w.holds table = false

/-- What surrounds the worker of a table in a daemon. -/
structure Surroundings (table : OverlayTable) where
  config : DaemonConfig
  running : Bool
  before : List AgentWorker
  after : List AgentWorker
  bystanders_before : Bystanders table before
  bystanders_after : Bystanders table after

/-- Changes of the table pass bystanders by. -/
theorem Bystanders.map_enqueue {table : OverlayTable} {ws : List AgentWorker}
    (h : Bystanders table ws) (es : List Entry) :
    (ws.map fun w => if Worker.consumes w table.name then Worker.enqueue w table.name es else w) =
      ws := by
  refine (List.map_congr_left ?_).trans ws.map_id
  intro w hw
  rw [consumes_name, (h w hw).2]
  rfl

theorem Bystanders.any_hasPending {table : OverlayTable} {ws : List AgentWorker}
    (h : Bystanders table ws) : ws.any Worker.hasPending = false := by
  rw [List.any_eq_false]
  intro w hw
  rw [(h w hw).1]
  exact Bool.false_ne_true

theorem Bystanders.findSome?_config? {table : OverlayTable} {ws : List AgentWorker}
    (h : Bystanders table ws) (key : String) :
    ws.findSome? (AgentWorker.config? table key) = none := by
  rw [List.findSome?_eq_none_iff]
  exact fun w hw => w.config?_of_not_holds (h w hw).2 key

section Seats

variable {τ κ : Type} {ops : BulkTable τ κ Context Simulator} {table : OverlayTable}

/-- The daemon with the worker of a table that is in a pass. -/
def Surroundings.place (s : Surroundings table) (worker : Pass τ Context Simulator → AgentWorker)
    (p : Pass τ Context Simulator) : Daemon AgentWorker Simulator :=
  ⟨s.config, s.before ++ worker p :: s.after, p.env, p.switch, s.running⟩

/-! ## Seats -/

/-- The worker holds a table, and has nothing else pending. -/
structure Seat (C : Conduct ops OverlayConfig) (table : OverlayTable)
    (worker : Pass τ Context Simulator → AgentWorker) : Prop where
  pending : ∀ p, Worker.hasPending (worker p) = p.queue.hasPending
  holds : ∀ p, (worker p).holds table = true
  enqueue : ∀ p es, Worker.enqueue (worker p) table.name es = worker (p.receive es)
  work : ∀ {p summary}, (ops.reconcile p).1 = .ok summary →
    Worker.work (worker p) p.env p.switch = (.ok summary, worker (ops.reconcile p).2,
      (ops.reconcile p).2.env, (ops.reconcile p).2.switch)
  config : ∀ p key, (worker p).config? table key = C.config? p.table key
  read : C.read? = table.read?
  valid : C.Valid = table.Valid
  types : C.types = table.types

namespace Seat

variable {C : Conduct ops OverlayConfig} {worker : Pass τ Context Simulator → AgentWorker}
  {p : Pass τ Context Simulator} {toCome : List Entry}

theorem routeChange (h : Seat C table worker) (s : Surroundings table)
    (p : Pass τ Context Simulator) (es : List Entry) :
    (s.place worker p).routeChange ⟨table.name, es⟩ =
      s.place worker (p.receive es) := by
  have hconsumes : Worker.consumes (worker p) table.name = true := by
    rw [consumes_name, h.holds]
  simp only [Daemon.routeChange, Surroundings.place, List.map_append, List.map_cons,
    s.bystanders_before.map_enqueue, s.bystanders_after.map_enqueue, hconsumes, if_true,
    h.enqueue]
  rfl

theorem hasPending (h : Seat C table worker) (s : Surroundings table)
    (p : Pass τ Context Simulator) : (s.place worker p).hasPending = p.queue.hasPending := by
  simp only [Daemon.hasPending, Surroundings.place, List.any_append, List.any_cons,
    s.bystanders_before.any_hasPending, s.bystanders_after.any_hasPending, h.pending,
    Bool.false_or, Bool.or_false]

theorem config? (h : Seat C table worker) (s : Surroundings table) (p : Pass τ Context Simulator)
    (key : String) : (s.place worker p).config? table key = C.config? p.table key := by
  simp only [Daemon.config?, Surroundings.place, List.findSome?_append, List.findSome?_cons,
    s.bystanders_before.findSome?_config?, s.bystanders_after.findSome?_config?, h.config,
    Option.none_or]
  cases C.config? p.table key <;> rfl

/-- A round is a pass of the table. -/
theorem processOnce (h : Seat C table worker) (s : Surroundings table) {summary : Summary}
    (hsummary : (ops.reconcile p).1 = .ok summary) :
    (s.place worker p).processOnce = (.ok summary, s.place worker (ops.reconcile p).2) := by
  have hbefore : ∀ w ∈ s.before, Worker.hasPending w = false :=
    fun w hw => (s.bystanders_before w hw).1
  have hafter : ∀ w ∈ s.after, Worker.hasPending w = false :=
    fun w hw => (s.bystanders_after w hw).1
  have hpending := h.pending p
  by_cases hne : p.queue.entries = []
  · have hidle : ops.reconcile p = (.ok .empty, p) := BulkTable.reconcile_idle hne
    rw [ChangeQueue.hasPending_eq_false_iff.2 hne] at hpending
    rw [hidle] at hsummary ⊢
    cases hsummary
    refine Daemon.processOnce_of_takeTurns (Daemon.takeTurns_idle ?_ ..)
    intro w hw
    rcases List.mem_append.1 hw with hw | hw
    · exact hbefore w hw
    · rcases List.mem_cons.1 hw with rfl | hw
      · exact hpending
      · exact hafter w hw
  · rw [ChangeQueue.hasPending_eq_true_iff.2 hne] at hpending
    exact Daemon.processOnce_of_takeTurns
      (Daemon.takeTurns_single hbefore hafter hpending (h.work hsummary))

/-- The daemon follows its table. -/
theorem follow (h : Seat C table worker) (s : Surroundings table) {events : List StreamEvent}
    (hready : C.Ready (changesOf events ++ toCome) p) :
    (s.place worker p).follow table.name events = s.place worker (ops.follow events p) := by
  induction events generalizing p with
  | nil => rfl
  | cons event rest ih =>
    cases event with
    | arrive es =>
      rw [changesOf_arrive, List.append_assoc] at hready
      rw [Daemon.follow, h.routeChange]
      exact ih (hready.receive C)
    | pass =>
      obtain ⟨summary, hsummary, hnext, -⟩ := C.reconcile hready
      rw [Daemon.follow, h.processOnce s hsummary]
      exact ih hnext

/-- Two rounds are enough: what the first one leaves pending are SETs, and the second one leaves
nothing. -/
theorem processUntilIdle (h : Seat C table worker) (s : Surroundings table)
    (hready : C.Ready [] p) {rounds : Nat} (hrounds : 2 ≤ rounds) :
    ∃ summary passes, (s.place worker p).processUntilIdle rounds =
        (.ok summary, s.place worker (ops.follow (List.replicate passes .pass) p)) ∧
      (ops.follow (List.replicate passes .pass) p).queue.entries = [] := by
  have hidle : ∀ {q : Pass τ Context Simulator}, q.queue.entries = [] →
      (s.place worker q).hasPending = false := by
    intro q hq
    rw [h.hasPending, ChangeQueue.hasPending_eq_false_iff.2 hq]
  have hbusy : ∀ {q : Pass τ Context Simulator}, q.queue.entries ≠ [] →
      (s.place worker q).hasPending = true := by
    intro q hq
    rw [h.hasPending, ChangeQueue.hasPending_eq_true_iff.2 hq]
  obtain ⟨rounds, rfl⟩ := Nat.exists_eq_add_of_le' hrounds
  by_cases hnone : p.queue.entries = []
  · exact ⟨.empty, 0, Daemon.processUntilIdle_idle (hidle hnone) _, hnone⟩
  · obtain ⟨first, hfirst, hready₁, -⟩ := C.reconcile hready
    have hstep := Daemon.processUntilIdle_succ (hbusy hnone) (h.processOnce s hfirst)
      (hready.consumed_ne_zero C hnone hfirst) (rounds + 1)
    rw [hstep]
    by_cases hnone₁ : (ops.reconcile p).2.queue.entries = []
    · refine ⟨first.merge .empty, 1, ?_, hnone₁⟩
      rw [Daemon.processUntilIdle_idle (hidle hnone₁)]
      rfl
    · obtain ⟨second, hsecond, -⟩ := C.reconcile hready₁
      have hstep₁ := Daemon.processUntilIdle_succ (hbusy hnone₁) (h.processOnce s hsecond)
        (hready₁.consumed_ne_zero C hnone₁ hsecond) rounds
      have hdrained := hready₁.drained C fun e he => (hready.left_set C he).2
      refine ⟨first.merge (second.merge .empty), 2, ?_, hdrained⟩
      rw [hstep₁, Daemon.processUntilIdle_idle (hidle hdrained)]
      rfl

end Seat

end Seats

/-! ## The five seats -/

section Workers

open BulkTable

theorem Summary.empty_merge (s : Summary) : Summary.empty.merge s = s := by
  simp [Summary.merge, Summary.empty]

/-- VNETs of a worker without pending mapping changes. -/
theorem VnetWorker.seat_vnets {w : VnetWorker} (h : w.mappingQueue.entries = []) :
    Seat VnetTable.provision.conduct .vnet fun p =>
      .vnet { w with vnetQueue := p.queue, vnets := p.table } where
  pending p := by
    have hidle := ChangeQueue.hasPending_eq_false_iff.2 h
    simp only [Worker.hasPending, VnetWorker.hasPending, hidle, Bool.or_false]
  holds p := rfl
  enqueue p es := rfl
  work := by
    intro p summary hsummary
    have hidle : ∀ (c : Context) (s : Simulator),
        MappingTable.bulk.reconcile ⟨w.mappingQueue, w.mappings, c, s⟩ =
          (.ok .empty, ⟨w.mappingQueue, w.mappings, c, s⟩) := fun _ _ => reconcile_idle h
    simp only [Worker.work, VnetWorker.work, VnetWorker.workVnets, hsummary,
      VnetWorker.workMappings, hidle]
    rfl
  config p key := rfl
  read := rfl
  valid := rfl
  types := rfl

/-- Mappings of a worker without pending VNET changes. -/
theorem VnetWorker.seat_mappings {w : VnetWorker} (h : w.vnetQueue.entries = []) :
    Seat MappingTable.conduct .mapping fun p =>
      .vnet { w with mappingQueue := p.queue, mappings := p.table } where
  pending p := by
    have hidle := ChangeQueue.hasPending_eq_false_iff.2 h
    simp only [Worker.hasPending, VnetWorker.hasPending, hidle, Bool.false_or]
  holds p := rfl
  enqueue p es := rfl
  work := by
    intro p summary hsummary
    have hidle : ∀ (c : Context) (s : Simulator),
        VnetTable.bulk.reconcile ⟨w.vnetQueue, w.vnets, c, s⟩ =
          (.ok .empty, ⟨w.vnetQueue, w.vnets, c, s⟩) := fun _ _ => reconcile_idle h
    simp only [Worker.work, VnetWorker.work, VnetWorker.workVnets, hidle,
      VnetWorker.workMappings, hsummary, Except.map, Summary.empty_merge]
  config p key := rfl
  read := rfl
  valid := rfl
  types := rfl

theorem EniWorker.seat :
    Seat EniTable.provision.conduct .eni fun p => .eni ⟨p.queue, p.table⟩ where
  pending p := rfl
  holds p := rfl
  enqueue p es := rfl
  work := by
    intro p summary hsummary
    simp only [Worker.work, EniWorker.work, hsummary]
  config p key := rfl
  read := rfl
  valid := rfl
  types := rfl

/-- Routes of a worker without pending rule changes. -/
theorem RouteWorker.seat_routes {w : RouteWorker} (h : w.ruleQueue.entries = []) :
    Seat RouteTable.provision.conduct .route fun p =>
      .route { w with routeQueue := p.queue, routes := p.table } where
  pending p := by
    have hidle := ChangeQueue.hasPending_eq_false_iff.2 h
    simp only [Worker.hasPending, RouteWorker.hasPending, hidle, Bool.or_false]
  holds p := rfl
  enqueue p es := rfl
  work := by
    intro p summary hsummary
    have hidle : ∀ (c : Context) (s : Simulator),
        RuleTable.bulk.reconcile ⟨w.ruleQueue, w.rules, c, s⟩ =
          (.ok .empty, ⟨w.ruleQueue, w.rules, c, s⟩) := fun _ _ => reconcile_idle h
    simp only [Worker.work, RouteWorker.work, RouteWorker.workRoutes, hsummary,
      RouteWorker.workRules, hidle]
    rfl
  config p key := rfl
  read := rfl
  valid := rfl
  types := rfl

/-- Rules of a worker without pending route changes. -/
theorem RouteWorker.seat_rules {w : RouteWorker} (h : w.routeQueue.entries = []) :
    Seat RuleTable.provision.conduct .rule fun p =>
      .route { w with ruleQueue := p.queue, rules := p.table } where
  pending p := by
    have hidle := ChangeQueue.hasPending_eq_false_iff.2 h
    simp only [Worker.hasPending, RouteWorker.hasPending, hidle, Bool.false_or]
  holds p := rfl
  enqueue p es := rfl
  work := by
    intro p summary hsummary
    have hidle : ∀ (c : Context) (s : Simulator),
        RouteTable.bulk.reconcile ⟨w.routeQueue, w.routes, c, s⟩ =
          (.ok .empty, ⟨w.routeQueue, w.routes, c, s⟩) := fun _ _ => reconcile_idle h
    simp only [Worker.work, RouteWorker.work, RouteWorker.workRoutes, hidle,
      RouteWorker.workRules, hsummary, Except.map, Summary.empty_merge]
  config p key := rfl
  read := rfl
  valid := rfl
  types := rfl

end Workers

end DashAgent
