import DashAgent.Proofs.Daemon.Conservation
import DashAgent.Proofs.Overlay.Shapes

/-!
# Between calls

An agent arises from its start by calls in any order, whatever its driver is and however it answers.
Between calls nothing of a pass is left in its tables, and its workers stand in the order of their
priorities. Main theorems: `Daemon.Arises.tidy`, `Daemon.Arises.workers`.
-/
namespace DashAgent

variable {δ : Type} [Driver δ]

/-! ## Turns -/

/-- A turn of two passes that succeed. -/
theorem VnetWorker.work_of_passes {w : VnetWorker} {c : Context} {d : δ} {first second : Summary}
    {p : Pass VnetTable Context δ} {q : Pass MappingTable Context δ}
    (hfirst : VnetTable.bulk.reconcile ⟨w.vnetQueue, w.vnets, c, d⟩ = (.ok first, p))
    (hsecond : MappingTable.bulk.reconcile ⟨w.mappingQueue, w.mappings, p.env, p.switch⟩ =
      (.ok second, q)) :
    w.work c d = (.ok (first.merge second), ⟨p.queue, q.queue, p.table, q.table⟩, q.env,
      q.switch) := by
  simp only [work, workVnets, workMappings, hfirst, hsecond]
  rfl

theorem RouteWorker.work_of_passes {w : RouteWorker} {c : Context} {d : δ} {first second : Summary}
    {p : Pass RouteTable Context δ} {q : Pass RuleTable Context δ}
    (hfirst : RouteTable.bulk.reconcile ⟨w.routeQueue, w.routes, c, d⟩ = (.ok first, p))
    (hsecond : RuleTable.bulk.reconcile ⟨w.ruleQueue, w.rules, p.env, p.switch⟩ =
      (.ok second, q)) :
    w.work c d = (.ok (first.merge second), ⟨p.queue, q.queue, p.table, q.table⟩, q.env,
      q.switch) := by
  simp only [work, workRoutes, workRules, hfirst, hsecond]
  rfl

/-- A stager of a type without requests. -/
def BulkStager.Rests (s : BulkStager) (type : ObjectType) : Prop := s.type = type ∧ s.slots = []

namespace AgentWorker

/-- Nothing of a pass is left in the tables of a worker. -/
def Tidy : AgentWorker → Prop
  | configuration _ => True
  | vnet w => w.vnets.stager.Rests .vnet ∧ w.mappings.BetweenPasses
  | eni w => w.enis.stager.Rests .eni
  | route w => w.routes.stager.Rests .outboundRoutingEntry ∧
    w.rules.stager.Rests .inboundRoutingEntry

theorem Tidy.enqueue {w : AgentWorker} (h : w.Tidy) (table : String) (es : List Entry) :
    (Worker.enqueue w table es).Tidy := by
  cases w with
  | configuration w => trivial
  | vnet w =>
    simp only [Worker.enqueue, VnetWorker.enqueue]
    repeat' split
    all_goals exact h
  | eni w => exact h
  | route w =>
    simp only [Worker.enqueue, RouteWorker.enqueue]
    repeat' split
    all_goals exact h

theorem rests_named {kind : OidKind} {α β ρ : Type} (K : NamedKind kind α β ρ)
    (p : Pass (NamedTable ρ) Context δ) (h : p.table.stager.Rests K.type) :
    ((NamedTable.bulk K).reconcile p).2.table.stager.Rests K.type := by
  obtain ⟨htyped, hidle⟩ := (NamedTable.shaped K).rests_reconcile (p := p) ⟨h.1, h.2⟩
  exact ⟨htyped, hidle⟩

theorem rests_routing {α ρ : Type} (K : RoutingKind α ρ) (p : Pass (RoutingTable ρ) Context δ)
    (h : p.table.stager.Rests K.type) :
    ((RoutingTable.bulk K).reconcile p).2.table.stager.Rests K.type := by
  obtain ⟨htyped, hidle⟩ := (RoutingTable.shaped K).rests_reconcile (p := p) ⟨h.1, h.2⟩
  exact ⟨htyped, hidle⟩

/-- A turn leaves nothing behind, also one that the driver failed. -/
theorem Tidy.work {w : AgentWorker} (h : w.Tidy) (c : Context) (d : δ) :
    (Worker.work w c d).2.1.Tidy := by
  cases w with
  | configuration w => trivial
  | vnet w =>
    have hvnets := rests_named VnetTable.kind ⟨w.vnetQueue, w.vnets, c, d⟩ h.1
    simp only [Worker.work, VnetWorker.work, VnetWorker.workVnets, VnetWorker.workMappings]
    generalize VnetTable.bulk.reconcile ⟨w.vnetQueue, w.vnets, c, d⟩ = first at hvnets ⊢
    obtain ⟨answer, p⟩ := first
    cases answer with
    | error e => exact ⟨hvnets, h.2⟩
    | ok summary => exact ⟨hvnets, h.2.reconcile⟩
  | eni w => exact rests_named EniTable.kind ⟨w.queue, w.enis, c, d⟩ h
  | route w =>
    have hroutes := rests_routing RouteTable.kind ⟨w.routeQueue, w.routes, c, d⟩ h.1
    simp only [Worker.work, RouteWorker.work, RouteWorker.workRoutes, RouteWorker.workRules]
    generalize RouteTable.bulk.reconcile ⟨w.routeQueue, w.routes, c, d⟩ = first at hroutes ⊢
    obtain ⟨answer, p⟩ := first
    cases answer with
    | error e => exact ⟨hroutes, h.2⟩
    | ok summary => exact ⟨hroutes, rests_routing RuleTable.kind _ h.2⟩

/-- A turn does not make another worker of a worker. -/
theorem priority_work (w : AgentWorker) (c : Context) (d : δ) :
    Worker.priority (Worker.work w c d).2.1 = Worker.priority w := by
  cases w <;> rfl

theorem priority_enqueue (w : AgentWorker) (table : String) (es : List Entry) :
    Worker.priority (Worker.enqueue w table es) = Worker.priority w := by
  cases w <;> rfl

end AgentWorker

/-! ## Histories -/

namespace Daemon

/-- Nothing of a pass is left in the tables of the workers, and they stand in the order of their
priorities. -/
structure InOrder (workers : List AgentWorker) : Prop where
  tidy : ∀ w ∈ workers, w.Tidy
  priorities : workers.map Worker.priority = [0, VnetWorker.priority, EniWorker.priority,
    RouteWorker.priority]

theorem InOrder.map {workers : List AgentWorker} (h : InOrder workers)
    {f : AgentWorker → AgentWorker} (htidy : ∀ w, w.Tidy → (f w).Tidy)
    (hpriority : ∀ w, Worker.priority (f w) = Worker.priority w) : InOrder (workers.map f) := by
  refine ⟨fun w hw => ?_, ?_⟩
  · obtain ⟨w', hw', rfl⟩ := List.mem_map.1 hw
    exact htidy w' (h.tidy w' hw')
  · rw [← h.priorities, List.map_map]
    exact List.map_congr_left fun w _ => hpriority w

theorem InOrder.takeTurns {workers : List AgentWorker} (h : InOrder workers) (c : Context)
    (s : δ) : InOrder (takeTurns workers c s).2.1 := by
  obtain ⟨had, wait, hlist, hend⟩ :
      ∃ had wait, [] ++ (Daemon.takeTurns workers c s).2.1 = had ++ wait ∧
        InOrder (had ++ wait) := by
    refine takeTurns_keeps (J := fun before after _ _ => InOrder (before ++ after)) ?_ ?_ h
    · intro before w after c s hbefore
      obtain ⟨htidy, hpriorities⟩ := hbefore
      simp only [List.forall_mem_append, List.forall_mem_cons] at htidy
      refine ⟨?_, ?_⟩
      · simp only [List.forall_mem_append, List.forall_mem_cons]
        exact ⟨⟨htidy.1, htidy.2.1.work c s, List.forall_mem_nil _⟩, htidy.2.2⟩
      · rw [← hpriorities]
        simp [AgentWorker.priority_work]
    · intro before w after c s hbefore
      rwa [List.append_assoc, List.singleton_append]
  rw [List.nil_append] at hlist
  rwa [hlist]

/-- The four workers of an agent, told by their priorities. -/
theorem InOrder.workers {workers : List AgentWorker} (h : InOrder workers) :
    ∃ w v e r, workers = [.configuration w, .vnet v, .eni e, .route r] := by
  have hpriorities := h.priorities
  rcases workers with _ | ⟨w₀, _ | ⟨w₁, _ | ⟨w₂, _ | ⟨w₃, _ | ⟨w₄, rest⟩⟩⟩⟩⟩ <;>
    simp only [List.map_cons, List.map_nil, List.cons.injEq, reduceCtorEq, and_false,
      and_true] at hpriorities
  obtain ⟨h₀, h₁, h₂, h₃⟩ := hpriorities
  cases w₀ <;> cases h₀
  cases w₁ <;> cases h₁
  cases w₂ <;> cases h₂
  cases w₃ <;> cases h₃
  exact ⟨_, _, _, _, rfl⟩

/-- The states of an agent between calls. The driver may change by itself at any time. -/
inductive Arises : Daemon AgentWorker δ → Prop where
  | start (config : DaemonConfig) (pollingMs : Nat) (telemetry : Telemetry) (s : δ) :
    Arises (starting config pollingMs telemetry s)
  | routeChange {d : Daemon AgentWorker δ} (change : TableChange) :
    Arises d → Arises (d.routeChange change)
  | processOnce {d : Daemon AgentWorker δ} : Arises d → Arises d.processOnce.2
  | onMonitorTimer {d : Daemon AgentWorker δ} : Arises d → Arises d.onMonitorTimer
  | drive {d : Daemon AgentWorker δ} (s : δ) : Arises d → Arises { d with switch := s }

variable {d : Daemon AgentWorker δ}

theorem Arises.inOrder (h : Arises d) : InOrder d.workers := by
  induction h with
  | start config pollingMs telemetry s =>
    refine ⟨?_, rfl⟩
    change ∀ w ∈ AgentWorker.all config.batchSize, w.Tidy
    simp only [AgentWorker.all, List.forall_mem_cons]
    exact ⟨trivial, ⟨⟨rfl, rfl⟩, rfl, rfl, rfl, rfl, rfl⟩, ⟨rfl, rfl⟩,
      ⟨⟨rfl, rfl⟩, rfl, rfl⟩, List.forall_mem_nil _⟩
  | routeChange change _ ih =>
    refine ih.map (fun w hw => ?_) fun w => ?_
    · split
      · exact hw.enqueue _ _
      · exact hw
    · split
      · exact w.priority_enqueue _ _
      · rfl
  | @processOnce d _ ih =>
    have hturns := ih.takeTurns d.context d.switch
    unfold Daemon.processOnce
    dsimp only
    split <;> exact hturns
  | @onMonitorTimer d _ ih =>
    rw [onMonitorTimer_eq]
    exact ih.map (fun w hw => hw) fun w => rfl
  | drive s _ ih => exact ih

/-- Between calls nothing of a pass is left in any table of an agent. -/
theorem Arises.tidy (h : Arises d) : ∀ w ∈ d.workers, w.Tidy := h.inOrder.tidy

/-- An agent always has its four workers, parents before children. -/
theorem Arises.workers (h : Arises d) :
    ∃ w v e r, d.workers = [.configuration w, .vnet v, .eni e, .route r] := h.inOrder.workers

end Daemon

end DashAgent
