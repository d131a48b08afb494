import DashAgent.CommandLine
import DashAgent.Proofs.Daemon.Census
import DashAgent.Proofs.Daemon.Turns
import DashAgent.Switch.FaultGate

/-!
# Conservation of counts

Over every run of an agent, whatever changes arrive and whatever the driver answers, the used counts
of the overlay resources are the numbers of the objects in the tables of the workers. A round keeps
the census of its workers because each of their turns does.
-/
namespace DashAgent

open MappingTable (caCensus caWeight paResource)

/-! ## Counts of one table -/

section Counts

variable {ν : Type} {resource : ν → Resource}

theorem objectsOf_eq_countP (t : Table String ν) (r : Resource) :
    objectsOf resource t r = t.values.countP fun v => decide (r = resource v) := by
  rw [← Table.tally_eq_countP_values]
  simp [objectsOf]

/-- The objects of a table are counted as one of its resources each. -/
theorem sum_objectsOf (h : ∀ v, resource v ∈ Resource.overlay) (t : Table String ν) :
    (Resource.overlay.map (objectsOf resource t)).sum = t.size := by
  have hswap := t.sum_tally (fun r _ v => if r = resource v then 1 else 0) Resource.overlay
  have hone : ∀ r ∈ Resource.overlay,
      (Resource.overlay.map fun s => if s = r then 1 else 0).sum = 1 := by decide
  have hone' : ∀ v, (Resource.overlay.map fun s => if s = resource v then 1 else 0).sum = 1 :=
    fun v => hone _ (h v)
  simp only [hone'] at hswap
  rw [Table.size_eq_tally, ← hswap]
  rfl

/-- The mappings with a CA-to-PA entry are counted as one of two resources each. -/
theorem sum_caCensus (ms : Table String MappingRecord) :
    (Resource.overlay.map (caCensus ms)).sum = ms.values.countP (·.caToPa) := by
  have hswap := ms.sum_tally caWeight Resource.overlay
  have hone : ∀ f b, (Resource.overlay.map fun s =>
      if b = true ∧ s = .outboundCaToPa f then 1 else 0).sum = if b = true then 1 else 0 := by
    intro f b
    cases f <;> cases b <;> decide
  simp only [caWeight, hone] at hswap
  rw [← Table.tally_eq_countP_values, ← hswap]
  rfl

theorem outboundRouting_inj {f g : AddressFamily} :
    Resource.outboundRouting f = .outboundRouting g ↔ g = f := by
  cases f <;> cases g <;> decide

theorem inboundRouting_inj {f g : AddressFamily} :
    Resource.inboundRouting f = .inboundRouting g ↔ g = f := by
  cases f <;> cases g <;> decide

theorem outboundCaToPa_inj {f g : AddressFamily} :
    Resource.outboundCaToPa f = .outboundCaToPa g ↔ g = f := by
  cases f <;> cases g <;> decide

theorem paValidation_inj {f g : AddressFamily} :
    Resource.paValidation f = .paValidation g ↔ g = f := by
  cases f <;> cases g <;> decide

end Counts

/-- The counted objects of a table. A mapping counts by its CA-to-PA entry. -/
def OverlayTable.counted (v : VnetWorker) (e : EniWorker) (r : RouteWorker) : OverlayTable → Nat
  | vnet => v.vnets.vnets.size
  | mapping => v.mappings.mappings.values.countP (·.caToPa) + v.mappings.paEntries.size
  | eni => e.enis.enis.size
  | route => r.routes.routes.size
  | rule => r.rules.rules.size

/-- The used count of every overlay resource is the number of its objects in the tables, and the
accepted increments are as many more than the accepted decrements as there are objects. -/
structure Conserved (m : Monitor) (v : VnetWorker) (e : EniWorker) (r : RouteWorker) : Prop where
  vnets : (m.globalUsed? .dashVnet).map UInt32.toNat = some v.vnets.vnets.size
  enis : (m.globalUsed? .dashEni).map UInt32.toNat = some e.enis.enis.size
  outbound (f : AddressFamily) : (m.globalUsed? (.outboundRouting f)).map UInt32.toNat =
    some (r.routes.routes.values.countP fun route => decide (route.net.family = f))
  inbound (f : AddressFamily) : (m.globalUsed? (.inboundRouting f)).map UInt32.toNat =
    some (r.rules.rules.values.countP fun rule => decide (rule.net.family = f))
  caToPa (f : AddressFamily) : (m.globalUsed? (.outboundCaToPa f)).map UInt32.toNat =
    some (v.mappings.mappings.values.countP fun mapping =>
      mapping.caToPa && decide (mapping.overlayIp.family = f))
  paValidation (f : AddressFamily) : (m.globalUsed? (.paValidation f)).map UInt32.toNat =
    some (v.mappings.paEntries.values.countP fun p => decide (p.underlayIp.family = f))
  calls : m.stats.increments =
    m.stats.decrements + (OverlayTable.all.map (OverlayTable.counted v e r)).sum

section Booked

variable {c : Context} {v : VnetWorker} {e : EniWorker} {r : RouteWorker}

theorem Booked.used (h : Booked c v e r) {s : Resource} {table : OverlayTable}
    (hs : s ∈ Resource.overlay) (howner : s.owner? = some table) :
    (c.monitor.globalUsed? s).map UInt32.toNat = some (OverlayTable.part v e r s table) := by
  obtain ⟨n, hn, hcount⟩ := h.balanced.counts.used s hs
  rw [hn, Option.map_some, hcount, overlayCensus_eq_part howner]

theorem sum_overlayCensus :
    (Resource.overlay.map (overlayCensus v e r)).sum =
      (OverlayTable.all.map (OverlayTable.counted v e r)).sum := by
  have hpart : ∀ table, (Resource.overlay.map fun s => OverlayTable.part v e r s table).sum =
      OverlayTable.counted v e r table := by
    intro table
    cases table with
    | vnet => exact sum_objectsOf (fun _ => by decide) _
    | mapping =>
      have hca := sum_caCensus v.mappings.mappings
      have hpa := sum_objectsOf (fun p : PaRecord => MappingTable.paValidation_overlay p.family)
        v.mappings.paEntries
      rw [OverlayTable.counted, ← hca, ← hpa, ← List.sum_map_add]
      rfl
    | eni => exact sum_objectsOf (fun _ => by decide) _
    | route =>
      exact sum_objectsOf (fun route : RouteRecord => outboundRouting_overlay route.net.family) _
    | rule =>
      exact sum_objectsOf (fun rule : RuleRecord => inboundRouting_overlay rule.net.family) _
  have hsplit : overlayCensus v e r = fun s => OverlayTable.part v e r s .vnet +
      (OverlayTable.part v e r s .mapping + (OverlayTable.part v e r s .eni +
        (OverlayTable.part v e r s .route + (OverlayTable.part v e r s .rule + 0)))) := by
    funext s
    rfl
  rw [hsplit]
  simp only [List.sum_map_add, hpart]
  rfl

theorem Booked.congr (h : Booked c v e r) {v' : VnetWorker} {e' : EniWorker} {r' : RouteWorker}
    (hvnets : v'.vnets = v.vnets) (hmappings : v'.mappings = v.mappings)
    (henis : e'.enis = e.enis) (hroutes : r'.routes = r.routes) (hrules : r'.rules = r.rules) :
    Booked c v' e' r' := by
  refine ⟨h.balanced.congr fun s => ?_, ?_⟩
  · unfold overlayCensus
    congr 2
    funext table
    cases table <;> simp only [OverlayTable.part, hvnets, hmappings, henis, hroutes, hrules]
  · rw [hmappings]
    exact h.keyed

theorem Booked.conserved (h : Booked c v e r) : Conserved c.monitor v e r where
  vnets := by
    rw [h.used (by decide) owner?_dashVnet, OverlayTable.part, objectsOf_eq_countP]
    simp [Table.values, Table.size]
  enis := by
    rw [h.used (by decide) owner?_dashEni, OverlayTable.part, objectsOf_eq_countP]
    simp [Table.values, Table.size]
  outbound f := by
    rw [h.used (outboundRouting_overlay f) (owner?_outboundRouting f), OverlayTable.part,
      objectsOf_eq_countP]
    simp only [outboundRouting_inj]
  inbound f := by
    rw [h.used (inboundRouting_overlay f) (owner?_inboundRouting f), OverlayTable.part,
      objectsOf_eq_countP]
    simp only [inboundRouting_inj]
  caToPa f := by
    have hweight : caWeight (.outboundCaToPa f) = fun _ m =>
        if (m.caToPa && decide (m.overlayIp.family = f)) = true then 1 else 0 := by
      funext key m
      simp only [caWeight, outboundCaToPa_inj, Bool.and_eq_true, decide_eq_true_eq]
    rw [h.used (MappingTable.caToPa_overlay f) (owner?_outboundCaToPa f), OverlayTable.part,
      MappingTable.objectsOf_caToPa, Nat.add_zero, caCensus, hweight,
      Table.tally_eq_countP_values]
  paValidation f := by
    rw [h.used (MappingTable.paValidation_overlay f) (owner?_paValidation f), OverlayTable.part,
      MappingTable.caCensus_paValidation, Nat.zero_add, objectsOf_eq_countP]
    simp only [paResource, paValidation_inj]
    rfl
  calls := by
    rw [h.balanced.counts.calls, sum_overlayCensus]

end Booked

/-! ## Rounds -/

def AgentWorker.HasRoom : AgentWorker → Prop
  | configuration _ => True
  | vnet w => w.vnetQueue.FitsInto w.vnets.vnets ∧
      w.mappingQueue.FitsInto w.mappings.mappings ∧ w.mappingQueue.FitsInto w.mappings.paEntries
  | eni w => w.queue.FitsInto w.enis.enis
  | route w => w.routeQueue.FitsInto w.routes.routes ∧ w.ruleQueue.FitsInto w.rules.rules

instance : (w : AgentWorker) → Decidable w.HasRoom
  | .configuration _ => inferInstanceAs (Decidable True)
  | .vnet _ => inferInstanceAs (Decidable (_ ∧ _ ∧ _))
  | .eni w => inferInstanceAs (Decidable (w.queue.FitsInto w.enis.enis))
  | .route _ => inferInstanceAs (Decidable (_ ∧ _))

namespace Daemon

/-- The workers are those of an agent, and the counts are those of their tables. -/
def InBooks (workers : List AgentWorker) (c : Context) : Prop :=
  ∃ w v e r, workers = [.configuration w, .vnet v, .eni e, .route r] ∧ Booked c v e r

variable {δ : Type} [Driver δ]

/-- Whose turn it is, the worker keeps the counts. -/
theorem InBooks.turn {before after : List AgentWorker} {w : AgentWorker} {c : Context}
    (h : InBooks (before ++ w :: after) c) (hroom : w.HasRoom) (s : δ) :
    InBooks (before ++ (Worker.work w c s).2.1 :: after) (Worker.work w c s).2.2.1 := by
  obtain ⟨w0, v, e, r, hlist, hbooked⟩ := h
  rcases before with _ | ⟨b0, _ | ⟨b1, _ | ⟨b2, _ | ⟨b3, rest⟩⟩⟩⟩
  · cases hlist
    exact ⟨_, v, e, r, rfl, hbooked.applyAll _⟩
  · cases hlist
    exact ⟨w0, _, e, r, rfl, hbooked.workVnet hroom.1 hroom.2.1 hroom.2.2 s⟩
  · cases hlist
    exact ⟨w0, v, _, r, rfl, hbooked.workEnis hroom s⟩
  · cases hlist
    exact ⟨w0, v, e, _, rfl, hbooked.workRoute hroom.1 hroom.2 s⟩
  · simp at hlist

/-- A round keeps the counts, also one that ends early. -/
theorem inBooks_takeTurns {workers : List AgentWorker} {c : Context} (s : δ)
    (h : InBooks workers c) (hroom : ∀ w ∈ workers, w.HasRoom) :
    InBooks (takeTurns workers c s).2.1 (takeTurns workers c s).2.2.1 := by
  obtain ⟨had, wait, hlist, hend, -⟩ : ∃ had wait, [] ++ (takeTurns workers c s).2.1 = had ++ wait ∧
      InBooks (had ++ wait) (takeTurns workers c s).2.2.1 ∧ ∀ w ∈ wait, w.HasRoom := by
    refine takeTurns_keeps (J := fun before after c _ =>
      InBooks (before ++ after) c ∧ ∀ w ∈ after, w.HasRoom) ?_ ?_ ⟨h, hroom⟩
    · intro before w after c s hbefore
      refine ⟨?_, fun w' hw' => hbefore.2 w' (List.mem_cons_of_mem _ hw')⟩
      rw [List.append_assoc, List.singleton_append]
      exact hbefore.1.turn (hbefore.2 w (List.mem_cons_self ..)) s
    · intro before w after c s hbefore
      refine ⟨?_, fun w' hw' => hbefore.2 w' (List.mem_cons_of_mem _ hw')⟩
      rw [List.append_assoc, List.singleton_append]
      exact hbefore.1
  rw [List.nil_append] at hlist
  rw [hlist]
  exact hend

/-! ## Runs -/

/-- An agent as it starts, with any driver. -/
def starting (config : DaemonConfig) (pollingMs : Nat) (telemetry : Telemetry) (s : δ) :
    Daemon AgentWorker δ :=
  (AgentWorker.all config.batchSize).foldl register
    (new config (.new (.new pollingMs telemetry)) s)

/-- The command line starts an agent in this way. -/
theorem agent_eq_starting (a : Arguments) :
    CommandLine.agent a = starting (CommandLine.configOf a) Monitor.defaultPollingMs .empty
      (Simulator.new (a.simCapacity.getD Simulator.defaultTableSize)) := rfl

/-- The states of an agent between calls. The driver may change by itself at any time. -/
inductive Reachable : Daemon AgentWorker δ → Prop where
  | start (config : DaemonConfig) (pollingMs : Nat) (telemetry : Telemetry) (s : δ) :
    Reachable (starting config pollingMs telemetry s)
  | routeChange {d : Daemon AgentWorker δ} (change : TableChange) :
    Reachable d → Reachable (d.routeChange change)
  | processOnce {d : Daemon AgentWorker δ} :
    (∀ w ∈ d.workers, w.HasRoom) → Reachable d → Reachable d.processOnce.2
  | onMonitorTimer {d : Daemon AgentWorker δ} : Reachable d → Reachable d.onMonitorTimer
  | drive {d : Daemon AgentWorker δ} (s : δ) : Reachable d → Reachable { d with switch := s }

variable {d : Daemon AgentWorker δ}

omit [Driver δ] in
theorem inBooks_starting (config : DaemonConfig) (pollingMs : Nat) (telemetry : Telemetry) (s : δ) :
    InBooks (starting config pollingMs telemetry s).workers
      (starting config pollingMs telemetry s).context := by
  have hzero : ∀ r, overlayCensus (.new config.batchSize) (.new config.batchSize)
      (.new config.batchSize) r = 0 := fun _ => rfl
  refine ⟨.new, .new config.batchSize, .new config.batchSize, .new config.batchSize, rfl, ?_, ?_⟩
  · exact ⟨(Monitor.balanced_new pollingMs telemetry).congr hzero, rfl⟩
  · intro pa p hget
    cases hget

omit [Driver δ] in
/-- Changes that arrive are not yet counted. -/
theorem inBooks_routeChange (change : TableChange) (h : InBooks d.workers d.context) :
    InBooks (d.routeChange change).workers d.context := by
  obtain ⟨w, v, e, r, hlist, hbooked⟩ := h
  obtain ⟨table, es⟩ := change
  have hvnet : ∀ b : Bool, (if b then v.enqueue table es else v).vnets = v.vnets ∧
      (if b then v.enqueue table es else v).mappings = v.mappings := by
    intro b
    unfold VnetWorker.enqueue
    repeat' split
    all_goals exact ⟨rfl, rfl⟩
  have heni : ∀ b : Bool,
      (if b then { e with queue := e.queue.addAll es } else e).enis = e.enis := by
    intro b
    split <;> rfl
  have hroute : ∀ b : Bool, (if b then r.enqueue table es else r).routes = r.routes ∧
      (if b then r.enqueue table es else r).rules = r.rules := by
    intro b
    unfold RouteWorker.enqueue
    repeat' split
    all_goals exact ⟨rfl, rfl⟩
  refine ⟨if Worker.consumes (AgentWorker.configuration w) table then ⟨w.queue.addAll es⟩ else w,
    if Worker.consumes (AgentWorker.vnet v) table then v.enqueue table es else v,
    if Worker.consumes (AgentWorker.eni e) table then { e with queue := e.queue.addAll es } else e,
    if Worker.consumes (AgentWorker.route r) table then r.enqueue table es else r, ?_, ?_⟩
  · simp only [routeChange, hlist, List.map, apply_ite AgentWorker.configuration,
      apply_ite AgentWorker.vnet, apply_ite AgentWorker.eni, apply_ite AgentWorker.route]
    rfl
  · exact hbooked.congr (hvnet _).1 (hvnet _).2 (heni _) (hroute _).1 (hroute _).2

theorem onMonitorTimer_eq (d : Daemon AgentWorker δ) :
    d.onMonitorTimer = { d with
      context := { d.context with monitor := (d.context.monitor.onTimer d.switch).1 }
      switch := (d.context.monitor.onTimer d.switch).2
      workers := d.workers.map Worker.onTimer } := by
  unfold onMonitorTimer
  generalize d.context.monitor.onTimer d.switch = ticked
  rfl

/-- The timer moves no used count. -/
theorem inBooks_onMonitorTimer (h : InBooks d.workers d.context) :
    InBooks d.onMonitorTimer.workers d.onMonitorTimer.context := by
  obtain ⟨w, v, e, r, hlist, hbooked⟩ := h
  have htimer := Monitor.sameUse_of_upkeep (Monitor.upkeep_onTimer d.context.monitor d.switch)
  rw [onMonitorTimer_eq]
  generalize d.context.monitor.onTimer d.switch = ticked at htimer ⊢
  have hbalanced := hbooked.balanced
  refine ⟨w, v, e, r, ?_, ⟨hbalanced.counts.sameUse htimer, hbalanced.accepted⟩, hbooked.keyed⟩
  rw [hlist]
  rfl

theorem Reachable.inBooks (h : Reachable d) : InBooks d.workers d.context := by
  induction h with
  | start config pollingMs telemetry s => exact inBooks_starting config pollingMs telemetry s
  | routeChange change _ ih => exact inBooks_routeChange change ih
  | @processOnce d hroom _ ih =>
    have hround := inBooks_takeTurns d.switch ih hroom
    unfold Daemon.processOnce
    dsimp only
    split <;> exact hround
  | onMonitorTimer _ ih => exact inBooks_onMonitorTimer ih
  | drive s _ ih => exact ih

/-- In every state between calls the workers are the four of an agent, the used counts are the
numbers of the objects in their tables, and no accounting was ever skipped. -/
theorem counts_conserved (h : Reachable d) :
    ∃ w v e r, d.workers = [.configuration w, .vnet v, .eni e, .route r] ∧
      Conserved d.context.monitor v e r ∧ d.context.skipped = [] := by
  obtain ⟨w, v, e, r, hlist, hbooked⟩ := h.inBooks
  exact ⟨w, v, e, r, hlist, hbooked.conserved, hbooked.balanced.accepted⟩

def usedCounts (d : Daemon AgentWorker δ) : List (Option Nat) :=
  Resource.overlay.map fun r => (d.context.monitor.globalUsed? r).map UInt32.toNat

/-- An agent is told of a VNET with three mappings, two of which share a PA validation entry, and of
an ENI with routes and rules of both families. -/
def sharedTold : Daemon AgentWorker FaultGate :=
  (((((starting ⟨1000, 8, false⟩ Monitor.defaultPollingMs .empty (FaultGate.new 16)).routeChange
    ⟨VnetTable.name, [⟨"red", .set, [("vni", "100")]⟩]⟩).routeChange
    ⟨MappingTable.name,
      [⟨"red:10.0.0.1", .set,
        [("underlay_ip", "192.0.2.1"), ("mac_address", "00:00:00:00:00:01")]⟩,
      ⟨"red:10.0.0.2", .set,
        [("underlay_ip", "192.0.2.1"), ("mac_address", "00:00:00:00:00:02")]⟩,
      ⟨"red:fd00::3", .set,
        [("underlay_ip", "2001:db8::1"), ("mac_address", "00:00:00:00:00:03")]⟩]⟩).routeChange
    ⟨EniTable.name, [⟨"eni0", .set, [("vnet", "red"), ("mac_address", "00:00:00:00:00:04"),
      ("underlay_ip", "192.0.2.2")]⟩]⟩).routeChange
    ⟨RouteTable.name,
      [⟨"eni0:10.0.0.0/8", .set, [("action_type", "vnet"), ("vnet", "red")]⟩,
      ⟨"eni0:fd00::/16", .set, [("action_type", "vnet"), ("vnet", "red")]⟩]⟩).routeChange
    ⟨RuleTable.name,
      [⟨"eni0:100:10.0.0.0/8", .set, [("priority", "1"), ("vnet", "red")]⟩,
      ⟨"eni0:100:fd00::/16", .set, [("priority", "2"), ("vnet", "red")]⟩]⟩

/-- Then the two mappings that share the entry are to go, and the channel is cut after the removal
of their CA-to-PA entries. -/
def sharedLeaving : Daemon AgentWorker FaultGate :=
  let d := sharedTold.processOnce.2.routeChange
    ⟨MappingTable.name, [⟨"red:10.0.0.1", .del, []⟩, ⟨"red:10.0.0.2", .del, []⟩]⟩
  { d with switch := { d.switch with faults := { d.switch.faults with lostAfter := some 1 } } }

def sharedResumed : Daemon AgentWorker FaultGate :=
  let d := sharedLeaving.processOnce.2
  { d with switch := { d.switch with switch := d.switch.switch.setChannelLost false } }

/-- The failed flush counts nothing, and the retried removals count once, although the switch had
forgotten the CA-to-PA entries by then. -/
theorem shared_counted :
    sharedLeaving.processOnce.1 = .error Simulator.channelDown ∧
      usedCounts sharedLeaving.processOnce.2 =
        [some 1, some 1, some 1, some 1, some 1, some 1, some 2, some 1, some 1, some 1] ∧
      usedCounts sharedResumed.processOnce.2 =
        [some 1, some 1, some 1, some 1, some 1, some 1, some 0, some 1, some 0, some 1] ∧
      (∃ w v e r, sharedLeaving.processOnce.2.workers =
          [.configuration w, .vnet v, .eni e, .route r] ∧
        Conserved sharedLeaving.processOnce.2.context.monitor v e r ∧
        sharedLeaving.processOnce.2.context.skipped = []) ∧
      ∃ w v e r, sharedResumed.processOnce.2.workers =
          [.configuration w, .vnet v, .eni e, .route r] ∧
        Conserved sharedResumed.processOnce.2.context.monitor v e r ∧
        sharedResumed.processOnce.2.context.skipped = [] := by
  have htold : Reachable sharedTold :=
    .routeChange _ <| .routeChange _ <| .routeChange _ <| .routeChange _ <| .routeChange _ <|
      .start ..
  have hroom : ∀ w ∈ sharedTold.workers, w.HasRoom := by decide +kernel
  have hleaving : Reachable sharedLeaving :=
    .drive _ <| .routeChange _ <| htold.processOnce hroom
  have hroom' : ∀ w ∈ sharedLeaving.workers, w.HasRoom := by decide +kernel
  have hresumed : Reachable sharedResumed := .drive _ <| hleaving.processOnce hroom'
  have hroom'' : ∀ w ∈ sharedResumed.workers, w.HasRoom := by decide +kernel
  exact ⟨by decide +kernel, by decide +kernel, by decide +kernel,
    counts_conserved (hleaving.processOnce hroom'), counts_conserved (hresumed.processOnce hroom'')⟩

end Daemon

end DashAgent
