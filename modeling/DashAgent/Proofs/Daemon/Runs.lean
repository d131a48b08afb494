import DashAgent.Proofs.Daemon.Conservation
import DashAgent.Proofs.Overlay.GatePass
import DashAgent.Proofs.Resource.Queries

/-!
# Runs on a gated switch

An agent is given changes, works rounds and is ticked by its timer, while the settings of the switch
may be changed between any two calls: capacities, truncation, queued statuses and all that queries
answer. What holds of every such run is shown for each of the five passes of a round and for what
happens between rounds.
-/
namespace DashAgent

/-! ## Settings -/

/-- What changing the settings of a gate and its switch leaves alone; only statuses of some kind are
queued. -/
structure Tended (queued : Status → Prop) (g g' : FaultGate) : Prop where
  calls : g'.calls = g.calls
  lostAfter : g'.faults.lostAfter = g.faults.lostAfter
  nullIds : g'.faults.nullIds = g.faults.nullIds
  channelLost : g'.switch.channelLost = g.switch.channelLost
  nextId : g'.switch.nextId = g.switch.nextId
  objects : ∀ type, g'.switch.objects type = g.switch.objects type
  queued : ∀ type, ∀ status ∈ (g'.switch.pools.get type).forced,
    status ∈ (g.switch.pools.get type).forced ∨ queued status

section Tended

variable {queued : Status → Prop} {g g' : FaultGate}

/-- Pools are changed one at a time. -/
theorem tended_modifyPool {type : ObjectType} {f : Pool → Pool}
    (hobjects : ∀ p, (f p).objects = p.objects)
    (hforced : ∀ p, ∀ status ∈ (f p).forced, status ∈ p.forced ∨ queued status) :
    Tended queued g { g with switch := g.switch.modifyPool type f } where
  calls := rfl
  lostAfter := rfl
  nullIds := rfl
  channelLost := rfl
  nextId := rfl
  objects other := by
    by_cases h : type = other
    · subst h
      simp [Simulator.objects, Simulator.modifyPool, hobjects]
    · simp [Simulator.objects, Simulator.modifyPool, Roster.get_modify_of_ne _ _ h]
  queued other status hstatus := by
    by_cases h : type = other
    · subst h
      simp only [Simulator.modifyPool, Roster.get_modify_self] at hstatus
      exact hforced _ status hstatus
    · simp only [Simulator.modifyPool, Roster.get_modify_of_ne _ _ h] at hstatus
      exact .inl hstatus

theorem tended_setCapacity (type : ObjectType) (capacity : Nat) :
    Tended queued g { g with switch := g.switch.setCapacity type capacity } :=
  tended_modifyPool (fun _ => rfl) fun _ _ h => .inl h

theorem tended_pushStatus (type : ObjectType) {status : Status} (h : queued status) :
    Tended queued g { g with switch := g.switch.pushStatus type status } := by
  refine tended_modifyPool (fun _ => rfl) fun p status' hstatus' => ?_
  rcases List.mem_append.1 hstatus' with hold | hnew
  · exact .inl hold
  · rw [List.mem_singleton.1 hnew]
    exact .inr h

theorem tended_truncate (limit : Option Nat) :
    Tended queued g { g with faults := { g.faults with truncate := limit } } :=
  ⟨rfl, rfl, rfl, rfl, rfl, fun _ => rfl, fun _ _ h => .inl h⟩

theorem tended_dump : Tended queued g (Driver.dump g).2 := by
  have hdump : (Driver.dump g).2 = g ∨ (Driver.dump g).2 =
      { g with switch := { g.switch with dumps := g.switch.dumps + 1 } } := by
    change (if g.faults.failingDump then _ else _ : Except DriverError Unit × FaultGate).2 = g ∨
      (if g.faults.failingDump then _ else _ : Except DriverError Unit × FaultGate).2 = _
    split
    · exact .inl rfl
    · exact .inr rfl
  rcases hdump with h | h <;> rw [h] <;>
    exact ⟨rfl, rfl, rfl, rfl, rfl, fun _ => rfl, fun _ _ h => .inl h⟩

end Tended

/-! ## Runs -/

namespace Daemon

/-- The states of an agent between calls, on a switch behind a gate that neither cuts the channel
nor hides identifiers. `admits` tells which keys may be changed in which table, and a round is
processed only if its `guard` holds. -/
inductive GuardedRun (queued : Status → Prop) (admits : String → String → Prop)
    (guard : Daemon AgentWorker FaultGate → Prop) : Daemon AgentWorker FaultGate → Prop where
  | start (config : DaemonConfig) (pollingMs : Nat) (telemetry : Telemetry) (capacity : Nat) :
    GuardedRun queued admits guard (starting config pollingMs telemetry (.new capacity))
  | routeChange {d : Daemon AgentWorker FaultGate} (change : TableChange) :
    (∀ e ∈ change.entries, admits change.table e.key) → GuardedRun queued admits guard d →
    GuardedRun queued admits guard (d.routeChange change)
  | processOnce {d : Daemon AgentWorker FaultGate} : guard d → GuardedRun queued admits guard d →
    GuardedRun queued admits guard d.processOnce.2
  | onMonitorTimer {d : Daemon AgentWorker FaultGate} : GuardedRun queued admits guard d →
    GuardedRun queued admits guard d.onMonitorTimer
  | tend {d : Daemon AgentWorker FaultGate} (g : FaultGate) : Tended queued d.switch g →
    GuardedRun queued admits guard d → GuardedRun queued admits guard { d with switch := g }

/-- Runs in which every round may be processed. -/
abbrev Run (queued : Status → Prop) (admits : String → String → Prop) :
    Daemon AgentWorker FaultGate → Prop := GuardedRun queued admits fun _ => True

section GuardedRun

variable {queued : Status → Prop} {admits : String → String → Prop}
  {guard guard' : Daemon AgentWorker FaultGate → Prop} {d : Daemon AgentWorker FaultGate}

theorem GuardedRun.mono (hle : ∀ d, guard d → guard' d) (h : GuardedRun queued admits guard d) :
    GuardedRun queued admits guard' d := by
  induction h with
  | start config pollingMs telemetry capacity => exact .start ..
  | routeChange change hadmits _ ih => exact .routeChange change hadmits ih
  | processOnce hguard _ ih => exact .processOnce (hle _ hguard) ih
  | onMonitorTimer _ ih => exact .onMonitorTimer ih
  | tend g htended _ ih => exact .tend g htended ih

theorem Run.processOnce (h : Run queued admits d) : Run queued admits d.processOnce.2 :=
  GuardedRun.processOnce trivial h

end GuardedRun

/-- What every run keeps: the gate is open and, with fewer than `2 ^ 48` creates, its switch sound,
and nothing is staged between passes. -/
structure Grounded (queued : Status → Prop) (v : VnetWorker) (e : EniWorker) (r : RouteWorker)
    (g : FaultGate) : Prop where
  opened : g.Open
  sound : g.creates < 2 ^ 48 → g.Sound queued
  vnets : (NamedTable.gateTable VnetTable.kind queued).Rests v.vnets
  mappings : (MappingTable.gateTable queued).Rests v.mappings
  enis : (NamedTable.gateTable EniTable.kind queued).Rests e.enis
  routes : (RoutingTable.gateTable RouteTable.kind queued).Rests r.routes
  rules : (RoutingTable.gateTable RuleTable.kind queued).Rests r.rules

namespace Grounded

open FaultGate (Served)

variable {queued : Status → Prop} {v : VnetWorker} {e : EniWorker} {r : RouteWorker}
  {c : Context} {g g' : FaultGate}

theorem start (queued : Status → Prop) (batchSize capacity : Nat) :
    Grounded queued (.new batchSize) (.new batchSize) (.new batchSize) (.new capacity) where
  opened := ⟨⟨rfl, rfl⟩, rfl⟩
  sound _ := by
    refine ⟨⟨rfl, rfl⟩, ⟨rfl, ?_, ?_, Simulator.issuing_new capacity⟩, Nat.le_refl _⟩
    all_goals
      intro type
      simp [FaultGate.new, Simulator.new, Simulator.objects, Pool.unused]
  vnets := ⟨rfl, rfl⟩
  mappings := ⟨⟨rfl, rfl⟩, rfl, rfl, rfl⟩
  enis := ⟨rfl, rfl⟩
  routes := ⟨rfl, rfl⟩
  rules := ⟨rfl, rfl⟩

theorem served {touched : ObjectType → Prop} (h : Grounded queued v e r g)
    (hserved : Served queued touched g g') : Grounded queued v e r g' :=
  { h with
    opened := hserved.opened
    sound := fun hcreates => by
      have hasked := hserved.asked
      exact hserved.sound hcreates (h.sound (by omega)) }

theorem tended (h : Grounded queued v e r g) (htended : Tended queued g g') :
    Grounded queued v e r g' := by
  have hcreates : g'.creates = g.creates := by
    rw [FaultGate.creates, FaultGate.creates, htended.calls]
  have hpassing : g'.Passing := ⟨htended.lostAfter.trans h.opened.lasting,
    htended.nullIds.trans h.opened.visible⟩
  have hup : g'.switch.channelLost = false := htended.channelLost.trans h.opened.up
  refine { h with opened := ⟨hpassing, hup⟩, sound := fun hbound => ?_ }
  obtain ⟨-, hsound, hnumbers⟩ := h.sound (hcreates ▸ hbound)
  refine ⟨hpassing, ⟨hup, ?_, ?_, ?_⟩, by rw [htended.nextId, hcreates]; exact hnumbers⟩
  · intro type status hstatus
    obtain hold | hnew := htended.queued type status hstatus
    · exact hsound.queued type status hold
    · exact hnew
  · intro type
    rw [htended.objects]
    exact hsound.nodup type
  · intro type id hid
    rw [htended.nextId]
    exact hsound.issued type id (htended.objects type ▸ hid)

/-- The pass over the VNETs, seen from the gate. -/
theorem servedVnets (h : Grounded queued v e r g) (c : Context) :
    Grounded queued (v.workVnets c g).2.1 e r (v.workVnets c g).2.2.2 ∧
      Served queued (· = .vnet) g (v.workVnets c g).2.2.2 := by
  obtain ⟨hrests, hserved⟩ :=
    GateTable.served_reconcile (NamedTable.gateTable VnetTable.kind queued)
      (p := ⟨v.vnetQueue, v.vnets, c, g⟩) h.vnets h.opened
  exact ⟨{ h.served hserved with vnets := hrests }, hserved⟩

theorem servedMappings (h : Grounded queued v e r g) (c : Context) :
    Grounded queued (v.workMappings c g).2.1 e r (v.workMappings c g).2.2.2 ∧
      Served queued (fun type => type = .outboundCaToPaEntry ∨ type = .paValidationEntry) g
        (v.workMappings c g).2.2.2 := by
  obtain ⟨hrests, hserved⟩ := GateTable.served_reconcile (MappingTable.gateTable queued)
    (p := ⟨v.mappingQueue, v.mappings, c, g⟩) h.mappings h.opened
  exact ⟨{ h.served hserved with mappings := hrests }, hserved⟩

theorem servedEnis (h : Grounded queued v e r g) (c : Context) :
    Grounded queued v (e.work c g).2.1 r (e.work c g).2.2.2 ∧
      Served queued (· = .eni) g (e.work c g).2.2.2 := by
  obtain ⟨hrests, hserved⟩ := GateTable.served_reconcile (NamedTable.gateTable EniTable.kind queued)
    (p := ⟨e.queue, e.enis, c, g⟩) h.enis h.opened
  exact ⟨{ h.served hserved with enis := hrests }, hserved⟩

theorem servedRoutes (h : Grounded queued v e r g) (c : Context) :
    Grounded queued v e (r.workRoutes c g).2.1 (r.workRoutes c g).2.2.2 ∧
      Served queued (· = .outboundRoutingEntry) g (r.workRoutes c g).2.2.2 := by
  obtain ⟨hrests, hserved⟩ :=
    GateTable.served_reconcile (RoutingTable.gateTable RouteTable.kind queued)
      (p := ⟨r.routeQueue, r.routes, c, g⟩) h.routes h.opened
  exact ⟨{ h.served hserved with routes := hrests }, hserved⟩

theorem servedRules (h : Grounded queued v e r g) (c : Context) :
    Grounded queued v e (r.workRules c g).2.1 (r.workRules c g).2.2.2 ∧
      Served queued (· = .inboundRoutingEntry) g (r.workRules c g).2.2.2 := by
  obtain ⟨hrests, hserved⟩ :=
    GateTable.served_reconcile (RoutingTable.gateTable RuleTable.kind queued)
      (p := ⟨r.ruleQueue, r.rules, c, g⟩) h.rules h.opened
  exact ⟨{ h.served hserved with rules := hrests }, hserved⟩

theorem enqueueVnet (h : Grounded queued v e r g) (table : String) (es : List Entry) :
    Grounded queued (v.enqueue table es) e r g := by
  have hsame : (v.enqueue table es).vnets = v.vnets ∧
      (v.enqueue table es).mappings = v.mappings := by
    unfold VnetWorker.enqueue
    repeat' split
    all_goals exact ⟨rfl, rfl⟩
  exact { h with vnets := hsame.1 ▸ h.vnets, mappings := hsame.2 ▸ h.mappings }

theorem enqueueRoute (h : Grounded queued v e r g) (table : String) (es : List Entry) :
    Grounded queued v e (r.enqueue table es) g := by
  have hsame : (r.enqueue table es).routes = r.routes ∧
      (r.enqueue table es).rules = r.rules := by
    unfold RouteWorker.enqueue
    repeat' split
    all_goals exact ⟨rfl, rfl⟩
  exact { h with routes := hsame.1 ▸ h.routes, rules := hsame.2 ▸ h.rules }

end Grounded

/-- Assertions about the workers, what they share and the gate at three times of a round: before the
pass over the VNETs, between this pass and the one over the mappings, and after both. -/
structure PhasedRound (queued : Status → Prop)
    (before between after : VnetWorker → EniWorker → RouteWorker → Context → FaultGate → Prop) :
    Prop where
  configured : ∀ {v e r c g} (monitor : Monitor), before v e r c g →
    before v e r { c with monitor } g
  passedOver : ∀ {v e r c g}, before v e r c g → after v e r c g
  vnets : ∀ {v e r c g}, Grounded queued v e r g → before v e r c g →
    between (v.workVnets c g).2.1 e r (v.workVnets c g).2.2.1 (v.workVnets c g).2.2.2
  stopped : ∀ {v e r c g}, between v e r c g → after v e r c g
  mappings : ∀ {v e r c g}, Grounded queued v e r g → between v e r c g →
    after (v.workMappings c g).2.1 e r (v.workMappings c g).2.2.1 (v.workMappings c g).2.2.2
  enis : ∀ {v e r c g}, Grounded queued v e r g → after v e r c g →
    after v (e.work c g).2.1 r (e.work c g).2.2.1 (e.work c g).2.2.2
  routes : ∀ {v e r c g}, Grounded queued v e r g → after v e r c g →
    after v e (r.workRoutes c g).2.1 (r.workRoutes c g).2.2.1 (r.workRoutes c g).2.2.2
  rules : ∀ {v e r c g}, Grounded queued v e r g → after v e r c g →
    after v e (r.workRules c g).2.1 (r.workRules c g).2.2.1 (r.workRules c g).2.2.2
  tended : ∀ {v e r c g g'}, Tended queued g g' → after v e r c g → after v e r c g'

/-- An assertion about the workers, what they share and the gate, kept by every pass, by the monitor
and by changed settings. -/
structure RoundInvariant (queued : Status → Prop)
    (holds : VnetWorker → EniWorker → RouteWorker → Context → FaultGate → Prop) : Prop where
  vnets : ∀ {v e r c g}, Grounded queued v e r g → holds v e r c g →
    holds (v.workVnets c g).2.1 e r (v.workVnets c g).2.2.1 (v.workVnets c g).2.2.2
  mappings : ∀ {v e r c g}, Grounded queued v e r g → holds v e r c g →
    holds (v.workMappings c g).2.1 e r (v.workMappings c g).2.2.1 (v.workMappings c g).2.2.2
  enis : ∀ {v e r c g}, Grounded queued v e r g → holds v e r c g →
    holds v (e.work c g).2.1 r (e.work c g).2.2.1 (e.work c g).2.2.2
  routes : ∀ {v e r c g}, Grounded queued v e r g → holds v e r c g →
    holds v e (r.workRoutes c g).2.1 (r.workRoutes c g).2.2.1 (r.workRoutes c g).2.2.2
  rules : ∀ {v e r c g}, Grounded queued v e r g → holds v e r c g →
    holds v e (r.workRules c g).2.1 (r.workRules c g).2.2.1 (r.workRules c g).2.2.2
  monitor : ∀ {v e r c g} (monitor : Monitor), holds v e r c g →
    holds v e r { c with monitor } g
  tended : ∀ {v e r c g g'}, Tended queued g g' → holds v e r c g → holds v e r c g'

theorem RoundInvariant.phased {queued : Status → Prop}
    {holds : VnetWorker → EniWorker → RouteWorker → Context → FaultGate → Prop}
    (I : RoundInvariant queued holds) : PhasedRound queued holds holds holds where
  configured := I.monitor
  passedOver h := h
  vnets := I.vnets
  stopped h := h
  mappings := I.mappings
  enis := I.enis
  routes := I.routes
  rules := I.rules
  tended := I.tended

/-- The workers are the four of an agent, and the assertion holds. -/
def On (queued : Status → Prop)
    (holds : VnetWorker → EniWorker → RouteWorker → Context → FaultGate → Prop)
    (workers : List AgentWorker) (c : Context) (g : FaultGate) : Prop :=
  ∃ w v e r, workers = [.configuration w, .vnet v, .eni e, .route r] ∧ Grounded queued v e r g ∧
    holds v e r c g

/-! ## Rounds -/

namespace PhasedRound

variable {queued : Status → Prop}
  {before between after : VnetWorker → EniWorker → RouteWorker → Context → FaultGate → Prop}
  (P : PhasedRound queued before between after)

include P

theorem applyAll {v : VnetWorker} {e : EniWorker} {r : RouteWorker} {c : Context} {g : FaultGate}
    (h : before v e r c g) (es : List Entry) :
    before v e r (ConfigurationWorker.applyAll es c).2 g := by
  induction es generalizing c with
  | nil => exact h
  | cons entry rest ih =>
    have happly : before v e r (ConfigurationWorker.apply entry c).2 g := by
      unfold ConfigurationWorker.apply
      split
      · exact P.configured _ h
      · exact h
    exact ih happly

theorem work {v : VnetWorker} {e : EniWorker} {r : RouteWorker} {c : Context} {g : FaultGate}
    (hground : Grounded queued v e r g) (h : before v e r c g) :
    Grounded queued (v.work c g).2.1 e r (v.work c g).2.2.2 ∧
      after (v.work c g).2.1 e r (v.work c g).2.2.1 (v.work c g).2.2.2 := by
  have hfirst := And.intro (hground.servedVnets c).1 (P.vnets hground h)
  unfold VnetWorker.work
  split
  · next heq =>
    rw [heq] at hfirst
    exact ⟨hfirst.1, P.stopped hfirst.2⟩
  · next heq =>
    rw [heq] at hfirst
    exact ⟨(hfirst.1.servedMappings _).1, P.mappings hfirst.1 hfirst.2⟩

theorem turn {had wait : List AgentWorker} {w : AgentWorker} {c : Context} {g : FaultGate}
    (h : On queued (if had.length ≤ 1 then before else after) (had ++ w :: wait) c g) :
    On queued (if had.length = 0 then before else after)
      (had ++ (Worker.work w c g).2.1 :: wait) (Worker.work w c g).2.2.1
      (Worker.work w c g).2.2.2 := by
  obtain ⟨w0, v, e, r, hlist, hground, hholds⟩ := h
  rcases had with _ | ⟨b0, _ | ⟨b1, _ | ⟨b2, _ | ⟨b3, rest⟩⟩⟩⟩
  · cases hlist
    exact ⟨_, v, e, r, rfl, hground, P.applyAll hholds _⟩
  · cases hlist
    exact ⟨w0, _, e, r, rfl, P.work hground hholds⟩
  · cases hlist
    exact ⟨w0, v, _, r, rfl, (hground.servedEnis c).1, P.enis hground hholds⟩
  · cases hlist
    refine ⟨w0, v, e, _, rfl, ?_⟩
    have hfirst := And.intro (hground.servedRoutes c).1 (P.routes hground hholds)
    change Grounded queued v e (r.work c g).2.1 (r.work c g).2.2.2 ∧
      after v e (r.work c g).2.1 (r.work c g).2.2.1 (r.work c g).2.2.2
    unfold RouteWorker.work
    split
    · next heq =>
      rw [heq] at hfirst
      exact hfirst
    · next heq =>
      rw [heq] at hfirst
      exact ⟨(hfirst.1.servedRules _).1, P.rules hfirst.1 hfirst.2⟩
  · simp at hlist

/-- What holds before the turn of the VNETs holds after it, if there is none. -/
theorem later {workers : List AgentWorker} {c : Context} {g : FaultGate} (early : Prop)
    [Decidable early] (h : On queued (if early then before else after) workers c g) :
    On queued after workers c g := by
  split at h
  · obtain ⟨w, v, e, r, hlist, hground, hholds⟩ := h
    exact ⟨w, v, e, r, hlist, hground, P.passedOver hholds⟩
  · exact h

/-- A round leads from the first assertion to the last. -/
theorem takeTurns {workers : List AgentWorker} {c : Context} {g : FaultGate}
    (h : On queued before workers c g) :
    On queued after (takeTurns workers c g).2.1 (takeTurns workers c g).2.2.1
      (takeTurns workers c g).2.2.2 := by
  obtain ⟨had, wait, hlist, hend⟩ : ∃ had wait : List AgentWorker,
      [] ++ (Daemon.takeTurns workers c g).2.1 = had ++ wait ∧
      On queued (if had.length ≤ 1 then before else after) (had ++ wait)
        (Daemon.takeTurns workers c g).2.2.1 (Daemon.takeTurns workers c g).2.2.2 := by
    refine takeTurns_keeps (J := fun had wait c g =>
      On queued (if had.length ≤ 1 then before else after) (had ++ wait) c g) ?_ ?_ h
    · intro had w wait c g hbefore
      have hturn := P.turn hbefore
      rw [List.append_assoc, List.singleton_append, List.length_append, List.length_singleton]
      simpa using hturn
    · intro had w wait c g hbefore
      rw [List.append_assoc, List.singleton_append, List.length_append, List.length_singleton]
      split
      · next hearly => simpa [show had.length ≤ 1 by omega] using hbefore
      · exact P.later _ hbefore
  rw [List.nil_append] at hlist
  rw [hlist]
  exact P.later _ hend

variable {d : Daemon AgentWorker FaultGate}

theorem processOnce (h : On queued before d.workers d.context d.switch) :
    On queued after d.processOnce.2.workers d.processOnce.2.context d.processOnce.2.switch := by
  obtain ⟨w, v, e, r, hlist, hground, hholds⟩ := P.takeTurns h
  unfold Daemon.processOnce
  dsimp only
  split
  · exact ⟨w, v, e, r, hlist, hground, hholds⟩
  · exact ⟨w, v, e, r, hlist, hground.tended tended_dump, P.tended tended_dump hholds⟩

end PhasedRound

/-! ## Invariants of runs -/

/-- An assertion that holds at the start and is kept by changes that arrive, by what happens between
calls, and by rounds whose guard holds. -/
structure GuardedInvariant (queued : Status → Prop) (admits : String → String → Prop)
    (guard : Daemon AgentWorker FaultGate → Prop)
    (holds : VnetWorker → EniWorker → RouteWorker → Context → FaultGate → Prop) : Prop where
  start : ∀ batchSize monitor capacity, holds (.new batchSize) (.new batchSize) (.new batchSize)
    (.new monitor) (.new capacity)
  enqueueVnet : ∀ {v e r c g table es}, (∀ x ∈ es, admits table x.key) → holds v e r c g →
    holds (v.enqueue table es) e r c g
  enqueueEni : ∀ {v e r c g es}, (∀ x ∈ es, admits EniTable.name x.key) → holds v e r c g →
    holds v { e with queue := e.queue.addAll es } r c g
  enqueueRoute : ∀ {v e r c g table es}, (∀ x ∈ es, admits table x.key) → holds v e r c g →
    holds v e (r.enqueue table es) c g
  monitor : ∀ {v e r c g} (monitor : Monitor), holds v e r c g →
    holds v e r { c with monitor } g
  tended : ∀ {v e r c g g'}, Tended queued g g' → holds v e r c g → holds v e r c g'
  processOnce : ∀ {d : Daemon AgentWorker FaultGate}, guard d →
    On queued holds d.workers d.context d.switch →
    On queued holds d.processOnce.2.workers d.processOnce.2.context d.processOnce.2.switch

/-- An assertion that holds at the start and is kept by rounds and by changes that arrive. -/
structure RunInvariant (queued : Status → Prop) (admits : String → String → Prop)
    (holds : VnetWorker → EniWorker → RouteWorker → Context → FaultGate → Prop) : Prop
    extends RoundInvariant queued holds where
  start : ∀ batchSize monitor capacity, holds (.new batchSize) (.new batchSize) (.new batchSize)
    (.new monitor) (.new capacity)
  enqueueVnet : ∀ {v e r c g table es}, (∀ x ∈ es, admits table x.key) → holds v e r c g →
    holds (v.enqueue table es) e r c g
  enqueueEni : ∀ {v e r c g es}, (∀ x ∈ es, admits EniTable.name x.key) → holds v e r c g →
    holds v { e with queue := e.queue.addAll es } r c g
  enqueueRoute : ∀ {v e r c g table es}, (∀ x ∈ es, admits table x.key) → holds v e r c g →
    holds v e (r.enqueue table es) c g

namespace GuardedInvariant

variable {queued : Status → Prop} {admits : String → String → Prop}
  {guard : Daemon AgentWorker FaultGate → Prop}
  {holds : VnetWorker → EniWorker → RouteWorker → Context → FaultGate → Prop}
  (I : GuardedInvariant queued admits guard holds) {d : Daemon AgentWorker FaultGate}

include I

theorem routeChange (change : TableChange)
    (hadmits : ∀ e ∈ change.entries, admits change.table e.key)
    (h : On queued holds d.workers d.context d.switch) :
    On queued holds (d.routeChange change).workers d.context d.switch := by
  obtain ⟨w, v, e, r, hlist, hground, hholds⟩ := h
  obtain ⟨table, es⟩ := change
  have hvnet : ∀ b : Bool, Grounded queued (if b then v.enqueue table es else v) e r d.switch ∧
      holds (if b then v.enqueue table es else v) e r d.context d.switch := by
    intro b
    split
    · exact ⟨hground.enqueueVnet table es, I.enqueueVnet hadmits hholds⟩
    · exact ⟨hground, hholds⟩
  generalize hv : (if Worker.consumes (AgentWorker.vnet v) table then v.enqueue table es else v) =
    v'
  have hvnet' : Grounded queued v' e r d.switch ∧ holds v' e r d.context d.switch :=
    hv ▸ hvnet _
  have heni : Grounded queued v' (if Worker.consumes (AgentWorker.eni e) table then
        { e with queue := e.queue.addAll es } else e) r d.switch ∧
      holds v' (if Worker.consumes (AgentWorker.eni e) table then
        { e with queue := e.queue.addAll es } else e) r d.context d.switch := by
    split
    · next htable =>
      obtain rfl : table = EniTable.name := of_decide_eq_true htable
      exact ⟨{ hvnet'.1 with enis := hvnet'.1.enis }, I.enqueueEni hadmits hvnet'.2⟩
    · exact hvnet'
  generalize he : (if Worker.consumes (AgentWorker.eni e) table then
    { e with queue := e.queue.addAll es } else e) = e' at heni
  have hroute : ∀ b : Bool, Grounded queued v' e' (if b then r.enqueue table es else r) d.switch ∧
      holds v' e' (if b then r.enqueue table es else r) d.context d.switch := by
    intro b
    split
    · exact ⟨heni.1.enqueueRoute table es, I.enqueueRoute hadmits heni.2⟩
    · exact heni
  refine ⟨if Worker.consumes (AgentWorker.configuration w) table then ⟨w.queue.addAll es⟩ else w,
    v', e', if Worker.consumes (AgentWorker.route r) table then r.enqueue table es else r, ?_,
    hroute _⟩
  rw [← hv, ← he]
  simp only [Daemon.routeChange, hlist, List.map, apply_ite AgentWorker.configuration,
    apply_ite AgentWorker.vnet, apply_ite AgentWorker.eni, apply_ite AgentWorker.route]
  rfl

/-- The assertion holds in every state of a guarded run. -/
theorem run (h : GuardedRun queued admits guard d) :
    On queued holds d.workers d.context d.switch := by
  induction h with
  | start config pollingMs telemetry capacity =>
    exact ⟨.new, .new config.batchSize, .new config.batchSize, .new config.batchSize, rfl,
      .start _ _ _, I.start _ _ _⟩
  | routeChange change hadmits _ ih => exact I.routeChange change hadmits ih
  | processOnce hguard _ ih => exact I.processOnce hguard ih
  | @onMonitorTimer d _ ih =>
    obtain ⟨w, v, e, r, hlist, hground, hholds⟩ := ih
    rw [onMonitorTimer_eq, Monitor.snd_onTimer Monitor.quiet_faultGate]
    exact ⟨w, v, e, r, by rw [hlist]; rfl, hground, I.monitor _ hholds⟩
  | tend g htended _ ih =>
    obtain ⟨w, v, e, r, hlist, hground, hholds⟩ := ih
    exact ⟨w, v, e, r, hlist, hground.tended htended, I.tended htended hholds⟩

end GuardedInvariant

section RunInvariant

variable {queued : Status → Prop} {admits : String → String → Prop}
  {guard : Daemon AgentWorker FaultGate → Prop}
  {holds : VnetWorker → EniWorker → RouteWorker → Context → FaultGate → Prop}
  {d : Daemon AgentWorker FaultGate}

theorem RunInvariant.guarded (I : RunInvariant queued admits holds) :
    GuardedInvariant queued admits guard holds :=
  { I with processOnce := fun _ h => I.phased.processOnce h }

/-- The assertion holds in every state of a run, whatever its guard. -/
theorem RunInvariant.run (I : RunInvariant queued admits holds)
    (h : GuardedRun queued admits guard d) : On queued holds d.workers d.context d.switch :=
  I.guarded.run h

end RunInvariant

end Daemon

end DashAgent
