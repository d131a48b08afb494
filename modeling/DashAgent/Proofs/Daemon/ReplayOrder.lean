import DashAgent.Daemon.Replay
import DashAgent.Proofs.Daemon.Confluence

/-!
# The order of a replay

A replay of SETs, at most one for each table and key, ends alike in whatever order the SETs are told
and in whatever groups, if there are not too many of them for the switch and for a batch: children
that come before their parents wait, and the round after each group works off what has become ready.
Main theorem: `Daemon.replay_order`.
-/
namespace DashAgent

/-! ## Changes that are told -/

namespace TableChange

/-- The entries of changes in order, with the names of their tables. -/
def told (changes : List TableChange) : List (String × Entry) :=
  changes.flatMap fun change => change.entries.map fun e => (change.table, e)

/-- The changes of a table among those that are told. -/
def arrivals (xs : List (String × Entry)) (table : OverlayTable) : List Entry :=
  (xs.filter fun x => x.1 = table.name).map Prod.snd

/-- The entries of a change, if it is for the table. -/
def part (change : TableChange) (table : OverlayTable) : List Entry :=
  if change.table = table.name then change.entries else []

/-- SETs for the five tables, at most one for each table and key. -/
structure OnlySets (xs : List (String × Entry)) : Prop where
  tables : ∀ x ∈ xs, ∃ table : OverlayTable, x.1 = table.name
  sets : ∀ x ∈ xs, x.2.op = .set
  keys : (xs.map fun x => (x.1, x.2.key)).Nodup

variable {xs xs' : List (String × Entry)} {change : TableChange}

theorem told_cons (change : TableChange) (rest : List TableChange) :
    told (change :: rest) = told [change] ++ told rest := by
  simp [told]

theorem arrivals_append (xs ys : List (String × Entry)) (table : OverlayTable) :
    arrivals (xs ++ ys) table = arrivals xs table ++ arrivals ys table := by
  simp [arrivals]

theorem arrivals_told (change : TableChange) (table : OverlayTable) :
    arrivals (told [change]) table = change.part table := by
  by_cases h : change.table = table.name <;>
    simp [arrivals, told, part, h, List.filter_map, Function.comp_def]

theorem OnlySets.append_left {ys : List (String × Entry)} (h : OnlySets (xs ++ ys)) :
    OnlySets xs where
  tables x hx := h.tables x (List.mem_append_left _ hx)
  sets x hx := h.sets x (List.mem_append_left _ hx)
  keys := h.keys.sublist ((List.sublist_append_left ..).map _)

theorem OnlySets.append_right {ys : List (String × Entry)} (h : OnlySets (xs ++ ys)) :
    OnlySets ys where
  tables x hx := h.tables x (List.mem_append_right _ hx)
  sets x hx := h.sets x (List.mem_append_right _ hx)
  keys := h.keys.sublist ((List.sublist_append_right ..).map _)

theorem OnlySets.perm (h : OnlySets xs) (hperm : xs.Perm xs') : OnlySets xs' where
  tables x hx := h.tables x (hperm.mem_iff.2 hx)
  sets x hx := h.sets x (hperm.mem_iff.2 hx)
  keys := (hperm.map _).nodup_iff.1 h.keys

/-- The changes of each table are SETs of different keys. -/
theorem OnlySets.newSets (h : OnlySets xs) {limit : Nat} (hlength : xs.length ≤ limit)
    (table : OverlayTable) : NewSets limit (arrivals xs table) where
  sets e he := by
    obtain ⟨x, hx, rfl⟩ := List.mem_map.1 he
    exact h.sets x (List.mem_filter.1 hx).1
  keys := by
    have hkeys := h.keys.sublist ((List.filter_sublist (p := fun x => x.1 = table.name)).map _)
    rw [arrivals, List.map_map]
    refine List.Nodup.of_map (fun key => (table.name, key)) ?_
    rw [List.map_map]
    refine (List.Perm.of_eq (List.map_congr_left fun x hx => ?_)).nodup_iff.2 hkeys
    simp [of_decide_eq_true (List.mem_filter.1 hx).2]
  length := by
    rw [arrivals, List.length_map]
    exact Nat.le_trans (List.length_filter_le ..) hlength

end TableChange

open TableChange

/-! ## Routing -/

def VnetWorker.routed (v : VnetWorker) (change : TableChange) : VnetWorker :=
  { v with
    vnetQueue := v.vnetQueue.addAll (change.part .vnet)
    mappingQueue := v.mappingQueue.addAll (change.part .mapping) }

def EniWorker.routed (n : EniWorker) (change : TableChange) : EniWorker :=
  { n with queue := n.queue.addAll (change.part .eni) }

def RouteWorker.routed (r : RouteWorker) (change : TableChange) : RouteWorker :=
  { r with
    routeQueue := r.routeQueue.addAll (change.part .route)
    ruleQueue := r.ruleQueue.addAll (change.part .rule) }

section Routing

variable {change : TableChange}

/-- A table has one name. -/
theorem part_of_name {table : OverlayTable} (h : change.table = table.name)
    (other : OverlayTable) : change.part other = if other = table then change.entries else [] := by
  rw [part, h]
  cases table <;> cases other <;> rfl

theorem part_of_foreign (h : ∀ table : OverlayTable, change.table ≠ table.name)
    (table : OverlayTable) : change.part table = [] := if_neg (h table)

/-- All entries of a change are for one table, and none is lost. -/
theorem length_parts_le (change : TableChange) :
    (change.part .vnet).length + (change.part .mapping).length + (change.part .eni).length +
      (change.part .route).length + (change.part .rule).length ≤ change.entries.length := by
  by_cases h : ∃ table : OverlayTable, change.table = table.name
  · obtain ⟨table, h⟩ := h
    simp only [part_of_name h]
    cases table <;> simp
  · simp only [part_of_foreign (not_exists.1 h)]
    simp

def received (change : TableChange) (w : AgentWorker) : AgentWorker :=
  if Worker.consumes w change.table then Worker.enqueue w change.table change.entries else w

theorem received_vnet (v : VnetWorker) : received change (.vnet v) = .vnet (v.routed change) := by
  simp only [received, Worker.consumes, VnetWorker.consumes, Worker.enqueue, VnetWorker.enqueue,
    VnetWorker.routed, part, OverlayTable.name]
  by_cases hvnet : change.table = VnetTable.name
  · have hother : VnetTable.name ≠ MappingTable.name := by decide
    simp [hvnet, hother]
  · by_cases hmapping : change.table = MappingTable.name
    · have hother : MappingTable.name ≠ VnetTable.name := by decide
      simp [hmapping, hother]
    · simp [hvnet, hmapping]

theorem received_eni (n : EniWorker) : received change (.eni n) = .eni (n.routed change) := by
  simp only [received, Worker.consumes, Worker.enqueue, EniWorker.routed, part, OverlayTable.name]
  by_cases heni : change.table = EniTable.name <;> simp [heni]

theorem received_route (r : RouteWorker) :
    received change (.route r) = .route (r.routed change) := by
  simp only [received, Worker.consumes, RouteWorker.consumes, Worker.enqueue, RouteWorker.enqueue,
    RouteWorker.routed, part, OverlayTable.name]
  by_cases hroute : change.table = RouteTable.name
  · have hother : RouteTable.name ≠ RuleTable.name := by decide
    simp [hroute, hother]
  · by_cases hrule : change.table = RuleTable.name
    · have hother : RuleTable.name ≠ RouteTable.name := by decide
      simp [hrule, hother]
    · simp [hroute, hrule]

/-- There are no changes of the monitor configuration among changes of the five tables. -/
theorem received_configuration {w : ConfigurationWorker} (hsets : OnlySets (told [change]))
    (hidle : w.queue.entries = []) :
    ∃ w', received change (.configuration w) = .configuration w' ∧ w'.queue.entries = [] := by
  simp only [received]
  split
  · next hconsumes =>
    have htable : change.table = ConfigurationWorker.tableName := of_decide_eq_true hconsumes
    refine ⟨_, rfl, ?_⟩
    cases hes : change.entries with
    | nil => exact hidle
    | cons e rest =>
      obtain ⟨table, hname⟩ := hsets.tables (change.table, e) (by simp [told, hes])
      have hforeign : ConfigurationWorker.tableName ≠ table.name := by cases table <;> decide
      exact absurd (htable.symm.trans hname) hforeign
  · exact ⟨w, rfl, hidle⟩

end Routing

/-- A change arrives. -/
theorem Taking.routed {limit toCome : Nat} {m : Monitor} {s₀ : Simulator}
    {xs : List (String × Entry)} {P : Programmed} {v : VnetWorker} {n : EniWorker}
    {r : RouteWorker} {c : Context} {s : Simulator} {change : TableChange}
    (h : Taking limit (toCome + change.entries.length) m s₀ (arrivals xs) P v n r c s)
    (hsets : OnlySets (xs ++ told [change])) (hlimit : (xs ++ told [change]).length ≤ limit) :
    Taking limit toCome m s₀ (arrivals (xs ++ told [change])) P (v.routed change)
      (n.routed change) (r.routed change) c s := by
  have harrivals : ∀ table, arrivals (xs ++ told [change]) table =
      arrivals xs table ++ change.part table := by
    intro table
    rw [arrivals_append, arrivals_told]
  have hnew : ∀ table, NewSets limit (arrivals xs table ++ change.part table) := by
    intro table
    rw [← harrivals]
    exact hsets.newSets hlimit table
  obtain ⟨hvnetQueue, hvnets⟩ := h.vnets.arrive (hnew .vnet)
  obtain ⟨hmappingQueue, hmappings⟩ := h.mappings.arrive (hnew .mapping)
  obtain ⟨heniQueue, henis⟩ := h.enis.arrive (hnew .eni)
  obtain ⟨hrouteQueue, hroutes⟩ := h.routes.arrive (hnew .route)
  obtain ⟨hruleQueue, hrules⟩ := h.rules.arrive (hnew .rule)
  refine ⟨?_, ?_, ?_, ?_, ?_, h.gains, h.monitor, h.ample.mono ?_⟩
  · rwa [harrivals]
  · rwa [harrivals]
  · rwa [harrivals]
  · rwa [harrivals]
  · rwa [harrivals]
  · have hparts := length_parts_le change
    simp only [pendingOf, VnetWorker.routed, EniWorker.routed, RouteWorker.routed, hvnetQueue,
      hmappingQueue, heniQueue, hrouteQueue, hruleQueue, List.length_append]
    omega

/-! ## Runs -/

namespace Daemon

/-- The agent after SETs have arrived; what is pending need not be worked off. -/
def Takes (limit toCome : Nat) (m : Monitor) (s₀ : Simulator) (xs : List (String × Entry))
    (d : Daemon AgentWorker Simulator) : Prop :=
  ∃ w v n r P, d.workers = AgentWorker.team w v n r ∧ w.queue.entries = [] ∧
    Taking limit toCome m s₀ (arrivals xs) P v n r d.context d.switch

/-- The agent after SETs have arrived, when every pending change waits. -/
def Rests (limit toCome : Nat) (m : Monitor) (s₀ : Simulator) (xs : List (String × Entry))
    (d : Daemon AgentWorker Simulator) : Prop :=
  ∃ w v n r P, d.workers = AgentWorker.team w v n r ∧ w.queue.entries = [] ∧
    Taking limit toCome m s₀ (arrivals xs) P v n r d.context d.switch ∧ Waiting v n r d.context

section Runs

variable {limit toCome : Nat} {m : Monitor} {s₀ : Simulator} {xs : List (String × Entry)}
  {d : Daemon AgentWorker Simulator}

theorem Rests.takes (h : Rests limit toCome m s₀ xs d) : Takes limit toCome m s₀ xs d := by
  obtain ⟨w, v, n, r, P, hteam, hidle, htaking, -⟩ := h
  exact ⟨w, v, n, r, P, hteam, hidle, htaking⟩

theorem Takes.routeChange {change : TableChange}
    (h : Takes limit (toCome + change.entries.length) m s₀ xs d)
    (hsets : OnlySets (xs ++ told [change])) (hlimit : (xs ++ told [change]).length ≤ limit) :
    Takes limit toCome m s₀ (xs ++ told [change]) (d.routeChange change) := by
  obtain ⟨w, v, n, r, P, hteam, hidle, htaking⟩ := h
  obtain ⟨w', hconfiguration, hidle'⟩ := received_configuration hsets.append_right hidle
  refine ⟨w', v.routed change, n.routed change, r.routed change, P, ?_, hidle',
    htaking.routed hsets hlimit⟩
  change d.workers.map (received change) = _
  rw [hteam]
  simp only [AgentWorker.team, List.map_cons, List.map_nil, hconfiguration, received_vnet,
    received_eni, received_route]

theorem Takes.processOnce (h : Takes limit toCome m s₀ xs d) (hsets : OnlySets xs)
    (hlimit : xs.length ≤ limit) :
    ∃ summary d', d.processOnce = (.ok summary, d') ∧ Rests limit toCome m s₀ xs d' := by
  obtain ⟨w, v, n, r, P, hteam, hidle, htaking⟩ := h
  obtain ⟨summary, v', n', r', c', s', P', hturns, htaking', hwaits⟩ :=
    htaking.round (hsets.newSets hlimit) hidle
  rw [← hteam] at hturns
  exact ⟨summary, _, processOnce_of_takeTurns hturns,
    ⟨w, v', n', r', P', rfl, hidle, htaking', hwaits⟩⟩

/-- Nothing is pending. -/
theorem Takes.rests_of_idle (h : Takes limit toCome m s₀ xs d) (hnone : d.hasPending = false) :
    Rests limit toCome m s₀ xs d := by
  obtain ⟨w, v, n, r, P, hteam, hidle, htaking⟩ := h
  rw [hasPending, hteam] at hnone
  simp only [AgentWorker.team, List.any_cons, List.any_nil, Worker.hasPending,
    VnetWorker.hasPending, RouteWorker.hasPending, Bool.or_eq_false_iff,
    ChangeQueue.hasPending_eq_false_iff] at hnone
  obtain ⟨-, ⟨hvnets, hmappings⟩, henis, ⟨hroutes, hrules⟩, -⟩ := hnone
  refine ⟨w, v, n, r, P, hteam, hidle, htaking, ⟨?_, ?_, ?_, ?_, ?_⟩⟩
  · simp [hvnets]
  · simp [hmappings]
  · simp [henis]
  · simp [hroutes]
  · simp [hrules]

/-- A round, and other rounds behind it that keep every pending change waiting. -/
theorem Takes.round (h : Takes limit toCome m s₀ xs d) (hsets : OnlySets xs)
    (hlimit : xs.length ≤ limit) {rounds : Nat}
    (hnext : ∀ {d'}, Rests limit toCome m s₀ xs d' → ∃ summary d'',
      d'.processUntilIdle rounds = (.ok summary, d'') ∧ Rests limit toCome m s₀ xs d'') :
    ∃ summary d', d.processUntilIdle (rounds + 1) = (.ok summary, d') ∧
      Rests limit toCome m s₀ xs d' := by
  cases hpending : d.hasPending with
  | false => exact ⟨.empty, d, processUntilIdle_idle hpending _, h.rests_of_idle hpending⟩
  | true =>
    obtain ⟨first, d₁, honce, hrests⟩ := h.processOnce hsets hlimit
    by_cases hconsumed : first.consumed = 0
    · refine ⟨first, d₁, ?_, hrests⟩
      simp only [Daemon.processUntilIdle, hpending, honce, hconsumed, if_true]
    · obtain ⟨summary, d', hrun, hrests'⟩ := hnext hrests
      refine ⟨first.merge summary, d', ?_, hrests'⟩
      rw [processUntilIdle_succ hpending honce hconsumed, hrun]
      rfl

/-- However many rounds are run, at least one, every pending change waits afterwards. -/
theorem Takes.processUntilIdle (h : Takes limit toCome m s₀ xs d) (hsets : OnlySets xs)
    (hlimit : xs.length ≤ limit) (rounds : Nat) :
    ∃ summary d', d.processUntilIdle (rounds + 1) = (.ok summary, d') ∧
      Rests limit toCome m s₀ xs d' := by
  induction rounds generalizing d with
  | zero => exact h.round hsets hlimit fun hrests => ⟨.empty, _, rfl, hrests⟩
  | succ rounds ih => exact h.round hsets hlimit fun hrests => ih hrests.takes

/-- Changes are replayed one after another. -/
theorem Rests.replayChanges {changes : List TableChange}
    (h : Rests limit (told changes).length m s₀ xs d) (hsets : OnlySets (xs ++ told changes))
    (hlimit : (xs ++ told changes).length ≤ limit) :
    ∃ summary d', d.replayChanges changes = (.ok summary, d') ∧
      Rests limit 0 m s₀ (xs ++ told changes) d' := by
  induction changes generalizing xs d with
  | nil =>
    refine ⟨.empty, d, rfl, ?_⟩
    rw [show told [] = [] from rfl, List.append_nil]
    exact h
  | cons change rest ih =>
    rw [told_cons, ← List.append_assoc] at hsets hlimit ⊢
    have hsets₁ : OnlySets (xs ++ told [change]) := hsets.append_left
    have hlimit₁ : (xs ++ told [change]).length ≤ limit := by
      rw [List.length_append] at hlimit
      omega
    have hlength : (told (change :: rest)).length = (told rest).length + change.entries.length := by
      simp [told, Nat.add_comm]
    rw [hlength] at h
    obtain ⟨first, d₁, hrun, hrests⟩ :=
      (h.takes.routeChange hsets₁ hlimit₁).processUntilIdle hsets₁ hlimit₁ 63
    obtain ⟨summary, d', hreplay, hend⟩ := ih hrests hsets hlimit
    refine ⟨first.merge summary, d', ?_, hend⟩
    simp only [Daemon.replayChanges, maxReplayRounds, hrun, hreplay]
    rfl

/-- An agent that starts has nothing to do. -/
theorem rests_starting (config : DaemonConfig) (pollingMs : Nat) (telemetry : Telemetry)
    {s : Simulator} (hempty : ∀ type, s.objects type = []) {n : Nat} (hample : s.Ample n) :
    Rests config.batchSize n (.new pollingMs telemetry) s []
      (starting config pollingMs telemetry s) := by
  refine ⟨.new, .new config.batchSize, .new config.batchSize, .new config.batchSize,
    ⟨[], [], [], [], []⟩, rfl, rfl, ⟨?_, ?_, ?_, ?_, ?_, ?_, rfl, hample⟩, ?_⟩
  · exact .start (NamedTable.Stocked.empty rfl rfl rfl rfl (hempty _)) ..
  · exact .start (MappingTable.Stocked.empty ⟨rfl, rfl, rfl, rfl, rfl⟩ rfl rfl (hempty _)
      (hempty _)) ..
  · exact .start (NamedTable.Stocked.empty rfl rfl rfl rfl (hempty _)) ..
  · exact .start (RoutingTable.Stocked.empty rfl rfl rfl (hempty _)) ..
  · exact .start (RoutingTable.Stocked.empty rfl rfl rfl (hempty _)) ..
  · exact .refl (Simulator.faultless_of_empty hempty hample)
  · exact ⟨List.forall_mem_nil _, List.forall_mem_nil _, List.forall_mem_nil _,
      List.forall_mem_nil _, List.forall_mem_nil _⟩

end Runs

/-! ## Replays -/

/-- Two agents have the same programmed and pending, share PA validation entries equally often,
count the same and show the same rows. -/
def EndAlike (d d' : Daemon AgentWorker Simulator) : Prop :=
  ∃ w w' v v' n n' r r', d.workers = AgentWorker.team w v n r ∧
    d'.workers = AgentWorker.team w' v' n' r' ∧ Alike v v' n n' r r' ∧
    d.context.monitor = d'.context.monitor

section Replays

variable {limit : Nat} {m : Monitor} {s₀ : Simulator} {xs xs' : List (String × Entry)}
  {d d' : Daemon AgentWorker Simulator}

/-- Agents that rest after the same SETs are alike, also after a tick of the timer. -/
theorem Rests.endAlike (h : Rests limit 0 m s₀ xs d) (h' : Rests limit 0 m s₀ xs' d')
    (hperm : xs.Perm xs') : EndAlike d.onMonitorTimer d'.onMonitorTimer := by
  obtain ⟨w, v, n, r, P, hteam, -, htaking, hwaits⟩ := h
  obtain ⟨w', v', n', r', P', hteam', -, htaking', hwaits'⟩ := h'
  obtain ⟨hsame, halike⟩ :=
    htaking.agree htaking' hwaits hwaits' fun table => (hperm.filter _).map _
  refine ⟨w, w', v, v', n, n', r, r', ?_, ?_, halike, ?_⟩
  · rw [onMonitorTimer_eq, hteam]
    rfl
  · rw [onMonitorTimer_eq, hteam']
    rfl
  · rw [onMonitorTimer_eq, onMonitorTimer_eq]
    dsimp only
    rw [htaking.monitor_eq htaking' hsame]
    exact Monitor.onTimer_of_sameAnswers Monitor.quiet_simulator
      (htaking.sameAnswers htaking' hsame) _

/-- A replay of SETs succeeds and leaves every pending change waiting, with the timer ticked
once. -/
theorem replay_rests (config : DaemonConfig) (pollingMs : Nat) (telemetry : Telemetry)
    {s : Simulator} (hempty : ∀ type, s.objects type = []) {changes : List TableChange}
    (hample : s.Ample (told changes).length) (hsets : OnlySets (told changes))
    (hbatch : (told changes).length ≤ config.batchSize) :
    ∃ summary d, (starting config pollingMs telemetry s).replay changes =
        (.ok summary, d.onMonitorTimer) ∧
      Rests config.batchSize 0 (.new pollingMs telemetry) s (told changes) d := by
  obtain ⟨summary, d, hreplay, hrests⟩ :=
    (rests_starting config pollingMs telemetry hempty hample).replayChanges hsets hbatch
  refine ⟨summary, d, ?_, hrests⟩
  simp only [replay, hreplay]

variable {config : DaemonConfig} {pollingMs capacity : Nat} {telemetry : Telemetry}
  {changes changes' : List TableChange}

/-- The order in which SETs are told and their groups do not matter to a replay. A switch numbers at
most `2 ^ 48` objects. -/
theorem replay_order (hsets : OnlySets (told changes)) (hperm : (told changes).Perm (told changes'))
    (hcapacity : (told changes).length ≤ capacity) (hnumbers : (told changes).length < 2 ^ 48)
    (hbatch : (told changes).length ≤ config.batchSize) :
    ∃ summary summary' d d',
      (starting config pollingMs telemetry (Simulator.new capacity)).replay changes =
        (.ok summary, d) ∧
      (starting config pollingMs telemetry (Simulator.new capacity)).replay changes' =
        (.ok summary', d') ∧ EndAlike d d' := by
  have hempty : ∀ type, (Simulator.new capacity).objects type = [] := by
    simp [Simulator.new, Simulator.objects, Pool.unused]
  have hample := Simulator.ample_new hcapacity hnumbers
  obtain ⟨summary, d, hreplay, hrests⟩ :=
    replay_rests config pollingMs telemetry hempty hample hsets hbatch
  rw [hperm.length_eq] at hample hbatch
  obtain ⟨summary', d', hreplay', hrests'⟩ :=
    replay_rests config pollingMs telemetry hempty hample (hsets.perm hperm) hbatch
  exact ⟨summary, summary', _, _, hreplay, hreplay', hrests.endAlike hrests' hperm⟩

end Replays

/-- A route, two mappings, an ENI and a VNET, children before parents. One mapping is of a VNET that
is never told. -/
def childrenFirst : List TableChange :=
  [⟨RouteTable.name, [⟨"eni0:10.0.0.0/8", .set, [("action_type", "vnet"), ("vnet", "red")]⟩]⟩,
    ⟨MappingTable.name, [
      ⟨"blue:10.0.0.1", .set, [("underlay_ip", "192.0.2.1"), ("mac_address", "00:00:00:00:00:01")]⟩,
      ⟨"red:10.0.0.1", .set, [("underlay_ip", "192.0.2.1"), ("mac_address", "00:00:00:00:00:01")]⟩]⟩,
    ⟨EniTable.name, [⟨"eni0", .set, [("vnet", "red"), ("mac_address", "00:00:00:00:00:02"),
      ("underlay_ip", "192.0.2.2")]⟩]⟩,
    ⟨VnetTable.name, [⟨"red", .set, [("vni", "100")]⟩]⟩]

/-- The same from parents to children, the mappings one by one. -/
def parentsFirst : List TableChange :=
  [⟨VnetTable.name, [⟨"red", .set, [("vni", "100")]⟩]⟩,
    ⟨MappingTable.name, [
      ⟨"red:10.0.0.1", .set, [("underlay_ip", "192.0.2.1"), ("mac_address", "00:00:00:00:00:01")]⟩]⟩,
    ⟨EniTable.name, [⟨"eni0", .set, [("vnet", "red"), ("mac_address", "00:00:00:00:00:02"),
      ("underlay_ip", "192.0.2.2")]⟩]⟩,
    ⟨MappingTable.name, [
      ⟨"blue:10.0.0.1", .set, [("underlay_ip", "192.0.2.1"), ("mac_address", "00:00:00:00:00:01")]⟩]⟩,
    ⟨RouteTable.name, [⟨"eni0:10.0.0.0/8", .set, [("action_type", "vnet"), ("vnet", "red")]⟩]⟩]

def untold : Daemon AgentWorker Simulator :=
  starting ⟨1000, 8, true⟩ Monitor.defaultPollingMs .empty (Simulator.new 16)

/-- Either way the mapping without a VNET alone stays pending, and one ENI is counted. -/
theorem childrenFirst_alike : OnlySets (told childrenFirst) ∧
    (told childrenFirst).Perm (told parentsFirst) ∧
    (untold.replay childrenFirst).2.pendingCount = 1 ∧
    (untold.replay childrenFirst).2.context.monitor.globalUsed? .dashEni = some 1 ∧
    ∃ summary summary' d d', untold.replay childrenFirst = (.ok summary, d) ∧
      untold.replay parentsFirst = (.ok summary', d') ∧ EndAlike d d' := by
  have htables : ∀ x ∈ told childrenFirst,
      x.1 ∈ [OverlayTable.vnet, .mapping, .eni, .route, .rule].map OverlayTable.name := by
    decide +kernel
  have hsets : OnlySets (told childrenFirst) := by
    refine ⟨fun x hx => ?_, by decide +kernel, by decide +kernel⟩
    obtain ⟨table, -, htable⟩ := List.mem_map.1 (htables x hx)
    exact ⟨table, htable.symm⟩
  have hperm : (told childrenFirst).Perm (told parentsFirst) := by decide +kernel
  refine ⟨hsets, hperm, by decide +kernel, by decide +kernel, replay_order hsets hperm ?_ ?_ ?_⟩ <;>
    decide +kernel

end Daemon

end DashAgent
