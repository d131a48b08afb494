import DashAgent.Proofs.Daemon.Tidiness
import DashAgent.Proofs.Overlay.Uptakes

/-!
# Rounds on an ample switch

On an ample switch no round fails, and a round that consumes nothing leaves everything as it was: it
has found nothing to do in the first batch of any queue. So when an agent comes to rest before its
rounds are used up, every change of a first batch is not ready. A change that is ready may still be
pending behind a whole batch of changes that are not. Main theorem: `stalled_at_rest`.
-/
namespace DashAgent

/-- Every change of the next batch would be found not ready. -/
def BulkTable.Stalls {τ κ ε δ : Type} (ops : BulkTable τ κ ε δ) (q : ChangeQueue) (t : τ)
    (env : ε) : Prop :=
  ∀ e ∈ q.entries.take q.batchSize, (ops.stage e env t).1.isNotReady = true

theorem Summary.consumed_merge (s t : Summary) :
    (s.merge t).consumed = s.consumed + t.consumed := by
  simp only [consumed, merge]
  omega

theorem Summary.consumed_merge_eq_zero {s t : Summary} :
    (s.merge t).consumed = 0 ↔ s.consumed = 0 ∧ t.consumed = 0 := by
  rw [consumed_merge]
  omega

/-! ## Passes -/

/-- A pass that consumes nothing stalls, and changes neither the context nor the switch. -/
theorem Uptake.pass {τ κ : Type} {ops : BulkTable τ κ Context Simulator} (U : Uptake ops)
    {p : Pass τ Context Simulator} {m : Nat} (htidy : U.Tidy p.table)
    (hample : p.switch.Ample (m + p.queue.entries.length)) :
    ∃ summary p', ops.reconcile p = (.ok summary, p') ∧
      p'.switch.Ample (m + p'.queue.entries.length) ∧
      (summary.consumed = 0 → p'.env = p.env ∧ p'.switch = p.switch ∧
        ops.Stalls p'.queue p'.table p.env) := by
  obtain ⟨summary, p', hpass, htaken⟩ := U.reconcile htidy hample
  refine ⟨summary, p', hpass, htaken.ample, fun hzero => ?_⟩
  obtain ⟨htable, henv, hswitch, hentries, hstalls⟩ := htaken.quiet hzero
  refine ⟨henv, hswitch, ?_⟩
  rw [BulkTable.Stalls, hentries, htaken.batchSize, htable]
  exact hstalls

/-- Two passes, the second one from where the first one ends. -/
theorem Uptake.passes {τ κ τ' κ' : Type} {ops : BulkTable τ κ Context Simulator}
    {ops' : BulkTable τ' κ' Context Simulator} (U : Uptake ops) (U' : Uptake ops')
    {p : Pass τ Context Simulator} {q : ChangeQueue} {t : τ'} {m : Nat} (htidy : U.Tidy p.table)
    (htidy' : U'.Tidy t)
    (hample : p.switch.Ample (m + (p.queue.entries.length + q.entries.length))) :
    ∃ first p₁ second p₂, ops.reconcile p = (.ok first, p₁) ∧
      ops'.reconcile ⟨q, t, p₁.env, p₁.switch⟩ = (.ok second, p₂) ∧
      p₂.switch.Ample (m + (p₁.queue.entries.length + p₂.queue.entries.length)) ∧
      ((first.merge second).consumed = 0 → p₂.env = p.env ∧ p₂.switch = p.switch ∧
        ops.Stalls p₁.queue p₁.table p.env ∧ ops'.Stalls p₂.queue p₂.table p.env) := by
  obtain ⟨first, p₁, hfirst, hroom, hquiet⟩ :=
    U.pass (m := m + q.entries.length) htidy (hample.mono (by omega))
  obtain ⟨second, p₂, hsecond, hleft, hquiet'⟩ :=
    U'.pass (p := ⟨q, t, p₁.env, p₁.switch⟩) (m := m + p₁.queue.entries.length) htidy'
      (hroom.mono (by dsimp only; omega))
  refine ⟨first, p₁, second, p₂, hfirst, hsecond, ?_, fun hzero => ?_⟩
  · rw [← Nat.add_assoc]
    exact hleft
  · obtain ⟨hzero₁, hzero₂⟩ := Summary.consumed_merge_eq_zero.1 hzero
    obtain ⟨henv, hswitch, hstalls⟩ := hquiet hzero₁
    obtain ⟨henv', hswitch', hstalls'⟩ := hquiet' hzero₂
    exact ⟨henv'.trans henv, hswitch'.trans hswitch, hstalls, henv ▸ hstalls'⟩

/-! ## Turns -/

namespace AgentWorker

def pendingCount : AgentWorker → Nat
  | configuration w => w.queue.entries.length
  | vnet w => w.vnetQueue.entries.length + w.mappingQueue.entries.length
  | eni w => w.queue.entries.length
  | route w => w.routeQueue.entries.length + w.ruleQueue.entries.length

/-- The worker would find nothing to do. -/
def Stalls (c : Context) : AgentWorker → Prop
  | configuration w => w.queue.entries = []
  | vnet w => (VnetTable.bulk (δ := Simulator)).Stalls w.vnetQueue w.vnets c ∧
    (MappingTable.bulk (δ := Simulator)).Stalls w.mappingQueue w.mappings c
  | eni w => (EniTable.bulk (δ := Simulator)).Stalls w.queue w.enis c
  | route w => (RouteTable.bulk (δ := Simulator)).Stalls w.routeQueue w.routes c ∧
    (RuleTable.bulk (δ := Simulator)).Stalls w.ruleQueue w.rules c

theorem consumed_applyAll (es : List Entry) (c : Context) :
    (ConfigurationWorker.applyAll es c).1.consumed = es.length := by
  induction es generalizing c with
  | nil => rfl
  | cons e rest ih =>
    have hrest := ih (ConfigurationWorker.apply e c).2
    simp only [ConfigurationWorker.applyAll, List.length_cons]
    split <;> simp only [Summary.consumed, Summary.merge, Summary.empty] at hrest ⊢ <;> omega

/-- A turn on an ample switch succeeds. If it consumes nothing, nothing is changed and the worker
stalls. -/
theorem work_ample {w : AgentWorker} {c : Context} {s : Simulator} {m : Nat} (htidy : w.Tidy)
    (hample : s.Ample (m + w.pendingCount)) :
    ∃ summary w' c' s', Worker.work w c s = (.ok summary, w', c', s') ∧
      s'.Ample (m + w'.pendingCount) ∧
      (summary.consumed = 0 → c' = c ∧ s' = s ∧ w'.Stalls c) := by
  cases w with
  | configuration w =>
    have hconsumed := consumed_applyAll w.queue.entries c
    refine ⟨(ConfigurationWorker.applyAll w.queue.entries c).1, .configuration ⟨w.queue.clear⟩,
      (ConfigurationWorker.applyAll w.queue.entries c).2, s, rfl,
      hample.mono (Nat.add_le_add_left (Nat.zero_le _) m), fun hzero => ⟨?_, rfl, rfl⟩⟩
    rw [hzero] at hconsumed
    rw [List.eq_nil_of_length_eq_zero hconsumed.symm]
    rfl
  | vnet w =>
    obtain ⟨first, p₁, second, p₂, hvnets, hmappings, hleft, hquiet⟩ :=
      (NamedTable.uptake VnetTable.kind).passes MappingTable.uptake
        (p := ⟨w.vnetQueue, w.vnets, c, s⟩) htidy.1.2 htidy.2 hample
    exact ⟨first.merge second, .vnet ⟨p₁.queue, p₂.queue, p₁.table, p₂.table⟩, p₂.env, p₂.switch,
      by simp only [Worker.work, VnetWorker.work_of_passes hvnets hmappings], hleft, hquiet⟩
  | eni w =>
    obtain ⟨summary, p', henis, hleft, hquiet⟩ :=
      (NamedTable.uptake EniTable.kind).pass (p := ⟨w.queue, w.enis, c, s⟩) htidy.2 hample
    exact ⟨summary, .eni ⟨p'.queue, p'.table⟩, p'.env, p'.switch,
      by simp only [Worker.work, EniWorker.work, henis], hleft, hquiet⟩
  | route w =>
    obtain ⟨first, p₁, second, p₂, hroutes, hrules, hleft, hquiet⟩ :=
      (RoutingTable.uptake RouteTable.kind).passes (RoutingTable.uptake RuleTable.kind)
        (p := ⟨w.routeQueue, w.routes, c, s⟩) htidy.1.2 htidy.2.2 hample
    exact ⟨first.merge second, .route ⟨p₁.queue, p₂.queue, p₁.table, p₂.table⟩, p₂.env, p₂.switch,
      by simp only [Worker.work, RouteWorker.work_of_passes hroutes hrules], hleft, hquiet⟩

/-- A worker without pending changes stalls. -/
theorem stalls_of_idle {w : AgentWorker} (h : Worker.hasPending w = false) (c : Context) :
    w.Stalls c := by
  have hqueue : ∀ {τ κ : Type} {ops : BulkTable τ κ Context Simulator} {q : ChangeQueue} {t : τ},
      q.hasPending = false → ops.Stalls q t c := by
    intro τ κ ops q t hidle
    rw [BulkTable.Stalls, ChangeQueue.hasPending_eq_false_iff.1 hidle, List.take_nil]
    nofun
  cases w with
  | configuration w => exact ChangeQueue.hasPending_eq_false_iff.1 h
  | vnet w =>
    obtain ⟨hvnets, hmappings⟩ := Bool.or_eq_false_iff.1 h
    exact ⟨hqueue hvnets, hqueue hmappings⟩
  | eni w => exact hqueue h
  | route w =>
    obtain ⟨hroutes, hrules⟩ := Bool.or_eq_false_iff.1 h
    exact ⟨hqueue hroutes, hqueue hrules⟩

end AgentWorker

/-! ## Rounds -/

namespace Daemon

theorem takeTurns_ample {ws : List AgentWorker} {c : Context} {s : Simulator} {m : Nat}
    (htidy : ∀ w ∈ ws, w.Tidy)
    (hample : s.Ample (m + (ws.map AgentWorker.pendingCount).sum)) :
    ∃ summary ws' c' s', takeTurns ws c s = (.ok summary, ws', c', s') ∧
      s'.Ample (m + (ws'.map AgentWorker.pendingCount).sum) ∧
      (summary.consumed = 0 → c' = c ∧ s' = s ∧ ∀ w ∈ ws', w.Stalls c) := by
  induction ws generalizing c s m with
  | nil =>
    exact ⟨.empty, [], c, s, rfl, hample, fun _ => ⟨rfl, rfl, List.forall_mem_nil _⟩⟩
  | cons w rest ih =>
    obtain ⟨hw, hrest⟩ := List.forall_mem_cons.1 htidy
    rw [List.map_cons, List.sum_cons] at hample
    by_cases hpending : Worker.hasPending w = true
    · obtain ⟨first, w', c₁, s₁, hwork, hroom, hquiet⟩ :=
        AgentWorker.work_ample (c := c) hw
          (m := m + (rest.map AgentWorker.pendingCount).sum) (hample.mono (by omega))
      obtain ⟨summary, ws', c₂, s₂, hturns, hleft, hquiet'⟩ :=
        ih (c := c₁) hrest (m := m + w'.pendingCount) (hroom.mono (by omega))
      refine ⟨first.merge summary, w' :: ws', c₂, s₂, ?_, ?_, fun hzero => ?_⟩
      · simp only [takeTurns, hpending, if_true, hwork, hturns]
        rfl
      · rwa [List.map_cons, List.sum_cons, ← Nat.add_assoc]
      · obtain ⟨hfirst, hsummary⟩ := Summary.consumed_merge_eq_zero.1 hzero
        obtain ⟨rfl, rfl, hstalls⟩ := hquiet hfirst
        obtain ⟨rfl, rfl, hothers⟩ := hquiet' hsummary
        exact ⟨rfl, rfl, List.forall_mem_cons.2 ⟨hstalls, hothers⟩⟩
    · obtain ⟨summary, ws', c₂, s₂, hturns, hleft, hquiet'⟩ :=
        ih (c := c) hrest (m := m + w.pendingCount) (hample.mono (by omega))
      refine ⟨summary, w :: ws', c₂, s₂, ?_, ?_, fun hzero => ?_⟩
      · simp only [takeTurns, hpending, Bool.false_eq_true, if_false, hturns]
      · rwa [List.map_cons, List.sum_cons, ← Nat.add_assoc]
      · obtain ⟨rfl, rfl, hothers⟩ := hquiet' hzero
        exact ⟨rfl, rfl, List.forall_mem_cons.2
          ⟨AgentWorker.stalls_of_idle (by simpa using hpending) _, hothers⟩⟩

/-- The pending changes of an agent are those of its queues. -/
theorem pendingCount_eq {δ : Type} (d : Daemon AgentWorker δ) :
    d.pendingCount = (d.workers.map AgentWorker.pendingCount).sum := by
  have hworker : ∀ w : AgentWorker, (Worker.pending w).length = w.pendingCount := by
    intro w
    cases w <;> simp [Worker.pending, VnetWorker.pending, RouteWorker.pending, ChangeQueue.dump,
      AgentWorker.pendingCount]
  rw [pendingCount, List.sum_eq_foldl, List.foldl_map]
  simp only [hworker]

variable {d : Daemon AgentWorker Simulator}

/-- A round on an ample switch succeeds. If it consumes nothing, all workers stall. -/
theorem processOnce_ample (harises : Arises d) (hample : d.switch.Ample d.pendingCount) :
    ∃ summary d', d.processOnce = (.ok summary, d') ∧ d'.switch.Ample d'.pendingCount ∧
      (summary.consumed = 0 → ∀ w ∈ d'.workers, w.Stalls d'.context) := by
  rw [pendingCount_eq, ← Nat.zero_add (List.sum _)] at hample
  obtain ⟨summary, ws, c, s, hturns, hleft, hquiet⟩ :=
    takeTurns_ample (c := d.context) harises.tidy hample
  refine ⟨summary, _, processOnce_of_takeTurns hturns, ?_, fun hzero => ?_⟩
  · rw [pendingCount_eq, ← Nat.zero_add (List.sum _)]
    exact hleft
  · obtain ⟨rfl, -, hstalls⟩ := hquiet hzero
    exact hstalls

/-! ## Rounds until nothing is pending -/

/-- The number of rounds that are run before an agent rests, at most as many as are allowed. -/
def roundsRun {ω δ : Type} [Worker ω] [Driver δ] : Nat → Daemon ω δ → Nat
  | 0, _ => 0
  | rounds + 1, d =>
    if d.hasPending then
      match d.processOnce with
      | (.error _, _) => 1
      | (.ok first, d) => if first.consumed = 0 then 1 else 1 + roundsRun rounds d
    else 0

/-- An agent on an ample switch that rests before its rounds are used up has no change in the first
batch of any queue but those that are not ready. -/
theorem stalled_at_rest {rounds : Nat} (harises : Arises d)
    (hample : d.switch.Ample d.pendingCount) (hrest : d.roundsRun rounds < rounds) :
    ∃ summary d', d.processUntilIdle rounds = (.ok summary, d') ∧
      ∀ w ∈ d'.workers, w.Stalls d'.context := by
  induction rounds generalizing d with
  | zero => cases hrest
  | succ rounds ih =>
    by_cases hpending : d.hasPending = true
    · obtain ⟨first, d₁, honce, hample₁, hquiet⟩ := processOnce_ample harises hample
      have harises₁ : Arises d₁ := by simpa only [honce] using harises.processOnce
      by_cases hzero : first.consumed = 0
      · refine ⟨first, d₁, ?_, hquiet hzero⟩
        simp only [processUntilIdle, hpending, if_true, honce, hzero]
      · simp only [roundsRun, hpending, if_true, honce, if_neg hzero] at hrest
        obtain ⟨summary, d', hrun, hstalls⟩ := ih harises₁ hample₁ (by omega)
        refine ⟨first.merge summary, d', ?_, hstalls⟩
        rw [processUntilIdle_succ hpending honce hzero, hrun]
        rfl
    · have hidle : d.hasPending = false := by simpa using hpending
      refine ⟨.empty, d, processUntilIdle_idle hidle _, fun w hw => ?_⟩
      refine AgentWorker.stalls_of_idle ?_ _
      simpa using List.any_eq_false.1 hidle w hw

/-- An agent that takes one change at a time is told of one VNET and of two mappings, the first one
of a VNET that is missing. -/
def spacious : Daemon AgentWorker Simulator :=
  ((starting ⟨1000, 1, true⟩ Monitor.defaultPollingMs .empty (Simulator.new 16)).routeChange
    ⟨VnetTable.name, [⟨"red", .set, [("vni", "100")]⟩]⟩).routeChange
    ⟨MappingTable.name, [
      ⟨"blue:10.0.0.1", .set, [("underlay_ip", "192.0.2.1"), ("mac_address", "00:00:00:00:00:01")]⟩,
      ⟨"red:10.0.0.1", .set, [("underlay_ip", "192.0.2.1"), ("mac_address", "00:00:00:00:00:01")]⟩]⟩

theorem spacious_stalled : Arises spacious ∧ spacious.switch.Ample spacious.pendingCount ∧
    spacious.roundsRun 8 < 8 ∧
    ∃ summary d', spacious.processUntilIdle 8 = (.ok summary, d') ∧
      ∀ w ∈ d'.workers, w.Stalls d'.context := by
  have harises : Arises spacious := .routeChange _ (.routeChange _ (.start ..))
  have hample : spacious.switch.Ample spacious.pendingCount :=
    Simulator.ample_new (by decide +kernel) (by decide +kernel)
  have hrest : spacious.roundsRun 8 < 8 := by decide +kernel
  exact ⟨harises, hample, hrest, stalled_at_rest harises hample hrest⟩

/-- The mapping of the VNET that is there waits behind the other one when the agent rests, although
it would be staged. -/
theorem spacious_waits : Arises spacious ∧ spacious.switch.Ample spacious.pendingCount ∧
    spacious.roundsRun 8 < 8 ∧ (spacious.processUntilIdle 8).1.isOk = true ∧
    ∃ w e, .vnet w ∈ (spacious.processUntilIdle 8).2.workers ∧ e ∈ w.mappingQueue.entries ∧
      (w.mappings.stage e (spacious.processUntilIdle 8).2.context).1.isNotReady = false := by
  refine ⟨.routeChange _ (.routeChange _ (.start ..)),
    Simulator.ample_new (by decide +kernel) (by decide +kernel), by decide +kernel,
    by decide +kernel, ?_⟩
  have hwaits : ((spacious.processUntilIdle 8).2.workers.any fun w => w.vnet?.any fun w =>
      w.mappingQueue.entries.any fun e =>
        !(w.mappings.stage e (spacious.processUntilIdle 8).2.context).1.isNotReady) = true := by
    decide +kernel
  obtain ⟨w, hw, hany⟩ := List.any_eq_true.1 hwaits
  cases w with
  | vnet w =>
    obtain ⟨e, he, hready⟩ := List.any_eq_true.1 hany
    exact ⟨w, e, hw, he, by simpa using hready⟩
  | configuration w | eni w | route w => cases hany

end Daemon

end DashAgent
