import DashAgent.Proofs.Daemon.Runs
import DashAgent.Proofs.Overlay.NamedObjects

/-!
# VNETs and ENIs agree with the switch

In every state of a run the objects that the switch holds of a kind are those that its table
records, the context knows the same identifiers by the same names, and with room in the tables the
used counts are their number. Statuses may be queued at any time that fail requests, as long as none
of them pretends that an object is gone.
-/
namespace DashAgent

open NamedTable (Agrees Known)

/-! ## Tables and objects -/

section InStep

variable {kind : OidKind} {α β ρ : Type} {K : NamedKind kind α β ρ} {t : NamedTable ρ}
  {ids : Table String (Oid kind)} {s : Simulator}

/-- A table of named objects, an index of identifiers and a switch say the same. -/
structure InStep (K : NamedKind kind α β ρ) (t : NamedTable ρ) (ids : Table String (Oid kind))
    (s : Simulator) : Prop where
  /-- The objects of the type on the switch are the recorded ones. -/
  objects : (s.objects K.type).Perm (t.records.values.map fun r => .oid (K.id r).raw)
  /-- Different names have different identifiers. -/
  distinct : ∀ {name name' r r'}, t.records.get? name = some r →
    t.records.get? name' = some r' → K.id r = K.id r' → name = name'
  /-- The index gives every name the identifier of its record. -/
  index : ∀ name, ids.get? name = (t.records.get? name).map K.id

/-- The switch holds as many objects as the table has. -/
theorem InStep.objectCount (h : InStep K t ids s) :
    s.objectCount K.type = t.records.size := by
  rw [Simulator.objectCount, h.objects.length_eq, List.length_map, Table.values, List.length_map,
    Table.size]

theorem inStep_of_agrees (hagrees : Agrees K t s) (hnodup : (s.objects K.type).Nodup)
    (hindex : ∀ name, ids.get? name = (t.records.get? name).map K.id) : InStep K t ids s where
  objects := hagrees.perm hnodup
  distinct hget hget' hid := hagrees.distinct hget hget' (by rw [hid])
  index := hindex

end InStep

namespace Daemon

variable {queued : Status → Prop} {admits : String → String → Prop} {v : VnetWorker}
  {e : EniWorker} {r : RouteWorker} {c : Context} {g g' : FaultGate}

/-- Both tables of parents agree with their index and, with fewer than `2 ^ 48` creates, with the
switch. -/
structure ParentsAgree (v : VnetWorker) (e : EniWorker) (c : Context) (g : FaultGate) :
    Prop where
  knownVnets : Known VnetTable.kind Context.vnetIds c v.vnets
  knownEnis : Known EniTable.kind Context.eniIds c e.enis
  vnets : g.creates < 2 ^ 48 → Agrees VnetTable.kind v.vnets g.switch
  enis : g.creates < 2 ^ 48 → Agrees EniTable.kind e.enis g.switch

/-- A table whose objects a pass does not touch agrees with the switch after it. -/
theorem agrees_served {kind : OidKind} {α β ρ : Type} {K : NamedKind kind α β ρ}
    {t : NamedTable ρ} {touched : ObjectType → Prop} (hsound : g.creates < 2 ^ 48 → g.Sound queued)
    (hserved : FaultGate.Served queued touched g g') (hother : ¬touched K.type)
    (h : g.creates < 2 ^ 48 → Agrees K t g.switch) (hcreates : g'.creates < 2 ^ 48) :
    Agrees K t g'.switch := by
  have hasked := hserved.asked
  have hsame := hserved.others hcreates (hsound (by omega)) _ hother
  rw [Agrees, hsame]
  exact h (by omega)

/-- A pass that leaves the indices alone and touches neither VNETs nor ENIs. -/
theorem ParentsAgree.served {v' : VnetWorker} {e' : EniWorker} {c' : Context}
    {touched : ObjectType → Prop} (hground : Grounded queued v e r g) (h : ParentsAgree v e c g)
    (hserved : FaultGate.Served queued touched g g') (hvnet : ¬touched .vnet)
    (heni : ¬touched .eni) (hvnets : v'.vnets = v.vnets) (henis : e'.enis = e.enis)
    (hindices : c'.indices = c.indices) : ParentsAgree v' e' c' g' := by
  obtain ⟨hvnetIds, heniIds⟩ := Prod.mk.inj hindices
  constructor
  case knownVnets => rw [Known, hvnets, hvnetIds]; exact h.knownVnets
  case knownEnis => rw [Known, henis, heniIds]; exact h.knownEnis
  case vnets => rw [hvnets]; exact agrees_served hground.sound hserved hvnet h.vnets
  case enis => rw [henis]; exact agrees_served hground.sound hserved heni h.enis

/-- The agreement of the parents along a run. -/
theorem parents (hgone : ¬queued .itemNotFound) (admits : String → String → Prop) :
    RunInvariant queued admits fun v e _ c g => ParentsAgree v e c g where
  start batchSize monitor capacity := by
    have hempty : ∀ type, (Simulator.new capacity).objects type = [] := by
      intro type
      simp [Simulator.new, Simulator.objects, Pool.unused]
    constructor
    case knownVnets | knownEnis => exact fun _ => rfl
    case vnets | enis =>
      intro _
      refine ⟨fun k => ?_, fun hget => by cases hget⟩
      rw [show (FaultGate.new capacity).switch = Simulator.new capacity from rfl, hempty]
      simp [VnetWorker.new, EniWorker.new, NamedTable.new]
  enqueueVnet {v e r c g table es} _ h := by
    have hsame : (v.enqueue table es).vnets = v.vnets := by
      unfold VnetWorker.enqueue
      repeat' split
      all_goals rfl
    refine { h with knownVnets := ?_, vnets := ?_ } <;> rw [hsame]
    exacts [h.knownVnets, h.vnets]
  enqueueEni _ h := { h with }
  enqueueRoute _ h := h
  vnets {v e r c g} hground h := by
    have hserved := (hground.servedVnets c).2
    constructor
    case knownVnets =>
      exact NamedTable.known_reconcile VnetTable.indexed (p := ⟨v.vnetQueue, v.vnets, c, g⟩)
        h.knownVnets
    case knownEnis =>
      intro name
      rw [show (v.workVnets c g).2.2.1.eniIds = c.eniIds from
        VnetTable.eniIds_reconcile ⟨v.vnetQueue, v.vnets, c, g⟩]
      exact h.knownEnis name
    case vnets =>
      intro hcreates
      have hasked := hserved.asked
      exact NamedTable.agrees_reconcile VnetTable.indexed.id_record hgone
        (p := ⟨v.vnetQueue, v.vnets, c, g⟩) hground.vnets hground.opened
        (hground.sound (by omega)) (h.vnets (by omega)) hcreates
    case enis => exact agrees_served hground.sound hserved (by decide) h.enis
  mappings {v e r c g} hground h :=
    h.served hground (hground.servedMappings c).2 (by decide) (by decide) rfl rfl
      (MappingTable.indices_reconcile _)
  enis {v e r c g} hground h := by
    have hserved := (hground.servedEnis c).2
    constructor
    case knownVnets =>
      intro name
      rw [show (e.work c g).2.2.1.vnetIds = c.vnetIds from
        EniTable.vnetIds_reconcile ⟨e.queue, e.enis, c, g⟩]
      exact h.knownVnets name
    case knownEnis =>
      exact NamedTable.known_reconcile EniTable.indexed (p := ⟨e.queue, e.enis, c, g⟩) h.knownEnis
    case vnets => exact agrees_served hground.sound hserved (by decide) h.vnets
    case enis =>
      intro hcreates
      have hasked := hserved.asked
      exact NamedTable.agrees_reconcile EniTable.indexed.id_record hgone
        (p := ⟨e.queue, e.enis, c, g⟩) hground.enis hground.opened (hground.sound (by omega))
        (h.enis (by omega)) hcreates
  routes {v e r c g} hground h :=
    h.served hground (hground.servedRoutes c).2 (by decide) (by decide) rfl rfl
      (RoutingTable.indices_reconcile RouteTable.kind _)
  rules {v e r c g} hground h :=
    h.served hground (hground.servedRules c).2 (by decide) (by decide) rfl rfl
      (RoutingTable.indices_reconcile RuleTable.kind _)
  monitor _ h := ⟨h.knownVnets, h.knownEnis, h.vnets, h.enis⟩
  tended {v e r c g g'} htended h := by
    have hcreates : g'.creates = g.creates := by
      rw [FaultGate.creates, FaultGate.creates, htended.calls]
    refine ⟨h.knownVnets, h.knownEnis, fun hbound => ?_, fun hbound => ?_⟩
    · rw [Agrees, htended.objects]
      exact h.vnets (hcreates ▸ hbound)
    · rw [Agrees, htended.objects]
      exact h.enis (hcreates ▸ hbound)

variable {d : Daemon AgentWorker FaultGate}

/-- In every state of a run with fewer than `2 ^ 48` creates, the VNETs of the switch are those of
the VNET table, with different identifiers for different names, which the context knows, and so are
the ENIs. The numbers of both are the used counts, if the tables had room for all batches. -/
theorem parents_in_step (hgone : ¬queued .itemNotFound) (h : Run queued admits d)
    (hcreates : d.switch.creates < 2 ^ 48) :
    ∃ w v e r, d.workers = [.configuration w, .vnet v, .eni e, .route r] ∧
      InStep VnetTable.kind v.vnets d.context.vnetIds d.switch.switch ∧
      InStep EniTable.kind e.enis d.context.eniIds d.switch.switch ∧
      d.switch.switch.objectCount .vnet = v.vnets.vnets.size ∧
      d.switch.switch.objectCount .eni = e.enis.enis.size ∧
      (Reachable d →
        (d.context.monitor.globalUsed? .dashVnet).map UInt32.toNat = some v.vnets.vnets.size ∧
        (d.context.monitor.globalUsed? .dashEni).map UInt32.toNat = some e.enis.enis.size) := by
  obtain ⟨w, v, e, r, hlist, hground, hagree⟩ := (parents hgone admits).run h
  have hsound := hground.sound hcreates
  have hvnets := inStep_of_agrees (hagree.vnets hcreates) (hsound.switch.nodup _) hagree.knownVnets
  have henis := inStep_of_agrees (hagree.enis hcreates) (hsound.switch.nodup _) hagree.knownEnis
  refine ⟨w, v, e, r, hlist, hvnets, henis, hvnets.objectCount, henis.objectCount, ?_⟩
  intro hreachable
  obtain ⟨w', v', e', r', hlist', hbooked⟩ := hreachable.inBooks
  rw [hlist] at hlist'
  cases hlist'
  exact ⟨hbooked.conserved.vnets, hbooked.conserved.enis⟩

def twoVnetsTold : Daemon AgentWorker FaultGate :=
  (starting ⟨1000, 4, true⟩ Monitor.defaultPollingMs .empty (.new 16)).routeChange
    ⟨VnetTable.name, [⟨"red", .set, [("vni", "100")]⟩, ⟨"blue", .set, [("vni", "200")]⟩]⟩

/-- The agent on a switch that has space for one VNET only, fails the next request for one and
carries out one request of a call. -/
def crowding : Daemon AgentWorker FaultGate :=
  { twoVnetsTold with
    switch := { twoVnetsTold.switch with
      switch := (twoVnetsTold.switch.switch.setCapacity .vnet 1).pushStatus .vnet .failure
      faults := { twoVnetsTold.switch.faults with truncate := some 1 } } }

/-- The agent after two rounds. The first VNET was given up and the second one was retried. -/
def crowded : Daemon AgentWorker FaultGate := crowding.processOnce.2.processOnce.2

theorem crowded_in_step :
    Run (· ≠ .itemNotFound) (fun _ _ => True) crowded ∧ crowded.switch.creates < 2 ^ 48 ∧
      crowded.switch.switch.objectCount .vnet = 1 ∧
      ∃ w v e r, crowded.workers = [.configuration w, .vnet v, .eni e, .route r] ∧
        InStep VnetTable.kind v.vnets crowded.context.vnetIds crowded.switch.switch ∧
        v.vnets.vnets.keys = ["blue"] ∧ v.vnets.vnets.size = 1 ∧
        (crowded.context.monitor.globalUsed? .dashVnet).map UInt32.toNat = some 1 := by
  have htold : Run (· ≠ .itemNotFound) (fun _ _ => True) twoVnetsTold :=
    .routeChange _ (fun _ _ => trivial) (.start _ _ _ _)
  have hfailure : Status.failure ≠ .itemNotFound := by decide
  have hfull := htold.tend _ (tended_setCapacity .vnet 1)
  have hfailing := hfull.tend _ (tended_pushStatus .vnet (by exact hfailure))
  have hcrowding := hfailing.tend _ (tended_truncate (some 1))
  have hrun : Run (· ≠ .itemNotFound) (fun _ _ => True) crowded :=
    Run.processOnce (Run.processOnce hcrowding)
  have hreachable : Reachable crowded := by
    refine .processOnce (by decide +kernel) (.processOnce (by decide +kernel) ?_)
    exact .drive _ (.routeChange _ (.start _ _ _ _))
  have hcreates : crowded.switch.creates < 2 ^ 48 := by decide +kernel
  have hcount : crowded.switch.switch.objectCount .vnet = 1 := by decide +kernel
  have hnames : (crowded.workers.all fun w => w.vnet?.all fun v =>
      v.vnets.vnets.keys = ["blue"]) = true := by decide +kernel
  obtain ⟨w, v, e, r, hlist, hvnets, -, hsize, -, hused⟩ :=
    parents_in_step (not_not_intro rfl) hrun hcreates
  rw [hlist] at hnames
  have hone : v.vnets.vnets.size = 1 := hsize.symm.trans hcount
  refine ⟨hrun, hcreates, hcount, w, v, e, r, hlist, hvnets, ?_, hone, hone ▸ (hused hreachable).1⟩
  simpa [AgentWorker.vnet?] using hnames

end Daemon

end DashAgent
