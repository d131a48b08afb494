import DashAgent.Proofs.Daemon.ParentAgreement
import DashAgent.Proofs.Daemon.SharedEntries
import DashAgent.Proofs.Overlay.MappingObjects

/-!
# Mappings agree with the switch

In every state of a run the CA-to-PA entries that the switch holds are those of the mappings, and
every mapping with PA validation shares an entry that is on the switch. The shared entries are keyed
by the name of a VNET and their objects by its identifier: a VNET that is deleted and created again
while mappings remain has two identifiers under one name, and its new mappings share the entries of
the old ones. In runs without such a VNET the PA validation entries on the switch, too, are those of
the mappings.
-/
namespace DashAgent.Daemon

open MappingTable (Backed CaInStep CaMirrors Named Owned PaInStep PaShared Placed Recorded Settled
  VnetNames paObject?)

variable {queued : Status → Prop} {admits : String → String → Prop} {v v' : VnetWorker}
  {e e' : EniWorker} {r : RouteWorker} {c c' : Context} {g g' : FaultGate}

/-! ## CA-to-PA entries -/

/-- Mappings stand under admitted keys, their CA-to-PA entries are what the switch holds, and every
identifier of a VNET was issued and stands under one name. -/
structure MappingsHeld (admitted : String → Prop) (c : Context) (t : MappingTable)
    (s : Simulator) : Prop where
  named : Named admitted (VnetNames c t) t.mappings t.paEntries
  entries : CaMirrors t s
  apart : NamedTable.Apart .vnet (VnetNames c t) s

/-- The parents agree with the switch, only admitted keys are pending and, with fewer than `2 ^ 48`
creates, the mappings agree with the switch. -/
structure MappingsAgree (admits : String → String → Prop) (v : VnetWorker) (e : EniWorker)
    (c : Context) (g : FaultGate) : Prop where
  parents : ParentsAgree v e c g
  queued : ∀ x ∈ v.mappingQueue.entries, admits MappingTable.name x.key
  held : g.creates < 2 ^ 48 → MappingsHeld (admits MappingTable.name) c v.mappings g.switch

/-- The names of a table move with the index of the context. -/
theorem vnetNames_congr {t : MappingTable} {vnet : String} {id : Oid .vnet}
    (hids : c'.vnetIds = c.vnetIds) (h : VnetNames c' t vnet id) : VnetNames c t vnet id := by
  cases h with
  | programmed hget => exact .programmed (hids ▸ hget)
  | mapping key m hget hvnet hid => exact .mapping key m hget hvnet hid
  | entry pa p hget hcolon hpa hid => exact .entry pa p hget hcolon hpa hid

section Served

variable {touched : ObjectType → Prop}

/-- A pass that touches no CA-to-PA entry and leaves mappings and the index of VNETs alone. -/
theorem MappingsAgree.served (h : MappingsAgree admits v e c g) (hground : Grounded queued v e r g)
    (hparents : ParentsAgree v e' c' g') (hserved : FaultGate.Served queued touched g g')
    (hother : ¬touched .outboundCaToPaEntry) (hids : c'.vnetIds = c.vnetIds) :
    MappingsAgree admits v e' c' g' := by
  refine ⟨hparents, h.queued, fun hcreates => ?_⟩
  have hasked := hserved.asked
  have hsound := hground.sound (by omega)
  obtain ⟨hnamed, hentries, hapart⟩ := h.held (by omega)
  refine ⟨hnamed.own c', ?_, ?_⟩
  · rw [CaMirrors, hserved.others hcreates hsound _ hother]
    exact hentries
  · exact hapart.mono (vnetNames_congr hids) (hserved.next hcreates hsound)

end Served

/-- A pass over the VNETs brings identifiers that no name had before. -/
theorem MappingsAgree.vnets (h : MappingsAgree admits v e c g) (hgone : ¬queued .itemNotFound)
    (hground : Grounded queued v e r g)
    (hparents : ParentsAgree (v.workVnets c g).2.1 e (v.workVnets c g).2.2.1
      (v.workVnets c g).2.2.2) :
    MappingsAgree admits (v.workVnets c g).2.1 e (v.workVnets c g).2.2.1
      (v.workVnets c g).2.2.2 := by
  have hserved := (hground.servedVnets c).2
  have hasked := hserved.asked
  refine ⟨hparents, h.queued, fun hcreates => ?_⟩
  have hsound := hground.sound (by omega)
  obtain ⟨hnamed, hentries, hapart⟩ := h.held (by omega)
  constructor
  case named => exact hnamed.own _
  case entries =>
    rw [CaMirrors, hserved.others hcreates hsound _ (by decide)]
    exact hentries
  case apart =>
    refine hapart.reconcile VnetTable.indexed.id_record hgone (p := ⟨v.vnetQueue, v.vnets, c, g⟩)
      hground.vnets hground.opened hsound hcreates (hparents.vnets hcreates) ?_ ?_
    · intro vnet record hget
      refine .programmed ?_
      rw [h.parents.knownVnets vnet, hget]
      rfl
    · intro vnet id hname
      obtain hget | hold := hnamed.name hname
      · have hknown := hparents.knownVnets vnet
        rw [hget, eq_comm, Option.map_eq_some_iff] at hknown
        exact .inr hknown
      · exact .inl hold

section MappingPass

variable (c g)

/-- A pass over the mappings leaves them under the names that there were. -/
theorem named_workMappings {names : String → Oid .vnet → Prop}
    (h : Named (admits MappingTable.name) names v.mappings.mappings v.mappings.paEntries)
    (hids : ∀ {vnet id}, c.vnetIds.get? vnet = some id → names vnet id)
    (hqueued : ∀ x ∈ v.mappingQueue.entries, admits MappingTable.name x.key) :
    Named (admits MappingTable.name) names (v.workMappings c g).2.1.mappings.mappings
      (v.workMappings c g).2.1.mappings.paEntries :=
  MappingTable.named_reconcile (p := ⟨v.mappingQueue, v.mappings, c, g⟩) h hids hqueued

theorem vnetIds_workMappings : (v.workMappings c g).2.2.1.vnetIds = c.vnetIds :=
  (Prod.mk.inj (MappingTable.indices_reconcile ⟨v.mappingQueue, v.mappings, c, g⟩)).1

/-- What is named after a pass over the mappings was named before. -/
theorem vnetNames_workMappings
    (h : Named (admits MappingTable.name) (VnetNames c v.mappings) v.mappings.mappings
      v.mappings.paEntries)
    (hqueued : ∀ x ∈ v.mappingQueue.entries, admits MappingTable.name x.key) {vnet : String}
    {id : Oid .vnet}
    (hname : VnetNames (v.workMappings c g).2.2.1 (v.workMappings c g).2.1.mappings vnet id) :
    VnetNames c v.mappings vnet id := by
  obtain hget | hold := (named_workMappings c g h .programmed hqueued).name hname
  · rw [vnetIds_workMappings] at hget
    exact .programmed hget
  · exact hold

end MappingPass

/-- A pass over the mappings keeps their CA-to-PA entries equal to what the switch holds. -/
theorem MappingsAgree.mappings (h : MappingsAgree admits v e c g) (hgone : ¬queued .itemNotFound)
    (hthere : ¬queued .itemAlreadyExists)
    (hcanonical : ∀ {key k}, admits MappingTable.name key → MappingKey.parse key = .ok k →
      k.text = key)
    (hground : Grounded queued v e r g)
    (hparents : ParentsAgree (v.workMappings c g).2.1 e (v.workMappings c g).2.2.1
      (v.workMappings c g).2.2.2) :
    MappingsAgree admits (v.workMappings c g).2.1 e (v.workMappings c g).2.2.1
      (v.workMappings c g).2.2.2 := by
  have hserved := (hground.servedMappings c).2
  have hasked := hserved.asked
  refine ⟨hparents, fun x hx => h.queued x (BulkTable.queue_reconcile_subset _ _ hx),
    fun hcreates => ?_⟩
  have hsound := hground.sound (by omega)
  obtain ⟨hnamed, hentries, hapart⟩ := h.held (by omega)
  have hnamed' := named_workMappings c g hnamed .programmed h.queued
  refine ⟨hnamed'.own _, ?_, ?_⟩
  · exact MappingTable.caMirrors_reconcile hgone hthere (p := ⟨v.mappingQueue, v.mappings, c, g⟩)
      hground.mappings hground.opened hsound hcreates hentries
      (MappingTable.distinct_of_named hnamed' hcanonical hapart.sole)
  · exact hapart.mono (vnetNames_workMappings c g hnamed h.queued) (hserved.next hcreates hsound)

/-- The agreement of parents and CA-to-PA entries along a run. -/
theorem mappingsAgree (hgone : ¬queued .itemNotFound) (hthere : ¬queued .itemAlreadyExists)
    (hcanonical : ∀ {key k}, admits MappingTable.name key → MappingKey.parse key = .ok k →
      k.text = key) :
    RunInvariant queued admits fun v e _ c g => MappingsAgree admits v e c g where
  start batchSize monitor capacity := by
    refine ⟨(parents hgone admits).start batchSize monitor capacity, by
      simp [VnetWorker.new, ChangeQueue.new, ChangeQueue.entries], fun _ => ?_⟩
    have hempty : (FaultGate.new capacity).switch.objects .outboundCaToPaEntry = [] := by
      simp [FaultGate.new, Simulator.new, Simulator.objects, Pool.unused]
    have hnone : ∀ {vnet id},
        ¬VnetNames (.new monitor) (VnetWorker.new batchSize).mappings vnet id := by
      intro vnet id hname
      cases hname with
      | programmed hget | mapping _ _ hget | entry _ _ hget => cases hget
    constructor
    case named => exact ⟨fun hget => (by cases hget), fun hget => (by cases hget)⟩
    case entries =>
      refine ⟨fun k => ?_, fun hget => by cases hget⟩
      rw [hempty]
      simp [MappingTable.caLook, VnetWorker.new, MappingTable.new]
    case apart => exact ⟨fun hname => absurd hname hnone, fun hname => absurd hname hnone⟩
  enqueueVnet {v e r c g table es} hadmits h := by
    have hparents := (parents hgone admits).enqueueVnet (r := r) hadmits h.parents
    unfold VnetWorker.enqueue at hparents ⊢
    split at hparents
    · next htable =>
      rw [if_pos htable]
      exact ⟨hparents, h.queued, h.held⟩
    · next hvnet =>
      rw [if_neg hvnet]
      split at hparents
      · next htable =>
        subst htable
        rw [if_pos rfl]
        exact ⟨hparents, fun x hx => (ChangeQueue.mem_addAll hx).elim (h.queued x) (hadmits x),
          h.held⟩
      · next hmapping =>
        rw [if_neg hmapping]
        exact h
  enqueueEni hadmits h :=
    { h with parents := (parents hgone admits).enqueueEni (r := .new 0) hadmits h.parents }
  enqueueRoute _ h := h
  vnets hground h := h.vnets hgone hground ((parents hgone admits).vnets hground h.parents)
  mappings hground h := h.mappings hgone hthere hcanonical hground
    ((parents hgone admits).mappings hground h.parents)
  enis {v e r c g} hground h :=
    h.served hground ((parents hgone admits).enis hground h.parents) (hground.servedEnis c).2
      (by decide) (EniTable.vnetIds_reconcile ⟨e.queue, e.enis, c, g⟩)
  routes {v e r c g} hground h :=
    h.served hground ((parents hgone admits).routes hground h.parents) (hground.servedRoutes c).2
      (by decide) (Prod.mk.inj (RoutingTable.indices_reconcile RouteTable.kind _)).1
  rules {v e r c g} hground h :=
    h.served hground ((parents hgone admits).rules hground h.parents) (hground.servedRules c).2
      (by decide) (Prod.mk.inj (RoutingTable.indices_reconcile RuleTable.kind _)).1
  monitor {v e r c g} monitor h :=
    ⟨(parents hgone admits).monitor (r := r) monitor h.parents, h.queued, fun hcreates =>
      ⟨(h.held hcreates).named.own _, (h.held hcreates).entries,
        (h.held hcreates).apart.mono (vnetNames_congr rfl) (Nat.le_refl _)⟩⟩
  tended {v e r c g g'} htended h := by
    have hcreates : g'.creates = g.creates := by
      rw [FaultGate.creates, FaultGate.creates, htended.calls]
    refine ⟨(parents hgone admits).tended (r := r) htended h.parents, h.queued, fun hbound => ?_⟩
    obtain ⟨hnamed, hentries, hapart⟩ := h.held (hcreates ▸ hbound)
    refine ⟨hnamed, ?_, hapart.mono id (Nat.le_of_eq (by rw [htended.nextId]))⟩
    rw [CaMirrors, htended.objects]
    exact hentries

/-! ## PA validation entries -/

/-- The mappings have room for the next batch of their queue. -/
def Roomy (d : Daemon AgentWorker FaultGate) : Prop :=
  ∀ v, .vnet v ∈ d.workers → v.HasRoom

/-- No VNET is programmed now that was not programmed before and under whose name a mapping was
stored. -/
def NoneRevived (t : MappingTable) (c c' : Context) : Prop :=
  ∀ {key m vnet}, t.mappings.get? key = some m → MappingKey.vnetOf? key = some vnet →
    c.vnetIds.get? vnet = none → c'.vnetIds.get? vnet = none

/-- The next round creates no VNET under whose name a mapping is stored. -/
def Orderly (d : Daemon AgentWorker FaultGate) : Prop :=
  ∀ v, .vnet v ∈ d.workers → NoneRevived v.mappings d.context d.processOnce.2.context

/-- The mappings agree with the switch, references are exact, and with fewer than `2 ^ 48` creates
every recorded PA validation entry is on the switch. -/
structure EntriesBacked (admits : String → String → Prop) (v : VnetWorker) (e : EniWorker)
    (c : Context) (g : FaultGate) : Prop where
  agree : MappingsAgree admits v e c g
  settled : Settled v.mappings
  backed : g.creates < 2 ^ 48 → Backed v.mappings g.switch

/-- No VNET has two identifiers, and every PA validation entry on the switch is recorded. -/
structure EntriesOwned (c : Context) (t : MappingTable) (s : Simulator) : Prop where
  single : ∀ {vnet id id'}, VnetNames c t vnet id → VnetNames c t vnet id' → id = id'
  owned : Owned t s

theorem EntriesOwned.congr {t : MappingTable} {s s' : Simulator} (h : EntriesOwned c t s)
    (hids : c'.vnetIds = c.vnetIds)
    (hobjects : s'.objects .paValidationEntry = s.objects .paValidationEntry) :
    EntriesOwned c' t s' where
  single hname hname' := h.single (vnetNames_congr hids hname) (vnetNames_congr hids hname')
  owned := by
    rw [Owned, hobjects]
    exact h.owned

section Served

variable {touched : ObjectType → Prop}

theorem EntriesBacked.served (h : EntriesBacked admits v e c g) (hground : Grounded queued v e r g)
    (hagree : MappingsAgree admits v' e' c' g') (hmappings : v'.mappings = v.mappings)
    (hserved : FaultGate.Served queued touched g g') (hother : ¬touched .paValidationEntry) :
    EntriesBacked admits v' e' c' g' := by
  refine ⟨hagree, hmappings ▸ h.settled, fun hcreates => ?_⟩
  have hasked := hserved.asked
  rw [Backed, hserved.others hcreates (hground.sound (by omega)) _ hother, hmappings]
  exact h.backed (by omega)

theorem EntriesOwned.served (h : g.creates < 2 ^ 48 → EntriesOwned c v.mappings g.switch)
    (hground : Grounded queued v e r g) (hserved : FaultGate.Served queued touched g g')
    (hother : ¬touched .paValidationEntry) (hids : c'.vnetIds = c.vnetIds)
    (hcreates : g'.creates < 2 ^ 48) : EntriesOwned c' v.mappings g'.switch := by
  have hasked := hserved.asked
  exact (h (by omega)).congr hids (hserved.others hcreates (hground.sound (by omega)) _ hother)

end Served

section Turnover

/-- A pass over the mappings turns the PA validation entries over. -/
theorem turnover_workMappings (h : EntriesBacked admits v e c g) (hgone : ¬queued .itemNotFound)
    (hthere : ¬queued .itemAlreadyExists) (hground : Grounded queued v e r g) (hroom : v.HasRoom)
    (hcreates : (v.workMappings c g).2.2.2.creates < 2 ^ 48) :
    MappingTable.Turnover (VnetNames c v.mappings) (paObject? v.mappings.paEntries)
      (paObject? (v.workMappings c g).2.1.mappings.paEntries)
      (g.switch.objects .paValidationEntry)
      ((v.workMappings c g).2.2.2.switch.objects .paValidationEntry) := by
  have hasked := (hground.servedMappings c).2.asked
  have hheld := h.agree.held (by omega)
  exact MappingTable.turnover_reconcile hgone hthere
    (p := ⟨v.mappingQueue, v.mappings, c, g⟩) hground.mappings hground.opened
    (hground.sound (by omega)) h.settled hroom hheld.named .programmed h.agree.queued hcreates

/-- A pass over the mappings keeps the recorded entries on the switch. -/
theorem EntriesBacked.mappings (h : EntriesBacked admits v e c g) (hgone : ¬queued .itemNotFound)
    (hthere : ¬queued .itemAlreadyExists) (hground : Grounded queued v e r g) (hroom : v.HasRoom)
    (hagree : MappingsAgree admits (v.workMappings c g).2.1 e (v.workMappings c g).2.2.1
      (v.workMappings c g).2.2.2) :
    EntriesBacked admits (v.workMappings c g).2.1 e (v.workMappings c g).2.2.1
      (v.workMappings c g).2.2.2 := by
  refine ⟨hagree, MappingTable.settled_reconcile (p := ⟨v.mappingQueue, v.mappings, c, g⟩)
    h.settled hroom, fun hcreates => ?_⟩
  have hasked := (hground.servedMappings c).2.asked
  have hheld := h.agree.held (by omega)
  intro pa object hget
  exact (turnover_workMappings h hgone hthere hground hroom hcreates).backed hheld.apart.sole
    hheld.named.recorded (h.backed (by omega)) hget

/-- A pass over the mappings leaves no entry on the switch that is not recorded. -/
theorem EntriesOwned.mappings (howned : g.creates < 2 ^ 48 → EntriesOwned c v.mappings g.switch)
    (h : EntriesBacked admits v e c g) (hgone : ¬queued .itemNotFound)
    (hthere : ¬queued .itemAlreadyExists) (hground : Grounded queued v e r g) (hroom : v.HasRoom)
    (hcreates : (v.workMappings c g).2.2.2.creates < 2 ^ 48) :
    EntriesOwned (v.workMappings c g).2.2.1 (v.workMappings c g).2.1.mappings
      (v.workMappings c g).2.2.2.switch := by
  have hasked := (hground.servedMappings c).2.asked
  have hheld := h.agree.held (by omega)
  have hbefore := howned (by omega)
  have hnames : ∀ {vnet id},
      VnetNames (v.workMappings c g).2.2.1 (v.workMappings c g).2.1.mappings vnet id →
        VnetNames c v.mappings vnet id :=
    vnetNames_workMappings c g hheld.named h.agree.queued
  exact ⟨fun hname hname' => hbefore.single (hnames hname) (hnames hname'),
    (turnover_workMappings h hgone hthere hground hroom hcreates).owned hbefore.single
      hheld.named.recorded hbefore.owned⟩

end Turnover

/-- A PA validation entry is recorded under the name of a VNET that has a mapping. -/
theorem exists_mapping_of_name (hsettled : Settled v.mappings) {vnet : String} {id : Oid .vnet}
    (hname : VnetNames c v.mappings vnet id) : c.vnetIds.get? vnet = some id ∨
      ∃ key m, v.mappings.mappings.get? key = some m ∧ MappingKey.vnetOf? key = some vnet := by
  cases hname with
  | programmed hget => exact .inl hget
  | mapping key m hget hvnet => exact .inr ⟨key, m, hget, hvnet⟩
  | entry pa p hget hcolon hpa =>
    obtain ⟨key, m, vnet', hm, -, hvnet', hpa'⟩ := hsettled.exact.holder hget
    have hcolon' := colon_notMem_vnetOf? key
    rw [hvnet', Option.getD_some] at hcolon'
    obtain ⟨rfl, -⟩ := (paKey_inj hcolon' hcolon).1 (hpa'.trans hpa)
    exact .inr ⟨key, m, hm, hvnet'⟩

/-- A pass over the VNETs that creates none under whose name a mapping is stored gives no VNET a
second identifier. -/
theorem EntriesOwned.vnets (howned : g.creates < 2 ^ 48 → EntriesOwned c v.mappings g.switch)
    (h : EntriesBacked admits v e c g) (hgone : ¬queued .itemNotFound)
    (hground : Grounded queued v e r g)
    (hparents : ParentsAgree (v.workVnets c g).2.1 e (v.workVnets c g).2.2.1
      (v.workVnets c g).2.2.2)
    (hnone : NoneRevived v.mappings c (v.workVnets c g).2.2.1)
    (hcreates : (v.workVnets c g).2.2.2.creates < 2 ^ 48) :
    EntriesOwned (v.workVnets c g).2.2.1 v.mappings (v.workVnets c g).2.2.2.switch := by
  have hserved := (hground.servedVnets c).2
  have hasked := hserved.asked
  have hsound := hground.sound (by omega)
  have hheld := h.agree.held (by omega)
  have hbefore := howned (by omega)
  -- A programmed identifier is that of before, or that of a VNET without any name before.
  have hprogrammed : ∀ {vnet id}, (v.workVnets c g).2.2.1.vnetIds.get? vnet = some id →
      c.vnetIds.get? vnet = some id ∨ ∀ id', ¬VnetNames c v.mappings vnet id' := by
    intro vnet id hget
    have hknown := hparents.knownVnets vnet
    rw [hget, eq_comm, Option.map_eq_some_iff] at hknown
    obtain ⟨record, hrecord, rfl⟩ := hknown
    obtain hold | ⟨habsent, -⟩ := NamedTable.issued_reconcile VnetTable.indexed.id_record hgone
      (p := ⟨v.vnetQueue, v.vnets, c, g⟩) hground.vnets hground.opened hsound hcreates hrecord
    · left
      rw [h.agree.parents.knownVnets vnet, hold]
      rfl
    · right
      intro id' hname
      have hunknown : c.vnetIds.get? vnet = none := by
        rw [h.agree.parents.knownVnets vnet, habsent]
        rfl
      obtain hget' | ⟨key, m, hm, hvnet⟩ := exists_mapping_of_name h.settled hname
      · rw [hunknown] at hget'
        cases hget'
      · rw [hnone hm hvnet hunknown] at hget
        cases hget
  refine ⟨fun {vnet id id'} hname hname' => ?_, ?_⟩
  · have hcases : ∀ {id}, VnetNames (v.workVnets c g).2.2.1 v.mappings vnet id →
        VnetNames c v.mappings vnet id ∨ ((v.workVnets c g).2.2.1.vnetIds.get? vnet = some id ∧
          ∀ id', ¬VnetNames c v.mappings vnet id') := by
      intro id hname
      obtain hget | hold := hheld.named.name hname
      · exact (hprogrammed hget).imp .programmed fun hnew => ⟨hget, hnew⟩
      · exact .inl hold
    obtain hold | ⟨hget, hnew⟩ := hcases hname <;> obtain hold' | ⟨hget', hnew'⟩ := hcases hname'
    · exact hbefore.single hold hold'
    · exact absurd hold (hnew' _)
    · exact absurd hold' (hnew _)
    · rw [hget] at hget'
      exact Option.some.inj hget'
  · rw [Owned, hserved.others hcreates hsound _ (by decide)]
    exact hbefore.owned

/-! ## Rounds -/

section Rounds

variable (hgone : ¬queued .itemNotFound) (hthere : ¬queued .itemAlreadyExists)
  (hcanonical : ∀ {key k}, admits MappingTable.name key → MappingKey.parse key = .ok k →
    k.text = key)

include hgone hthere hcanonical

/-- A round whose mappings have room keeps the recorded entries on the switch. -/
theorem backedRound : PhasedRound queued
    (fun v e _ c g => EntriesBacked admits v e c g ∧ v.HasRoom)
    (fun v e _ c g => EntriesBacked admits v e c g ∧ v.HasRoom)
    (fun v e _ c g => EntriesBacked admits v e c g) where
  configured {v e r c g} monitor h :=
    ⟨{ h.1 with
        agree := (mappingsAgree hgone hthere hcanonical).monitor (r := r) monitor h.1.agree }, h.2⟩
  passedOver h := h.1
  vnets hground h :=
    ⟨h.1.served hground ((mappingsAgree hgone hthere hcanonical).vnets hground h.1.agree) rfl
      (hground.servedVnets _).2 (by decide), h.2⟩
  stopped h := h.1
  mappings hground h := h.1.mappings hgone hthere hground h.2
    ((mappingsAgree hgone hthere hcanonical).mappings hground h.1.agree)
  enis hground h :=
    h.served hground ((mappingsAgree hgone hthere hcanonical).enis hground h.agree) rfl
      (hground.servedEnis _).2 (by decide)
  routes hground h :=
    h.served hground ((mappingsAgree hgone hthere hcanonical).routes hground h.agree) rfl
      (hground.servedRoutes _).2 (by decide)
  rules hground h :=
    h.served hground ((mappingsAgree hgone hthere hcanonical).rules hground h.agree) rfl
      (hground.servedRules _).2 (by decide)
  tended {v e r c g g'} htended h := by
    refine ⟨(mappingsAgree hgone hthere hcanonical).tended (r := r) htended h.agree, h.settled,
      fun hcreates => ?_⟩
    rw [FaultGate.creates, htended.calls] at hcreates
    rw [Backed, htended.objects]
    exact h.backed hcreates

/-- A round that creates no VNET under whose name a mapping is stored leaves no PA validation entry
on the switch that is not recorded. -/
theorem ownedRound (t₀ : MappingTable) (c₀ : Context) : PhasedRound queued
    (fun v e _ c g => (EntriesBacked admits v e c g ∧ v.HasRoom) ∧
      (v.mappings = t₀ ∧ c.vnetIds = c₀.vnetIds) ∧
      (g.creates < 2 ^ 48 → EntriesOwned c v.mappings g.switch))
    (fun v e _ c g => (EntriesBacked admits v e c g ∧ v.HasRoom) ∧
      (NoneRevived t₀ c₀ c → g.creates < 2 ^ 48 → EntriesOwned c v.mappings g.switch))
    (fun v e _ c g => EntriesBacked admits v e c g ∧
      (NoneRevived t₀ c₀ c → g.creates < 2 ^ 48 → EntriesOwned c v.mappings g.switch)) where
  configured {v e r c g} monitor h :=
    ⟨(backedRound hgone hthere hcanonical).configured (r := r) monitor h.1, h.2.1,
      fun hcreates => (h.2.2 hcreates).congr rfl rfl⟩
  passedOver h := ⟨h.1.1, fun _ => h.2.2⟩
  vnets {v e r c g} hground h := by
    have hbacked := (backedRound hgone hthere hcanonical).vnets hground h.1
    refine ⟨hbacked, fun hnone => ?_⟩
    have hnone' : NoneRevived v.mappings c (v.workVnets c g).2.2.1 := by
      intro key m vnet hget hvnet hunknown
      rw [h.2.1.1] at hget
      rw [h.2.1.2] at hunknown
      exact hnone hget hvnet hunknown
    exact EntriesOwned.vnets h.2.2 h.1.1 hgone hground hbacked.1.agree.parents hnone'
  stopped h := ⟨h.1.1, h.2⟩
  mappings {v e r c g} hground h := by
    refine ⟨(backedRound hgone hthere hcanonical).mappings hground h.1, fun hnone => ?_⟩
    have hids := vnetIds_workMappings c g (v := v)
    exact EntriesOwned.mappings (h.2 fun hget hvnet hunknown => hids ▸ hnone hget hvnet hunknown)
      h.1.1 hgone hthere hground h.1.2
  enis {v e r c g} hground h := by
    refine ⟨(backedRound hgone hthere hcanonical).enis hground h.1, fun hnone => ?_⟩
    have hids : (e.work c g).2.2.1.vnetIds = c.vnetIds :=
      EniTable.vnetIds_reconcile ⟨e.queue, e.enis, c, g⟩
    exact EntriesOwned.served (h.2 fun hget hvnet hunknown => hids ▸ hnone hget hvnet hunknown)
      hground (hground.servedEnis c).2 (by decide) hids
  routes {v e r c g} hground h := by
    refine ⟨(backedRound hgone hthere hcanonical).routes hground h.1, fun hnone => ?_⟩
    have hids : (r.workRoutes c g).2.2.1.vnetIds = c.vnetIds :=
      (Prod.mk.inj (RoutingTable.indices_reconcile RouteTable.kind _)).1
    exact EntriesOwned.served (h.2 fun hget hvnet hunknown => hids ▸ hnone hget hvnet hunknown)
      hground (hground.servedRoutes c).2 (by decide) hids
  rules {v e r c g} hground h := by
    refine ⟨(backedRound hgone hthere hcanonical).rules hground h.1, fun hnone => ?_⟩
    have hids : (r.workRules c g).2.2.1.vnetIds = c.vnetIds :=
      (Prod.mk.inj (RoutingTable.indices_reconcile RuleTable.kind _)).1
    exact EntriesOwned.served (h.2 fun hget hvnet hunknown => hids ▸ hnone hget hvnet hunknown)
      hground (hground.servedRules c).2 (by decide) hids
  tended {v e r c g g'} htended h := by
    refine ⟨(backedRound hgone hthere hcanonical).tended (r := r) htended h.1,
      fun hnone hcreates => ?_⟩
    rw [FaultGate.creates, htended.calls] at hcreates
    exact (h.2 hnone hcreates).congr rfl (htended.objects _)

/-- The recorded PA validation entries are on the switch along a run whose mappings have room. -/
theorem backedRun : GuardedInvariant queued admits Roomy
    fun v e _ c g => EntriesBacked admits v e c g where
  start batchSize monitor capacity :=
    ⟨(mappingsAgree hgone hthere hcanonical).start batchSize monitor capacity,
      ⟨MappingTable.exact_empty, rfl⟩, fun _ _ _ hget => by cases hget⟩
  enqueueVnet {v e r c g table es} hadmits h := by
    have hsame := v.mappings_enqueue table es
    refine ⟨(mappingsAgree hgone hthere hcanonical).enqueueVnet (r := r) hadmits h.agree, ?_, ?_⟩ <;>
      rw [hsame]
    exacts [h.settled, h.backed]
  enqueueEni {v e r c g es} hadmits h :=
    { h with
      agree := (mappingsAgree hgone hthere hcanonical).enqueueEni (r := r) hadmits h.agree }
  enqueueRoute _ h := h
  monitor {v e r c g} monitor h :=
    { h with
      agree := (mappingsAgree hgone hthere hcanonical).monitor (r := r) monitor h.agree }
  tended {v e r c g g'} htended h :=
    (backedRound hgone hthere hcanonical).tended (r := r) htended h
  processOnce hroomy h := by
    obtain ⟨w, v, e, r, hlist, hground, hbacked⟩ := h
    exact (backedRound hgone hthere hcanonical).processOnce
      ⟨w, v, e, r, hlist, hground, hbacked, hroomy v (by rw [hlist]; simp)⟩

/-- The PA validation entries on the switch are recorded along a run that, besides, revives no VNET
under whose name a mapping is stored. -/
theorem ownedRun : GuardedInvariant queued admits (fun d => Roomy d ∧ Orderly d)
    fun v e _ c g => EntriesBacked admits v e c g ∧
      (g.creates < 2 ^ 48 → EntriesOwned c v.mappings g.switch) where
  start batchSize monitor capacity := by
    refine ⟨(backedRun hgone hthere hcanonical).start batchSize monitor capacity, fun _ => ?_⟩
    constructor
    case single =>
      intro vnet id id' hname
      cases hname with
      | programmed hget | mapping _ _ hget | entry _ _ hget => cases hget
    case owned =>
      intro object hobject
      simp [FaultGate.new, Simulator.new, Simulator.objects, Pool.unused] at hobject
  enqueueVnet {v e r c g table es} hadmits h := by
    refine ⟨(backedRun hgone hthere hcanonical).enqueueVnet (r := r) hadmits h.1, ?_⟩
    rw [v.mappings_enqueue table es]
    exact h.2
  enqueueEni {v e r c g es} hadmits h :=
    ⟨(backedRun hgone hthere hcanonical).enqueueEni (r := r) hadmits h.1, h.2⟩
  enqueueRoute _ h := h
  monitor {v e r c g} monitor h :=
    ⟨(backedRun hgone hthere hcanonical).monitor (r := r) monitor h.1, fun hcreates =>
      (h.2 hcreates).congr rfl rfl⟩
  tended {v e r c g g'} htended h := by
    refine ⟨(backedRound hgone hthere hcanonical).tended (r := r) htended h.1, fun hcreates => ?_⟩
    rw [FaultGate.creates, htended.calls] at hcreates
    exact (h.2 hcreates).congr rfl (htended.objects _)
  processOnce {d} hguard h := by
    obtain ⟨w, v, e, r, hlist, hground, hbacked, howned⟩ := h
    have hv : AgentWorker.vnet v ∈ d.workers := by rw [hlist]; simp
    obtain ⟨w', v', e', r', hlist', hground', hbacked', howned'⟩ :=
      (ownedRound hgone hthere hcanonical v.mappings d.context).processOnce
        ⟨w, v, e, r, hlist, hground, ⟨hbacked, hguard.1 v hv⟩, ⟨rfl, rfl⟩, howned⟩
    exact ⟨w', v', e', r', hlist', hground', hbacked', howned' (hguard.2 v hv)⟩

end Rounds

/-! ## Runs -/

variable {d : Daemon AgentWorker FaultGate}

/-- In every state of a run with fewer than `2 ^ 48` creates whose mapping keys are what they print
back, the CA-to-PA entries on the switch are those of the mappings. If the mappings had room for all
batches, every mapping with PA validation shares an entry on the switch, recorded under its VNET name
and its address. If, besides, no VNET was created under whose name a mapping was stored, the PA
validation entries on the switch are those of the mappings. -/
theorem mappings_in_step (hgone : ¬queued .itemNotFound) (hthere : ¬queued .itemAlreadyExists)
    (hcanonical : ∀ {key k}, admits MappingTable.name key → MappingKey.parse key = .ok k →
      k.text = key)
    (h : Run queued admits d) (hcreates : d.switch.creates < 2 ^ 48) :
    ∃ w v e r, d.workers = [.configuration w, .vnet v, .eni e, .route r] ∧
      CaInStep v.mappings d.switch.switch ∧
      (GuardedRun queued admits Roomy d → PaShared v.mappings d.switch.switch) ∧
      (GuardedRun queued admits (fun d => Roomy d ∧ Orderly d) d →
        PaInStep v.mappings d.switch.switch) := by
  obtain ⟨w, v, e, r, hlist, hground, hagree⟩ := (mappingsAgree hgone hthere hcanonical).run h
  refine ⟨w, v, e, r, hlist, (hagree.held hcreates).entries.inStep, ?_, ?_⟩
  · intro hroomy
    obtain ⟨_, _, _, _, hlist', -, hbacked⟩ := (backedRun hgone hthere hcanonical).run hroomy
    rw [hlist] at hlist'
    cases hlist'
    exact MappingTable.paShared_of_backed hbacked.settled.exact (hbacked.backed hcreates)
  · intro horderly
    obtain ⟨_, _, _, _, hlist', -, hbacked, howned⟩ :=
      (ownedRun hgone hthere hcanonical).run horderly
    rw [hlist] at hlist'
    cases hlist'
    exact MappingTable.paInStep_of_owned hbacked.settled.exact (hagree.held hcreates).named
      (howned hcreates).single (hbacked.backed hcreates) (howned hcreates).owned

/-- A change that places an address behind one underlay address. -/
def mappingSet (key : String) : Entry :=
  ⟨key, .set, [("underlay_ip", "1.1.1.1"), ("mac_address", "00:00:00:00:00:01")]⟩

def mappingsTold (d : Daemon AgentWorker FaultGate) (keys : List String) :
    Daemon AgentWorker FaultGate :=
  (d.routeChange ⟨VnetTable.name, [⟨"red", .set, [("vni", "100")]⟩]⟩).routeChange
    ⟨MappingTable.name, keys.map mappingSet⟩

def twoMappingKeys (table key : String) : Prop :=
  table = MappingTable.name → key ∈ ["red:10.0.0.1", "red:10.0.0.2"]

theorem twoMappingKeys_canonical {key : String} {k : MappingKey}
    (hkey : twoMappingKeys MappingTable.name key) (hparse : MappingKey.parse key = .ok k) :
    k.text = key := by
  have hfirst : (MappingKey.parse "red:10.0.0.1").map MappingKey.text = .ok "red:10.0.0.1" := by
    decide +kernel
  have hsecond : (MappingKey.parse "red:10.0.0.2").map MappingKey.text = .ok "red:10.0.0.2" := by
    decide +kernel
  have hmem := hkey rfl
  simp only [List.mem_cons, List.not_mem_nil, or_false] at hmem
  rcases hmem with rfl | rfl
  · rw [hparse] at hfirst
    exact Except.ok.inj hfirst
  · rw [hparse] at hsecond
    exact Except.ok.inj hsecond

theorem guardedRun_mappingsTold {guard : Daemon AgentWorker FaultGate → Prop} {keys : List String}
    (hkeys : ∀ key ∈ keys, twoMappingKeys MappingTable.name key)
    (h : GuardedRun queued twoMappingKeys guard d) :
    GuardedRun queued twoMappingKeys guard (mappingsTold d keys) := by
  refine .routeChange _ ?_ (.routeChange _ ?_ h)
  · simpa [mappingSet] using hkeys
  · intro e _ htable
    exact absurd htable (by decide)

def mappingOf? (d : Daemon AgentWorker FaultGate) (key : String) : Option MappingRecord :=
  (d.workers.filterMap AgentWorker.vnet?).findSome? fun v => v.mappings.mappings.get? key

def idleAgent : Daemon AgentWorker FaultGate :=
  starting ⟨1000, 4, true⟩ Monitor.defaultPollingMs .empty (.new 16)

/-- An agent whose switch has space for one CA-to-PA entry, when it is told of two mappings. -/
def cramped : Daemon AgentWorker FaultGate :=
  mappingsTold { idleAgent with
    switch := { idleAgent.switch with
      switch := idleAgent.switch.switch.setCapacity .outboundCaToPaEntry 1 } }
    ["red:10.0.0.1", "red:10.0.0.2"]

def crampedWorker : VnetWorker :=
  ((VnetWorker.new 4).enqueue VnetTable.name [⟨"red", .set, [("vni", "100")]⟩]).enqueue
    MappingTable.name [mappingSet "red:10.0.0.1", mappingSet "red:10.0.0.2"]

theorem cramped_orderly : Roomy cramped ∧ Orderly cramped := by
  have hworker : ∀ v, AgentWorker.vnet v ∈ cramped.workers → v = crampedWorker := by
    intro v hv
    have hworkers : cramped.workers =
        [.configuration .new, .vnet crampedWorker, .eni (.new 4), .route (.new 4)] := rfl
    rw [hworkers] at hv
    simpa using hv
  constructor
  · intro v hv
    rw [hworker v hv]
    decide
  · intro v hv key m vnet hget
    rw [hworker v hv, crampedWorker, VnetWorker.mappings_enqueue,
      VnetWorker.mappings_enqueue] at hget
    cases hget

theorem cramped_in_step :
    GuardedRun (fun _ => False) twoMappingKeys (fun d => Roomy d ∧ Orderly d) cramped.processOnce.2 ∧
      cramped.processOnce.2.switch.creates < 2 ^ 48 ∧
      (mappingOf? cramped.processOnce.2 "red:10.0.0.2").map
        (fun m => (m.caToPa, m.paValidation)) = some (false, true) ∧
      ∃ w v e r, cramped.processOnce.2.workers = [.configuration w, .vnet v, .eni e, .route r] ∧
        CaInStep v.mappings cramped.processOnce.2.switch.switch ∧
        PaShared v.mappings cramped.processOnce.2.switch.switch ∧
        PaInStep v.mappings cramped.processOnce.2.switch.switch := by
  have hrun : GuardedRun (fun _ => False) twoMappingKeys (fun d => Roomy d ∧ Orderly d)
      cramped.processOnce.2 :=
    .processOnce cramped_orderly (guardedRun_mappingsTold (fun key hkey _ => hkey)
      (.tend _ (tended_setCapacity .outboundCaToPaEntry 1) (.start _ _ _ _)))
  have hcreates : cramped.processOnce.2.switch.creates < 2 ^ 48 := by decide +kernel
  obtain ⟨w, v, e, r, hlist, hca, hshared, hpa⟩ := mappings_in_step id id
    twoMappingKeys_canonical (hrun.mono fun _ _ => trivial) hcreates
  exact ⟨hrun, hcreates, by decide +kernel, w, v, e, r, hlist, hca,
    hshared (hrun.mono fun _ h => h.1), hpa hrun⟩

/-- An agent whose VNET was deleted and created again while a mapping remained, after it worked on
another mapping behind the same address. -/
def recreated : Daemon AgentWorker FaultGate :=
  (mappingsTold ((mappingsTold idleAgent ["red:10.0.0.1"]).processOnce.2.routeChange
    ⟨VnetTable.name, [⟨"red", .del, []⟩]⟩).processOnce.2 ["red:10.0.0.2"]).processOnce.2

/-- The new mapping has PA validation, but its PA validation entry is not on the switch: it shares
that of the old mapping, which is another one. -/
theorem recreated_shares :
    Run (fun _ => False) twoMappingKeys recreated ∧
      (∀ {key k}, twoMappingKeys MappingTable.name key → MappingKey.parse key = .ok k →
        k.text = key) ∧
      ∃ m, mappingOf? recreated "red:10.0.0.2" = some m ∧ m.paValidation = true ∧
        .entry (paValidationEntryKey m.vnetId m.config.underlayIp) ∉
          recreated.switch.switch.objects .paValidationEntry := by
  have hrun : Run (fun _ => False) twoMappingKeys recreated := by
    refine .processOnce (guardedRun_mappingsTold (fun key hkey _ => ?_)
      (Run.processOnce (.routeChange _ ?_ (Run.processOnce
        (guardedRun_mappingsTold (fun key hkey _ => ?_) (.start _ _ _ _))))))
    · exact List.mem_cons_of_mem _ hkey
    · exact fun _ _ htable => absurd htable (by decide)
    · exact List.mem_cons.2 (.inl (List.mem_singleton.1 hkey))
  refine ⟨hrun, twoMappingKeys_canonical, ⟨⟨0xb000000000002⟩, .v4 10 0 0 2,
    ⟨.vnetEncap, .v4 1 1 1 1, ⟨0, 0, 0, 0, 0, 1⟩, false⟩, true, true⟩, ?_, rfl, ?_⟩
  all_goals decide +kernel

end DashAgent.Daemon
