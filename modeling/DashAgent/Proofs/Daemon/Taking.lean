import DashAgent.Proofs.Daemon.Lane
import DashAgent.Proofs.Daemon.Tidiness
import DashAgent.Proofs.Overlay.MappingIntake
import DashAgent.Proofs.Overlay.NamedIntake
import DashAgent.Proofs.Overlay.RoutingIntake
import DashAgent.Proofs.Reconcile.Shelf

/-!
# An agent that takes SETs in

An agent on an ample switch without faults is told of SETs only. Its five tables take them in side
by side: a pass over one table leaves the objects and the parents of the others alone. The tables
have their turns with parents before children, so after one round every pending change waits for a
parent that is not programmed, whatever was pending before. Main theorem: `Taking.round`.
-/
namespace DashAgent

/-- The programmed changes of the five tables. -/
structure Programmed where
  vnets : List Entry
  mappings : List Entry
  enis : List Entry
  routes : List Entry
  rules : List Entry

def Programmed.bill (P : Programmed) : List Resource :=
  VnetTable.intake.bill P.vnets ++ MappingTable.intake.bill P.mappings ++
    EniTable.intake.bill P.enis ++ RouteTable.intake.bill P.routes ++ RuleTable.intake.bill P.rules

def Programmed.part (P : Programmed) : OverlayTable → List Resource
  | .vnet => VnetTable.intake.bill P.vnets
  | .mapping => MappingTable.intake.bill P.mappings
  | .eni => EniTable.intake.bill P.enis
  | .route => RouteTable.intake.bill P.routes
  | .rule => RuleTable.intake.bill P.rules

def Programmed.others (P : Programmed) : OverlayTable → List Resource
  | .vnet => P.part .mapping ++ P.part .eni ++ P.part .route ++ P.part .rule
  | .mapping => P.part .vnet ++ P.part .eni ++ P.part .route ++ P.part .rule
  | .eni => P.part .vnet ++ P.part .mapping ++ P.part .route ++ P.part .rule
  | .route => P.part .vnet ++ P.part .mapping ++ P.part .eni ++ P.part .rule
  | .rule => P.part .vnet ++ P.part .mapping ++ P.part .eni ++ P.part .route

theorem Programmed.bill_perm (P : Programmed) (table : OverlayTable) :
    P.bill.Perm (P.others table ++ P.part table) := by
  refine List.perm_iff_count.2 fun r => ?_
  cases table <;> simp only [bill, others, part, List.count_append] <;> omega

def ObjectType.IsOverlay (type : ObjectType) : Prop := ∃ table : OverlayTable, type ∈ table.types

def pendingOf (v : VnetWorker) (n : EniWorker) (r : RouteWorker) : Nat :=
  v.vnetQueue.entries.length + v.mappingQueue.entries.length + n.queue.entries.length +
    r.routeQueue.entries.length + r.ruleQueue.entries.length

/-- An agent after SETs have arrived, with so many still to come. -/
structure Taking (limit toCome : Nat) (m : Monitor) (s₀ : Simulator)
    (arrived : OverlayTable → List Entry) (P : Programmed) (v : VnetWorker) (n : EniWorker)
    (r : RouteWorker) (c : Context) (s : Simulator) : Prop where
  vnets : Shelf VnetTable.intake limit (arrived .vnet) P.vnets v.vnetQueue v.vnets c s
  mappings : Shelf MappingTable.intake limit (arrived .mapping) P.mappings v.mappingQueue
    v.mappings c s
  enis : Shelf EniTable.intake limit (arrived .eni) P.enis n.queue n.enis c s
  routes : Shelf RouteTable.intake limit (arrived .route) P.routes r.routeQueue r.routes c s
  rules : Shelf RuleTable.intake limit (arrived .rule) P.rules r.ruleQueue r.rules c s
  gains : Simulator.Gains ObjectType.IsOverlay s₀ s
  monitor : c.monitor = m.countAll P.bill
  ample : s.Ample (toCome + pendingOf v n r)

/-- Every pending change waits. -/
structure Waiting (v : VnetWorker) (n : EniWorker) (r : RouteWorker) (c : Context) : Prop where
  vnets : ∀ e ∈ v.vnetQueue.entries, (NamedTable.reading VnetTable.kind).waits c e = true
  mappings : ∀ e ∈ v.mappingQueue.entries, MappingTable.reading.waits c e = true
  enis : ∀ e ∈ n.queue.entries, (NamedTable.reading EniTable.kind).waits c e = true
  routes : ∀ e ∈ r.routeQueue.entries, (RoutingTable.reading RouteTable.kind).waits c e = true
  rules : ∀ e ∈ r.ruleQueue.entries, (RoutingTable.reading RuleTable.kind).waits c e = true

/-! ## Frames -/

namespace Shelf

variable {limit : Nat} {arrived programmed : List Entry} {q : ChangeQueue} {c c' : Context}
  {s s' : Simulator}

theorem frame_vnets {t : VnetTable} (h : Shelf VnetTable.intake limit arrived programmed q t c s)
    (hc : c.Extends c') (hids : c'.vnetIds = c.vnetIds)
    (hobjects : s'.objects .vnet = s.objects .vnet) :
    Shelf VnetTable.intake limit arrived programmed q t c' s' :=
  h.frame (NamedTable.Stocked.frame h.kept hids hobjects) hc.namesLe

theorem frame_enis {t : EniTable} (h : Shelf EniTable.intake limit arrived programmed q t c s)
    (hc : c.Extends c') (hids : c'.eniIds = c.eniIds)
    (hobjects : s'.objects .eni = s.objects .eni) :
    Shelf EniTable.intake limit arrived programmed q t c' s' :=
  h.frame (NamedTable.Stocked.frame h.kept hids hobjects) hc.namesLe

theorem frame_routing {α ρ : Type} {K : RoutingKind α ρ} {E : RoutingTable.EniKeys K}
    {hgrows : (RoutingTable.reading K).Grows Context.NamesLe} {tariff? : Entry → Option Resource}
    {htariff : ∀ {e asked c r}, K.read e = .ok asked → K.resolve asked c = .ok r →
      tariff? e = some (K.resource r)} {t : RoutingTable ρ}
    (h : Shelf (RoutingTable.intake E hgrows tariff? htariff) limit arrived programmed q t c s)
    (hc : c.Extends c') (hobjects : s'.objects K.type = s.objects K.type) :
    Shelf (RoutingTable.intake E hgrows tariff? htariff) limit arrived programmed q t c' s' :=
  h.frame (RoutingTable.Stocked.frame h.kept hc hobjects) hc.namesLe

theorem frame_mappings {t : MappingTable}
    (h : Shelf MappingTable.intake limit arrived programmed q t c s) (hc : c.Extends c')
    (hca : s'.objects .outboundCaToPaEntry = s.objects .outboundCaToPaEntry)
    (hpa : s'.objects .paValidationEntry = s.objects .paValidationEntry) :
    Shelf MappingTable.intake limit arrived programmed q t c' s' :=
  h.frame (MappingTable.Stocked.frame h.kept hc hca hpa) hc.namesLe

/-- A pass over one of the tables touches objects behind it, and counts what it programmed. -/
theorem Passed.gathers {τ κ α β : Type} {ops : BulkTable τ κ Context Simulator} {R : Reading α β}
    {I : Intake ops R} {k : Nat} {programmed' : List Entry} {q' : ChangeQueue} {t' : τ}
    (h : Passed I limit k arrived programmed c s programmed' q' t' c' s') {s₀ : Simulator}
    {m : Monitor} {P : Programmed} (P' : Programmed) (table : OverlayTable)
    (htouched : ∀ type, I.touched type → type ∈ table.types)
    (hgains : Simulator.Gains ObjectType.IsOverlay s₀ s) (hmonitor : c.monitor = m.countAll P.bill)
    (hpart : P.part table = I.bill programmed) (hpart' : P'.part table = I.bill programmed')
    (hothers : P'.others table = P.others table) :
    Simulator.Gains ObjectType.IsOverlay s₀ s' ∧ c'.monitor = m.countAll P'.bill := by
  refine ⟨hgains.trans (h.gains.mono fun type htype => ⟨table, htouched type htype⟩), ?_⟩
  rw [m.countAll_perm (P'.bill_perm table), Monitor.countAll_append, hpart', hothers]
  refine h.bill _ ?_
  rw [hmonitor, m.countAll_perm (P.bill_perm table), Monitor.countAll_append, hpart]

end Shelf

namespace Taking

variable {limit toCome : Nat} {m : Monitor} {s₀ : Simulator} {arrived : OverlayTable → List Entry}
  {P : Programmed} {v : VnetWorker} {n : EniWorker} {r : RouteWorker} {c : Context} {s : Simulator}

/-! ## Passes -/

/-- A pass over the VNETs. -/
theorem passVnets (h : Taking limit toCome m s₀ arrived P v n r c s)
    (hnew : NewSets limit (arrived .vnet)) :
    ∃ summary p P', VnetTable.bulk.reconcile ⟨v.vnetQueue, v.vnets, c, s⟩ = (.ok summary, p) ∧
      Taking limit toCome m s₀ arrived P' { v with vnetQueue := p.queue, vnets := p.table } n r
        p.env p.switch ∧
      ∀ e ∈ p.queue.entries, (NamedTable.reading VnetTable.kind).waits c e = true := by
  obtain ⟨summary, programmed, q, t, c', s', hpass, hpassed⟩ := h.vnets.pass hnew
    h.gains.faultless (h.ample.mono (by simp only [pendingOf]; omega) :
      s.Ample (toCome + (pendingOf v n r - v.vnetQueue.entries.length) + _))
  have henis := VnetTable.eniIds_reconcile ⟨v.vnetQueue, v.vnets, c, s⟩
  rw [hpass] at henis
  have hothers := hpassed.gains.others
  obtain ⟨hgains, hmonitor⟩ := hpassed.gathers { P with vnets := programmed } .vnet
    (by rintro type rfl; decide) h.gains h.monitor rfl rfl rfl
  refine ⟨summary, _, _, hpass, ⟨hpassed.shelf, ?_, ?_, ?_, ?_, hgains, hmonitor, ?_⟩,
    hpassed.waits⟩
  · exact h.mappings.frame_mappings hpassed.extends_ (hothers _ nofun) (hothers _ nofun)
  · exact h.enis.frame_enis hpassed.extends_ henis (hothers _ nofun)
  · exact h.routes.frame_routing hpassed.extends_ (hothers _ nofun)
  · exact h.rules.frame_routing hpassed.extends_ (hothers _ nofun)
  · exact hpassed.ample.mono (by simp only [pendingOf]; omega)

/-- A pass over the mappings. -/
theorem passMappings (h : Taking limit toCome m s₀ arrived P v n r c s)
    (hnew : NewSets limit (arrived .mapping)) :
    ∃ summary p P',
      MappingTable.bulk.reconcile ⟨v.mappingQueue, v.mappings, c, s⟩ = (.ok summary, p) ∧
      Taking limit toCome m s₀ arrived P'
        { v with mappingQueue := p.queue, mappings := p.table } n r p.env p.switch ∧
      p.env.indices = c.indices ∧
      ∀ e ∈ p.queue.entries, MappingTable.reading.waits c e = true := by
  obtain ⟨summary, programmed, q, t, c', s', hpass, hpassed⟩ := h.mappings.pass hnew
    h.gains.faultless (h.ample.mono (by simp only [pendingOf]; omega) :
      s.Ample (toCome + (pendingOf v n r - v.mappingQueue.entries.length) + _))
  have hindices := MappingTable.indices_reconcile ⟨v.mappingQueue, v.mappings, c, s⟩
  rw [hpass] at hindices
  obtain ⟨hvnetIds, heniIds⟩ := Prod.mk.inj hindices
  have hothers := hpassed.gains.others
  obtain ⟨hgains, hmonitor⟩ := hpassed.gathers { P with mappings := programmed } .mapping
    (by rintro type (rfl | rfl) <;> decide) h.gains h.monitor rfl rfl rfl
  refine ⟨summary, _, _, hpass, ⟨?_, hpassed.shelf, ?_, ?_, ?_, hgains, hmonitor, ?_⟩, hindices,
    hpassed.waits⟩
  · exact h.vnets.frame_vnets hpassed.extends_ hvnetIds (hothers _ (by rintro (h | h) <;> cases h))
  · exact h.enis.frame_enis hpassed.extends_ heniIds (hothers _ (by rintro (h | h) <;> cases h))
  · exact h.routes.frame_routing hpassed.extends_ (hothers _ (by rintro (h | h) <;> cases h))
  · exact h.rules.frame_routing hpassed.extends_ (hothers _ (by rintro (h | h) <;> cases h))
  · exact hpassed.ample.mono (by simp only [pendingOf]; omega)

/-- A pass over the ENIs. -/
theorem passEnis (h : Taking limit toCome m s₀ arrived P v n r c s)
    (hnew : NewSets limit (arrived .eni)) :
    ∃ summary p P', EniTable.bulk.reconcile ⟨n.queue, n.enis, c, s⟩ = (.ok summary, p) ∧
      Taking limit toCome m s₀ arrived P' v ⟨p.queue, p.table⟩ r p.env p.switch ∧
      p.env.vnetIds = c.vnetIds ∧
      ∀ e ∈ p.queue.entries, (NamedTable.reading EniTable.kind).waits c e = true := by
  obtain ⟨summary, programmed, q, t, c', s', hpass, hpassed⟩ := h.enis.pass hnew
    h.gains.faultless (h.ample.mono (by simp only [pendingOf]; omega) :
      s.Ample (toCome + (pendingOf v n r - n.queue.entries.length) + _))
  have hvnetIds := EniTable.vnetIds_reconcile ⟨n.queue, n.enis, c, s⟩
  rw [hpass] at hvnetIds
  have hothers := hpassed.gains.others
  obtain ⟨hgains, hmonitor⟩ := hpassed.gathers { P with enis := programmed } .eni
    (by rintro type rfl; decide) h.gains h.monitor rfl rfl rfl
  refine ⟨summary, _, _, hpass, ⟨?_, ?_, hpassed.shelf, ?_, ?_, hgains, hmonitor, ?_⟩, hvnetIds,
    hpassed.waits⟩
  · exact h.vnets.frame_vnets hpassed.extends_ hvnetIds (hothers _ nofun)
  · exact h.mappings.frame_mappings hpassed.extends_ (hothers _ nofun) (hothers _ nofun)
  · exact h.routes.frame_routing hpassed.extends_ (hothers _ nofun)
  · exact h.rules.frame_routing hpassed.extends_ (hothers _ nofun)
  · exact hpassed.ample.mono (by simp only [pendingOf]; omega)

/-- A pass over the routes. -/
theorem passRoutes (h : Taking limit toCome m s₀ arrived P v n r c s)
    (hnew : NewSets limit (arrived .route)) :
    ∃ summary p P', RouteTable.bulk.reconcile ⟨r.routeQueue, r.routes, c, s⟩ = (.ok summary, p) ∧
      Taking limit toCome m s₀ arrived P' v n { r with routeQueue := p.queue, routes := p.table }
        p.env p.switch ∧
      p.env.indices = c.indices ∧
      ∀ e ∈ p.queue.entries, (RoutingTable.reading RouteTable.kind).waits c e = true := by
  obtain ⟨summary, programmed, q, t, c', s', hpass, hpassed⟩ := h.routes.pass hnew
    h.gains.faultless (h.ample.mono (by simp only [pendingOf]; omega) :
      s.Ample (toCome + (pendingOf v n r - r.routeQueue.entries.length) + _))
  have hindices := RoutingTable.indices_reconcile RouteTable.kind ⟨r.routeQueue, r.routes, c, s⟩
  rw [hpass] at hindices
  obtain ⟨hvnetIds, heniIds⟩ := Prod.mk.inj hindices
  have hothers := hpassed.gains.others
  obtain ⟨hgains, hmonitor⟩ := hpassed.gathers { P with routes := programmed } .route
    (by rintro type rfl; decide) h.gains h.monitor rfl rfl rfl
  refine ⟨summary, _, _, hpass, ⟨?_, ?_, ?_, hpassed.shelf, ?_, hgains, hmonitor, ?_⟩, hindices,
    hpassed.waits⟩
  · exact h.vnets.frame_vnets hpassed.extends_ hvnetIds (hothers _ nofun)
  · exact h.mappings.frame_mappings hpassed.extends_ (hothers _ nofun) (hothers _ nofun)
  · exact h.enis.frame_enis hpassed.extends_ heniIds (hothers _ nofun)
  · exact h.rules.frame_routing hpassed.extends_ (hothers _ nofun)
  · exact hpassed.ample.mono (by simp only [pendingOf]; omega)

/-- A pass over the rules. -/
theorem passRules (h : Taking limit toCome m s₀ arrived P v n r c s)
    (hnew : NewSets limit (arrived .rule)) :
    ∃ summary p P', RuleTable.bulk.reconcile ⟨r.ruleQueue, r.rules, c, s⟩ = (.ok summary, p) ∧
      Taking limit toCome m s₀ arrived P' v n { r with ruleQueue := p.queue, rules := p.table }
        p.env p.switch ∧
      p.env.indices = c.indices ∧
      ∀ e ∈ p.queue.entries, (RoutingTable.reading RuleTable.kind).waits c e = true := by
  obtain ⟨summary, programmed, q, t, c', s', hpass, hpassed⟩ := h.rules.pass hnew
    h.gains.faultless (h.ample.mono (by simp only [pendingOf]; omega) :
      s.Ample (toCome + (pendingOf v n r - r.ruleQueue.entries.length) + _))
  have hindices := RoutingTable.indices_reconcile RuleTable.kind ⟨r.ruleQueue, r.rules, c, s⟩
  rw [hpass] at hindices
  obtain ⟨hvnetIds, heniIds⟩ := Prod.mk.inj hindices
  have hothers := hpassed.gains.others
  obtain ⟨hgains, hmonitor⟩ := hpassed.gathers { P with rules := programmed } .rule
    (by rintro type rfl; decide) h.gains h.monitor rfl rfl rfl
  refine ⟨summary, _, _, hpass, ⟨?_, ?_, ?_, ?_, hpassed.shelf, hgains, hmonitor, ?_⟩, hindices,
    hpassed.waits⟩
  · exact h.vnets.frame_vnets hpassed.extends_ hvnetIds (hothers _ nofun)
  · exact h.mappings.frame_mappings hpassed.extends_ (hothers _ nofun) (hothers _ nofun)
  · exact h.enis.frame_enis hpassed.extends_ heniIds (hothers _ nofun)
  · exact h.routes.frame_routing hpassed.extends_ (hothers _ nofun)
  · exact hpassed.ample.mono (by simp only [pendingOf]; omega)

/-! ## Turns -/

/-- After the turn of VNETs and mappings the pending mappings wait. -/
theorem turnVnets (h : Taking limit toCome m s₀ arrived P v n r c s)
    (hnew : ∀ table, NewSets limit (arrived table)) :
    ∃ summary v' c' s' P', v.work c s = (.ok summary, v', c', s') ∧
      Taking limit toCome m s₀ arrived P' v' n r c' s' ∧
      (∀ e ∈ v'.vnetQueue.entries, (NamedTable.reading VnetTable.kind).waits c e = true) ∧
      ∀ e ∈ v'.mappingQueue.entries, MappingTable.reading.waits c' e = true := by
  obtain ⟨first, p, P₁, hpass, hnext, hvnets⟩ := h.passVnets (hnew .vnet)
  obtain ⟨second, q, P₂, hpass', hend, hindices, hmappings⟩ := hnext.passMappings (hnew .mapping)
  refine ⟨_, _, _, _, P₂, VnetWorker.work_of_passes hpass hpass', hend, hvnets, fun e he => ?_⟩
  exact MappingTable.grows.waits (.of_eq (Prod.mk.inj hindices).1) (hmappings e he)

/-- After the turn of ENIs the pending ones wait. -/
theorem turnEnis (h : Taking limit toCome m s₀ arrived P v n r c s)
    (hnew : ∀ table, NewSets limit (arrived table)) :
    ∃ summary n' c' s' P', n.work c s = (.ok summary, n', c', s') ∧
      Taking limit toCome m s₀ arrived P' v n' r c' s' ∧ c'.vnetIds = c.vnetIds ∧
      ∀ e ∈ n'.queue.entries, (NamedTable.reading EniTable.kind).waits c' e = true := by
  obtain ⟨summary, p, P', hpass, hnext, hvnetIds, henis⟩ := h.passEnis (hnew .eni)
  refine ⟨summary, _, _, _, P', ?_, hnext, hvnetIds, fun e he => ?_⟩
  · simp only [EniWorker.work, hpass]
  · exact EniTable.grows.waits (.of_eq hvnetIds) (henis e he)

/-- After the turn of routes and rules the pending ones wait. -/
theorem turnRoutes (h : Taking limit toCome m s₀ arrived P v n r c s)
    (hnew : ∀ table, NewSets limit (arrived table)) :
    ∃ summary r' c' s' P', r.work c s = (.ok summary, r', c', s') ∧
      Taking limit toCome m s₀ arrived P' v n r' c' s' ∧ c'.indices = c.indices ∧
      (∀ e ∈ r'.routeQueue.entries,
        (RoutingTable.reading RouteTable.kind).waits c' e = true) ∧
      ∀ e ∈ r'.ruleQueue.entries, (RoutingTable.reading RuleTable.kind).waits c' e = true := by
  obtain ⟨first, p, P₁, hpass, hnext, hindices, hroutes⟩ := h.passRoutes (hnew .route)
  obtain ⟨second, q, P₂, hpass', hend, hindices', hrules⟩ := hnext.passRules (hnew .rule)
  have hsame := hindices'.trans hindices
  refine ⟨_, _, _, _, P₂, RouteWorker.work_of_passes hpass hpass', hend, hsame, fun e he => ?_,
    fun e he => ?_⟩
  · obtain ⟨hvnetIds, heniIds⟩ := Prod.mk.inj hsame
    exact RouteTable.grows.waits (.of_indices hvnetIds heniIds) (hroutes e he)
  · obtain ⟨hvnetIds, heniIds⟩ := Prod.mk.inj hindices'
    exact RuleTable.grows.waits (.of_indices hvnetIds heniIds) (hrules e he)

end Taking

/-! ## Rounds -/

def AgentWorker.team (w : ConfigurationWorker) (v : VnetWorker) (n : EniWorker) (r : RouteWorker) :
    List AgentWorker := [.configuration w, .vnet v, .eni n, .route r]

section Idle

variable {δ : Type} [Driver δ] (c : Context) (d : δ)

theorem VnetWorker.work_idle {v : VnetWorker} (h : v.hasPending = false) :
    v.work c d = (.ok (Summary.empty.merge .empty), v, c, d) := by
  obtain ⟨hvnets, hmappings⟩ := Bool.or_eq_false_iff.1 h
  exact work_of_passes (BulkTable.reconcile_idle (ChangeQueue.hasPending_eq_false_iff.1 hvnets))
    (BulkTable.reconcile_idle (ChangeQueue.hasPending_eq_false_iff.1 hmappings))

theorem EniWorker.work_idle {n : EniWorker} (h : n.queue.hasPending = false) :
    n.work c d = (.ok .empty, n, c, d) := by
  have hidle : EniTable.bulk.reconcile ⟨n.queue, n.enis, c, d⟩ =
      (.ok .empty, ⟨n.queue, n.enis, c, d⟩) :=
    BulkTable.reconcile_idle (ChangeQueue.hasPending_eq_false_iff.1 h)
  simp only [work, hidle]

theorem RouteWorker.work_idle {r : RouteWorker} (h : r.hasPending = false) :
    r.work c d = (.ok (Summary.empty.merge .empty), r, c, d) := by
  obtain ⟨hroutes, hrules⟩ := Bool.or_eq_false_iff.1 h
  exact work_of_passes (BulkTable.reconcile_idle (ChangeQueue.hasPending_eq_false_iff.1 hroutes))
    (BulkTable.reconcile_idle (ChangeQueue.hasPending_eq_false_iff.1 hrules))

variable {c d} {c₁ c₂ : Context} {d₁ d₂ : δ} {rest rest' : List AgentWorker}
  {first second : Summary}

theorem Daemon.takeTurns_vnet {v v' : VnetWorker} (hwork : v.work c d = (.ok first, v', c₁, d₁))
    (hrest : takeTurns rest c₁ d₁ = (.ok second, rest', c₂, d₂)) :
    ∃ summary, takeTurns (.vnet v :: rest) c d = (.ok summary, .vnet v' :: rest', c₂, d₂) := by
  have hturn : Worker.work (AgentWorker.vnet v) c d = (.ok first, .vnet v', c₁, d₁) := by
    simp only [Worker.work, hwork]
  refine takeTurns_cons hturn (fun hnone => ?_) hrest
  cases hwork.symm.trans (v.work_idle c d hnone)
  exact ⟨rfl, rfl, rfl⟩

theorem Daemon.takeTurns_eni {n n' : EniWorker} (hwork : n.work c d = (.ok first, n', c₁, d₁))
    (hrest : takeTurns rest c₁ d₁ = (.ok second, rest', c₂, d₂)) :
    ∃ summary, takeTurns (.eni n :: rest) c d = (.ok summary, .eni n' :: rest', c₂, d₂) := by
  have hturn : Worker.work (AgentWorker.eni n) c d = (.ok first, .eni n', c₁, d₁) := by
    simp only [Worker.work, hwork]
  refine takeTurns_cons hturn (fun hnone => ?_) hrest
  cases hwork.symm.trans (n.work_idle c d hnone)
  exact ⟨rfl, rfl, rfl⟩

theorem Daemon.takeTurns_route {r r' : RouteWorker}
    (hwork : r.work c d = (.ok first, r', c₁, d₁))
    (hrest : takeTurns rest c₁ d₁ = (.ok second, rest', c₂, d₂)) :
    ∃ summary, takeTurns (.route r :: rest) c d = (.ok summary, .route r' :: rest', c₂, d₂) := by
  have hturn : Worker.work (AgentWorker.route r) c d = (.ok first, .route r', c₁, d₁) := by
    simp only [Worker.work, hwork]
  refine takeTurns_cons hturn (fun hnone => ?_) hrest
  cases hwork.symm.trans (r.work_idle c d hnone)
  exact ⟨rfl, rfl, rfl⟩

end Idle

namespace Taking

variable {limit toCome : Nat} {m : Monitor} {s₀ : Simulator} {arrived : OverlayTable → List Entry}
  {P : Programmed} {v : VnetWorker} {n : EniWorker} {r : RouteWorker} {c : Context} {s : Simulator}

/-- After a round every pending change waits. -/
theorem round (h : Taking limit toCome m s₀ arrived P v n r c s)
    (hnew : ∀ table, NewSets limit (arrived table)) {w : ConfigurationWorker}
    (hidle : w.queue.entries = []) :
    ∃ summary v' n' r' c' s' P', Daemon.takeTurns (AgentWorker.team w v n r) c s =
        (.ok summary, AgentWorker.team w v' n' r', c', s') ∧
      Taking limit toCome m s₀ arrived P' v' n' r' c' s' ∧ Waiting v' n' r' c' := by
  obtain ⟨_, v', c₁, s₁, P₁, hvnets, h₁, hvnetWaits, hmappings⟩ := h.turnVnets hnew
  obtain ⟨_, n', c₂, s₂, P₂, henis, h₂, hvnetIds, heniWaits⟩ := h₁.turnEnis hnew
  obtain ⟨_, r', c', s', P', hroutes, h', hindices, hrouteWaits, hruleWaits⟩ := h₂.turnRoutes hnew
  obtain ⟨hvnetIds', -⟩ := Prod.mk.inj hindices
  obtain ⟨_, hturns⟩ := Daemon.takeTurns_route hroutes
    (Daemon.takeTurns_idle (List.forall_mem_nil _) c' s')
  obtain ⟨_, hturns⟩ := Daemon.takeTurns_eni henis hturns
  obtain ⟨summary, hturns⟩ := Daemon.takeTurns_vnet hvnets hturns
  have hskip : Worker.hasPending (AgentWorker.configuration w) = false :=
    ChangeQueue.hasPending_eq_false_iff.2 hidle
  refine ⟨summary, v', n', r', c', s', P', ?_, h', ⟨fun e he => ?_, fun e he => ?_, fun e he => ?_,
    hrouteWaits, hruleWaits⟩⟩
  · exact Daemon.takeTurns_skip hskip hturns
  · exact VnetTable.grows.waits (c := c) trivial (hvnetWaits e he)
  · exact MappingTable.grows.waits (.of_eq (hvnetIds'.trans hvnetIds)) (hmappings e he)
  · exact EniTable.grows.waits (.of_eq hvnetIds') (heniWaits e he)

end Taking

end DashAgent
