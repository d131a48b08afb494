import DashAgent.Proofs.Daemon.ParentAgreement
import DashAgent.Proofs.Overlay.RoutingObjects

/-!
# Routes and rules agree with the switch

In every state of a run the routing entries that the switch holds are those of the routes, one
each, and those of the rules, as long as no two change keys of a table print back alike. An
identifier of an ENI is then looked up under one name only: ENIs that arrive have identifiers that
no route and no rule has.
-/
namespace DashAgent

open RoutingTable (EniKeys Names Tracks)

/-- A routing table and a switch say the same. -/
structure RoutingTable.InStep {α ρ : Type} (K : RoutingKind α ρ) (t : RoutingTable ρ)
    (s : Simulator) : Prop where
  /-- The entries of the type on the switch are the recorded ones. -/
  objects : (s.objects K.type).Perm (t.records.values.map fun r => .entry (K.entryKey r))
  /-- Different keys have different entries. -/
  distinct : ∀ {key key' r r'}, t.records.get? key = some r → t.records.get? key' = some r' →
    K.entryKey r = K.entryKey r' → key = key'

theorem RoutingTable.InStep.objectCount {α ρ : Type} {K : RoutingKind α ρ} {t : RoutingTable ρ}
    {s : Simulator} (h : InStep K t s) : s.objectCount K.type = t.records.size := by
  rw [Simulator.objectCount, h.objects.length_eq, List.length_map, Table.values, List.length_map,
    Table.size]

theorem RoutingTable.Tracks.inStep {α ρ : Type} {K : RoutingKind α ρ} {P : EniKeys K}
    {admitted : String → Prop} {t : RoutingTable ρ} {s : Simulator} (h : Tracks P admitted t s)
    (hnodup : (s.objects K.type).Nodup) : InStep K t s where
  objects := h.mirrors.perm hnodup
  distinct hget hget' hkey := h.mirrors.distinct hget hget' (congrArg ObjectKey.entry hkey)

/-- An entry stays on the switch if no pending change deletes its key. -/
def RoutingTable.Spared {α ρ : Type} (K : RoutingKind α ρ) (q : ChangeQueue) (t : RoutingTable ρ)
    (s : Simulator) : Prop :=
  ∀ {key r}, t.records.get? key = some r → (∀ e ∈ q.entries, e.key = key → e.op = .set) →
    .entry (K.entryKey r) ∈ s.objects K.type

namespace Daemon

variable {queued : Status → Prop} {admits : String → String → Prop} {v v' : VnetWorker}
  {e : EniWorker} {r r' : RouteWorker} {c c' : Context} {g g' : FaultGate} {s s' : Simulator}

/-- No two keys of a table that are admitted print back alike. -/
structure PrintApart (admits : String → String → Prop) : Prop where
  routes : ∀ {key key' k k'}, admits RouteTable.name key → admits RouteTable.name key' →
    RouteKey.parse key = .ok k → RouteKey.parse key' = .ok k' → k.text = k'.text → key = key'
  rules : ∀ {key key' k k'}, admits RuleTable.name key → admits RuleTable.name key' →
    RuleKey.parse key = .ok k → RuleKey.parse key' = .ok k' → k.text = k'.text → key = key'

theorem PrintApart.routeKeys (h : PrintApart admits) {key key' : String}
    {parts : String × String} (hkey : admits RouteTable.name key)
    (hkey' : admits RouteTable.name key') (hparts : RouteTable.parts? key = some parts)
    (hparts' : RouteTable.parts? key' = some parts) : key = key' := by
  obtain ⟨k, hk, rfl⟩ := RouteTable.parts?_eq_some_iff.1 hparts
  obtain ⟨k', hk', heq⟩ := RouteTable.parts?_eq_some_iff.1 hparts'
  obtain ⟨heni, hnet⟩ := Prod.mk.inj heq
  exact h.routes hkey hkey' hk hk' (by rw [RouteKey.text, RouteKey.text, heni, hnet])

theorem PrintApart.ruleKeys (h : PrintApart admits) {key key' : String}
    {parts : String × String} (hkey : admits RuleTable.name key)
    (hkey' : admits RuleTable.name key') (hparts : RuleTable.parts? key = some parts)
    (hparts' : RuleTable.parts? key' = some parts) : key = key' := by
  obtain ⟨k, hk, rfl⟩ := RuleTable.parts?_eq_some_iff.1 hparts
  obtain ⟨k', hk', heq⟩ := RuleTable.parts?_eq_some_iff.1 hparts'
  obtain ⟨heni, hrest⟩ := Prod.mk.inj heq
  refine h.rules hkey hkey' hk hk' ?_
  have htext : ∀ k : RuleKey,
      k.text = k.eni ++ ":" ++ (toString k.vni.toNat ++ ":" ++ k.net.text) := by
    intro k
    simp only [RuleKey.text, String.append_assoc]
  rw [htext, htext, heni, hrest]

/-! ## The invariant -/

/-- The identifier of an ENI stands under the name in the context, or in a record. -/
def EniNames (c : Context) (r : RouteWorker) (eni : String) (id : Oid .eni) : Prop :=
  Names RouteTable.eniKeys c r.routes eni id ∨ Names RuleTable.eniKeys c r.rules eni id

/-- Both routing tables are what the switch holds, and every identifier of an ENI was issued and
stands under one name. -/
structure EntriesAgree (admits : String → String → Prop) (c : Context) (r : RouteWorker)
    (s : Simulator) : Prop where
  routes : Tracks RouteTable.eniKeys (admits RouteTable.name) r.routes s
  rules : Tracks RuleTable.eniKeys (admits RuleTable.name) r.rules s
  apart : NamedTable.Apart .eni (EniNames c r) s

/-- What moves on without a new name for an identifier. -/
theorem EntriesAgree.moved (h : EntriesAgree admits c r s)
    (hroutes : Tracks RouteTable.eniKeys (admits RouteTable.name) r'.routes s')
    (hrules : Tracks RuleTable.eniKeys (admits RuleTable.name) r'.rules s')
    (hnames : ∀ {eni id}, EniNames c' r' eni id → EniNames c r eni id)
    (hnext : s.nextId.toNat ≤ s'.nextId.toNat) : EntriesAgree admits c' r' s' where
  routes := hroutes
  rules := hrules
  apart := h.apart.mono hnames hnext

section Served

variable {touched : ObjectType → Prop}

/-- A pass that touches no routing entry and leaves the index of ENIs alone. -/
theorem EntriesAgree.served (h : EntriesAgree admits c r g.switch) (hsound : g.Sound queued)
    (hserved : FaultGate.Served queued touched g g') (hcreates : g'.creates < 2 ^ 48)
    (houtbound : ¬touched .outboundRoutingEntry) (hinbound : ¬touched .inboundRoutingEntry)
    (hids : c'.eniIds = c.eniIds) : EntriesAgree admits c' r g'.switch := by
  refine h.moved (h.routes.congr (hserved.others hcreates hsound _ houtbound))
    (h.rules.congr (hserved.others hcreates hsound _ hinbound)) ?_ (hserved.next hcreates hsound)
  intro eni id hnames
  simp only [EniNames, Names, hids] at hnames
  exact hnames

end Served

/-- A pass over the ENIs brings identifiers that no name had before. -/
theorem EntriesAgree.enis (h : EntriesAgree admits c r g.switch) (hgone : ¬queued .itemNotFound)
    (hground : Grounded queued v e r g) (hsound : g.Sound queued) (hparents : ParentsAgree v e c g)
    (hparents' : ParentsAgree v (e.work c g).2.1 (e.work c g).2.2.1 (e.work c g).2.2.2)
    (hcreates : (e.work c g).2.2.2.creates < 2 ^ 48) :
    EntriesAgree admits (e.work c g).2.2.1 r (e.work c g).2.2.2.switch := by
  have hserved := (hground.servedEnis c).2
  constructor
  case routes => exact h.routes.congr (hserved.others hcreates hsound _ (by decide))
  case rules => exact h.rules.congr (hserved.others hcreates hsound _ (by decide))
  case apart =>
    refine h.apart.reconcile EniTable.indexed.id_record hgone (p := ⟨e.queue, e.enis, c, g⟩)
      hground.enis hground.opened hsound hcreates (hparents'.enis hcreates) ?_ ?_
    · intro eni record hget
      refine .inl (.inl ?_)
      rw [hparents.knownEnis eni, hget]
      rfl
    · intro eni id hname
      have hindex : (e.work c g).2.2.1.eniIds.get? eni = some id →
          ∃ record, (e.work c g).2.1.enis.records.get? eni = some record ∧
            EniTable.kind.id record = id := by
        intro hget
        have hknown := hparents'.knownEnis eni
        rw [hget, eq_comm, Option.map_eq_some_iff] at hknown
        exact hknown
      rcases hname with (hget | hroute) | (hget | hrule)
      · exact .inr (hindex hget)
      · exact .inl (.inl (.inr hroute))
      · exact .inr (hindex hget)
      · exact .inl (.inr (.inr hrule))

/-- The parents agree with the switch, only admitted keys are pending and, with fewer than `2 ^ 48`
creates, the routing tables agree with the switch. -/
structure RoutesAgree (admits : String → String → Prop) (v : VnetWorker) (e : EniWorker)
    (r : RouteWorker) (c : Context) (g : FaultGate) : Prop where
  parents : ParentsAgree v e c g
  queuedRoutes : ∀ x ∈ r.routeQueue.entries, admits RouteTable.name x.key
  queuedRules : ∀ x ∈ r.ruleQueue.entries, admits RuleTable.name x.key
  entries : g.creates < 2 ^ 48 → EntriesAgree admits c r g.switch

theorem routesAgree_start (batchSize : Nat) (monitor : Monitor) (capacity : Nat)
    (hparents : ParentsAgree (.new batchSize) (.new batchSize) (.new monitor) (.new capacity)) :
    RoutesAgree admits (.new batchSize) (.new batchSize) (.new batchSize) (.new monitor)
      (.new capacity) where
  parents := hparents
  queuedRoutes x hx := by simp [RouteWorker.new, ChangeQueue.new, ChangeQueue.entries] at hx
  queuedRules x hx := by simp [RouteWorker.new, ChangeQueue.new, ChangeQueue.entries] at hx
  entries _ := by
    have hempty : ∀ type, (FaultGate.new capacity).switch.objects type = [] := by
      intro type
      simp [FaultGate.new, Simulator.new, Simulator.objects, Pool.unused]
    have hnone : ∀ {eni id}, ¬EniNames (.new monitor) (.new batchSize) eni id := by
      rintro eni id ((hget | ⟨_, _, _, hget, -⟩) | (hget | ⟨_, _, _, hget, -⟩)) <;> cases hget
    constructor
    case routes | rules =>
      constructor
      case keyed => exact fun hget => by cases hget
      case mirrors =>
        refine ⟨fun k => ?_, fun hget => by cases hget⟩
        rw [hempty]
        simp [RouteWorker.new, RoutingTable.new]
    case apart => exact ⟨fun hname => absurd hname hnone, fun hname => absurd hname hnone⟩

/-- Tables whose records bring no names but those of the context. -/
theorem EniNames.before {eni : String} {id : Oid .eni} (hindices : c'.indices = c.indices)
    (hroutes : Names RouteTable.eniKeys c' r'.routes eni id →
      c'.eniIds.get? eni = some id ∨ Names RouteTable.eniKeys c r.routes eni id)
    (hrules : Names RuleTable.eniKeys c' r'.rules eni id →
      c'.eniIds.get? eni = some id ∨ Names RuleTable.eniKeys c r.rules eni id)
    (h : EniNames c' r' eni id) : EniNames c r eni id := by
  rw [show c'.eniIds = c.eniIds from (Prod.mk.inj hindices).2] at hroutes hrules
  rcases h with h | h
  · exact .inl ((hroutes h).elim .inl fun hname => hname)
  · exact .inr ((hrules h).elim .inl fun hname => hname)

/-- The agreement of parents and routing tables along a run. -/
theorem routesAgree (hgone : ¬queued .itemNotFound) (hthere : ¬queued .itemAlreadyExists)
    (happart : PrintApart admits) : RunInvariant queued admits (RoutesAgree admits) where
  start batchSize monitor capacity :=
    routesAgree_start batchSize monitor capacity
      ((parents hgone admits).start batchSize monitor capacity)
  enqueueVnet {v e r c g table es} hadmits h :=
    { h with parents := (parents hgone admits).enqueueVnet (r := r) hadmits h.parents }
  enqueueEni {v e r c g es} hadmits h :=
    { h with parents := (parents hgone admits).enqueueEni (r := r) hadmits h.parents }
  enqueueRoute {v e r c g table es} hadmits h := by
    unfold RouteWorker.enqueue
    split
    · next htable =>
      subst htable
      refine ⟨h.parents, fun x hx => ?_, h.queuedRules, fun hcreates => { h.entries hcreates with }⟩
      exact (ChangeQueue.mem_addAll hx).elim (h.queuedRoutes x) (hadmits x)
    · split
      · next htable =>
        subst htable
        refine ⟨h.parents, h.queuedRoutes, fun x hx => ?_,
          fun hcreates => { h.entries hcreates with }⟩
        exact (ChangeQueue.mem_addAll hx).elim (h.queuedRules x) (hadmits x)
      · exact h
  vnets {v e r c g} hground h := by
    have hserved := (hground.servedVnets c).2
    have hasked := hserved.asked
    refine { h with
      parents := (parents hgone admits).vnets hground h.parents
      entries := fun hcreates => ?_ }
    exact (h.entries (by omega)).served (hground.sound (by omega)) hserved hcreates (by decide)
      (by decide) (VnetTable.eniIds_reconcile ⟨v.vnetQueue, v.vnets, c, g⟩)
  mappings {v e r c g} hground h := by
    have hserved := (hground.servedMappings c).2
    have hasked := hserved.asked
    refine { h with
      parents := (parents hgone admits).mappings hground h.parents
      entries := fun hcreates => ?_ }
    exact (h.entries (by omega)).served (hground.sound (by omega)) hserved hcreates (by decide)
      (by decide) (Prod.mk.inj (MappingTable.indices_reconcile _)).2
  enis {v e r c g} hground h := by
    have hasked := (hground.servedEnis c).2.asked
    have hparents := (parents hgone admits).enis hground h.parents
    refine { h with parents := hparents, entries := fun hcreates => ?_ }
    exact (h.entries (by omega)).enis hgone hground (hground.sound (by omega)) h.parents hparents
      hcreates
  routes {v e r c g} hground h := by
    have hserved := (hground.servedRoutes c).2
    have hasked := hserved.asked
    refine ⟨(parents hgone admits).routes hground h.parents,
      fun x hx => h.queuedRoutes x (BulkTable.queue_reconcile_subset _ _ hx), h.queuedRules,
      fun hcreates => ?_⟩
    have hentries := h.entries (by omega)
    have hsound := hground.sound (by omega)
    obtain ⟨htracks, hnames⟩ := RoutingTable.tracks_reconcile RouteTable.eniKeys hgone hthere
      (p := ⟨r.routeQueue, r.routes, c, g⟩) hground.routes hground.opened hsound hcreates
      hentries.routes h.queuedRoutes happart.routeKeys
      (fun hname hname' => hentries.apart.sole (.inl hname) (.inl hname'))
    refine hentries.moved htracks
      (hentries.rules.congr (hserved.others hcreates hsound _ (by decide))) ?_
      (hserved.next hcreates hsound)
    exact EniNames.before (RoutingTable.indices_reconcile RouteTable.kind _) hnames
      (Or.imp_right .inr)
  rules {v e r c g} hground h := by
    have hserved := (hground.servedRules c).2
    have hasked := hserved.asked
    refine ⟨(parents hgone admits).rules hground h.parents, h.queuedRoutes,
      fun x hx => h.queuedRules x (BulkTable.queue_reconcile_subset _ _ hx), fun hcreates => ?_⟩
    have hentries := h.entries (by omega)
    have hsound := hground.sound (by omega)
    obtain ⟨htracks, hnames⟩ := RoutingTable.tracks_reconcile RuleTable.eniKeys hgone hthere
      (p := ⟨r.ruleQueue, r.rules, c, g⟩) hground.rules hground.opened hsound hcreates
      hentries.rules h.queuedRules happart.ruleKeys
      (fun hname hname' => hentries.apart.sole (.inr hname) (.inr hname'))
    refine hentries.moved (hentries.routes.congr (hserved.others hcreates hsound _ (by decide)))
      htracks ?_ (hserved.next hcreates hsound)
    exact EniNames.before (RoutingTable.indices_reconcile RuleTable.kind _) (Or.imp_right .inr)
      hnames
  monitor {v e r c g} monitor h :=
    ⟨(parents hgone admits).monitor (r := r) monitor h.parents, h.queuedRoutes, h.queuedRules,
      fun hcreates => { h.entries hcreates with }⟩
  tended {v e r c g g'} htended h := by
    have hcreates : g'.creates = g.creates := by
      rw [FaultGate.creates, FaultGate.creates, htended.calls]
    refine { h with
      parents := (parents hgone admits).tended (r := r) htended h.parents
      entries := fun hbound => ?_ }
    have hentries := h.entries (hcreates ▸ hbound)
    exact hentries.moved (hentries.routes.congr (htended.objects _))
      (hentries.rules.congr (htended.objects _)) id (Nat.le_of_eq (by rw [htended.nextId]))

/-! ## Sparing -/

/-- The second table still has the records of the first whose keys no pending change deletes. -/
def Kept {ρ : Type} (q : ChangeQueue) (t t' : RoutingTable ρ) : Prop :=
  ∀ {key record}, t.records.get? key = some record →
    (∀ x ∈ q.entries, x.key = key → x.op = .set) → t'.records.get? key = some record

/-- What a round keeps of the routing tables that a worker had before. -/
structure Sparing (before r : RouteWorker) (g : FaultGate) : Prop where
  routeQueue : r.routeQueue.entries ⊆ before.routeQueue.entries
  ruleQueue : r.ruleQueue.entries ⊆ before.ruleQueue.entries
  routes : g.creates < 2 ^ 48 → Kept before.routeQueue before.routes r.routes
  rules : g.creates < 2 ^ 48 → Kept before.ruleQueue before.rules r.rules

theorem Sparing.asked {before : RouteWorker} (h : Sparing before r g)
    (hasked : g.creates ≤ g'.creates) : Sparing before r g' :=
  { h with
    routes := fun hcreates => h.routes (by omega)
    rules := fun hcreates => h.rules (by omega) }

/-- A round deletes records of keys only that changes delete. -/
theorem sparing (hgone : ¬queued .itemNotFound) (hthere : ¬queued .itemAlreadyExists)
    (before : RouteWorker) : RoundInvariant queued fun _ _ r _ g => Sparing before r g where
  vnets {v e r c g} hground h := h.asked (hground.servedVnets c).2.asked
  mappings {v e r c g} hground h := h.asked (hground.servedMappings c).2.asked
  enis {v e r c g} hground h := h.asked (hground.servedEnis c).2.asked
  routes {v e r c g} hground h := by
    have hasked := (hground.servedRoutes c).2.asked
    refine { h.asked hasked with
      routeQueue := fun x hx => h.routeQueue (BulkTable.queue_reconcile_subset _ _ hx)
      routes := fun hcreates key record hget hspared => ?_ }
    exact RoutingTable.spared_reconcile hgone hthere (p := ⟨r.routeQueue, r.routes, c, g⟩)
      hground.routes hground.opened (hground.sound (by omega)) hcreates
      (h.routes (by omega) hget hspared) fun x hx => hspared x (h.routeQueue hx)
  rules {v e r c g} hground h := by
    have hasked := (hground.servedRules c).2.asked
    refine { h.asked hasked with
      ruleQueue := fun x hx => h.ruleQueue (BulkTable.queue_reconcile_subset _ _ hx)
      rules := fun hcreates key record hget hspared => ?_ }
    exact RoutingTable.spared_reconcile hgone hthere (p := ⟨r.ruleQueue, r.rules, c, g⟩)
      hground.rules hground.opened (hground.sound (by omega)) hcreates
      (h.rules (by omega) hget hspared) fun x hx => hspared x (h.ruleQueue hx)
  monitor _ h := h
  tended htended h := h.asked (by rw [FaultGate.creates, FaultGate.creates, htended.calls])

/-! ## Runs -/

variable {d : Daemon AgentWorker FaultGate}

/-- Objects are counted by one of two families each. -/
theorem countP_families {α : Type} (family : α → AddressFamily) (l : List α) :
    (l.countP fun x => decide (family x = .ipv4)) +
      (l.countP fun x => decide (family x = .ipv6)) = l.length := by
  rw [List.length_eq_countP_add_countP fun x => decide (family x = .ipv4)]
  congr 2
  funext x
  cases family x <;> rfl

/-- In every state of a run with fewer than `2 ^ 48` creates, if no two change keys print back
alike, the routing entries of the switch are those of the routes, one each, and those of the rules.
Their numbers are the used counts of both families together, if the tables had room for all
batches. A round leaves every entry on the switch whose key no pending change deletes. -/
theorem routing_in_step (hgone : ¬queued .itemNotFound) (hthere : ¬queued .itemAlreadyExists)
    (hapart : PrintApart admits) (h : Run queued admits d)
    (hcreates : d.switch.creates < 2 ^ 48) :
    ∃ w v e r, d.workers = [.configuration w, .vnet v, .eni e, .route r] ∧
      RoutingTable.InStep RouteTable.kind r.routes d.switch.switch ∧
      RoutingTable.InStep RuleTable.kind r.rules d.switch.switch ∧
      (Reachable d →
        (∃ v4 v6, d.context.monitor.globalUsed? (.outboundRouting .ipv4) = some v4 ∧
          d.context.monitor.globalUsed? (.outboundRouting .ipv6) = some v6 ∧
          v4.toNat + v6.toNat = d.switch.switch.objectCount .outboundRoutingEntry) ∧
        ∃ v4 v6, d.context.monitor.globalUsed? (.inboundRouting .ipv4) = some v4 ∧
          d.context.monitor.globalUsed? (.inboundRouting .ipv6) = some v6 ∧
          v4.toNat + v6.toNat = d.switch.switch.objectCount .inboundRoutingEntry) ∧
      (d.processOnce.2.switch.creates < 2 ^ 48 →
        RoutingTable.Spared RouteTable.kind r.routeQueue r.routes d.processOnce.2.switch.switch ∧
        RoutingTable.Spared RuleTable.kind r.ruleQueue r.rules d.processOnce.2.switch.switch) := by
  obtain ⟨w, v, e, r, hlist, hground, hagree⟩ := (routesAgree hgone hthere hapart).run h
  have hentries := hagree.entries hcreates
  have hnodup := (hground.sound hcreates).switch.nodup
  have hroutes := hentries.routes.inStep (hnodup _)
  have hrules := hentries.rules.inStep (hnodup _)
  refine ⟨w, v, e, r, hlist, hroutes, hrules, ?_, ?_⟩
  · intro hreachable
    obtain ⟨w', v', e', r', hlist', hbooked⟩ := hreachable.inBooks
    rw [hlist] at hlist'
    cases hlist'
    constructor
    · obtain ⟨v4, hv4, hcount4⟩ := Option.map_eq_some_iff.1 (hbooked.conserved.outbound .ipv4)
      obtain ⟨v6, hv6, hcount6⟩ := Option.map_eq_some_iff.1 (hbooked.conserved.outbound .ipv6)
      refine ⟨v4, v6, hv4, hv6, ?_⟩
      rw [hcount4, hcount6, countP_families]
      exact (List.length_map _).trans hroutes.objectCount.symm
    · obtain ⟨v4, hv4, hcount4⟩ := Option.map_eq_some_iff.1 (hbooked.conserved.inbound .ipv4)
      obtain ⟨v6, hv6, hcount6⟩ := Option.map_eq_some_iff.1 (hbooked.conserved.inbound .ipv6)
      refine ⟨v4, v6, hv4, hv6, ?_⟩
      rw [hcount4, hcount6, countP_families]
      exact (List.length_map _).trans hrules.objectCount.symm
  · intro hcreates'
    obtain ⟨_, _, _, r', hlist', -, hsparing⟩ := (sparing hgone hthere r).phased.processOnce
      ⟨w, v, e, r, hlist, hground, ⟨fun _ hx => hx, fun _ hx => hx, fun _ _ _ hget _ => hget,
        fun _ _ _ hget _ => hget⟩⟩
    obtain ⟨_, _, _, r'', hlist'', -, hagree'⟩ :=
      (routesAgree hgone hthere hapart).run h.processOnce
    rw [hlist'] at hlist''
    cases hlist''
    have hentries' := hagree'.entries hcreates'
    exact ⟨fun hget hspared => (hentries'.routes.mirrors.held _).2
        ⟨_, _, hsparing.routes hcreates' hget hspared, rfl⟩,
      fun hget hspared => (hentries'.rules.mirrors.held _).2
        ⟨_, _, hsparing.rules hcreates' hget hspared, rfl⟩⟩

/-- An agent after a round over one ENI and routes of some keys. -/
def routesProgrammed (keys : List String) : Daemon AgentWorker FaultGate :=
  ((((starting ⟨1000, 4, true⟩ Monitor.defaultPollingMs .empty (.new 16)).routeChange
    ⟨VnetTable.name, [⟨"red", .set, [("vni", "100")]⟩]⟩).routeChange
    ⟨EniTable.name, [⟨"eni0", .set, [("vnet", "red"), ("mac_address", "00:11:22:33:44:55"),
      ("underlay_ip", "192.0.2.1")]⟩]⟩).routeChange
    ⟨RouteTable.name, keys.map fun key => ⟨key, .set, [("action_type", "drop")]⟩⟩).processOnce.2

theorem run_routesProgrammed {keys : List String} (hvnet : admits VnetTable.name "red")
    (heni : admits EniTable.name "eni0") (hroutes : ∀ key ∈ keys, admits RouteTable.name key) :
    Run queued admits (routesProgrammed keys) := by
  refine .processOnce (.routeChange _ ?_ (.routeChange _ ?_ (.routeChange _ ?_ (.start ..))))
  · simpa using hroutes
  · simpa using heni
  · simpa using hvnet

def routeCount (d : Daemon AgentWorker FaultGate) : Nat :=
  (d.workers.filterMap AgentWorker.route?).foldl (fun n r => n + r.routes.routes.size) 0

def twoRoutes (table key : String) : Prop :=
  table ≠ RuleTable.name ∧
    (table = RouteTable.name → key ∈ ["eni0:10.0.0.0/8", "eni0:10.0.0.0/16"])

theorem twoRoutes_apart : PrintApart twoRoutes where
  routes {key key' k k'} hkey hkey' hk hk' htext := by
    have hshort : RouteKey.parse "eni0:10.0.0.0/8" = .ok ⟨"eni0", ⟨.v4 10 0 0 0, 8⟩⟩ := by
      decide +kernel
    have hlong : RouteKey.parse "eni0:10.0.0.0/16" = .ok ⟨"eni0", ⟨.v4 10 0 0 0, 16⟩⟩ := by
      decide +kernel
    have hne : (RouteKey.mk "eni0" ⟨.v4 10 0 0 0, 8⟩).text ≠
        (RouteKey.mk "eni0" ⟨.v4 10 0 0 0, 16⟩).text := by decide +kernel
    have hmem := hkey.2 rfl
    have hmem' := hkey'.2 rfl
    simp only [List.mem_cons, List.not_mem_nil, or_false] at hmem hmem'
    rcases hmem with rfl | rfl <;> rcases hmem' with rfl | rfl
    · rfl
    · rw [hshort] at hk
      rw [hlong] at hk'
      cases hk
      cases hk'
      exact absurd htext hne
    · rw [hlong] at hk
      rw [hshort] at hk'
      cases hk
      cases hk'
      exact absurd htext.symm hne
    · rfl
  rules hkey := absurd rfl hkey.1

theorem twoRoutes_in_step :
    Run (fun _ => False) twoRoutes (routesProgrammed ["eni0:10.0.0.0/8", "eni0:10.0.0.0/16"]) ∧
      (routesProgrammed ["eni0:10.0.0.0/8", "eni0:10.0.0.0/16"]).switch.creates < 2 ^ 48 ∧
      ∃ w v e r, (routesProgrammed ["eni0:10.0.0.0/8", "eni0:10.0.0.0/16"]).workers =
          [.configuration w, .vnet v, .eni e, .route r] ∧
        RoutingTable.InStep RouteTable.kind r.routes
          (routesProgrammed ["eni0:10.0.0.0/8", "eni0:10.0.0.0/16"]).switch.switch ∧
        r.routes.routes.size = 2 := by
  have hrun : Run (fun _ => False) twoRoutes
      (routesProgrammed ["eni0:10.0.0.0/8", "eni0:10.0.0.0/16"]) :=
    run_routesProgrammed ⟨by decide, fun h => absurd h (by decide)⟩
      ⟨by decide, fun h => absurd h (by decide)⟩ fun key hkey => ⟨by decide, fun _ => hkey⟩
  have hcreates : (routesProgrammed ["eni0:10.0.0.0/8", "eni0:10.0.0.0/16"]).switch.creates <
      2 ^ 48 := by decide +kernel
  have hcount : (routesProgrammed ["eni0:10.0.0.0/8", "eni0:10.0.0.0/16"]).switch.switch.objectCount
      .outboundRoutingEntry = 2 := by decide +kernel
  obtain ⟨w, v, e, r, hlist, hroutes, -⟩ := routing_in_step id id twoRoutes_apart hrun hcreates
  exact ⟨hrun, hcreates, w, v, e, r, hlist, hroutes, hroutes.objectCount.symm.trans hcount⟩

/-- An agent that was told to delete the first of two routes whose keys print back alike. -/
def respelled : Daemon AgentWorker FaultGate :=
  ((routesProgrammed ["eni0:10.0.0.0/8", "eni0:10.0.0.0/08"]).routeChange
    ⟨RouteTable.name, [⟨"eni0:10.0.0.0/8", .del, []⟩]⟩).processOnce.2

/-- Two routes whose keys print back alike share an entry, and deleting one of them takes it from
the other. -/
theorem respelled_shares :
    Run (fun _ => False) (fun _ _ => True) respelled ∧
      RouteKey.parse "eni0:10.0.0.0/08" = .ok ⟨"eni0", ⟨.v4 10 0 0 0, 8⟩⟩ ∧
      routeCount (routesProgrammed ["eni0:10.0.0.0/8", "eni0:10.0.0.0/08"]) = 2 ∧
      (routesProgrammed ["eni0:10.0.0.0/8", "eni0:10.0.0.0/08"]).switch.switch.objectCount
        .outboundRoutingEntry = 1 ∧
      routeCount respelled = 1 ∧
      respelled.switch.switch.objectCount .outboundRoutingEntry = 0 := by
  have hrun : Run (fun _ => False) (fun _ _ => True) respelled :=
    .processOnce (.routeChange _ (fun _ _ => trivial)
      (run_routesProgrammed trivial trivial fun _ _ => trivial))
  refine ⟨hrun, ?_, ?_, ?_, ?_, ?_⟩
  all_goals decide +kernel

end Daemon

end DashAgent
