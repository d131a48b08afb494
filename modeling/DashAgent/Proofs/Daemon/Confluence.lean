import DashAgent.Proofs.Daemon.Taking
import DashAgent.Proofs.Resource.Queries

/-!
# Agents that were told the same

Two agents start alike, take the same SETs in, in different orders and in different groups, and come
to rest. What is ready is told by the names of the programmed parents, so going from parents to
children both have programmed the same and have the same pending. The identifiers of their objects
differ; how often a PA validation entry is shared, how many objects of a type there are and how they
are counted does not. Main theorems: `Taking.agree`, `Taking.sameAnswers`.
-/
namespace DashAgent

/-- The same changes are programmed in every table. -/
structure Programmed.Same (P P' : Programmed) : Prop where
  vnets : P.vnets.Perm P'.vnets
  mappings : P.mappings.Perm P'.mappings
  enis : P.enis.Perm P'.enis
  routes : P.routes.Perm P'.routes
  rules : P.rules.Perm P'.rules

/-- Agents have the same keys programmed in every table, share the same PA validation entries
equally often, and have the same changes pending. -/
structure Alike (v v' : VnetWorker) (n n' : EniWorker) (r r' : RouteWorker) : Prop where
  vnets : ∀ key, v.vnets.vnets.contains key = v'.vnets.vnets.contains key
  mappings : ∀ key, v.mappings.mappings.contains key = v'.mappings.mappings.contains key
  enis : ∀ key, n.enis.enis.contains key = n'.enis.enis.contains key
  routes : ∀ key, r.routes.routes.contains key = r'.routes.routes.contains key
  rules : ∀ key, r.rules.rules.contains key = r'.rules.rules.contains key
  /-- No count stands for no entry. -/
  references : ∀ pa, v.mappings.paEntries.references? pa = v'.mappings.paEntries.references? pa
  pendingVnets : v.vnetQueue.entries.Perm v'.vnetQueue.entries
  pendingMappings : v.mappingQueue.entries.Perm v'.mappingQueue.entries
  pendingEnis : n.queue.entries.Perm n'.queue.entries
  pendingRoutes : r.routeQueue.entries.Perm r'.routeQueue.entries
  pendingRules : r.ruleQueue.entries.Perm r'.ruleQueue.entries

namespace Taking

variable {limit toCome : Nat} {m : Monitor} {s₀ : Simulator}
  {arrived arrived' : OverlayTable → List Entry} {P P' : Programmed} {v v' : VnetWorker}
  {n n' : EniWorker} {r r' : RouteWorker} {c c' : Context} {s s' : Simulator}

/-! ## What is kept -/

theorem stocked_vnets (h : Taking limit toCome m s₀ arrived P v n r c s) :
    NamedTable.Stocked VnetTable.kind Context.vnetIds P.vnets c v.vnets s := h.vnets.kept

theorem stocked_mappings (h : Taking limit toCome m s₀ arrived P v n r c s) :
    MappingTable.Stocked P.mappings c v.mappings s := h.mappings.kept

theorem stocked_enis (h : Taking limit toCome m s₀ arrived P v n r c s) :
    NamedTable.Stocked EniTable.kind Context.eniIds P.enis c n.enis s := h.enis.kept

theorem stocked_routes (h : Taking limit toCome m s₀ arrived P v n r c s) :
    RoutingTable.Stocked RouteTable.eniKeys P.routes c r.routes s := h.routes.kept

theorem stocked_rules (h : Taking limit toCome m s₀ arrived P v n r c s) :
    RoutingTable.Stocked RuleTable.eniKeys P.rules c r.rules s := h.rules.kept

end Taking

/-! ## Programmed and pending changes -/

/-- Tables of the same changes have the same keys. -/
theorem Table.contains_eq_of_perm {ν ν' : Type} {t : Table String ν} {t' : Table String ν'}
    {P P' : List Entry} (h : ∀ key, t.contains key = true ↔ key ∈ P.map Entry.key)
    (h' : ∀ key, t'.contains key = true ↔ key ∈ P'.map Entry.key) (hperm : P.Perm P')
    (key : String) : t.contains key = t'.contains key := by
  rw [Bool.eq_iff_iff, h, h', (hperm.map Entry.key).mem_iff]

theorem Programmed.Same.bill_perm {P P' : Programmed} (h : P.Same P') : P.bill.Perm P'.bill :=
  ((((VnetTable.intake.bill_perm h.vnets).append (MappingTable.intake.bill_perm h.mappings)).append
    (EniTable.intake.bill_perm h.enis)).append (RouteTable.intake.bill_perm h.routes)).append
    (RuleTable.intake.bill_perm h.rules)

namespace Taking

variable {limit toCome : Nat} {m : Monitor} {s₀ : Simulator}
  {arrived arrived' : OverlayTable → List Entry} {P P' : Programmed} {v v' : VnetWorker}
  {n n' : EniWorker} {r r' : RouteWorker} {c c' : Context} {s s' : Simulator}

/-- The same has come to both agents, and every pending change of theirs waits: from parents to
children they agree on what is ready. -/
theorem agree (h : Taking limit toCome m s₀ arrived P v n r c s)
    (h' : Taking limit toCome m s₀ arrived' P' v' n' r' c' s') (hwaits : Waiting v n r c)
    (hwaits' : Waiting v' n' r' c') (harrived : ∀ table, (arrived table).Perm (arrived' table)) :
    P.Same P' ∧ Alike v v' n n' r r' := by
  obtain ⟨hvnets, hvnetQueue⟩ := h.vnets.agree h'.vnets (harrived .vnet)
    (VnetTable.grows.ready_congr trivial trivial) hwaits.vnets hwaits'.vnets
  have hvnetIds : ∀ name, c.vnetIds.contains name = c'.vnetIds.contains name :=
    Table.contains_eq_of_perm h.stocked_vnets.names h'.stocked_vnets.names hvnets
  have hvnetsLe : c.VnetsLe c' := fun name hname => (hvnetIds name).symm.trans hname
  have hvnetsLe' : c'.VnetsLe c := fun name hname => (hvnetIds name).trans hname
  obtain ⟨hmappings, hmappingQueue⟩ := h.mappings.agree h'.mappings (harrived .mapping)
    (MappingTable.grows.ready_congr hvnetsLe hvnetsLe') hwaits.mappings hwaits'.mappings
  obtain ⟨henis, heniQueue⟩ := h.enis.agree h'.enis (harrived .eni)
    (EniTable.grows.ready_congr hvnetsLe hvnetsLe') hwaits.enis hwaits'.enis
  have heniIds : ∀ name, c.eniIds.contains name = c'.eniIds.contains name :=
    Table.contains_eq_of_perm h.stocked_enis.names h'.stocked_enis.names henis
  have hle : c.NamesLe c' := ⟨hvnetsLe, fun name hname => (heniIds name).symm.trans hname⟩
  have hle' : c'.NamesLe c := ⟨hvnetsLe', fun name hname => (heniIds name).trans hname⟩
  obtain ⟨hroutes, hrouteQueue⟩ := h.routes.agree h'.routes (harrived .route)
    (RouteTable.grows.ready_congr hle hle') hwaits.routes hwaits'.routes
  obtain ⟨hrules, hruleQueue⟩ := h.rules.agree h'.rules (harrived .rule)
    (RuleTable.grows.ready_congr hle hle') hwaits.rules hwaits'.rules
  refine ⟨⟨hvnets, hmappings, henis, hroutes, hrules⟩, ?_, ?_, ?_, ?_, ?_, fun pa => ?_,
    hvnetQueue, hmappingQueue, heniQueue, hrouteQueue, hruleQueue⟩
  · exact Table.contains_eq_of_perm h.stocked_vnets.holding.records
      h'.stocked_vnets.holding.records hvnets
  · exact Table.contains_eq_of_perm h.stocked_mappings.booked.mappings
      h'.stocked_mappings.booked.mappings hmappings
  · exact Table.contains_eq_of_perm h.stocked_enis.holding.records
      h'.stocked_enis.holding.records henis
  · exact Table.contains_eq_of_perm h.stocked_routes.records h'.stocked_routes.records hroutes
  · exact Table.contains_eq_of_perm h.stocked_rules.records h'.stocked_rules.records hrules
  · rw [h.stocked_mappings.booked.references, h'.stocked_mappings.booked.references,
      hmappings.countP_eq]

/-- Both count the same. -/
theorem monitor_eq (h : Taking limit toCome m s₀ arrived P v n r c s)
    (h' : Taking limit toCome m s₀ arrived' P' v' n' r' c' s') (hsame : P.Same P') :
    c.monitor = c'.monitor := by
  rw [h.monitor, h'.monitor, m.countAll_perm hsame.bill_perm]

/-- The switches hold the same numbers of objects of the types behind the five tables. -/
theorem objectCount_eq (h : Taking limit toCome m s₀ arrived P v n r c s)
    (h' : Taking limit toCome m s₀ arrived' P' v' n' r' c' s') (hsame : P.Same P')
    (type : ObjectType) : s.objectCount type = s'.objectCount type := by
  have hnodup := h.gains.faultless.nodup
  have hnodup' := h'.gains.faultless.nodup
  have hvnetIds : c.vnetIds.NamesApart := h.stocked_vnets.namesApart
  have hvnetIds' : c'.vnetIds.NamesApart := h'.stocked_vnets.namesApart
  have heniIds : c.eniIds.NamesApart := h.stocked_enis.namesApart
  have heniIds' : c'.eniIds.NamesApart := h'.stocked_enis.namesApart
  by_cases hoverlay : type.IsOverlay
  · obtain ⟨table, htype⟩ := hoverlay
    cases table with
    | vnet =>
      obtain rfl := List.mem_singleton.1 htype
      exact (h.stocked_vnets.fills fun hc => hc.vnets).objectCount_eq
        (h'.stocked_vnets.fills fun hc => hc.vnets) hsame.vnets hvnetIds hvnetIds' (hnodup _)
        (hnodup' _)
    | mapping =>
      obtain rfl | htype := List.mem_cons.1 htype
      · exact h.stocked_mappings.inPlace.ca.objectCount_eq h'.stocked_mappings.inPlace.ca
          hsame.mappings hvnetIds hvnetIds' (hnodup _) (hnodup' _)
      · obtain rfl := List.mem_singleton.1 htype
        exact h.stocked_mappings.inPlace.pa.objectCount_eq h'.stocked_mappings.inPlace.pa
          hsame.mappings hvnetIds hvnetIds' (hnodup _) (hnodup' _)
    | eni =>
      obtain rfl := List.mem_singleton.1 htype
      exact (h.stocked_enis.fills fun hc => hc.enis).objectCount_eq
        (h'.stocked_enis.fills fun hc => hc.enis) hsame.enis heniIds heniIds' (hnodup _)
        (hnodup' _)
    | route =>
      obtain rfl := List.mem_singleton.1 htype
      exact h.stocked_routes.fills.objectCount_eq h'.stocked_routes.fills hsame.routes heniIds
        heniIds' (hnodup _) (hnodup' _)
    | rule =>
      obtain rfl := List.mem_singleton.1 htype
      exact h.stocked_rules.fills.objectCount_eq h'.stocked_rules.fills hsame.rules heniIds
        heniIds' (hnodup _) (hnodup' _)
  · rw [Simulator.objectCount, Simulator.objectCount, h.gains.others type hoverlay,
      h'.gains.others type hoverlay]

/-- The switches answer queries alike. -/
theorem sameAnswers (h : Taking limit toCome m s₀ arrived P v n r c s)
    (h' : Taking limit toCome m s₀ arrived' P' v' n' r' c' s') (hsame : P.Same P') :
    Monitor.SameAnswers s s' :=
  Simulator.sameAnswers_of_settings (h.gains.settings.trans h'.gains.settings.symm)
    (h.objectCount_eq h' hsame)

end Taking

end DashAgent
