import DashAgent.Proofs.Overlay.RoutingObjects
import DashAgent.Proofs.Reconcile.Intake

/-!
# Routing entries taken in

A pass over new SETs of routing entries puts the entry of every change that is ready in place. Two
change keys that print back alike share an entry: the second create finds it there, and both changes
are programmed.
-/
namespace DashAgent

open BulkStager

namespace RoutingTable

variable {α ρ : Type} {K : RoutingKind α ρ}

def reading (K : RoutingKind α ρ) : Reading α ρ := ⟨K.read, K.resolve⟩

def site (E : EniKeys K) : Site .eni where
  ids := Context.eniIds
  part? e := E.parts? e.key
  key id text := .entry (id.text ++ ":" ++ text)
  grows h := h.enis
  key_inj _ _ h := Oid.text_append_inj (ObjectKey.entry.inj h)

theorem key?_of_resolve (E : EniKeys K) {e : Entry} {asked : α} {c : Context} {r : ρ}
    (hask : K.read e = .ok asked) (hresolve : K.resolve asked c = .ok r) :
    (site E).key? c e = some (.entry (K.entryKey r)) := by
  obtain ⟨eni, rest, hparts, hid, hkey⟩ := E.resolves hask hresolve
  exact Site.key?_eq_some_iff.2 ⟨eni, rest, E.eniId r, hparts, hid, congrArg _ hkey⟩

/-- Between passes the entries of the programmed changes are on the switch. -/
structure Stocked (E : EniKeys K) (P : List Entry) (c : Context) (t : RoutingTable ρ)
    (s : Simulator) : Prop where
  type : t.stager.type = K.type
  slots : t.stager.slots = []
  records : ∀ key, t.records.contains key = true ↔ key ∈ P.map Entry.key
  fills : (site E).Fills K.type P c s

/-- While changes are staged, the stager orders their entries. -/
structure Staging (E : EniKeys K) (tariff? : Entry → Option Resource) (P : List Entry)
    (todo : List (Entry × RouteOp ρ)) (c : Context) (t : RoutingTable ρ) (s : Simulator) :
    Prop where
  type : t.stager.type = K.type
  count : t.stager.createCount ≤ todo.length
  records : ∀ key, t.records.contains key = true ↔ key ∈ P.map Entry.key
  fills : (site E).Fills K.type P c s
  ordered : Ordered ((site E).key? c) P (todo.map Prod.fst) t.stager
  ops : ∀ x ∈ todo, ∃ position r, x.2 = .create position r ∧
    t.stager.Awaits .create false position ∧ tariff? x.1 = some (K.resource r)

/-- While changes are committed, the entries of all of them are in place. -/
structure Paying (E : EniKeys K) (tariff? : Entry → Option Resource) (P : List Entry)
    (todo : List (Entry × RouteOp ρ)) (c : Context) (t : RoutingTable ρ) (s : Simulator) :
    Prop where
  type : t.stager.type = K.type
  records : ∀ key, t.records.contains key = true ↔ key ∈ P.map Entry.key
  fills : (site E).Fills K.type (P ++ todo.map Prod.fst) c s
  ops : ∀ x ∈ todo, ∃ position r, x.2 = .create position r ∧
    t.stager.Grants .create false position ∧ tariff? x.1 = some (K.resource r)

variable {E : EniKeys K} {tariff? : Entry → Option Resource} {P : List Entry}
  {todo : List (Entry × RouteOp ρ)} {c : Context} {t : RoutingTable ρ} {s : Simulator}

theorem Staging.create (h : Staging E tariff? P todo c t s) {e : Entry} {asked : α} {r : ρ}
    (hask : K.read e = .ok asked) (hresolve : K.resolve asked c = .ok r)
    (htariff : tariff? e = some (K.resource r)) :
    Staging E tariff? P (todo ++ [(e, .create t.stager.slots.length r)]) c
      { t with stager := (t.stager.stageCreate ⟨some (K.entryKey r), K.attributes r⟩).2 } s where
  type := h.type
  count := by
    have hcount := createCount_push_le t.stager
      (.create ⟨some (K.entryKey r), K.attributes r⟩ none)
    rw [List.length_append, List.length_singleton]
    exact Nat.le_trans hcount (Nat.add_le_add_right h.count 1)
  records := h.records
  fills := h.fills
  ordered := by
    rw [List.map_append]
    exact h.ordered.create (key?_of_resolve E hask hresolve) _
  ops x hx := by
    rcases List.mem_append.1 hx with hx | hx
    · obtain ⟨position, r', hop, hawaits, hbilled⟩ := h.ops x hx
      exact ⟨position, r', hop, hawaits.push _, hbilled⟩
    · cases List.mem_singleton.1 hx
      exact ⟨_, r, rfl, awaits_push ⟨rfl, by simp⟩, htariff⟩

theorem Staging.placed (h : Staging E tariff? P todo c t s) {stager : BulkStager} {s' : Simulator}
    (hplaced : Placed t.stager s stager s') :
    Paying E tariff? P todo c { t with stager } s' where
  type := hplaced.type.trans h.type
  records := h.records
  fills := h.fills.placed h.type h.ordered hplaced
  ops x hx := by
    obtain ⟨position, r, hop, hawaits, hbilled⟩ := h.ops x hx
    exact ⟨position, r, hop, hplaced.grants hawaits, hbilled⟩

theorem Paying.commit {e : Entry} {op : RouteOp ρ}
    (h : Paying E tariff? P ((e, op) :: todo) c t s) :
    ∃ c' t' r, commit K t e op c = (.commit, c', t') ∧ Paying E tariff? (P ++ [e]) todo c' t' s ∧
      c.Extends c' ∧ tariff? e = some r ∧ c'.monitor = (c.monitor.incrementUsed r).2 := by
  obtain ⟨hop, hops⟩ := List.forall_mem_cons.1 h.ops
  obtain ⟨position, r, rfl, ⟨hdecision, -⟩, hbilled⟩ := hop
  have hextends : c.Extends (c.count (K.resource r)) := ⟨id, id⟩
  refine ⟨c.count (K.resource r), { t with records := t.records.insert e.key r }, K.resource r,
    commit_created K hdecision, ⟨h.type, fun key => ?_, ?_, hops⟩, hextends, hbilled, rfl⟩
  · rw [Table.contains_insert, h.records]
    simp [or_comm]
  · rw [List.append_assoc, List.singleton_append]
    exact h.fills.extends hextends rfl

/-- A key that is not programmed is not in the table. -/
theorem Staging.absent (h : Staging E tariff? P todo c t s) {e : Entry}
    (hnew : e.key ∉ (P ++ todo.map Prod.fst).map Entry.key) :
    t.records.contains e.key = false := by
  rw [← Bool.not_eq_true, h.records]
  intro hmem
  rw [List.map_append] at hnew
  exact hnew (List.mem_append_left _ hmem)

def intake (E : EniKeys K) (hgrows : (reading K).Grows Context.NamesLe)
    (tariff? : Entry → Option Resource)
    (htariff : ∀ {e asked c r}, K.read e = .ok asked → K.resolve asked c = .ok r →
      tariff? e = some (K.resource r)) : Intake (bulk (δ := Simulator) K) (reading K) where
  touched := (· = K.type)
  bill P := P.filterMap tariff?
  bill_perm h := h.filterMap _
  grows := hgrows
  Kept := Stocked E
  Staged := Staging E tariff?
  Paid := Paying E tariff?
  start {P c t s} h := by
    have hnone : t.stager.selected Slot.openCreate? = [] := by simp [selected, h.slots]
    exact ⟨h.type, by simp [createCount, hnone], h.records, h.fills, .empty h.slots, nofun⟩
  stage_invalid {P todo c t s e error} h hset hnew hask := by
    simp only [reading] at hask
    exact RoutingTable.stage_invalid hset (h.absent hnew) hask
  stage_waits {P todo c t s e asked dependency} h hset hnew hask hresolve := by
    simp only [reading] at hask hresolve
    exact RoutingTable.stage_notReady hset (h.absent hnew) hask hresolve
  stage_ready {P todo c t s e asked r} h hset hnew hask hresolve := by
    simp only [reading] at hask hresolve
    exact ⟨_, _, stage_create hset (h.absent hnew) hask hresolve,
      h.create hask hresolve (htariff hask hresolve)⟩
  idle {P c t s} h := by
    refine ⟨h.type, h.records, ?_, nofun⟩
    rw [List.map_nil, List.append_nil]
    exact h.fills
  flush {P todo c t s n} h hfaultless hample := by
    obtain ⟨stager, s', hflush, hplaced, hleft⟩ :=
      flush_places_ample h.ordered.slotPlaces hfaultless h.count hample
    refine ⟨{ t with stager }, s', by simp only [bulk, hflush], h.placed hplaced, ?_, hleft⟩
    exact h.type ▸ hplaced.gains
  commit {P todo c t s e op} h hnew := by
    obtain ⟨c', t', r, hcommit, hnext, hextends, hbilled, hmonitor⟩ := h.commit
    refine ⟨c', t', hcommit, hnext, hextends, fun m hm => ?_⟩
    rw [hmonitor, hm, List.filterMap_append, List.filterMap_cons, hbilled, List.filterMap_nil,
      Monitor.countAll_concat]
  finish {P c t s} h := by
    refine ⟨h.type, rfl, h.records, ?_⟩
    have hfills := h.fills
    rw [List.map_nil, List.append_nil] at hfills
    exact hfills

namespace Stocked

/-- Passes over other tables may bring more parents. -/
theorem frame (h : Stocked E P c t s) {c' : Context} {s' : Simulator} (hc : c.Extends c')
    (hobjects : s'.objects K.type = s.objects K.type) : Stocked E P c' t s' :=
  ⟨h.type, h.slots, h.records, h.fills.extends hc hobjects⟩

theorem empty (htype : t.stager.type = K.type) (hslots : t.stager.slots = [])
    (hrecords : t.records = .empty) (hobjects : s.objects K.type = []) : Stocked E [] c t s := by
  refine ⟨htype, hslots, ?_, Site.fills_nil hobjects⟩
  simp [hrecords, Table.contains_eq_isSome]

end Stocked

end RoutingTable

section Parents

variable {c c' : Context}

theorem namedEni_of_namesLe (h : c.NamesLe c') {name : String} {id : Oid .eni}
    (hid : namedEni c name = .ok id) : ∃ id', namedEni c' name = .ok id' := by
  obtain ⟨id', hid'⟩ := h.eniId? (eniIds_of_namedEni hid)
  exact ⟨id', by simp only [namedEni, Context.eniId?, hid']⟩

theorem namedVnet_of_vnetsLe (h : c.VnetsLe c') {name? : Option String} {id? : Option (Oid .vnet)}
    (hid : namedVnet c name? = .ok id?) : ∃ id?', namedVnet c' name? = .ok id?' := by
  cases name? with
  | none => exact ⟨none, rfl⟩
  | some name =>
    simp only [namedVnet, Context.vnetId?] at hid ⊢
    cases hget : c.vnetIds.get? name with
    | none => simp [hget] at hid
    | some id =>
      obtain ⟨id', hid'⟩ := h.vnetId? hget
      exact ⟨some id', by rw [hid']⟩

end Parents

namespace RouteTable

/-- The resource that the route of a change key is counted as. -/
def tariff? (e : Entry) : Option Resource :=
  (RouteKey.parse e.key).toOption.map fun k => .outboundRouting k.net.family

theorem tariff?_of_resolve {e : Entry} {asked : RouteKey × RouteConfig} {c : Context}
    {r : RouteRecord} (hread : read e = .ok asked) (hresolve : resolve asked.1 asked.2 c = .ok r) :
    tariff? e = some (.outboundRouting r.net.family) := by
  obtain ⟨key, hkey, hread⟩ := exists_of_bind_ok hread
  obtain ⟨config, -, hread⟩ := exists_of_bind_ok hread
  cases hread
  obtain ⟨eniId, -, hresolve⟩ := exists_of_bind_ok hresolve
  obtain ⟨vnetId, -, hresolve⟩ := exists_of_bind_ok hresolve
  cases hresolve
  simp [tariff?, hkey, Except.toOption]

/-- Routes wait for their ENIs, and for the VNETs that they name. -/
theorem grows : (RoutingTable.reading RouteTable.kind).Grows Context.NamesLe := by
  refine Reading.grows_of_resolve fun {asked found c c'} hle hresolve => ?_
  obtain ⟨eniId, heni, hresolve⟩ := exists_of_bind_ok hresolve
  obtain ⟨vnetId, hvnet, -⟩ := exists_of_bind_ok hresolve
  obtain ⟨eniId', heni'⟩ := namedEni_of_namesLe hle heni
  obtain ⟨vnetId', hvnet'⟩ := namedVnet_of_vnetsLe hle.vnets hvnet
  exact ⟨_, by simp only [RoutingTable.reading, kind, resolve, heni', hvnet']; rfl⟩

def intake : Intake (RouteTable.bulk (δ := Simulator)) (RoutingTable.reading RouteTable.kind) :=
  RoutingTable.intake eniKeys grows tariff? tariff?_of_resolve

end RouteTable

namespace RuleTable

/-- The resource that the rule of a change key is counted as. -/
def tariff? (e : Entry) : Option Resource :=
  (RuleKey.parse e.key).toOption.map fun k => .inboundRouting k.net.family

theorem tariff?_of_resolve {e : Entry} {asked : RuleKey × RuleConfig} {c : Context}
    {r : RuleRecord} (hread : read e = .ok asked) (hresolve : resolve asked.1 asked.2 c = .ok r) :
    tariff? e = some (.inboundRouting r.net.family) := by
  obtain ⟨key, hkey, hread⟩ := exists_of_bind_ok hread
  obtain ⟨config, -, hread⟩ := exists_of_bind_ok hread
  cases hread
  obtain ⟨eniId, -, hresolve⟩ := exists_of_bind_ok hresolve
  obtain ⟨vnetId, -, hresolve⟩ := exists_of_bind_ok hresolve
  cases hresolve
  simp [tariff?, hkey, Except.toOption]

/-- Rules wait for their ENIs, and for the VNETs that they name. -/
theorem grows : (RoutingTable.reading RuleTable.kind).Grows Context.NamesLe := by
  refine Reading.grows_of_resolve fun {asked found c c'} hle hresolve => ?_
  obtain ⟨eniId, heni, hresolve⟩ := exists_of_bind_ok hresolve
  obtain ⟨vnetId, hvnet, -⟩ := exists_of_bind_ok hresolve
  obtain ⟨eniId', heni'⟩ := namedEni_of_namesLe hle heni
  obtain ⟨vnetId', hvnet'⟩ := namedVnet_of_vnetsLe hle.vnets hvnet
  exact ⟨_, by simp only [RoutingTable.reading, kind, resolve, heni', hvnet']; rfl⟩

def intake : Intake (RuleTable.bulk (δ := Simulator)) (RoutingTable.reading RuleTable.kind) :=
  RoutingTable.intake eniKeys grows tariff? tariff?_of_resolve

end RuleTable

end DashAgent
