import DashAgent.Overlay.Eni
import DashAgent.Overlay.Vnet
import DashAgent.Proofs.Context
import DashAgent.Proofs.Overlay.NamedObjects
import DashAgent.Proofs.Reconcile.Intake
import Mathlib.Tactic.Choose

/-!
# Named objects taken in

A pass over new SETs of named objects gives every change that is ready an identifier of its own. The
programmed changes, the index in the context and the switch then say the same: every name has one
identifier, no two names share one, and the objects on the switch are those identifiers.
-/
namespace DashAgent

open BulkStager

/-- A flush of creates without entries gives every slot a new identifier of its own. -/
theorem BulkStager.Placed.identifiers (kind : OidKind) {s s' : BulkStager} {d d' : Simulator}
    (h : Placed s d s' d') (hissued : d.Issuing)
    (hcreates : ∀ slot ∈ s.slots, ∃ request, slot = .create request none ∧ request.entry = none) :
    ∃ held : List (Oid kind),
      (List.range s.slots.length).map (fun i => (s'.objectId? i).bind Oid.ofRaw?) =
        held.map some ∧ held.Nodup ∧
      (∀ id ∈ held, .oid id.raw ∉ d.objects s.type) ∧
      ∀ k, (∃ i, s'.given? i = some k) ↔ ∃ id ∈ held, k = .oid id.raw := by
  have hslots : ∀ i, i < s.slots.length → ∃ id : Oid kind,
      (s'.objectId? i).bind Oid.ofRaw? = some id ∧ s'.given? i = some (.oid id.raw) ∧
        .oid id.raw ∉ d.objects s.type := by
    intro i hi
    obtain ⟨request, hslot, hentry⟩ := hcreates _ (List.getElem_mem hi)
    have hget : s.slots[i]? = some (.create request none) := by
      rw [List.getElem?_eq_getElem hi, hslot]
    obtain ⟨raw, hid, hne, hgiven, hnew⟩ := h.given_oid hissued hget hentry
    refine ⟨⟨raw⟩, ?_, hgiven, hnew⟩
    rw [hid, Option.bind_some, Oid.ofRaw?, if_neg hne]
  have : Nonempty (Oid kind) := ⟨⟨0⟩⟩
  choose! identifier hidentifier using hslots
  refine ⟨(List.range s.slots.length).map identifier, ?_, ?_, ?_, fun k => ⟨?_, ?_⟩⟩
  · rw [List.map_map]
    exact List.map_congr_left fun i hi => (hidentifier i (List.mem_range.1 hi)).1
  · refine List.Nodup.map_on (fun i hi j hj heq => ?_) List.nodup_range
    have hi := (hidentifier i (List.mem_range.1 hi)).2.1
    have hj := (hidentifier j (List.mem_range.1 hj)).2.1
    exact h.told.distinct i j _ hi (heq ▸ hj)
  · intro id hid
    obtain ⟨i, hi, rfl⟩ := List.mem_map.1 hid
    exact (hidentifier i (List.mem_range.1 hi)).2.2
  · rintro ⟨i, hi⟩
    have hlt := h.told.lt_of_given hi
    refine ⟨_, List.mem_map.2 ⟨i, List.mem_range.2 hlt, rfl⟩, ?_⟩
    exact Option.some.inj (hi.symm.trans (hidentifier i hlt).2.1)
  · rintro ⟨id, hid, rfl⟩
    obtain ⟨i, hi, rfl⟩ := List.mem_map.1 hid
    exact ⟨i, (hidentifier i (List.mem_range.1 hi)).2.1⟩

namespace NamedTable

variable {kind : OidKind} {α β ρ : Type} (K : NamedKind kind α β ρ)
  (ids : Context → Table String (Oid kind))

def reading : Reading α β := ⟨K.read, K.resolve⟩

def due (t : NamedTable ρ) (position : Nat) : Option (Oid kind) :=
  (t.stager.objectId? position).bind Oid.ofRaw?

/-- The identifiers of the programmed changes, and others that were allocated but are not yet
recorded, are the objects of the switch, one each. -/
structure Holding (P : List Entry) (dues : List (Option (Oid kind))) (c : Context)
    (t : NamedTable ρ) (s : Simulator) : Prop where
  records : ∀ key, t.records.contains key = true ↔ key ∈ P.map Entry.key
  index : ∀ key, (ids c).contains key = t.records.contains key
  held : ∃ held : List (Oid kind),
    (P.map fun e => (ids c).get? e.key) ++ dues = held.map some ∧ held.Nodup ∧
      ∀ k, k ∈ s.objects K.type ↔ ∃ id ∈ held, k = .oid id.raw

/-- While changes are staged, every slot is the create of one of them. -/
structure Staging (P : List Entry) (todo : List (Entry × NamedOp β)) (c : Context)
    (t : NamedTable ρ) (s : Simulator) : Prop where
  type : t.stager.type = K.type
  count : t.stager.createCount ≤ todo.length
  creates : ∀ slot ∈ t.stager.slots,
    ∃ request, slot = .create request none ∧ request.entry = none
  positions : todo.map (fun x => opPosition x.2) = List.range t.stager.slots.length
  ops : ∀ x ∈ todo, ∃ position asked, x.2 = .create position asked ∧
    t.stager.Awaits .create true position
  holding : Holding K ids P [] c t s

/-- While changes are committed, those to come have their identifiers. -/
structure Paying (P : List Entry) (todo : List (Entry × NamedOp β)) (c : Context)
    (t : NamedTable ρ) (s : Simulator) : Prop where
  type : t.stager.type = K.type
  ops : ∀ x ∈ todo, ∃ position asked, x.2 = .create position asked ∧
    t.stager.Grants .create true position
  holding : Holding K ids P (todo.map fun x => due t (opPosition x.2)) c t s

variable {K ids} {P : List Entry} {todo : List (Entry × NamedOp β)} {c : Context}
  {t : NamedTable ρ} {s : Simulator}

/-- What is staged waits at the next position. -/
theorem Staging.create (h : Staging K ids P todo c t s) (e : Entry) (asked : β) :
    Staging K ids P
      (todo ++ [(e, .create t.stager.slots.length asked)]) c
      { t with stager := (t.stager.stageCreate ⟨none, K.attributes asked⟩).2 } s where
  type := h.type
  count := by
    have hcount := createCount_push_le t.stager (.create ⟨none, K.attributes asked⟩ none)
    rw [List.length_append, List.length_singleton]
    exact Nat.le_trans hcount (Nat.add_le_add_right h.count 1)
  creates slot hslot := by
    rcases List.mem_append.1 hslot with hslot | hslot
    · exact h.creates slot hslot
    · exact ⟨_, List.mem_singleton.1 hslot, rfl⟩
  positions := by
    rw [List.map_append, h.positions]
    simp [stageCreate, push, List.range_succ, opPosition]
  ops x hx := by
    rcases List.mem_append.1 hx with hx | hx
    · obtain ⟨position, asked', hop, hawaits⟩ := h.ops x hx
      exact ⟨position, asked', hop, hawaits.push _⟩
    · cases List.mem_singleton.1 hx
      exact ⟨_, asked, rfl, awaits_push ⟨rfl, fun _ => rfl⟩⟩
  holding := ⟨h.holding.records, h.holding.index, h.holding.held⟩

/-- After the flush the staged changes have their identifiers. -/
theorem Staging.placed (h : Staging K ids P todo c t s) (hfaultless : s.Faultless)
    {stager : BulkStager} {s' : Simulator} (hplaced : Placed t.stager s stager s') :
    Paying K ids P todo c { t with stager } s' where
  type := hplaced.type.trans h.type
  ops x hx := by
    obtain ⟨position, asked, hop, hawaits⟩ := h.ops x hx
    exact ⟨position, asked, hop, hplaced.grants hawaits⟩
  holding := by
    obtain ⟨held, hheld, hnodup, hobjects⟩ := h.holding.held
    obtain ⟨fresh, hfresh, hnodup', hnew, hgiven⟩ :=
      hplaced.identifiers kind hfaultless.issued h.creates
    rw [List.append_nil] at hheld
    refine ⟨h.holding.records, h.holding.index, held ++ fresh, ?_, ?_, fun k => ?_⟩
    · rw [← h.positions, List.map_map] at hfresh
      rw [hheld, List.map_append, ← hfresh]
      rfl
    · refine List.nodup_append.2 ⟨hnodup, hnodup', ?_⟩
      rintro id hid _ hid' rfl
      rw [h.type] at hnew
      exact hnew id hid' ((hobjects _).2 ⟨id, hid, rfl⟩)
    · have hall := hplaced.objects k
      rw [h.type] at hall
      rw [hall, hobjects, hgiven]
      simp only [List.mem_append, or_and_right, exists_or]

/-- A commit records the identifier of its change. -/
theorem Paying.commit (hindexed : Indexed K ids)
    (henter : ∀ {name id c}, (ids c).get? name = none → c.Extends (K.enter name id c))
    {e : Entry} {op : NamedOp β} (h : Paying K ids P ((e, op) :: todo) c t s)
    (hnew : e.key ∉ P.map Entry.key) :
    ∃ c' t', commit K t e op c = (.commit, c', t') ∧ Paying K ids (P ++ [e]) todo c' t' s ∧
      c.Extends c' ∧ c'.monitor = (c.monitor.incrementUsed K.resource).2 := by
  obtain ⟨hop, hops⟩ := List.forall_mem_cons.1 h.ops
  obtain ⟨position, asked, rfl, hdecision, hallocated⟩ := hop
  obtain ⟨raw, hraw, hne⟩ := hallocated rfl
  have hid : (t.stager.objectId? position).bind Oid.ofRaw? = some (⟨raw⟩ : Oid kind) :=
    bind_ofRaw hraw hne
  have hunknown : (ids c).get? e.key = none := by
    have habsent : t.records.contains e.key = false := by
      rw [← Bool.not_eq_true, h.holding.records]
      exact hnew
    rw [← h.holding.index, Table.contains_eq_isSome] at habsent
    simpa using habsent
  have hids : ids ((K.enter e.key ⟨raw⟩ c).count K.resource) = (ids c).insert e.key ⟨raw⟩ := by
    rw [hindexed.count, hindexed.enter]
  refine ⟨(K.enter e.key ⟨raw⟩ c).count K.resource,
    { t with records := t.records.insert e.key (K.record ⟨raw⟩ asked) },
    commit_created K hdecision hid, ⟨h.type, hops, ?_⟩, ?_, ?_⟩
  · obtain ⟨held, hheld, hnodup, hobjects⟩ := h.holding.held
    refine ⟨fun key => ?_, fun key => ?_, held, ?_, hnodup, hobjects⟩
    · rw [Table.contains_insert, h.holding.records]
      simp [or_comm]
    · rw [hids, Bool.eq_iff_iff, Table.contains_insert, Table.contains_insert, h.holding.index]
    · rw [← hheld, List.map_append, List.map_cons, hids]
      have hsame : P.map (fun x => ((ids c).insert e.key ⟨raw⟩).get? x.key) =
          P.map fun x => (ids c).get? x.key := by
        refine List.map_congr_left fun x hx => Table.get?_insert_of_ne _ ?_
        rintro heq
        exact hnew (heq ▸ List.mem_map_of_mem hx)
      rw [hsame, List.append_assoc]
      simp [due, opPosition, hid]
  · have hentered : c.Extends (K.enter e.key ⟨raw⟩ c) := henter hunknown
    exact ⟨hentered.vnets, hentered.enis⟩
  · exact congrArg Prod.fst (Context.accounts_count (K.enter_accounts e.key ⟨raw⟩ c) K.resource)

/-! ## The intake -/

/-- Between passes the identifiers of the programmed changes are the objects of the switch. -/
structure Stocked (K : NamedKind kind α β ρ) (ids : Context → Table String (Oid kind))
    (P : List Entry) (c : Context) (t : NamedTable ρ) (s : Simulator) : Prop where
  type : t.stager.type = K.type
  slots : t.stager.slots = []
  holding : Holding K ids P [] c t s

/-- A name that is not programmed is not in the table. -/
theorem Holding.absent {dues : List (Option (Oid kind))} (h : Holding K ids P dues c t s)
    {e : Entry} (hnew : e.key ∉ (P ++ todo.map Prod.fst).map Entry.key) :
    t.records.contains e.key = false := by
  rw [← Bool.not_eq_true, h.records]
  intro hmem
  rw [List.map_append] at hnew
  exact hnew (List.mem_append_left _ hmem)

def intake (hindexed : Indexed K ids)
    (henter : ∀ {name id c}, (ids c).get? name = none → c.Extends (K.enter name id c))
    (hgrows : (reading K).Grows Context.VnetsLe) :
    Intake (bulk (δ := Simulator) K) (reading K) where
  touched := (· = K.type)
  bill P := P.map fun _ => K.resource
  bill_perm h := h.map _
  grows := hgrows.mono Context.NamesLe.vnets
  Kept := Stocked K ids
  Staged := Staging K ids
  Paid := Paying K ids
  start {P c t s} h := by
    have hnone : t.stager.selected Slot.openCreate? = [] := by simp [selected, h.slots]
    refine ⟨h.type, by simp [createCount, hnone], ?_, by simp [h.slots], nofun, h.holding⟩
    rw [h.slots]
    nofun
  stage_invalid {P todo c t s e error} h hset hnew hask := by
    simp only [reading] at hask
    exact NamedTable.stage_invalid hset (h.holding.absent hnew) hask
  stage_waits {P todo c t s e asked dependency} h hset hnew hask hresolve := by
    simp only [reading] at hask hresolve
    exact NamedTable.stage_notReady hset (h.holding.absent hnew) hask hresolve
  stage_ready {P todo c t s e asked found} h hset hnew hask hresolve := by
    simp only [reading] at hask hresolve
    exact ⟨_, _, stage_create hset (h.holding.absent hnew) hask hresolve, h.create e found⟩
  idle {P c t s} h := ⟨h.type, nofun, h.holding⟩
  flush {P todo c t s n} h hfaultless hample := by
    have hplaces : ∀ slot ∈ t.stager.slots, slot.Places := by
      intro slot hslot
      obtain ⟨request, rfl, -⟩ := h.creates slot hslot
      trivial
    obtain ⟨stager, s', hflush, hplaced, hleft⟩ :=
      flush_places_ample hplaces hfaultless h.count hample
    refine ⟨{ t with stager }, s', by simp only [bulk, hflush], h.placed hfaultless hplaced, ?_,
      hleft⟩
    exact h.type ▸ hplaced.gains
  commit {P todo c t s e op} h hnew := by
    obtain ⟨c', t', hcommit, hnext, hextends, hmonitor⟩ := h.commit hindexed henter hnew
    refine ⟨c', t', hcommit, hnext, hextends, fun m hm => ?_⟩
    rw [hmonitor, hm, List.map_append, List.map_singleton, Monitor.countAll_concat]
  finish {P c t s} h := ⟨h.type, rfl, h.holding.records, h.holding.index, h.holding.held⟩

/-! ## Between passes -/

namespace Stocked

/-- Passes over other tables leave the objects and their index alone. -/
theorem frame (h : Stocked K ids P c t s) {c' : Context} {s' : Simulator} (hids : ids c' = ids c)
    (hobjects : s'.objects K.type = s.objects K.type) : Stocked K ids P c' t s' := by
  refine ⟨h.type, h.slots, h.holding.records, ?_, ?_⟩
  · rw [hids]
    exact h.holding.index
  · rw [hids, hobjects]
    exact h.holding.held

theorem empty (htype : t.stager.type = K.type) (hslots : t.stager.slots = [])
    (hrecords : t.records = .empty) (hids : ids c = .empty) (hobjects : s.objects K.type = []) :
    Stocked K ids [] c t s := by
  refine ⟨htype, hslots, ?_, ?_, [], rfl, List.nodup_nil, ?_⟩
  · simp [hrecords, Table.contains_eq_isSome]
  · simp [hrecords, hids, Table.contains_eq_isSome]
  · simp [hobjects]

/-- The names of the index are those of the programmed changes. -/
theorem names (h : Stocked K ids P c t s) (name : String) :
    (ids c).contains name = true ↔ name ∈ P.map Entry.key := by
  rw [h.holding.index, h.holding.records]

/-- No two names share an identifier. -/
theorem namesApart (h : Stocked K ids P c t s) : (ids c).NamesApart := by
  obtain ⟨held, hheld, hnodup, -⟩ := h.holding.held
  rw [List.append_nil] at hheld
  have hknown : ∀ {name id}, (ids c).get? name = some id → ∃ e ∈ P, e.key = name := by
    intro name id hid
    have hname : (ids c).contains name = true := by rw [Table.contains_eq_isSome, hid]; rfl
    exact List.mem_map.1 ((h.names name).1 hname)
  have hapart : (P.map fun e => (ids c).get? e.key).Nodup := by
    rw [hheld]
    exact hnodup.map (Option.some_injective _)
  intro name name' id hid hid'
  obtain ⟨e, he, rfl⟩ := hknown hid
  obtain ⟨e', he', rfl⟩ := hknown hid'
  rw [List.inj_on_of_nodup_map hapart he he' (hid.trans hid'.symm)]

/-- The objects on the switch are those of the programmed names. -/
theorem objects (h : Stocked K ids P c t s) (k : ObjectKey) : k ∈ s.objects K.type ↔
    ∃ e ∈ P, ∃ id, (ids c).get? e.key = some id ∧ k = .oid id.raw := by
  obtain ⟨held, hheld, -, hobjects⟩ := h.holding.held
  rw [List.append_nil] at hheld
  have hmem : ∀ id, id ∈ held ↔ ∃ e ∈ P, (ids c).get? e.key = some id := by
    intro id
    rw [← List.mem_map (f := fun e : Entry => (ids c).get? e.key), hheld]
    simp
  rw [hobjects]
  constructor
  · rintro ⟨id, hid, rfl⟩
    obtain ⟨e, he, hid⟩ := (hmem id).1 hid
    exact ⟨e, he, id, hid, rfl⟩
  · rintro ⟨e, he, id, hid, rfl⟩
    exact ⟨id, (hmem id).2 ⟨e, he, hid⟩, rfl⟩

end Stocked

def site (ids : Context → Table String (Oid kind))
    (grows : ∀ {c c' name id}, c.Extends c' → (ids c).get? name = some id →
      (ids c').get? name = some id) : Site kind where
  ids := ids
  part? e := some (e.key, "")
  key id _ := .oid id.raw
  grows := grows
  key_inj {e e' name name' text text' id id'} he he' hkey := by
    obtain ⟨-, rfl⟩ := Prod.mk.inj (Option.some.inj he)
    obtain ⟨-, rfl⟩ := Prod.mk.inj (Option.some.inj he')
    obtain ⟨⟩ := id
    obtain ⟨⟩ := id'
    cases hkey
    exact ⟨rfl, rfl⟩

theorem Stocked.fills (h : Stocked K ids P c t s)
    (grows : ∀ {c c' name id}, c.Extends c' → (ids c).get? name = some id →
      (ids c').get? name = some id) : (site ids grows).Fills K.type P c s where
  located e he := by
    have hname := (h.names e.key).2 (List.mem_map_of_mem he)
    rw [Table.contains_eq_isSome] at hname
    obtain ⟨id, hid⟩ := Option.isSome_iff_exists.1 hname
    exact Option.isSome_iff_exists.2
      ⟨_, Site.key?_eq_some_iff.2 ⟨e.key, "", id, rfl, hid, rfl⟩⟩
  objects k := by
    rw [h.objects]
    refine exists_congr fun e => and_congr_right fun _ => ?_
    rw [Site.key?_eq_some_iff]
    constructor
    · rintro ⟨id, hid, rfl⟩
      exact ⟨e.key, "", id, rfl, hid, rfl⟩
    · rintro ⟨name, text, id, hpart, hid, hk⟩
      cases hpart
      exact ⟨id, hid, hk⟩

end NamedTable

/-- VNETs have no parents. -/
theorem VnetTable.ready_eq (c : Context) (e : Entry) :
    (NamedTable.reading VnetTable.kind).ready c e =
      !(NamedTable.reading VnetTable.kind).invalid e := by
  simp only [Reading.ready, Reading.invalid]
  cases (NamedTable.reading VnetTable.kind).ask e <;> rfl

theorem VnetTable.grows : (NamedTable.reading VnetTable.kind).Grows fun _ _ => True := by
  intro c c' e _ hready
  rw [ready_eq] at hready ⊢
  exact hready

/-- ENIs wait for their VNETs. -/
theorem EniTable.grows : (NamedTable.reading EniTable.kind).Grows Context.VnetsLe := by
  refine Reading.grows_of_resolve fun {asked found c c'} hle hresolve => ?_
  simp only [NamedTable.reading, kind, resolve, Context.vnetId?] at hresolve ⊢
  cases hid : c.vnetIds.get? asked.vnet with
  | none => simp [hid] at hresolve
  | some id =>
    obtain ⟨id', hid'⟩ := hle.vnetId? hid
    exact ⟨_, by rw [hid']⟩

def VnetTable.intake :
    Intake (VnetTable.bulk (δ := Simulator)) (NamedTable.reading VnetTable.kind) :=
  NamedTable.intake VnetTable.indexed (fun hnew => by
    refine ⟨fun {name _} hid => ?_, id⟩
    refine (Table.get?_insert_of_ne _ ?_).trans hid
    rintro rfl
    cases hnew.symm.trans hid) (VnetTable.grows.mono fun _ => trivial)

def EniTable.intake : Intake (EniTable.bulk (δ := Simulator)) (NamedTable.reading EniTable.kind) :=
  NamedTable.intake EniTable.indexed (fun hnew => by
    refine ⟨id, fun {name _} hid => ?_⟩
    refine (Table.get?_insert_of_ne _ ?_).trans hid
    rintro rfl
    cases hnew.symm.trans hid) EniTable.grows

end DashAgent
