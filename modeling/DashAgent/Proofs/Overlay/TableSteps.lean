import DashAgent.Overlay.NamedTable
import DashAgent.Overlay.RoutingTable
import DashAgent.Proofs.Switch.Requests

/-!
# Steps of the tables

What staging and committing one change find and do in a table of named objects and in one of routing
entries, one constructor for each way that they can go. Whatever is said of a step elsewhere is read
off these.
-/
namespace DashAgent

theorem BulkStager.outcome_of_getElem? {s : BulkStager} {i : Nat} {slot : Slot}
    (h : s.slots[i]? = some slot) : s.outcome i = slot.status?.getD .notExecuted := by
  rw [outcome, status?, h, Option.bind_some]

theorem BulkStager.outcome_of_none {s : BulkStager} {i : Nat} (h : s.slots[i]? = none) :
    s.outcome i = .notExecuted := by
  rw [outcome, status?, h, Option.bind_none, Option.getD_none]

theorem ofStatus_notExecuted (kind : RequestKind) :
    Decision.ofStatus kind .notExecuted = .retry := by
  cases kind <;> rfl

/-- An identifier that was allocated is one. -/
theorem bind_ofRaw {kind : OidKind} {given : Option ObjectId} {raw : ObjectId}
    (h : given = some raw) (hne : raw ≠ 0) : given.bind Oid.ofRaw? = some (⟨raw⟩ : Oid kind) := by
  rw [h, Option.bind_some, Oid.ofRaw?, if_neg hne]

/-! ## Named objects -/

namespace NamedTable

variable {kind : OidKind} {α β ρ : Type} (K : NamedKind kind α β ρ)

def opKind : NamedOp β → RequestKind
  | .create .. => .create
  | .remove _ => .remove

def opAllocates : NamedOp β → Bool
  | .create .. => true
  | .remove _ => false

def opPosition : NamedOp β → Nat
  | .create position _ | .remove position => position

def pushed (t : NamedTable ρ) (slot : Slot) : NamedTable ρ :=
  { t with stager := (t.stager.push slot).2 }

inductive Stages (t : NamedTable ρ) (e : Entry) (c : Context) :
    StageOutcome (NamedOp β) × NamedTable ρ → Prop where
  | done : (e.op = .set ↔ t.records.contains e.key = true) → Stages t e c (.done, t)
  | invalid (error : EntryError) : e.op = .set → t.records.get? e.key = none →
    K.read e = .error error → Stages t e c (.invalid error, t)
  | notReady (asked : α) (dependency : Dependency) : e.op = .set → t.records.get? e.key = none →
    K.read e = .ok asked → K.resolve asked c = .error dependency →
    Stages t e c (.notReady dependency, t)
  | create (asked : α) (found : β) : e.op = .set → t.records.get? e.key = none →
    K.read e = .ok asked → K.resolve asked c = .ok found →
    Stages t e c (.staged (.create t.stager.slots.length found),
      t.pushed (.create ⟨none, K.attributes found⟩ none))
  | remove (r : ρ) : e.op = .del → t.records.get? e.key = some r →
    Stages t e c (.staged (.remove t.stager.slots.length),
      t.pushed (.remove (.oid (K.id r).raw) none))

theorem stage_spec (t : NamedTable ρ) (e : Entry) (c : Context) :
    Stages K t e c (stage K t e c) := by
  unfold stage
  split
  · next hset =>
    split
    · next hpresent => exact .done (by simp [hset, hpresent])
    · next habsent =>
      rw [Table.contains_eq_isSome, Bool.not_eq_true, Option.isSome_eq_false_iff,
        Option.isNone_iff_eq_none] at habsent
      split
      · next error hread => exact .invalid error hset habsent hread
      · next asked hread =>
        split
        · next dependency hresolve => exact .notReady asked dependency hset habsent hread hresolve
        · next found hresolve => exact .create asked found hset habsent hread hresolve
  · next hdel =>
    split
    · next habsent => exact .done (by simp [hdel, Table.contains_eq_isSome, habsent])
    · next r hpresent => exact .remove r hdel hpresent

/-- Staging makes and takes away no record. -/
theorem records_stage (e : Entry) (c : Context) (t : NamedTable ρ) :
    (stage K t e c).2.records = t.records := by
  have hstage := stage_spec K t e c
  generalize stage K t e c = result at hstage ⊢
  cases hstage <;> rfl

section Asked

variable {K} {t : NamedTable ρ} {e : Entry} {c : Context} {asked : α}

theorem stage_invalid {error : EntryError} (hset : e.op = .set)
    (habsent : t.records.contains e.key = false) (hread : K.read e = .error error) :
    stage K t e c = (.invalid error, t) := by
  simp only [stage, hset, habsent, hread, Bool.false_eq_true, if_false]

theorem stage_notReady {dependency : Dependency} (hset : e.op = .set)
    (habsent : t.records.contains e.key = false) (hread : K.read e = .ok asked)
    (hresolve : K.resolve asked c = .error dependency) :
    stage K t e c = (.notReady dependency, t) := by
  simp only [stage, hset, habsent, hread, hresolve, Bool.false_eq_true, if_false]

theorem stage_create {found : β} (hset : e.op = .set)
    (habsent : t.records.contains e.key = false) (hread : K.read e = .ok asked)
    (hresolve : K.resolve asked c = .ok found) :
    stage K t e c = (.staged (.create t.stager.slots.length found),
      t.pushed (.create ⟨none, K.attributes found⟩ none)) := by
  simp only [stage, hset, habsent, hread, hresolve, Bool.false_eq_true, if_false]
  rfl

theorem stage_remove {r : ρ} (hdel : e.op = .del) (hpresent : t.records.get? e.key = some r) :
    stage K t e c = (.staged (.remove t.stager.slots.length),
      t.pushed (.remove (.oid (K.id r).raw) none)) := by
  simp only [stage, hdel, hpresent]
  rfl

end Asked

def made (asked : β) (slot : Slot) : Option ρ :=
  if Decision.ofStatus .create (slot.status?.getD .notExecuted) = .commit then
    (slot.objectId?.bind Oid.ofRaw?).map fun id => K.record id asked
  else none

inductive Commits (t : NamedTable ρ) (e : Entry) (c : Context) :
    NamedOp β → Decision × Context × NamedTable ρ → Prop where
  | kept (position : Nat) (asked : β) (decision : Decision) : decision ≠ .commit →
    (t.stager.slots[position]?.bind (made K asked) = none) →
    Commits t e c (.create position asked) (decision, c, t)
  | created (position : Nat) (asked : β) (id : Oid kind) :
    (t.stager.slots[position]?.bind (made K asked) = some (K.record id asked)) →
    Commits t e c (.create position asked) (.commit, (K.enter e.key id c).count K.resource,
      { t with records := t.records.insert e.key (K.record id asked) })
  | stays (position : Nat) : ¬(t.stager.outcome position).IsGone →
    Commits t e c (.remove position)
      (Decision.ofStatus .remove (t.stager.outcome position), c, t)
  | removed (position : Nat) : (t.stager.outcome position).IsGone →
    Commits t e c (.remove position) (.commit, (K.leave e.key c).uncount K.resource,
      { t with records := t.records.erase e.key })

theorem commit_spec (t : NamedTable ρ) (e : Entry) (op : NamedOp β) (c : Context) :
    Commits K t e c op (commit K t e op c) := by
  unfold commit
  split
  · next position asked =>
    have hmade : t.stager.slots[position]?.bind (made K asked) =
        if Decision.ofStatus .create (t.stager.outcome position) = .commit then
          ((t.stager.objectId? position).bind Oid.ofRaw?).map fun id => K.record id asked
        else none := by
      cases hslot : t.stager.slots[position]? with
      | none =>
        rw [BulkStager.outcome_of_none hslot, ofStatus_notExecuted]
        rfl
      | some slot =>
        rw [BulkStager.outcome_of_getElem? hslot, BulkStager.objectId?, hslot]
        rfl
    split
    · next hcommit =>
      rw [hcommit, if_pos rfl] at hmade
      split
      · next hnull =>
        rw [hnull] at hmade
        exact .kept position asked .drop (by decide) hmade
      · next id hid =>
        rw [hid] at hmade
        exact .created position asked id hmade
    · next hnot =>
      rw [if_neg (fun h => hnot h)] at hmade
      exact .kept position asked _ (fun h => hnot h) hmade
  · next position =>
    split
    · next hgone => exact .removed position hgone
    · next hnot => exact .stays position fun h => hnot h

section Granted

variable {t : NamedTable ρ} {e : Entry} {c : Context} {position : Nat}

theorem commit_created {asked : β} {id : Oid kind}
    (hdecision : Decision.ofStatus .create (t.stager.outcome position) = .commit)
    (hid : (t.stager.objectId? position).bind Oid.ofRaw? = some id) :
    commit K t e (.create position asked) c =
      (.commit, (K.enter e.key id c).count K.resource,
        { t with records := t.records.insert e.key (K.record id asked) }) := by
  simp only [commit, hdecision, hid]

theorem commit_removed (hgone : (t.stager.outcome position).IsGone) :
    commit K t e (.remove position) c =
      (.commit, (K.leave e.key c).uncount K.resource,
        { t with records := t.records.erase e.key }) := by
  rw [Status.IsGone] at hgone
  simp only [commit, hgone]

end Granted

end NamedTable

/-! ## Routing entries -/

namespace RoutingTable

variable {α ρ : Type} (K : RoutingKind α ρ)

def opKind : RouteOp ρ → RequestKind
  | .create .. => .create
  | .remove _ => .remove

def opPosition : RouteOp ρ → Nat
  | .create position _ | .remove position => position

def pushed (t : RoutingTable ρ) (slot : Slot) : RoutingTable ρ :=
  { t with stager := (t.stager.push slot).2 }

inductive Stages (t : RoutingTable ρ) (e : Entry) (c : Context) :
    StageOutcome (RouteOp ρ) × RoutingTable ρ → Prop where
  | done : (e.op = .set ↔ t.records.contains e.key = true) → Stages t e c (.done, t)
  | invalid (error : EntryError) : e.op = .set → t.records.get? e.key = none →
    K.read e = .error error → Stages t e c (.invalid error, t)
  | notReady (asked : α) (dependency : Dependency) : e.op = .set → t.records.get? e.key = none →
    K.read e = .ok asked → K.resolve asked c = .error dependency →
    Stages t e c (.notReady dependency, t)
  | create (asked : α) (r : ρ) : e.op = .set → t.records.get? e.key = none →
    K.read e = .ok asked → K.resolve asked c = .ok r →
    Stages t e c (.staged (.create t.stager.slots.length r),
      t.pushed (.create ⟨some (K.entryKey r), K.attributes r⟩ none))
  | remove (r : ρ) : e.op = .del → t.records.get? e.key = some r →
    Stages t e c (.staged (.remove t.stager.slots.length),
      t.pushed (.remove (.entry (K.entryKey r)) none))

theorem stage_spec (t : RoutingTable ρ) (e : Entry) (c : Context) :
    Stages K t e c (stage K t e c) := by
  unfold stage stageSet
  split
  · next hset =>
    split
    · next hpresent => exact .done (by simp [hset, hpresent])
    · next habsent =>
      rw [Table.contains_eq_isSome, Bool.not_eq_true, Option.isSome_eq_false_iff,
        Option.isNone_iff_eq_none] at habsent
      split
      · next error hread => exact .invalid error hset habsent hread
      · next asked hread =>
        split
        · next dependency hresolve => exact .notReady asked dependency hset habsent hread hresolve
        · next r hresolve => exact .create asked r hset habsent hread hresolve
  · next hdel =>
    split
    · next habsent => exact .done (by simp [hdel, Table.contains_eq_isSome, habsent])
    · next r hpresent => exact .remove r hdel hpresent

/-- Staging makes and takes away no record. -/
theorem records_stage (e : Entry) (c : Context) (t : RoutingTable ρ) :
    (stage K t e c).2.records = t.records := by
  have hstage := stage_spec K t e c
  generalize stage K t e c = result at hstage ⊢
  cases hstage <;> rfl

section Asked

variable {K} {t : RoutingTable ρ} {e : Entry} {c : Context} {asked : α}

theorem stage_invalid {error : EntryError} (hset : e.op = .set)
    (habsent : t.records.contains e.key = false) (hread : K.read e = .error error) :
    stage K t e c = (.invalid error, t) := by
  simp only [stage, stageSet, hset, habsent, hread, Bool.false_eq_true, if_false]

theorem stage_notReady {dependency : Dependency} (hset : e.op = .set)
    (habsent : t.records.contains e.key = false) (hread : K.read e = .ok asked)
    (hresolve : K.resolve asked c = .error dependency) :
    stage K t e c = (.notReady dependency, t) := by
  simp only [stage, stageSet, hset, habsent, hread, hresolve, Bool.false_eq_true, if_false]

theorem stage_create {r : ρ} (hset : e.op = .set)
    (habsent : t.records.contains e.key = false) (hread : K.read e = .ok asked)
    (hresolve : K.resolve asked c = .ok r) :
    stage K t e c = (.staged (.create t.stager.slots.length r),
      t.pushed (.create ⟨some (K.entryKey r), K.attributes r⟩ none)) := by
  simp only [stage, stageSet, hset, habsent, hread, hresolve, Bool.false_eq_true, if_false]
  rfl

end Asked

inductive Commits (t : RoutingTable ρ) (e : Entry) (c : Context) :
    RouteOp ρ → Decision × Context × RoutingTable ρ → Prop where
  | kept (position : Nat) (r : ρ) :
    Decision.ofStatus .create (t.stager.outcome position) ≠ .commit →
    Commits t e c (.create position r)
      (Decision.ofStatus .create (t.stager.outcome position), c, t)
  | created (position : Nat) (r : ρ) :
    Decision.ofStatus .create (t.stager.outcome position) = .commit →
    Commits t e c (.create position r)
      (.commit, c.count (K.resource r), { t with records := t.records.insert e.key r })
  | stays (position : Nat) : ¬(t.stager.outcome position).IsGone →
    Commits t e c (.remove position)
      (Decision.ofStatus .remove (t.stager.outcome position), c, t)
  | absent (position : Nat) : (t.stager.outcome position).IsGone → t.records.get? e.key = none →
    Commits t e c (.remove position) (.commit, c, t)
  | removed (position : Nat) (r : ρ) : (t.stager.outcome position).IsGone →
    t.records.get? e.key = some r →
    Commits t e c (.remove position) (.commit, c.uncount (K.resource r),
      { t with records := t.records.erase e.key })

theorem commit_spec (t : RoutingTable ρ) (e : Entry) (op : RouteOp ρ) (c : Context) :
    Commits K t e c op (commit K t e op c) := by
  unfold commit
  split
  · next position r =>
    split
    · next hcommit => exact .created position r hcommit
    · next hnot => exact .kept position r fun h => hnot h
  · next position =>
    split
    · next hgone =>
      split
      · next habsent => exact .absent position hgone habsent
      · next r hpresent => exact .removed position r hgone hpresent
    · next hnot => exact .stays position fun h => hnot h

section Granted

variable {t : RoutingTable ρ} {e : Entry} {c : Context} {position : Nat}

theorem commit_created {r : ρ}
    (hdecision : Decision.ofStatus .create (t.stager.outcome position) = .commit) :
    commit K t e (.create position r) c =
      (.commit, c.count (K.resource r), { t with records := t.records.insert e.key r }) := by
  simp only [commit, hdecision]

theorem commit_absent (hgone : (t.stager.outcome position).IsGone)
    (hget : t.records.get? e.key = none) : commit K t e (.remove position) c = (.commit, c, t) := by
  rw [Status.IsGone] at hgone
  simp only [commit, hgone, hget]

theorem commit_removed {r : ρ} (hgone : (t.stager.outcome position).IsGone)
    (hget : t.records.get? e.key = some r) :
    commit K t e (.remove position) c =
      (.commit, c.uncount (K.resource r), { t with records := t.records.erase e.key }) := by
  rw [Status.IsGone] at hgone
  simp only [commit, hgone, hget]

end Granted

end RoutingTable

end DashAgent
