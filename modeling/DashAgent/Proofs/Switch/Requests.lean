import DashAgent.Proofs.Switch.Simulator

/-!
# What an answer tells

The answer of a simulated switch to a request tells what became of the object, as long as no queued
status pretends that it was there or gone already. A switch is `Sound` when its channel is up, it
holds every key once, its identifiers were issued, and its queued statuses are of a given kind.
-/
namespace DashAgent

/-- The key of the object that a create put on the switch or found there, by its answer. -/
def CreateAnswer.key? (request : CreateRequest) (answer : CreateAnswer) : Option ObjectKey :=
  if Decision.ofStatus .create answer.status = .commit then
    match request.entry with
    | some key => some (.entry key)
    | none => answer.objectId.map .oid
  else none

/-- The status says that the object of a remove is gone. -/
def Status.IsGone (status : Status) : Prop := Decision.ofStatus .remove status = .commit

instance (status : Status) : Decidable status.IsGone :=
  inferInstanceAs (Decidable (_ = _))

theorem ofStatus_eq_commit_iff {kind : RequestKind} {status : Status} :
    Decision.ofStatus kind status = .commit ↔
      status = .success ∨ kind = .create ∧ status = .itemAlreadyExists ∨
        kind = .remove ∧ status = .itemNotFound := by
  cases kind <;> cases status <;>
    simp [Decision.ofStatus, Decision.alreadyHolds, Status.isSuccess, Status.isTableFull]

namespace Simulator

/-- The switch answers, its objects are in order, and only some statuses are queued. -/
structure Sound (queued : Status → Prop) (s : Simulator) : Prop where
  up : s.channelLost = false
  queued : ∀ type, ∀ status ∈ (s.pools.get type).forced, queued status
  nodup : ∀ type, (s.objects type).Nodup
  issued : s.Issuing

section Pools

variable {p : Pool}

/-- A queued failure is taken, or the request is let through; the objects stay. -/
theorem takeForced_cases (p : Pool) : ∃ q : Pool, q.objects = p.objects ∧ q.forced ⊆ p.forced ∧
    ((∃ status ∈ p.forced, status ≠ .success ∧ p.takeForced = (some status, q)) ∨
      p.takeForced = (none, q)) := by
  unfold Pool.takeForced
  split
  · exact ⟨p, rfl, List.Subset.refl _, .inr rfl⟩
  · next status rest hforced =>
    refine ⟨{ p with forced := rest }, rfl, by simp [hforced], ?_⟩
    by_cases hsuccess : status.isSuccess = true
    · exact .inr (by simp [hsuccess])
    · refine .inl ⟨status, by simp [hforced], ?_, by simp [hsuccess]⟩
      rintro rfl
      exact hsuccess rfl

/-- A key is added, or the answer is a failure and the table stays. -/
theorem add_outcome (p : Pool) (size : Nat) (key : ObjectKey) :
    (∃ status : Status, status.isSuccess = false ∧ p.add size key = (status, p)) ∨
      p.add size key = (.success, { p with objects := key :: p.objects }) := by
  unfold Pool.add
  split
  · exact .inl ⟨_, rfl, rfl⟩
  · split
    · exact .inl ⟨_, rfl, rfl⟩
    · exact .inr rfl

/-- A key is in the table after its addition if it was there or the answer says so. -/
theorem mem_add_iff {size : Nat} {key key' : ObjectKey} :
    key' ∈ (p.add size key).2.objects ↔ key' ∈ p.objects ∨
      Decision.ofStatus .create (p.add size key).1 = .commit ∧ key' = key := by
  unfold Pool.add
  split
  · next hmem =>
    simp only [ofStatus_itemAlreadyExists, true_and]
    constructor
    · exact .inl
    · rintro (h | rfl)
      · exact h
      · exact hmem
  · split
    · have hfull : Decision.ofStatus .create .tableFull ≠ .commit := by decide
      simp [hfull]
    · simp [ofStatus_success, or_comm]

theorem nodup_add {size : Nat} (key : ObjectKey) (h : p.objects.Nodup) :
    (p.add size key).2.objects.Nodup := by
  unfold Pool.add
  split
  · exact h
  · next hnew =>
    split
    · exact h
    · exact List.nodup_cons.2 ⟨hnew, h⟩

theorem forced_add {size : Nat} (key : ObjectKey) : (p.add size key).2.forced = p.forced := by
  unfold Pool.add
  split
  · rfl
  · split <;> rfl

/-- A key is in the table after a removal if it was there and the answer does not say otherwise. -/
theorem mem_take_iff {key key' : ObjectKey} (h : p.objects.Nodup) :
    key' ∈ (p.take key).2.objects ↔ key' ∈ p.objects ∧
      ¬((p.take key).1.IsGone ∧ key' = key) := by
  unfold Pool.take
  split
  · have hgone : Status.success.IsGone := ofStatus_success .remove
    simp only [h.mem_erase_iff, hgone, true_and]
    exact And.comm
  · next habsent =>
    have hgone : Status.itemNotFound.IsGone := ofStatus_itemNotFound
    simp only [hgone, true_and]
    refine ⟨fun hmem => ⟨hmem, ?_⟩, And.left⟩
    rintro rfl
    exact habsent hmem

theorem nodup_take (key : ObjectKey) (h : p.objects.Nodup) : (p.take key).2.objects.Nodup := by
  unfold Pool.take
  split
  · exact h.erase key
  · exact h

theorem forced_take (key : ObjectKey) : (p.take key).2.forced = p.forced := by
  unfold Pool.take
  split <;> rfl

end Pools

def replaced (s : Simulator) (type : ObjectType) (p : Pool) (nextId : ObjectId) : Simulator :=
  { s with nextId, pools := s.pools.set type p }

section Replaced

variable {type other : ObjectType} {s : Simulator} {p : Pool} {nextId : ObjectId}

@[simp] theorem nextId_replaced : (s.replaced type p nextId).nextId = nextId := rfl

@[simp] theorem objects_replaced_self : (s.replaced type p nextId).objects type = p.objects := by
  simp [objects, replaced]

theorem objects_replaced_of_ne (hne : type ≠ other) :
    (s.replaced type p nextId).objects other = s.objects other := by
  simp [objects, replaced, Roster.get_set_of_ne _ _ hne]

/-- The switch stays sound if its new pool is in order and holds only issued identifiers. -/
theorem Sound.replaced {queued : Status → Prop} (h : s.Sound queued)
    (hforced : p.forced ⊆ (s.pools.get type).forced) (hnodup : p.objects.Nodup)
    (hnext : s.nextId.toNat ≤ nextId.toNat)
    (hissued : ∀ id, .oid id ∈ p.objects → .oid id ∈ s.objects type ∨
      ∃ m : UInt64, m.toNat < nextId.toNat ∧ id = issuedId type m) :
    (s.replaced type p nextId).Sound queued where
  up := h.up
  queued other status hstatus := by
    by_cases hne : type = other
    · subst hne
      simp only [Simulator.replaced, Roster.get_set_self] at hstatus
      exact h.queued type status (hforced hstatus)
    · simp only [Simulator.replaced, Roster.get_set_of_ne _ _ hne] at hstatus
      exact h.queued other status hstatus
  nodup other := by
    by_cases hne : type = other
    · subst hne
      rw [objects_replaced_self]
      exact hnodup
    · rw [objects_replaced_of_ne hne]
      exact h.nodup other
  issued := h.issued.set hnext hissued

end Replaced

section Requests

variable {queued : Status → Prop} {type : ObjectType} {s : Simulator} {request : CreateRequest}

/-! ## Creates -/

theorem createOne_forced {status : Status} {p : Pool}
    (h : (s.pools.get type).takeForced = (some status, p)) :
    s.createOne type request = (.failed status, s.replaced type p s.nextId) := by
  simp only [createOne, h]
  rfl

theorem createOne_entry_sized {p : Pool} {key : String} {size : Nat}
    (h : (s.pools.get type).takeForced = (none, p)) (hentry : request.entry = some key)
    (hsize : p.capacity.getD s.defaultCapacity = size) :
    s.createOne type request =
      (⟨(p.add size (.entry key)).1, none⟩,
        s.replaced type (p.add size (.entry key)).2 s.nextId) := by
  subst hsize
  simp only [createOne, h, hentry, addKey, capacityOf, Roster.get_set_self, Roster.set_set]
  rfl

theorem createOne_entry {p : Pool} {key : String}
    (h : (s.pools.get type).takeForced = (none, p)) (hentry : request.entry = some key) :
    ∃ size, s.createOne type request =
      (⟨(p.add size (.entry key)).1, none⟩,
        s.replaced type (p.add size (.entry key)).2 s.nextId) :=
  ⟨_, createOne_entry_sized h hentry rfl⟩

theorem createOne_oid_sized {p : Pool} {size : Nat}
    (h : (s.pools.get type).takeForced = (none, p)) (hentry : request.entry = none)
    (hsize : p.capacity.getD s.defaultCapacity = size) :
    s.createOne type request =
      (⟨(p.add size (.oid (s.freshId type))).1,
          if (p.add size (.oid (s.freshId type))).1.isSuccess then some (s.freshId type) else none⟩,
        s.replaced type (p.add size (.oid (s.freshId type))).2 (s.nextId + 1)) := by
  subst hsize
  simp only [createOne, h, hentry, addKey, capacityOf, Roster.get_set_self, Roster.set_set]
  rfl

theorem createOne_oid {p : Pool} (h : (s.pools.get type).takeForced = (none, p))
    (hentry : request.entry = none) :
    ∃ size, s.createOne type request =
      (⟨(p.add size (.oid (s.freshId type))).1,
          if (p.add size (.oid (s.freshId type))).1.isSuccess then some (s.freshId type) else none⟩,
        s.replaced type (p.add size (.oid (s.freshId type))).2 (s.nextId + 1)) :=
  ⟨_, createOne_oid_sized h hentry rfl⟩

/-- What any request may do to the switch: it touches objects of its type, and uses up one number
at most. -/
structure Moved (queued : Status → Prop) (type : ObjectType) (s s' : Simulator) : Prop where
  sound : s'.Sound queued
  others : ∀ other, type ≠ other → s'.objects other = s.objects other
  next : s.nextId.toNat ≤ s'.nextId.toNat ∧ s'.nextId.toNat ≤ s.nextId.toNat + 1

theorem Sound.moved {p : Pool} (h : s.Sound queued)
    (hforced : p.forced ⊆ (s.pools.get type).forced) (hnodup : p.objects.Nodup)
    {nextId : ObjectId}
    (hnext : s.nextId.toNat ≤ nextId.toNat ∧ nextId.toNat ≤ s.nextId.toNat + 1)
    (hissued : ∀ id, .oid id ∈ p.objects → .oid id ∈ s.objects type ∨
      ∃ m : UInt64, m.toNat < nextId.toNat ∧ id = issuedId type m) :
    Moved queued type s (s.replaced type p nextId) where
  sound := h.replaced hforced hnodup hnext.1 hissued
  others _ hne := objects_replaced_of_ne hne
  next := hnext

theorem Sound.moved_createOne (h : s.Sound queued) (hnumbers : s.nextId.toNat + 1 < 2 ^ 64) :
    Moved queued type s (s.createOne type request).2 := by
  have hsucc : (s.nextId + 1).toNat = s.nextId.toNat + 1 := by
    rw [UInt64.toNat_add, UInt64.toNat_one]
    omega
  obtain ⟨p, hobjects, hforced, ⟨status, -, -, htake⟩ | htake⟩ :=
    takeForced_cases (s.pools.get type)
  all_goals
    change p.objects = s.objects type at hobjects
    have hnodup : p.objects.Nodup := hobjects ▸ h.nodup type
    have hold : ∀ {id}, .oid id ∈ p.objects → .oid id ∈ s.objects type := fun hid => hobjects ▸ hid
  · rw [createOne_forced htake]
    exact h.moved hforced hnodup (by simp) fun id hid => .inl (hold hid)
  · cases hentry : request.entry with
    | some key =>
      obtain ⟨size, heq⟩ := createOne_entry (s := s) htake hentry
      rw [heq]
      refine h.moved (by rw [forced_add]; exact hforced) (nodup_add _ hnodup) (by simp) ?_
      intro id hid
      obtain hid | ⟨-, hid⟩ := mem_add_iff.1 hid
      · exact .inl (hold hid)
      · cases hid
    | none =>
      obtain ⟨size, heq⟩ := createOne_oid (s := s) htake hentry
      rw [heq]
      refine h.moved (by rw [forced_add]; exact hforced) (nodup_add _ hnodup)
        (by simp [hsucc]) ?_
      intro id hid
      obtain hid | ⟨-, hid⟩ := mem_add_iff.1 hid
      · exact .inl (hold hid)
      · cases hid
        exact .inr ⟨s.nextId, by simp [hsucc], rfl⟩

/-- What a create request did, read off its answer. -/
structure Created (queued : Status → Prop) (type : ObjectType) (request : CreateRequest)
    (s : Simulator) (answer : CreateAnswer) (s' : Simulator) : Prop
    extends Moved queued type s s' where
  objects : ∀ key, key ∈ s'.objects type ↔ key ∈ s.objects type ∨ answer.key? request = some key
  /-- An identifier is made of the next number, which is used up. -/
  issued : ∀ id, answer.key? request = some (.oid id) →
    id = issuedId type s.nextId ∧ s.nextId.toNat < s'.nextId.toNat

theorem Sound.createOne (h : s.Sound queued) (hnumbers : s.nextId.toNat + 1 < 2 ^ 64)
    (honest : request.entry ≠ none → ¬queued .itemAlreadyExists) :
    Created queued type request s (s.createOne type request).1 (s.createOne type request).2 := by
  have hsucc : (s.nextId + 1).toNat = s.nextId.toNat + 1 := by
    rw [UInt64.toNat_add, UInt64.toNat_one]
    omega
  have hmoved : Moved queued type s (s.createOne type request).2 := h.moved_createOne hnumbers
  obtain ⟨p, hobjects, -, ⟨status, hstatus, hfailure, htake⟩ | htake⟩ :=
    takeForced_cases (s.pools.get type)
  all_goals change p.objects = s.objects type at hobjects
  · have hkey : (CreateAnswer.failed status).key? request = none := by
      cases hentry : request.entry with
      | none => simp [CreateAnswer.key?, CreateAnswer.failed, hentry]
      | some key =>
        have hcommit : Decision.ofStatus .create status ≠ .commit := by
          rw [Ne, ofStatus_eq_commit_iff]
          rintro (rfl | ⟨-, rfl⟩ | ⟨hkind, -⟩)
          · exact hfailure rfl
          · exact honest (by simp [hentry]) (h.queued type _ hstatus)
          · cases hkind
        simp [CreateAnswer.key?, CreateAnswer.failed, hcommit]
    rw [createOne_forced htake] at hmoved ⊢
    exact ⟨hmoved, by simp [hkey, hobjects], by simp [hkey]⟩
  · cases hentry : request.entry with
    | some key =>
      obtain ⟨size, heq⟩ := createOne_entry (s := s) htake hentry
      rw [heq] at hmoved ⊢
      refine ⟨hmoved, fun key' => ?_, by simp [CreateAnswer.key?, hentry]⟩
      rw [objects_replaced_self, mem_add_iff, hobjects]
      simp [CreateAnswer.key?, hentry, eq_comm]
    | none =>
      obtain ⟨size, heq⟩ := createOne_oid (s := s) htake hentry
      rw [heq] at hmoved ⊢
      obtain ⟨status, hfailure, hadd⟩ | hadd := add_outcome p size (.oid (s.freshId type))
      · rw [hadd] at hmoved ⊢
        have hkey : CreateAnswer.key? request ⟨status, none⟩ = none := by
          simp [CreateAnswer.key?, hentry]
        simp only [hfailure, Bool.false_eq_true, if_false]
        exact ⟨hmoved, by simp [hkey, hobjects], by simp [hkey]⟩
      · rw [hadd] at hmoved ⊢
        have hkey : CreateAnswer.key? request ⟨.success, some (s.freshId type)⟩ =
            some (.oid (s.freshId type)) := by
          simp [CreateAnswer.key?, hentry, ofStatus_success]
        simp only [Status.isSuccess, decide_true, if_true]
        refine ⟨hmoved, by simp [hkey, hobjects, or_comm, eq_comm], ?_⟩
        intro id hid
        rw [hkey] at hid
        cases hid
        exact ⟨rfl, by simp [hsucc]⟩

/-! ## Removes -/

theorem Sound.moved_removeOne (h : s.Sound queued) (type : ObjectType) (key : ObjectKey) :
    Moved queued type s (s.removeOne type key).2 ∧
      (s.removeOne type key).2.nextId = s.nextId := by
  obtain ⟨p, hobjects, hforced, ⟨status, -, -, htake⟩ | htake⟩ :=
    takeForced_cases (s.pools.get type)
  all_goals
    change p.objects = s.objects type at hobjects
    have hnodup : p.objects.Nodup := hobjects ▸ h.nodup type
    have hold : ∀ {id}, .oid id ∈ p.objects → .oid id ∈ s.objects type := fun hid => hobjects ▸ hid
    simp only [Simulator.removeOne, htake]
  · have hmoved : Moved queued type s (s.replaced type p s.nextId) :=
      h.moved hforced hnodup (by simp) fun id hid => .inl (hold hid)
    exact ⟨hmoved, trivial⟩
  · have hmoved : Moved queued type s (s.replaced type (p.take key).2 s.nextId) :=
      h.moved (by rw [forced_take]; exact hforced) (nodup_take _ hnodup) (by simp)
        fun id hid => .inl (hold ((mem_take_iff hnodup).1 hid).1)
    exact ⟨hmoved, trivial⟩

/-- What a remove request did, read off its answer. -/
structure Removed (queued : Status → Prop) (type : ObjectType) (key : ObjectKey) (s : Simulator)
    (status : Status) (s' : Simulator) : Prop extends Moved queued type s s' where
  objects : ∀ key', key' ∈ s'.objects type ↔ key' ∈ s.objects type ∧ ¬(status.IsGone ∧ key' = key)
  unchanged : s'.nextId = s.nextId

theorem Sound.removeOne (h : s.Sound queued) (honest : ¬queued .itemNotFound) (key : ObjectKey) :
    Removed queued type key s (s.removeOne type key).1 (s.removeOne type key).2 := by
  obtain ⟨hmoved, hnext⟩ := h.moved_removeOne type key
  refine ⟨hmoved, ?_, hnext⟩
  clear hmoved hnext
  obtain ⟨p, hobjects, -, ⟨status, hstatus, hfailure, htake⟩ | htake⟩ :=
    takeForced_cases (s.pools.get type)
  all_goals change p.objects = s.objects type at hobjects
  · have hkept : ¬status.IsGone := by
      rw [Status.IsGone, ofStatus_eq_commit_iff]
      rintro (rfl | ⟨hkind, -⟩ | ⟨-, rfl⟩)
      · exact hfailure rfl
      · cases hkind
      · exact honest (h.queued type _ hstatus)
    have heq : s.removeOne type key = (status, s.replaced type p s.nextId) := by
      simp only [Simulator.removeOne, htake]
      rfl
    rw [heq]
    simp [hkept, hobjects]
  · have heq : s.removeOne type key =
        ((p.take key).1, s.replaced type (p.take key).2 s.nextId) := by
      simp only [Simulator.removeOne, htake]
      rfl
    intro key'
    rw [heq, objects_replaced_self, mem_take_iff (hobjects ▸ h.nodup type), hobjects]

end Requests

end Simulator

end DashAgent
