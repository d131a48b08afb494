import DashAgent.Proofs.Switch.Flush

/-!
# A switch with enough for everything

Tables draw on one switch, and objects of all types draw on one store of identifiers. A switch is
ample for so many creates if it supplies that many of every type; every create, whatever its type,
leaves it ample for one less.
-/
namespace DashAgent

namespace Simulator

/-- The switch grants so many more creates, whatever their types. -/
def Ample (s : Simulator) (n : Nat) : Prop := ∀ type, s.Supplies type n

section Requests

variable {s : Simulator} {type other : ObjectType} {n : Nat}

theorem Ample.mono (h : s.Ample n) {m : Nat} (hm : m ≤ n) : s.Ample m :=
  fun type => (h type).mono hm

/-- An empty switch grants as many creates as its tables have room for. -/
theorem ample_new {capacity : Nat} (hcapacity : n ≤ capacity) (hnumbers : n < 2 ^ 48) :
    (Simulator.new capacity).Ample n := by
  intro type
  have hempty : (Simulator.new capacity).objects type = [] := by
    simp [Simulator.new, Simulator.objects, Pool.unused]
  refine ⟨rfl, by simp [Simulator.new, Pool.unused], ?_, ?_, fun id hid => ?_⟩
  · rw [Simulator.objectCount, hempty]
    simpa [Simulator.capacityOf, Simulator.new, Pool.unused] using hcapacity
  · change 1 + n ≤ 2 ^ 48
    omega
  · rw [hempty] at hid
    cases hid

/-- A create takes no more from another type than an identifier. -/
theorem createOne_spends (h : s.Supplies other (n + 1)) (hne : type ≠ other)
    (request : CreateRequest) : (s.createOne type request).2.Supplies other n := by
  cases hentry : request.entry with
  | some key => exact (createOne_other h hne (by simp [hentry])).mono (Nat.le_succ n)
  | none =>
    have hpool := h.set hne (s.pools.get type).takeForced.2
    have hsucc := hpool.toNat_nextId_succ
    have hnumbers := hpool.numbers
    have hnext : ({ s with
        nextId := s.nextId + 1
        pools := s.pools.set type (s.pools.get type).takeForced.2 } : Simulator).Supplies
          other n := by
      refine ⟨hpool.up, hpool.unforced, Nat.le_trans (Nat.add_le_add_left (Nat.le_succ n) _)
        hpool.room, by dsimp only at hsucc hnumbers ⊢; omega, ?_⟩
      intro id hid
      obtain ⟨m, hm, hissued⟩ := hpool.issued id hid
      exact ⟨m, by dsimp only at hsucc hm ⊢; omega, hissued⟩
    unfold createOne
    split
    · next heq =>
      rw [heq] at hpool
      exact hpool.mono (Nat.le_succ n)
    · next heq =>
      rw [heq] at hnext
      simp only [hentry]
      exact hnext.set hne _

theorem Ample.createOne (h : s.Ample (n + 1)) (type : ObjectType) (request : CreateRequest) :
    (s.createOne type request).1.Grants request ∧ (s.createOne type request).2.Ample n := by
  obtain ⟨hgranted, hown⟩ := createOne_granted (h type) request
  refine ⟨hgranted, fun other => ?_⟩
  by_cases hne : type = other
  · exact hne ▸ hown
  · exact createOne_spends (h other) hne request

theorem Ample.createAll {requests : List CreateRequest} (h : s.Ample (n + requests.length))
    (type : ObjectType) :
    List.Forall₂ CreateAnswer.Grants requests (createAll type requests s).1 ∧
      (createAll type requests s).2.Ample n := by
  induction requests generalizing s with
  | nil => exact ⟨.nil, h⟩
  | cons request rest ih =>
    rw [List.length_cons, ← Nat.add_assoc] at h
    obtain ⟨hfirst, hnext⟩ := h.createOne type request
    obtain ⟨hrest, hend⟩ := ih hnext
    exact ⟨.cons hfirst hrest, hend⟩

theorem Ample.removeAll (h : s.Ample n) (type : ObjectType) (keys : List ObjectKey) :
    List.Forall₂ Status.Grants keys (removeAll type keys s).1 ∧
      (removeAll type keys s).2.Ample n := by
  refine ⟨(removeAll_granted (h type)).1, fun other => ?_⟩
  by_cases hne : type = other
  · exact hne ▸ (removeAll_granted (h type)).2
  · exact removeAll_other (h other) hne

theorem Ample.called (h : s.Ample n) :
    ({ s with bulkCalls := s.bulkCalls + 1 } : Simulator).Ample n :=
  fun type => (h type).called

end Requests

end Simulator

namespace BulkStager

variable {n : Nat} {s : BulkStager} {d : Simulator}

/-- A flush grants every open slot, and its creates take as much as they are. -/
theorem flush_ample (h : d.Ample (n + s.createCount)) :
    ∃ s' d', s.flush d = (.ok (), s', d') ∧ SameShape s s' ∧ d'.Ample n ∧
      ∀ (i : Nat) (slot : Slot), s.slots[i]? = some slot →
        ∃ after, s'.slots[i]? = some after ∧ slot.GrantedAs after := by
  have hremoves : Answers removes s.type Status.Grants (fun _ => True)
      fun _ d => d.Ample (n + s.createCount) := by
    intro _ keys d _ hample
    obtain ⟨hgranted, hend⟩ := hample.called.removeAll s.type keys
    exact ⟨_, _, Simulator.bulkRemove_eq (hample s.type).up keys, hgranted, hend⟩
  have hcreates : Answers creates s.type CreateAnswer.Grants (fun _ => True)
      fun n d => d.Ample n := by
    intro m requests d _ hample
    obtain ⟨hgranted, hend⟩ := hample.called.createAll s.type
    exact ⟨_, _, Simulator.bulkCreate_eq (hample s.type).up requests, hgranted, hend⟩
  exact flush_answered hremoves hcreates h fun _ _ => trivial

/-- A flush of entries takes as much from the type of its creates as they are, and nothing from
other types. -/
theorem HoldsEntries.flush_ample {type : ObjectType} {m : Nat} (h : s.HoldsEntries type n)
    (hample : d.Ample (m + n)) :
    ∃ s' d', s.flush d = (.ok (), s', d') ∧ s'.type = type ∧ d'.Supplies type m ∧
      (∀ {kind allocates position}, s.Awaits kind allocates position →
        s'.Grants kind allocates position) ∧
      ∀ other, type ≠ other → d'.Supplies other (m + n) := by
  obtain ⟨s', d', hflush, htype, hrest, hgrants, hothers⟩ := h.flush (hample type)
  exact ⟨s', d', hflush, htype, hrest, hgrants, fun other hne => hothers hne (hample other)⟩

end BulkStager

end DashAgent
