import DashAgent.Switch.BulkStager
import Mathlib.Data.List.Basic

/-!
# What a flush does to slots

A flush writes answers into slots that were open and leaves every settled slot alone, also when a
call fails. Positions therefore keep their meaning from the staging of a change to its commit.
-/
namespace DashAgent

variable {α : Type}

/-- The parts of a list make up the list. -/
theorem chunksWithin_flatten {size : Nat} (hsize : 0 < size) (bound : Nat) (xs : List α)
    (h : xs.length ≤ bound) : (chunksWithin size bound xs).flatten = xs := by
  induction bound generalizing xs with
  | zero =>
    have hnil : xs = [] := List.length_eq_zero_iff.1 (by omega)
    simp [chunksWithin, hnil]
  | succ bound ih =>
    cases xs with
    | nil => simp [chunksWithin]
    | cons x rest =>
      have hrest := ih ((x :: rest).drop size) (by
        rw [List.length_drop]
        simp only [List.length_cons] at h ⊢
        omega)
      rw [chunksWithin, List.flatten_cons, hrest, List.take_append_drop]
      simp

theorem chunks_flatten {size : Nat} (hsize : 0 < size) (xs : List α) :
    (chunks size xs).flatten = xs := chunksWithin_flatten hsize _ xs (Nat.le_refl _)

namespace Slot

theorem openRemove?_settled {slot : Slot} (h : slot.isOpen = false) : slot.openRemove? = none := by
  cases slot with
  | remove key answer => cases answer <;> simp_all [openRemove?, isOpen, status?]
  | create request answer | settled status => rfl

theorem openCreate?_settled {slot : Slot} (h : slot.isOpen = false) : slot.openCreate? = none := by
  cases slot with
  | create request answer => cases answer <;> simp_all [openCreate?, isOpen, status?]
  | remove key answer | settled status => rfl

end Slot

namespace BulkStager

theorem mem_selected {s : BulkStager} {pick : Slot → Option α} {i : Nat} {a : α} :
    (i, a) ∈ s.selected pick ↔ ∃ slot, s.slots[i]? = some slot ∧ pick slot = some a := by
  simp only [selected, List.mem_filterMap, Prod.exists, Option.map_eq_some_iff, Prod.mk.injEq]
  constructor
  · rintro ⟨slot, j, hmem, a', ha, rfl, rfl⟩
    exact ⟨slot, by simpa using List.mem_zipIdx_iff_getElem?.1 hmem, ha⟩
  · rintro ⟨slot, hslot, ha⟩
    exact ⟨slot, i, List.mem_zipIdx_iff_getElem?.2 hslot, a, ha, rfl, rfl⟩

/-- Positions that are not updated keep their slots. -/
theorem slots_replace {s : BulkStager} {updates : List (Nat × Slot)} {i : Nat}
    (h : i ∉ updates.map Prod.fst) : (s.replace updates).slots[i]? = s.slots[i]? := by
  simp only [replace]
  generalize s.slots = slots
  induction updates generalizing slots with
  | nil => rfl
  | cons u rest ih =>
    rw [List.map_cons, List.mem_cons, not_or] at h
    rw [List.foldl_cons, ih h.2, List.getElem?_set_ne (Ne.symm h.1)]

section Calls

variable {δ β : Type} (call : BulkCall δ α β)

theorem fst_updates (chunk : List (Nat × α)) (answers : List β) :
    (call.updates chunk answers).map Prod.fst = chunk.map Prod.fst := by
  rw [BulkCall.updates, List.map_map]
  conv => rhs; rw [← List.zipIdx_map_fst 0 chunk, List.map_map]
  rfl

theorem slots_sendChunks {parts : List (List (Nat × α))} {i : Nat}
    (h : i ∉ parts.flatten.map Prod.fst) (s : BulkStager) (d : δ) :
    (sendChunks call parts s d).2.1.slots[i]? = s.slots[i]? := by
  induction parts generalizing s d with
  | nil => rfl
  | cons chunk rest ih =>
    rw [List.flatten_cons, List.map_append, List.mem_append, not_or] at h
    unfold sendChunks
    split
    · rfl
    · rw [ih h.2, slots_replace]
      rw [fst_updates]
      exact h.1

/-- A slot that does not wait for the calls stays as it is. -/
theorem slots_sendAll {s : BulkStager} {i : Nat} {slot : Slot} (h : s.slots[i]? = some slot)
    (hpick : call.pick slot = none) (d : δ) : (sendAll call s d).2.1.slots[i]? = some slot := by
  have hnotin : i ∉ (chunks s.maxBulkSize (s.selected call.pick)).flatten.map Prod.fst := by
    rw [chunks_flatten s.maxBulkSize_pos]
    intro hmem
    obtain ⟨⟨j, a⟩, hja, rfl⟩ := List.mem_map.1 hmem
    obtain ⟨slot', hslot, hpick'⟩ := mem_selected.1 hja
    dsimp only at h
    rw [h] at hslot
    cases hslot
    rw [hpick] at hpick'
    cases hpick'
  rw [sendAll, slots_sendChunks call hnotin, h]

end Calls

/-- A settled slot outlives every flush. -/
theorem slots_flush_settled {δ : Type} [Driver δ] {s : BulkStager} {i : Nat} {slot : Slot}
    (h : s.slots[i]? = some slot) (hsettled : slot.isOpen = false) (d : δ) :
    (s.flush d).2.1.slots[i]? = some slot := by
  have hremove := Slot.openRemove?_settled hsettled
  have hcreate := Slot.openCreate?_settled hsettled
  have hremoves : (sendAll removes s d).2.1.slots[i]? = some slot :=
    slots_sendAll removes h hremove d
  unfold flush
  split
  · next heq =>
    rw [heq] at hremoves
    exact hremoves
  · next s' d' heq =>
    rw [heq] at hremoves
    exact slots_sendAll creates hremoves hcreate d'

end BulkStager

end DashAgent
