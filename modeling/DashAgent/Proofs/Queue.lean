import DashAgent.Change.Queue
import DashAgent.Proofs.NumberedQueue
import DashAgent.Table
import Mathlib.Algebra.GroupWithZero.Nat

/-!
# Laws of change queues

What the operations of a queue do to its list of entries. A batch is the beginning of that list, and
entries of a batch that are handed back stand in front of what the batch left behind: their keys
cannot be pending, because no key is pending twice.
-/
namespace DashAgent

namespace ChangeQueue

/-- No key is pending twice. -/
theorem nodup_entries (q : ChangeQueue) : (q.entries.map Entry.key).Nodup := q.consistent.nodup

@[simp] theorem entries_new (table : String) (priority : Int) (batchSize : Nat) :
    (new table priority batchSize).entries = [] := NumberedQueue.entries_new

@[simp] theorem entries_clear (q : ChangeQueue) : q.clear.entries = [] := q.numbered.entries_clear

@[simp] theorem popBatch_fst (q : ChangeQueue) : q.popBatch.1 = q.entries.take q.batchSize :=
  q.numbered.popUpTo_fst q.batchSize

@[simp] theorem entries_popBatch (q : ChangeQueue) :
    q.popBatch.2.entries = q.entries.drop q.batchSize := q.numbered.entries_popUpTo q.batchSize

/-- The keys of a batch occur once in it. -/
theorem nodup_batch (q : ChangeQueue) : (q.popBatch.1.map Entry.key).Nodup := by
  rw [popBatch_fst]
  exact q.nodup_entries.sublist ((List.take_sublist ..).map _)

/-- Entries with distinct keys, none of them pending, are put back in their order. -/
theorem entries_requeue {q : ChangeQueue} {es : List Entry}
    (h : ((es ++ q.entries).map Entry.key).Nodup) : (q.requeue es).entries = es ++ q.entries :=
  q.consistent.entries_requeue h

/-- Whatever a batch hands back in its order goes in front of the rest of the queue. -/
theorem entries_requeue_popBatch {q : ChangeQueue} {es : List Entry}
    (h : es.Sublist (q.entries.take q.batchSize)) :
    (q.popBatch.2.requeue es).entries = es ++ q.entries.drop q.batchSize := by
  rw [entries_requeue, entries_popBatch]
  rw [entries_popBatch]
  have hs : (es ++ q.entries.drop q.batchSize).Sublist q.entries := by
    conv => rhs; rw [← List.take_append_drop q.batchSize q.entries]
    exact h.append (List.Sublist.refl _)
  exact q.nodup_entries.sublist (hs.map _)

/-- A table has room for the next batch: even if every change of it made a new entry, there would
be fewer entries than a 32-bit counter can tell apart. -/
def FitsInto {κ ν : Type} (q : ChangeQueue) (t : Table κ ν) : Prop :=
  t.size + min q.batchSize q.entries.length < 2 ^ 32

instance {κ ν : Type} (q : ChangeQueue) (t : Table κ ν) : Decidable (q.FitsInto t) :=
  inferInstanceAs (Decidable (_ < _))

/-! ## The pending change of a key -/

def pending? (q : ChangeQueue) (key : String) : Option Entry :=
  q.entries.find? fun e => decide (e.key = key)

theorem pending?_eq_none_iff {q : ChangeQueue} {key : String} :
    q.pending? key = none ↔ ∀ e ∈ q.entries, e.key ≠ key := by
  simp [pending?]

/-- A pending change is found under its key. -/
theorem pending?_eq_some_iff {q : ChangeQueue} {key : String} {e : Entry} :
    q.pending? key = some e ↔ e ∈ q.entries ∧ e.key = key := by
  have hnodup := q.nodup_entries
  unfold pending?
  generalize q.entries = es at hnodup
  induction es with
  | nil => simp
  | cons x rest ih =>
    rw [List.map_cons, List.nodup_cons] at hnodup
    by_cases hx : x.key = key
    · rw [List.find?_cons_of_pos (by simpa using hx), Option.some_inj]
      constructor
      · rintro rfl
        exact ⟨List.mem_cons_self .., hx⟩
      · rintro ⟨hmem, hkey⟩
        rcases List.mem_cons.1 hmem with rfl | hmem
        · rfl
        · exact absurd (List.mem_map.2 ⟨e, hmem, hkey.trans hx.symm⟩) hnodup.1
    · rw [List.find?_cons_of_neg (by simpa using hx)]
      refine (ih hnodup.2).trans ?_
      rw [List.mem_cons]
      constructor
      · rintro ⟨hmem, hkey⟩
        exact ⟨.inr hmem, hkey⟩
      · rintro ⟨rfl | hmem, hkey⟩
        · exact absurd hkey hx
        · exact ⟨hmem, hkey⟩

theorem entries_add (q : ChangeQueue) (e : Entry) :
    (q.add e).entries = q.entries.filter (·.key ≠ e.key) ++ [e] := q.consistent.entries_add e

@[simp] theorem addAll_nil (q : ChangeQueue) : q.addAll [] = q := rfl

/-- A new change is the pending one of its key and leaves the others alone. -/
theorem pending?_add (q : ChangeQueue) (e : Entry) (key : String) :
    (q.add e).pending? key = if e.key = key then some e else q.pending? key := by
  by_cases h : e.key = key
  · rw [if_pos h, pending?_eq_some_iff, entries_add]
    exact ⟨List.mem_append_right _ (List.mem_singleton_self e), h⟩
  · rw [if_neg h]
    apply Option.ext
    intro x
    rw [pending?_eq_some_iff, pending?_eq_some_iff, entries_add, List.mem_append, List.mem_filter,
      List.mem_singleton, decide_eq_true_eq]
    constructor
    · rintro ⟨⟨hmem, -⟩ | rfl, hkey⟩
      · exact ⟨hmem, hkey⟩
      · exact absurd hkey h
    · rintro ⟨hmem, hkey⟩
      exact ⟨.inl ⟨hmem, fun heq => h (heq ▸ hkey)⟩, hkey⟩

theorem length_add_le (q : ChangeQueue) (e : Entry) :
    (q.add e).entries.length ≤ q.entries.length + 1 := by
  have hle := List.length_filter_le (fun x : Entry => decide (x.key ≠ e.key)) q.entries
  rw [entries_add, List.length_append, List.length_singleton]
  omega

theorem mem_add {q : ChangeQueue} {e x : Entry} (h : x ∈ (q.add e).entries) :
    x ∈ q.entries ∨ x = e := by
  rw [entries_add, List.mem_append, List.mem_singleton] at h
  exact h.imp (fun hx => (List.mem_filter.1 hx).1) id

theorem mem_addAll {q : ChangeQueue} {es : List Entry} {x : Entry}
    (h : x ∈ (q.addAll es).entries) : x ∈ q.entries ∨ x ∈ es := by
  induction es generalizing q with
  | nil => exact .inl h
  | cons e rest ih =>
    rcases ih (q := q.add e) h with h | h
    · rcases mem_add h with h | rfl
      · exact .inl h
      · exact .inr (List.mem_cons_self ..)
    · exact .inr (List.mem_cons_of_mem _ h)

/-- New changes of different keys, none of them pending, arrive behind the others. -/
theorem entries_addAll {q : ChangeQueue} {es : List Entry}
    (h : ((q.entries ++ es).map Entry.key).Nodup) : (q.addAll es).entries = q.entries ++ es := by
  induction es generalizing q with
  | nil => rw [List.append_nil]; rfl
  | cons e rest ih =>
    have hapart := h
    rw [List.map_append, List.nodup_append] at hapart
    have hadd : (q.add e).entries = q.entries ++ [e] := by
      rw [entries_add, List.filter_eq_self.2 fun x hx => ?_]
      have hne := hapart.2.2 x.key (List.mem_map_of_mem hx) e.key (by simp)
      simpa using hne
    have hrest := ih (q := q.add e) (by rwa [hadd, List.append_assoc])
    rw [hadd, List.append_assoc] at hrest
    exact hrest

theorem hasPending_eq_false_iff {q : ChangeQueue} : q.hasPending = false ↔ q.entries = [] :=
  NumberedQueue.hasPending_eq_false_iff

theorem hasPending_eq_true_iff {q : ChangeQueue} : q.hasPending = true ↔ q.entries ≠ [] := by
  rw [← Bool.not_eq_false, hasPending_eq_false_iff]

/-! ## Settings -/

@[simp] theorem batchSize_requeue (q : ChangeQueue) (es : List Entry) :
    (q.requeue es).batchSize = q.batchSize := rfl

@[simp] theorem batchSize_popBatch (q : ChangeQueue) : q.popBatch.2.batchSize = q.batchSize := rfl

@[simp] theorem batchSize_add (q : ChangeQueue) (e : Entry) :
    (q.add e).batchSize = q.batchSize := rfl

@[simp] theorem batchSize_addAll (q : ChangeQueue) (es : List Entry) :
    (q.addAll es).batchSize = q.batchSize := rfl

end ChangeQueue

end DashAgent
