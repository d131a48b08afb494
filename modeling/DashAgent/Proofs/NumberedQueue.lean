import DashAgent.Change.NumberedQueue
import Mathlib.Data.List.Basic

/-!
# Laws of numbered queues

What the operations of a numbered queue do to its changes in order. The map lists its changes by
growing number, so a change with a new highest number is the last one and a change with a new lowest
number is the first.
-/
namespace DashAgent

/-! ## Sorted maps -/

section Sorted

variable {changes : Std.TreeMap Int Entry} {number : Int}

theorem pairwise_toList (changes : Std.TreeMap Int Entry) :
    changes.toList.Pairwise fun a b => a.1 < b.1 :=
  changes.ordered_keys_toList.imp fun h => Int.compare_eq_lt.1 h

/-- The changes of a map are listed by growing number, in one way only. -/
theorem toList_eq_of_perm {listed : List (Int × Entry)} (hperm : changes.toList.Perm listed)
    (hsorted : listed.Pairwise fun a b => a.1 < b.1) : changes.toList = listed :=
  hperm.eq_of_pairwise (fun _ _ _ _ hab hba => absurd (Int.lt_trans hab hba) (Int.lt_irrefl _))
    (pairwise_toList changes) hsorted

theorem toList_insert_perm_of_notMem (e : Entry) (h : changes[number]? = none) :
    (changes.insert number e).toList.Perm ((number, e) :: changes.toList) := by
  have hperm := changes.toList_insert_perm (k := number) (v := e)
  rwa [List.filter_eq_self.2 fun x hx => ?_] at hperm
  have hne : number ≠ x.1 := by
    rintro rfl
    rw [Std.TreeMap.mem_toList_iff_getElem?_eq_some.1 hx] at h
    cases h
  simpa using hne

theorem toList_insert_last (e : Entry) (h : changes[number]? = none)
    (hlast : ∀ x ∈ changes.toList, x.1 < number) :
    (changes.insert number e).toList = changes.toList ++ [(number, e)] := by
  refine toList_eq_of_perm ?_ ?_
  · exact (toList_insert_perm_of_notMem e h).trans (List.perm_append_singleton ..).symm
  · rw [List.pairwise_append]
    exact ⟨pairwise_toList changes, List.pairwise_singleton .., by simpa using hlast⟩

theorem toList_insert_first (e : Entry) (h : changes[number]? = none)
    (hfirst : ∀ x ∈ changes.toList, number < x.1) :
    (changes.insert number e).toList = (number, e) :: changes.toList :=
  toList_eq_of_perm (toList_insert_perm_of_notMem e h)
    (List.pairwise_cons.2 ⟨hfirst, pairwise_toList changes⟩)

theorem toList_erase (changes : Std.TreeMap Int Entry) (number : Int) :
    (changes.erase number).toList = changes.toList.filter (·.1 ≠ number) := by
  have hfilter : (changes.filter fun n _ => decide (n ≠ number)).toList =
      changes.toList.filter (·.1 ≠ number) := Std.TreeMap.toList_filter
  rw [← hfilter]
  apply Std.TreeMap.Equiv.toList_eq
  apply Std.TreeMap.Equiv.of_forall_constGet?_eq
  intro n
  rw [Std.TreeMap.getElem?_erase, Std.TreeMap.getElem?_filter']
  by_cases heq : number = n
  · subst heq
    simp
  · rw [if_neg (by simpa using heq)]
    cases changes[n]? <;> simp [Option.filter, Ne.symm heq]

end Sorted

namespace NumberedQueue

variable {q : NumberedQueue} {key : String}

theorem mem_entries_iff {e : Entry} :
    e ∈ q.entries ↔ ∃ number : Int, q.changes[number]? = some e := by
  rw [entries, List.mem_map]
  constructor
  · rintro ⟨⟨number, x⟩, hx, rfl⟩
    exact ⟨number, Std.TreeMap.mem_toList_iff_getElem?_eq_some.1 hx⟩
  · rintro ⟨number, he⟩
    exact ⟨(number, e), Std.TreeMap.mem_toList_iff_getElem?_eq_some.2 he, rfl⟩

@[simp] theorem entries_new : new.entries = [] := rfl

@[simp] theorem entries_clear (q : NumberedQueue) : q.clear.entries = [] := rfl

theorem length_entries (q : NumberedQueue) : q.entries.length = q.pendingCount := by
  rw [entries, List.length_map, Std.TreeMap.length_toList, pendingCount]

theorem hasPending_eq_false_iff : q.hasPending = false ↔ q.entries = [] := by
  rw [hasPending, Bool.not_eq_false', ← Std.TreeMap.isEmpty_toList, List.isEmpty_iff, entries,
    List.map_eq_nil_iff]

/-! ## Consistent queues -/

/-- The index has the keys of the pending changes. -/
theorem Consistent.contains_iff (h : q.Consistent) :
    q.index.contains key = true ↔ key ∈ q.entries.map Entry.key := by
  rw [Std.TreeMap.contains_eq_isSome_getElem?, Option.isSome_iff_exists, List.mem_map]
  constructor
  · rintro ⟨number, hnumber⟩
    obtain ⟨e, he, hkey⟩ := h.indexed.1 hnumber
    exact ⟨e, mem_entries_iff.2 ⟨number, he⟩, hkey⟩
  · rintro ⟨e, he, hkey⟩
    obtain ⟨number, hnumber⟩ := mem_entries_iff.1 he
    exact ⟨number, h.indexed.2 ⟨e, hnumber, hkey⟩⟩

/-- Changes of one key have one number. -/
theorem Consistent.number_eq (h : q.Consistent) {x y : Int × Entry} (hx : x ∈ q.changes.toList)
    (hy : y ∈ q.changes.toList) (hkey : x.2.key = y.2.key) : x.1 = y.1 := by
  have hxe := h.indexed.2 ⟨x.2, Std.TreeMap.mem_toList_iff_getElem?_eq_some.1 hx, hkey⟩
  have hye := h.indexed.2 ⟨y.2, Std.TreeMap.mem_toList_iff_getElem?_eq_some.1 hy, rfl⟩
  exact Option.some_inj.1 (hxe.symm.trans hye)

/-- No key is pending twice. -/
theorem Consistent.nodup (h : q.Consistent) : (q.entries.map Entry.key).Nodup := by
  rw [entries, List.map_map, List.nodup_iff_pairwise_ne, List.pairwise_map]
  refine (pairwise_toList q.changes).imp_of_mem fun {a b} ha hb hlt hkey => ?_
  exact Int.ne_of_lt hlt (h.number_eq ha hb hkey)

theorem Consistent.entries_forget (h : q.Consistent) (key : String) :
    (q.forget key).entries = q.entries.filter (·.key ≠ key) := by
  unfold NumberedQueue.forget
  split
  · next old hold =>
    obtain ⟨e, he, rfl⟩ := h.indexed.1 hold
    have hmem := Std.TreeMap.mem_toList_iff_getElem?_eq_some.2 he
    simp only [entries, toList_erase, List.filter_map]
    congr 1
    refine List.filter_congr fun x hx => decide_eq_decide.2 (not_congr ?_)
    constructor
    · intro hnumber
      have hsame := Std.TreeMap.mem_toList_iff_getElem?_eq_some.1 hx
      rw [hnumber, he] at hsame
      exact congrArg Entry.key (Option.some_inj.1 hsame).symm
    · exact fun hkey => h.number_eq hx hmem hkey
  · next hnone =>
    refine (List.filter_eq_self.2 fun e he => decide_eq_true ?_).symm
    rintro rfl
    obtain ⟨number, hnumber⟩ := mem_entries_iff.1 he
    rw [h.indexed.2 ⟨e, hnumber, rfl⟩] at hnone
    cases hnone

/-- A new change takes the place behind all others. -/
theorem Consistent.entries_add (h : q.Consistent) (e : Entry) :
    (q.add e).entries = q.entries.filter (·.key ≠ e.key) ++ [e] := by
  have hforget := h.forget e.key
  rw [← h.entries_forget e.key]
  simp only [NumberedQueue.add, entries]
  rw [toList_insert_last e hforget.unused.1 fun x hx =>
    (hforget.inside (Std.TreeMap.mem_toList_iff_getElem?_eq_some.1 hx)).2, List.map_append]
  rfl

theorem putBack_of_contains {e : Entry} (h : q.index.contains e.key = true) : q.putBack e = q := by
  rw [putBack, if_pos h]

/-- A change of a key that is not pending is put back in front of all others. -/
theorem Consistent.entries_putBack (h : q.Consistent) {e : Entry}
    (hnew : e.key ∉ q.entries.map Entry.key) : (q.putBack e).entries = e :: q.entries := by
  rw [NumberedQueue.putBack, if_neg (mt h.contains_iff.1 hnew)]
  simp only [entries]
  rw [toList_insert_first e h.unused.2 fun x hx =>
    (h.inside (Std.TreeMap.mem_toList_iff_getElem?_eq_some.1 hx)).1]
  rfl

/-- Changes with distinct keys, none of them pending, are put back in their order. -/
theorem Consistent.entries_requeue (h : q.Consistent) {es : List Entry}
    (hnew : ((es ++ q.entries).map Entry.key).Nodup) :
    (q.requeue es).entries = es ++ q.entries := by
  induction es with
  | nil => rfl
  | cons e rest ih =>
    rw [List.cons_append, List.map_cons, List.nodup_cons] at hnew
    have hrest := ih hnew.2
    rw [requeue_cons, (h.requeue rest).entries_putBack (by rw [hrest]; exact hnew.1), hrest,
      List.cons_append]

theorem popFirst?_eq_none_iff : q.popFirst? = none ↔ q.entries = [] := by
  rw [popFirst?, first?_eq, entries, List.map_eq_nil_iff, ← List.head?_eq_none_iff]
  cases q.changes.toList.head? <;> simp

/-- The change that is taken was the first. -/
theorem entries_of_popFirst? {e : Entry} {q' : NumberedQueue}
    (h : q.popFirst? = some (e, q')) : q.entries = e :: q'.entries := by
  rw [popFirst?, first?_eq] at h
  have hsorted := pairwise_toList q.changes
  cases hlisted : q.changes.toList with
  | nil =>
    rw [hlisted] at h
    cases h
  | cons x rest =>
    rw [hlisted] at h hsorted
    cases h
    have hrest : ∀ y ∈ rest, y.1 ≠ x.1 := fun y hy =>
      (Int.ne_of_lt (List.rel_of_pairwise_cons hsorted hy)).symm
    simp only [entries, toList_erase, hlisted, List.map_cons]
    rw [List.filter_cons_of_neg (by simp),
      List.filter_eq_self.2 fun y hy => by simpa using hrest y hy]

theorem popUpTo_fst (q : NumberedQueue) (n : Nat) : (q.popUpTo n).1 = q.entries.take n := by
  induction n generalizing q with
  | zero => rfl
  | succ n ih =>
    unfold popUpTo
    split
    · next hnone => rw [popFirst?_eq_none_iff.1 hnone, List.take_nil]
    · next e q' hpop => rw [entries_of_popFirst? hpop, List.take_succ_cons, ← ih q']

theorem entries_popUpTo (q : NumberedQueue) (n : Nat) :
    (q.popUpTo n).2.entries = q.entries.drop n := by
  induction n generalizing q with
  | zero => rfl
  | succ n ih =>
    unfold popUpTo
    split
    · next hnone => rw [popFirst?_eq_none_iff.1 hnone, List.drop_nil]
    · next e q' hpop => rw [entries_of_popFirst? hpop, List.drop_succ_cons, ← ih q']

end NumberedQueue

end DashAgent
