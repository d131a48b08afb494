import DashAgent.Change.Entry
import Std.Data.TreeMap

/-!
# Numbered queues

Pending changes in a map sorted by number, beside an index from every pending key to its number. The
lowest number is next in turn. Arriving changes take numbers that grow from zero, and changes that
are handed back take numbers that fall from minus one, so they come before everything pending.
-/
namespace DashAgent

/-- Pending changes by number, and the numbers that come next at either end. -/
structure NumberedQueue where
  changes : Std.TreeMap Int Entry
  /-- The number of every pending key. -/
  index : Std.TreeMap String Int
  nextBack : Int
  nextFront : Int

namespace NumberedQueue

def new : NumberedQueue := ⟨∅, ∅, 0, -1⟩

def entries (q : NumberedQueue) : List Entry := q.changes.toList.map Prod.snd

def hasPending (q : NumberedQueue) : Bool := !q.changes.isEmpty

def pendingCount (q : NumberedQueue) : Nat := q.changes.size

def forget (q : NumberedQueue) (key : String) : NumberedQueue :=
  match q.index[key]? with
  | some old => { q with index := q.index.erase key, changes := q.changes.erase old }
  | none => q

/-- Adds a new change in place of any older one of its key. -/
def add (q : NumberedQueue) (e : Entry) : NumberedQueue :=
  let q := q.forget e.key
  { q with
    nextBack := q.nextBack + 1
    index := q.index.insert e.key q.nextBack
    changes := q.changes.insert q.nextBack e }

def addAll (q : NumberedQueue) (es : List Entry) : NumberedQueue := es.foldl add q

/-- Puts a change back at the head, unless a newer one of its key is pending. -/
def putBack (q : NumberedQueue) (e : Entry) : NumberedQueue :=
  if q.index.contains e.key then q
  else
    { q with
      nextFront := q.nextFront - 1
      index := q.index.insert e.key q.nextFront
      changes := q.changes.insert q.nextFront e }

/-- Hands changes back in their order, so the last of them is put back first. -/
def requeue (q : NumberedQueue) (es : List Entry) : NumberedQueue := es.reverse.foldl putBack q

def first? (changes : Std.TreeMap Int Entry) : Option (Int × Entry) := Id.run do
  for change in changes do
    return some change
  return none

def popFirst? (q : NumberedQueue) : Option (Entry × NumberedQueue) :=
  match first? q.changes with
  | some (number, e) =>
    some (e, { q with changes := q.changes.erase number, index := q.index.erase e.key })
  | none => none

def popUpTo : Nat → NumberedQueue → List Entry × NumberedQueue
  | 0, q => ([], q)
  | n + 1, q =>
    match q.popFirst? with
    | none => ([], q)
    | some (e, q) =>
      let (es, q) := popUpTo n q
      (e :: es, q)

/-- Forgets all changes. The numbers go on from where they were. -/
def clear (q : NumberedQueue) : NumberedQueue := { q with changes := ∅, index := ∅ }

def drain (q : NumberedQueue) : List Entry × NumberedQueue := (q.entries, q.clear)

/-! ## Consistency -/

/-- The numbers in use lie between the next ones, and the index tells the number of every key. -/
structure Consistent (q : NumberedQueue) : Prop where
  apart : q.nextFront < q.nextBack
  inside : ∀ {number : Int} {e : Entry}, q.changes[number]? = some e →
    q.nextFront < number ∧ number < q.nextBack
  indexed : ∀ {key : String} {number : Int}, q.index[key]? = some number ↔
    ∃ e : Entry, q.changes[number]? = some e ∧ e.key = key

theorem first?_eq (changes : Std.TreeMap Int Entry) :
    first? changes = changes.toList.head? := by
  unfold first?
  rw [Std.TreeMap.forIn_eq_forIn_toList]
  cases changes.toList <;> rfl

theorem getElem?_of_first? {changes : Std.TreeMap Int Entry} {number : Int} {e : Entry}
    (h : first? changes = some (number, e)) : changes[number]? = some e := by
  rw [first?_eq] at h
  exact Std.TreeMap.mem_toList_iff_getElem?_eq_some.1 (List.mem_of_head? h)

variable {q : NumberedQueue}

theorem consistent_new : new.Consistent := by
  constructor <;> simp [new]

theorem Consistent.clear (h : q.Consistent) : q.clear.Consistent where
  apart := h.apart
  inside := by simp [NumberedQueue.clear]
  indexed := by simp [NumberedQueue.clear]

/-- Without one of its changes a queue stays consistent. -/
theorem Consistent.erase (h : q.Consistent) {number : Int} {e : Entry}
    (he : q.changes[number]? = some e) :
    Consistent { q with changes := q.changes.erase number, index := q.index.erase e.key } where
  apart := h.apart
  inside {n x} hx := by
    simp only [Std.TreeMap.getElem?_erase] at hx
    split at hx
    · cases hx
    · exact h.inside hx
  indexed {key n} := by
    have hnumber : q.index[e.key]? = some number := h.indexed.2 ⟨e, he, rfl⟩
    simp only [Std.TreeMap.getElem?_erase, Std.LawfulEqOrd.compare_eq_iff_eq]
    by_cases hkey : e.key = key
    · subst hkey
      simp only [if_true, reduceCtorEq, false_iff, not_exists, not_and]
      intro x hx hxe
      split at hx
      · cases hx
      · next hne =>
        have hn := hnumber.symm.trans (h.indexed.2 ⟨x, hx, hxe⟩)
        exact hne (Option.some_inj.1 hn)
    · rw [if_neg hkey, h.indexed]
      split
      · next heq =>
        subst heq
        rw [he]
        simp [hkey]
      · rfl

theorem Consistent.forget (h : q.Consistent) (key : String) : (q.forget key).Consistent := by
  unfold NumberedQueue.forget
  split
  · next old hold =>
    obtain ⟨e, he, rfl⟩ := h.indexed.1 hold
    exact h.erase he
  · exact h

/-- A change of a new key may take either of the next numbers. -/
theorem Consistent.insert (h : q.Consistent) {e : Entry} (hnew : q.index[e.key]? = none)
    {number front back : Int} (hout : q.changes[number]? = none) (hfront : front < number)
    (hback : number < back) (hgrows : front ≤ q.nextFront ∧ q.nextBack ≤ back) :
    Consistent ⟨q.changes.insert number e, q.index.insert e.key number, back, front⟩ where
  apart := Int.lt_trans hfront hback
  inside {n x} hx := by
    simp only [Std.TreeMap.getElem?_insert, Std.LawfulEqOrd.compare_eq_iff_eq] at hx
    split at hx
    · next heq =>
      subst heq
      exact ⟨hfront, hback⟩
    · have hin := h.inside hx
      exact ⟨Int.lt_of_le_of_lt hgrows.1 hin.1, Int.lt_of_lt_of_le hin.2 hgrows.2⟩
  indexed {key n} := by
    simp only [Std.TreeMap.getElem?_insert, Std.LawfulEqOrd.compare_eq_iff_eq]
    by_cases hkey : e.key = key
    · subst hkey
      rw [if_pos rfl, Option.some_inj]
      constructor
      · rintro rfl
        exact ⟨e, if_pos rfl, rfl⟩
      · rintro ⟨x, hx, hxe⟩
        by_cases heq : number = n
        · exact heq
        · rw [if_neg heq] at hx
          rw [h.indexed.2 ⟨x, hx, hxe⟩] at hnew
          cases hnew
    · rw [if_neg hkey, h.indexed]
      by_cases heq : number = n
      · subst heq
        rw [if_pos rfl, hout]
        simp [hkey]
      · rw [if_neg heq]

/-- The next numbers are not in use. -/
theorem Consistent.unused (h : q.Consistent) :
    q.changes[q.nextBack]? = none ∧ q.changes[q.nextFront]? = none := by
  constructor
  · rw [Option.eq_none_iff_forall_not_mem]
    exact fun e he => Int.lt_irrefl _ (h.inside he).2
  · rw [Option.eq_none_iff_forall_not_mem]
    exact fun e he => Int.lt_irrefl _ (h.inside he).1

theorem getElem?_forget_self (q : NumberedQueue) (key : String) :
    (q.forget key).index[key]? = none := by
  unfold forget
  split
  · simp
  · next hnone => exact hnone

theorem Consistent.add (h : q.Consistent) (e : Entry) : (q.add e).Consistent := by
  have hforget := h.forget e.key
  exact hforget.insert (q.getElem?_forget_self e.key) hforget.unused.1 hforget.apart
    (Int.lt_succ _) ⟨Int.le_refl _, Int.le_of_lt (Int.lt_succ _)⟩

theorem Consistent.addAll (h : q.Consistent) (es : List Entry) : (q.addAll es).Consistent := by
  induction es generalizing q with
  | nil => exact h
  | cons e rest ih => exact ih (h.add e)

theorem Consistent.putBack (h : q.Consistent) (e : Entry) : (q.putBack e).Consistent := by
  unfold NumberedQueue.putBack
  split
  · exact h
  · next hnew =>
    rw [Std.TreeMap.contains_eq_isSome_getElem?, Bool.not_eq_true, Option.isSome_eq_false_iff,
      Option.isNone_iff_eq_none] at hnew
    exact h.insert hnew h.unused.2 (Int.sub_lt_self _ Int.one_pos) h.apart
      ⟨Int.sub_le_self _ (by decide), Int.le_refl _⟩

theorem requeue_cons (q : NumberedQueue) (e : Entry) (es : List Entry) :
    q.requeue (e :: es) = (q.requeue es).putBack e := by
  simp [requeue]

theorem Consistent.requeue (h : q.Consistent) (es : List Entry) :
    (q.requeue es).Consistent := by
  induction es with
  | nil => exact h
  | cons e rest ih =>
    rw [requeue_cons]
    exact ih.putBack e

theorem Consistent.popFirst? (h : q.Consistent) {e : Entry} {q' : NumberedQueue}
    (hpop : q.popFirst? = some (e, q')) : q'.Consistent := by
  unfold NumberedQueue.popFirst? at hpop
  split at hpop
  · next number x hfirst =>
    cases hpop
    exact h.erase (getElem?_of_first? hfirst)
  · cases hpop

theorem Consistent.popUpTo (h : q.Consistent) (n : Nat) : (q.popUpTo n).2.Consistent := by
  induction n generalizing q with
  | zero => exact h
  | succ n ih =>
    unfold NumberedQueue.popUpTo
    split
    · exact h
    · next hpop => exact ih (h.popFirst? hpop)

end NumberedQueue

end DashAgent
