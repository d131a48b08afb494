import Mathlib.Algebra.Group.Int.Defs
import DashAgent.Proofs.Queue

/-!
# Queues as lists with unique keys

What the calls to a queue do is said here of a plain list of changes, without regard to how a queue
keeps its order and its index of keys. A new change goes to the end and takes the place of an older
one of its key. Changes that are handed back go to the front in their order, but not those whose key
is pending, and of several with one key only the last. Main theorem:
`ChangeQueue.refines_keyed_list`.
-/
namespace DashAgent

/-! ## Lists -/

namespace KeyedList

/-- The list with a new change at its end, and no other change of that key. -/
def add (pending : List Entry) (e : Entry) : List Entry := pending.filter (·.key ≠ e.key) ++ [e]

/-- Of several changes with one key only the last. -/
def lasts : List Entry → List Entry
  | [] => []
  | e :: later => if e.key ∈ later.map Entry.key then lasts later else e :: lasts later

/-- The list with changes in front of it whose keys it does not have. -/
def handBack (pending es : List Entry) : List Entry :=
  (lasts es).filter (·.key ∉ pending.map Entry.key) ++ pending

variable {pending es : List Entry} {key : String}

theorem mem_keys_lasts (es : List Entry) :
    key ∈ (lasts es).map Entry.key ↔ key ∈ es.map Entry.key := by
  induction es with
  | nil => rfl
  | cons e later ih =>
    unfold lasts
    split
    · next hlater =>
      rw [ih, List.map_cons, List.mem_cons]
      exact ⟨.inr, fun h => h.elim (fun heq => heq ▸ hlater) id⟩
    · rw [List.map_cons, List.mem_cons, ih, List.map_cons, List.mem_cons]

theorem lasts_sublist (es : List Entry) : (lasts es).Sublist es := by
  induction es with
  | nil => exact .refl _
  | cons e later ih =>
    unfold lasts
    split
    · exact ih.cons e
    · exact ih.cons_cons e

theorem mem_keys_handBack : key ∈ (handBack pending es).map Entry.key ↔
    key ∈ es.map Entry.key ∨ key ∈ pending.map Entry.key := by
  rw [handBack, List.map_append, List.mem_append, ← mem_keys_lasts es]
  constructor
  · exact Or.imp_left fun h => (List.filter_sublist.map _).subset h
  · intro h
    by_cases hpending : key ∈ pending.map Entry.key
    · exact .inr hpending
    · obtain ⟨e, he, rfl⟩ := List.mem_map.1 (h.resolve_right hpending)
      exact .inl (List.mem_map_of_mem (List.mem_filter.2 ⟨he, decide_eq_true hpending⟩))

end KeyedList

/-! ## Numbered queues as lists -/

namespace NumberedQueue

variable {q : NumberedQueue}

theorem Consistent.entries_addAll (h : q.Consistent) (es : List Entry) :
    (q.addAll es).entries = es.foldl KeyedList.add q.entries := by
  induction es generalizing q with
  | nil => rfl
  | cons e rest ih =>
    have hrest := ih (h.add e)
    rwa [h.entries_add] at hrest

/-- What is handed back is put to the front from the last to the first, so a change finds the later
ones of its key pending. -/
theorem Consistent.entries_requeue_eq (h : q.Consistent) (es : List Entry) :
    (q.requeue es).entries = KeyedList.handBack q.entries es := by
  induction es with
  | nil => rfl
  | cons e later ih =>
    have hlatest := h.requeue later
    have hcontains : (q.requeue later).index.contains e.key = true ↔
        e.key ∈ later.map Entry.key ∨ e.key ∈ q.entries.map Entry.key := by
      rw [hlatest.contains_iff, ih, KeyedList.mem_keys_handBack]
    rw [requeue_cons]
    by_cases hlater : e.key ∈ later.map Entry.key
    · rw [putBack_of_contains (hcontains.2 (.inl hlater)), ih, KeyedList.handBack,
        KeyedList.handBack, KeyedList.lasts, if_pos hlater]
    · by_cases hpending : e.key ∈ q.entries.map Entry.key
      · rw [putBack_of_contains (hcontains.2 (.inr hpending)), ih, KeyedList.handBack,
          KeyedList.handBack, KeyedList.lasts, if_neg hlater,
          List.filter_cons_of_neg (by simpa using hpending)]
      · have hnew : e.key ∉ (q.requeue later).entries.map Entry.key := by
          rw [← hlatest.contains_iff, hcontains]
          exact fun h => h.elim hlater hpending
        rw [hlatest.entries_putBack hnew, ih, KeyedList.handBack, KeyedList.handBack,
          KeyedList.lasts, if_neg hlater, List.filter_cons_of_pos (by simpa using hpending),
          List.cons_append]

/-! ## Numbers -/

/-- The next numbers are not beyond those of so many changes put in at either end. -/
def Within (n : Nat) (q : NumberedQueue) : Prop := q.nextBack ≤ n ∧ -1 - (n : Int) ≤ q.nextFront

/-- The next numbers fit into 64 bits with a sign, and so do all numbers in use. -/
structure Fits (q : NumberedQueue) : Prop where
  nextBack : q.nextBack < 2 ^ 63
  nextFront : -2 ^ 63 ≤ q.nextFront
  inside : ∀ {number : Int} {e : Entry}, q.changes[number]? = some e →
    -2 ^ 63 ≤ number ∧ number < 2 ^ 63

variable {n : Nat}

theorem within_new : new.Within 0 := ⟨by decide, by decide⟩

theorem Within.forget (h : q.Within n) (key : String) : (q.forget key).Within n := by
  unfold NumberedQueue.forget
  split <;> exact h

theorem Within.add (h : q.Within n) (e : Entry) : (q.add e).Within (n + 1) := by
  obtain ⟨hback, hfront⟩ := h.forget e.key
  constructor
  · change (q.forget e.key).nextBack + 1 ≤ _
    omega
  · change _ ≤ (q.forget e.key).nextFront
    omega

theorem Within.addAll (h : q.Within n) (es : List Entry) :
    (q.addAll es).Within (n + es.length) := by
  induction es generalizing q n with
  | nil => exact h
  | cons e rest ih =>
    have hrest := ih (h.add e)
    rwa [Nat.add_assoc, Nat.add_comm 1] at hrest

theorem Within.putBack (h : q.Within n) (e : Entry) : (q.putBack e).Within (n + 1) := by
  obtain ⟨hback, hfront⟩ := h
  unfold NumberedQueue.putBack
  split
  · exact ⟨by omega, by omega⟩
  · exact ⟨by dsimp only; omega, by dsimp only; omega⟩

theorem Within.requeue (h : q.Within n) (es : List Entry) :
    (q.requeue es).Within (n + es.length) := by
  induction es with
  | nil => exact h
  | cons e rest ih =>
    rw [requeue_cons]
    exact ih.putBack e

theorem Within.popUpTo (h : q.Within n) (count : Nat) : (q.popUpTo count).2.Within n := by
  induction count generalizing q with
  | zero => exact h
  | succ count ih =>
    unfold NumberedQueue.popUpTo
    split
    · exact h
    · next hpop =>
      unfold popFirst? at hpop
      split at hpop
      · cases hpop
        exact ih h
      · cases hpop

theorem Consistent.fits (h : q.Consistent) (hwithin : q.Within n) (hn : n < 2 ^ 63) :
    q.Fits := by
  obtain ⟨hback, hfront⟩ := hwithin
  refine ⟨by omega, by omega, fun hnumber => ?_⟩
  have hinside := h.inside hnumber
  exact ⟨by omega, by omega⟩

end NumberedQueue

/-! ## Calls -/

namespace ChangeQueue

inductive Call where
  | addAll (es : List Entry)
  | requeue (es : List Entry)
  | popBatch
  | drain
  | clear

namespace Call

def apply : Call → ChangeQueue → List Entry × ChangeQueue
  | addAll es, q => ([], q.addAll es)
  | requeue es, q => ([], q.requeue es)
  | popBatch, q => q.popBatch
  | drain, q => q.drain
  | clear, q => ([], q.clear)

/-- What a call hands out of a list of pending changes, and the list after it. -/
def onList (batchSize : Nat) : Call → List Entry → List Entry × List Entry
  | addAll es, pending => ([], es.foldl KeyedList.add pending)
  | requeue es, pending => ([], KeyedList.handBack pending es)
  | popBatch, pending => (pending.take batchSize, pending.drop batchSize)
  | drain, pending => (pending, [])
  | clear, _ => ([], [])

def size : Call → Nat
  | addAll es | requeue es => es.length
  | popBatch | drain | clear => 0

end Call

/-- What calls hand out one after another, and the queue after them. -/
def run : List Call → ChangeQueue → List (List Entry) × ChangeQueue
  | [], q => ([], q)
  | call :: rest, q =>
    let (out, q) := call.apply q
    let (outs, q) := run rest q
    (out :: outs, q)

def runOnList (batchSize : Nat) : List Call → List Entry → List (List Entry) × List Entry
  | [], pending => ([], pending)
  | call :: rest, pending =>
    let (out, pending) := call.onList batchSize pending
    let (outs, pending) := runOnList batchSize rest pending
    (out :: outs, pending)

variable {q : ChangeQueue}

/-- A call does to a queue what it does to the list of its changes. -/
theorem apply_onList (q : ChangeQueue) (call : Call) :
    (call.apply q).1 = (call.onList q.batchSize q.entries).1 ∧
      (call.apply q).2.entries = (call.onList q.batchSize q.entries).2 ∧
      (call.apply q).2.batchSize = q.batchSize := by
  cases call with
  | addAll es => exact ⟨rfl, q.consistent.entries_addAll es, rfl⟩
  | requeue es => exact ⟨rfl, q.consistent.entries_requeue_eq es, rfl⟩
  | popBatch => exact ⟨q.popBatch_fst, q.entries_popBatch, rfl⟩
  | drain | clear => exact ⟨rfl, q.entries_clear, rfl⟩

theorem run_onList (q : ChangeQueue) (calls : List Call) :
    (run calls q).1 = (runOnList q.batchSize calls q.entries).1 ∧
      (run calls q).2.entries = (runOnList q.batchSize calls q.entries).2 := by
  induction calls generalizing q with
  | nil => exact ⟨rfl, rfl⟩
  | cons call rest ih =>
    obtain ⟨hout, hentries, hbatch⟩ := q.apply_onList call
    obtain ⟨houts, hlisted⟩ := ih (call.apply q).2
    rw [hentries, hbatch] at houts hlisted
    simp only [run, runOnList]
    exact ⟨by rw [hout, houts], hlisted⟩

theorem within_apply {n : Nat} (h : q.numbered.Within n) (call : Call) :
    (call.apply q).2.numbered.Within (n + call.size) := by
  cases call with
  | addAll es => exact h.addAll es
  | requeue es => exact h.requeue es
  | popBatch => exact h.popUpTo q.batchSize
  | drain | clear => exact h

theorem within_run {n : Nat} (h : q.numbered.Within n) (calls : List Call) :
    (run calls q).2.numbered.Within (n + (calls.map Call.size).sum) := by
  induction calls generalizing q n with
  | nil => exact h
  | cons call rest ih =>
    have hrest := ih (within_apply h call)
    rwa [Nat.add_assoc, ← List.sum_cons, ← List.map_cons] at hrest

/-- However a new queue is called, it hands out what the list of pending changes hands out, lists
exactly that list, counts it and has its keys in the index, each of which is pending once and
numbered as the index says. Whatever is handed back then stands in front of the list and has none of
its keys, and a change that is added is the only one of its key. If fewer than `2 ^ 63` changes were
put in, no number has left the range of 64 bits. -/
theorem refines_keyed_list (table : String) (priority : Int) (batchSize : Nat)
    (calls : List Call) :
    ∃ outs q pending, run calls (.new table priority batchSize) = (outs, q) ∧
      runOnList (max batchSize 1) calls [] = (outs, pending) ∧
      q.entries = pending ∧ (pending.map Entry.key).Nodup ∧
      q.pendingCount = pending.length ∧ (q.hasPending = true ↔ pending ≠ []) ∧
      (∀ key, q.contains key = true ↔ key ∈ pending.map Entry.key) ∧
      (∀ (key : String) (number : Int), q.numbered.index[key]? = some number ↔
        ∃ e : Entry, q.numbered.changes[number]? = some e ∧ e.key = key) ∧
      (∀ es, ∃ front, (q.requeue es).entries = front ++ pending ∧ front.Sublist es ∧
        ∀ e ∈ front, e.key ∉ pending.map Entry.key) ∧
      (∀ e, ∀ x ∈ (q.add e).entries, x.key = e.key → x = e) ∧
      ((calls.map Call.size).sum < 2 ^ 63 → q.numbered.Fits) := by
  obtain ⟨outs, q, hrun⟩ : ∃ outs q, run calls (.new table priority batchSize) = (outs, q) :=
    ⟨_, _, rfl⟩
  obtain ⟨outs', pending, hlist⟩ : ∃ outs' pending,
      runOnList (max batchSize 1) calls [] = (outs', pending) := ⟨_, _, rfl⟩
  obtain ⟨houts, hentries⟩ := run_onList (.new table priority batchSize) calls
  have hwithin : (run calls (.new table priority batchSize)).2.numbered.Within
      (0 + (calls.map Call.size).sum) := within_run NumberedQueue.within_new calls
  rw [entries_new, hrun] at houts hentries
  rw [hrun] at hwithin
  obtain rfl : outs = outs' := houts.trans (congrArg Prod.fst hlist)
  obtain rfl : q.entries = pending := hentries.trans (congrArg Prod.snd hlist)
  refine ⟨outs, q, _, hrun, hlist, rfl, q.nodup_entries, q.numbered.length_entries.symm,
    hasPending_eq_true_iff, fun key => q.consistent.contains_iff,
    fun key number => q.consistent.indexed, fun es => ?_, fun e x hx hkey => ?_,
    fun hfew => q.consistent.fits hwithin (by omega)⟩
  · refine ⟨_, q.consistent.entries_requeue_eq es, ?_, fun e he => ?_⟩
    · exact List.filter_sublist.trans (KeyedList.lasts_sublist es)
    · exact of_decide_eq_true (List.mem_filter.1 he).2
  · rw [entries_add] at hx
    rcases List.mem_append.1 hx with hx | hx
    · exact absurd hkey (of_decide_eq_true (List.mem_filter.1 hx).2)
    · exact List.mem_singleton.1 hx

end ChangeQueue

end DashAgent
