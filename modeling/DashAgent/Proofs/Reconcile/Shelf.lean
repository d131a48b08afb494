import DashAgent.Proofs.Queue
import DashAgent.Proofs.Reconcile.Intake

/-!
# Tables that take SETs in

The changes that have arrived at a table are programmed or pending, or they were invalid and are
gone. Once every pending change waits, the programmed changes are exactly those that are ready and
the pending ones exactly those that wait; in which order and in which batches they came does not
matter any more. Main theorems: `Reading.Sorted.settled`, `Shelf.pass`.
-/
namespace DashAgent

/-! ## Sorted changes -/

namespace Reading

variable {α β : Type} (R : Reading α β)

/-- What became of the changes that have arrived. -/
structure Sorted (arrived programmed pending : List Entry) (c : Context) : Prop where
  all : ∃ dropped, (programmed ++ pending ++ dropped).Perm arrived ∧
    ∀ e ∈ dropped, R.invalid e = true
  ready : ∀ e ∈ programmed, R.ready c e = true

variable {R} {arrived programmed pending : List Entry} {c c' : Context}

namespace Sorted

/-- New changes are pending. -/
theorem arrive (h : R.Sorted arrived programmed pending c) (es : List Entry) :
    R.Sorted (arrived ++ es) programmed (pending ++ es) c := by
  obtain ⟨dropped, hall, hinvalid⟩ := h.all
  refine ⟨⟨dropped, ?_, hinvalid⟩, h.ready⟩
  refine List.Perm.trans ?_ (hall.append_right es)
  rw [List.append_assoc, List.append_assoc, List.append_assoc, List.append_assoc]
  exact (List.perm_append_comm.append_left _).append_left _

/-- More programmed parents hold nothing up. -/
theorem grow (h : R.Sorted arrived programmed pending c) (hgrows : R.Grows Context.NamesLe)
    (hc : c.NamesLe c') : R.Sorted arrived programmed pending c' :=
  ⟨h.all, fun e he => hgrows hc (h.ready e he)⟩

/-- A pass programs what is ready and keeps what waits. -/
theorem pass (h : R.Sorted arrived programmed pending c) :
    R.Sorted arrived (programmed ++ pending.filter (R.ready c)) (pending.filter (R.waits c)) c := by
  obtain ⟨dropped, hall, hinvalid⟩ := h.all
  have hsplit : (pending.filter (R.ready c) ++ (pending.filter (R.waits c) ++
      pending.filter fun e => R.invalid e)).Perm pending := by
    have hrest : (pending.filter (R.waits c) ++ pending.filter fun e => R.invalid e).Perm
        (pending.filter fun e => !R.ready c e) := by
      have hparts := List.filter_append_perm (fun e => !R.invalid e)
        (pending.filter fun e => !R.ready c e)
      rw [List.filter_filter, List.filter_filter] at hparts
      refine List.Perm.trans (.of_eq ?_) hparts
      congr 1
      refine List.filter_congr fun e _ => ?_
      cases hinvalid : R.invalid e with
      | false => rfl
      | true => simp [not_ready_of_invalid hinvalid]
    exact (hrest.append_left _).trans (List.filter_append_perm ..)
  refine ⟨⟨(pending.filter fun e => R.invalid e) ++ dropped, ?_, ?_⟩, ?_⟩
  · refine List.Perm.trans ?_ hall
    have hmiddle := (hsplit.append_left programmed).append_right dropped
    simpa only [List.append_assoc] using hmiddle
  · intro e he
    rcases List.mem_append.1 he with he | he
    · exact (List.mem_filter.1 he).2
    · exact hinvalid e he
  · intro e he
    rcases List.mem_append.1 he with he | he
    · exact h.ready e he
    · exact (List.mem_filter.1 he).2

/-- Once every pending change waits, what is programmed and what is pending are told by what has
arrived. -/
theorem settled (h : R.Sorted arrived programmed pending c)
    (hwaits : ∀ e ∈ pending, R.waits c e = true) :
    programmed.Perm (arrived.filter (R.ready c)) ∧ pending.Perm (arrived.filter (R.waits c)) := by
  obtain ⟨dropped, hall, hinvalid⟩ := h.all
  have hready := (hall.filter (R.ready c)).symm
  have hwaiting := (hall.filter (R.waits c)).symm
  rw [List.filter_append, List.filter_append] at hready hwaiting
  have hsomeReady : programmed.filter (R.ready c) = programmed :=
    List.filter_eq_self.2 h.ready
  have hallWait : pending.filter (R.waits c) = pending := List.filter_eq_self.2 hwaits
  have hnoneReady : pending.filter (R.ready c) = [] ∧ dropped.filter (R.ready c) = [] := by
    constructor <;> refine List.filter_eq_nil_iff.2 fun e he => ?_
    · have hwait := hwaits e he
      simp only [waits, Bool.and_eq_true, Bool.not_eq_true'] at hwait
      simp [hwait.2]
    · simp [not_ready_of_invalid (hinvalid e he)]
  have hnoneWaits : programmed.filter (R.waits c) = [] ∧ dropped.filter (R.waits c) = [] := by
    constructor <;> refine List.filter_eq_nil_iff.2 fun e he => ?_
    · simp [waits, h.ready e he]
    · simp [waits, hinvalid e he]
  rw [hsomeReady, hnoneReady.1, hnoneReady.2, List.append_nil, List.append_nil] at hready
  rw [hallWait, hnoneWaits.1, hnoneWaits.2, List.nil_append, List.append_nil] at hwaiting
  exact ⟨hready.symm, hwaiting.symm⟩

end Sorted

end Reading

/-! ## Shelves -/

/-- SETs of different keys, at most so many. -/
structure NewSets (limit : Nat) (es : List Entry) : Prop where
  sets : ∀ e ∈ es, e.op = .set
  keys : (es.map Entry.key).Nodup
  length : es.length ≤ limit

/-- A table with its queue, after SETs have arrived. -/
structure Shelf {τ κ α β : Type} {ops : BulkTable τ κ Context Simulator} {R : Reading α β}
    (I : Intake ops R) (limit : Nat) (arrived programmed : List Entry) (q : ChangeQueue) (t : τ)
    (c : Context) (s : Simulator) : Prop where
  kept : I.Kept programmed c t s
  sorted : R.Sorted arrived programmed q.entries c
  batch : limit ≤ q.batchSize

namespace Shelf

variable {τ κ α β : Type} {ops : BulkTable τ κ Context Simulator} {R : Reading α β}
  {I : Intake ops R} {limit : Nat} {arrived programmed : List Entry} {q : ChangeQueue} {t : τ}
  {c : Context} {s : Simulator}

theorem start (h : I.Kept [] c t s) (name : String) (priority : Int) :
    Shelf I limit [] [] (.new name priority limit) t c s where
  kept := h
  sorted := ⟨⟨[], List.Perm.nil, nofun⟩, nofun⟩
  batch := Nat.le_max_left ..

/-- Programmed and pending changes have different keys. -/
theorem keys (h : Shelf I limit arrived programmed q t c s) (hnew : NewSets limit arrived) :
    ((programmed ++ q.entries).map Entry.key).Nodup := by
  obtain ⟨dropped, hall, -⟩ := h.sorted.all
  have hkeys := (hall.map Entry.key).nodup_iff.2 hnew.keys
  rw [List.map_append] at hkeys
  exact (List.nodup_append.1 hkeys).1

theorem pending_le (h : Shelf I limit arrived programmed q t c s) :
    q.entries.length ≤ arrived.length := by
  obtain ⟨dropped, hall, -⟩ := h.sorted.all
  have hlength := hall.length_eq
  simp only [List.length_append] at hlength
  omega

theorem arrive (h : Shelf I limit arrived programmed q t c s) {es : List Entry}
    (hnew : NewSets limit (arrived ++ es)) :
    (q.addAll es).entries = q.entries ++ es ∧
      Shelf I limit (arrived ++ es) programmed (q.addAll es) t c s := by
  have hsorted := h.sorted.arrive es
  have hentries : (q.addAll es).entries = q.entries ++ es := by
    obtain ⟨dropped, hall, -⟩ := hsorted.all
    have hkeys := (hall.map Entry.key).nodup_iff.2 hnew.keys
    rw [List.map_append, List.map_append] at hkeys
    exact ChangeQueue.entries_addAll (List.nodup_append.1 (List.nodup_append.1 hkeys).1).2.1
  refine ⟨hentries, h.kept, ?_, ?_⟩
  · rw [hentries]
    exact hsorted
  · rw [ChangeQueue.batchSize_addAll]
    exact h.batch

/-- What other tables do is told by what they leave of the table. -/
theorem frame (h : Shelf I limit arrived programmed q t c s) {c' : Context} {s' : Simulator}
    (hkept : I.Kept programmed c' t s') (hc : c.NamesLe c') :
    Shelf I limit arrived programmed q t c' s' :=
  ⟨hkept, h.sorted.grow I.grows hc, h.batch⟩

/-- Two tables to which the same changes came, in whatever order, have programmed the same and have
the same pending once every pending change waits, if they agree on what is ready. -/
theorem agree {arrived' programmed' : List Entry} {q' : ChangeQueue} {t' : τ} {c' : Context}
    {s' : Simulator} (h : Shelf I limit arrived programmed q t c s)
    (h' : Shelf I limit arrived' programmed' q' t' c' s') (harrived : arrived.Perm arrived')
    (hready : R.ready c = R.ready c') (hwaits : ∀ e ∈ q.entries, R.waits c e = true)
    (hwaits' : ∀ e ∈ q'.entries, R.waits c' e = true) :
    programmed.Perm programmed' ∧ q.entries.Perm q'.entries := by
  have hwaiting : R.waits c = R.waits c' := by
    funext e
    simp only [Reading.waits, hready]
  obtain ⟨hprogrammed, hpending⟩ := h.sorted.settled hwaits
  obtain ⟨hprogrammed', hpending'⟩ := h'.sorted.settled hwaits'
  rw [← hready] at hprogrammed'
  rw [← hwaiting] at hpending'
  exact ⟨(hprogrammed.trans (harrived.filter _)).trans hprogrammed'.symm,
    (hpending.trans (harrived.filter _)).trans hpending'.symm⟩

structure Passed (I : Intake ops R) (limit n : Nat) (arrived programmed : List Entry)
    (c : Context) (s : Simulator) (programmed' : List Entry) (q' : ChangeQueue) (t' : τ)
    (c' : Context) (s' : Simulator) : Prop where
  shelf : Shelf I limit arrived programmed' q' t' c' s'
  waits : ∀ e ∈ q'.entries, R.waits c e = true
  gains : Simulator.Gains I.touched s s'
  ample : s'.Ample (n + q'.entries.length)
  extends_ : c.Extends c'
  bill : ∀ m : Monitor, c.monitor = m.countAll (I.bill programmed) →
    c'.monitor = m.countAll (I.bill programmed')

/-- After a pass every pending change waits. -/
theorem pass (h : Shelf I limit arrived programmed q t c s) (hnew : NewSets limit arrived)
    (hfaultless : s.Faultless) {n : Nat} (hample : s.Ample (n + q.entries.length)) :
    ∃ summary programmed' q' t' c' s',
      ops.reconcile ⟨q, t, c, s⟩ = (.ok summary, ⟨q', t', c', s'⟩) ∧
        Passed I limit n arrived programmed c s programmed' q' t' c' s' := by
  have hsets : ∀ e ∈ q.entries, e.op = .set := by
    obtain ⟨dropped, hall, -⟩ := h.sorted.all
    exact fun e he => hnew.sets e (hall.mem_iff.1 (by simp [he]))
  have hbatch : q.entries.length ≤ q.batchSize :=
    Nat.le_trans h.pending_le (Nat.le_trans hnew.length h.batch)
  obtain ⟨summary, p', hpass, hpassed⟩ := I.reconcile (p := ⟨q, t, c, s⟩) h.kept hsets
    (h.keys hnew) hbatch hfaultless hample
  refine ⟨summary, _, p'.queue, p'.table, p'.env, p'.switch, hpass, ⟨hpassed.kept, ?_, ?_⟩, ?_,
    hpassed.gains, hpassed.ample, hpassed.extends_, hpassed.bill⟩
  · rw [hpassed.queue]
    exact h.sorted.pass.grow I.grows hpassed.extends_.namesLe
  · rw [hpassed.batchSize]
    exact h.batch
  · rw [hpassed.queue]
    exact fun e he => (List.mem_filter.1 he).2

end Shelf

end DashAgent
