import DashAgent.Proofs.Reconcile.Invariant
import DashAgent.Proofs.Reconcile.Scratch

/-!
# Replayed batches

A change that a pass commits or is done with holds in the table from then on, whatever the pass does
with the changes of other keys. A pass that leaves nothing undone therefore ends in a table in which
its whole batch holds, and the same batch asks for nothing when it comes again. An `Absorbing` says
what this takes of a table.
-/
namespace DashAgent

open BulkTable

variable {τ κ ε δ : Type}

/-! ## Batches that ask for nothing -/

namespace BulkTable

variable {ops : BulkTable τ κ ε δ}

theorem stageAll_of_done {c : ε} {t : τ} {es : List Entry}
    (h : ∀ e ∈ es, ops.stage e c t = (.done, t)) :
    ops.stageAll c es t = (es.map fun e => (e, .done), t) := by
  induction es with
  | nil => rfl
  | cons e rest ih =>
    simp only [stageAll, h e (List.mem_cons_self ..),
      ih fun e he => h e (List.mem_cons_of_mem _ he), List.map_cons]

theorem commitAll_done (es : List Entry) (c : ε) (t : τ) :
    ops.commitAll (es.map fun e => (e, .done)) c t = (es.map fun e => (e, .done), c, t) := by
  induction es with
  | nil => rfl
  | cons e rest ih => simp only [List.map_cons, commitAll, ih]

/-- The summary of a pass that had nothing to do for so many changes. -/
theorem ofFates_done (n : Nat) :
    Summary.ofFates (List.replicate n .done) = { Summary.empty with done := n } := by
  simp [Summary.ofFates, Summary.empty, List.count_replicate, List.countP_replicate]

variable (ops) in
/-- A pass that finds everything done asks the driver nothing and leaves all but its queue. -/
theorem reconcile_of_done {p : Pass τ ε δ}
    (h : ∀ e ∈ p.queue.entries.take p.queue.batchSize,
      ops.stage e p.env p.table = (.done, p.table))
    (hend : ops.endPass p.table = p.table) :
    ∃ q, ops.reconcile p =
        (.ok { Summary.empty with done := (p.queue.entries.take p.queue.batchSize).length },
          { p with queue := q }) ∧
      q.entries = p.queue.entries.drop p.queue.batchSize := by
  by_cases hne : p.queue.entries = []
  · refine ⟨p.queue, ?_, by rw [hne, List.drop_nil]⟩
    rw [reconcile_idle hne, hne, List.take_nil]
    rfl
  obtain ⟨batch, hbatch⟩ : ∃ batch, p.queue.entries.take p.queue.batchSize = batch := ⟨_, rfl⟩
  rw [hbatch] at h ⊢
  have hs : ops.stageAll p.env (p.queue.entries.take p.queue.batchSize) p.table =
      (batch.map fun e => (e, .done), p.table) := by rw [hbatch, stageAll_of_done h]
  have hf : ops.flushStaged (batch.map fun e => (e, .done)) p.table p.switch =
      (.ok (), p.table, p.switch) := by
    rw [flushStaged, if_neg (by simp [StageOutcome.isStaged])]
  have hfates : (batch.map fun e => (e, Fate.done)).map Prod.snd =
      List.replicate batch.length .done := by
    rw [List.map_map, Function.comp_def, List.map_const']
  have hkept : kept (batch.map fun e => (e, .done)) = [] := by simp [kept, Fate.isKept]
  have hpass := reconcile_answered hne hs hf
  rw [commitAll_done, hfates, ofFates_done, hkept, hend] at hpass
  exact ⟨_, hpass, ChangeQueue.entries_popBatch ..⟩

end BulkTable

/-! ## Tables that absorb their changes -/

/-- Changes that come to a pass find everything done. The pass flushes and commits nothing, asks the
driver nothing, and leaves all but its queue as it was. -/
structure BulkTable.Replayed (ops : BulkTable τ κ ε δ) (p : Pass τ ε δ) (es : List Entry) : Prop where
  entries : (p.queue.addAll es).entries = es
  done : ∀ e ∈ es, ops.stage e p.env p.table = (.done, p.table)
  deeds : ops.deeds { p with queue := p.queue.addAll es } = []
  reconcile : ∃ q, q.entries = [] ∧
    ops.reconcile { p with queue := p.queue.addAll es } =
      (.ok { Summary.empty with done := es.length }, { p with queue := q })

/-- What it takes of a table that its changes hold once they are committed or done with. -/
structure Absorbing (ops : BulkTable τ κ ε δ) where
  /-- The table is as the change asks. -/
  Holds : Entry → τ → Prop
  /-- The operation does all that the change asks for. -/
  Suits : Entry → κ → Prop
  stage_suits : ∀ {e c t op}, (ops.stage e c t).1 = .staged op → Suits e op
  holds_of_done : ∀ {e c t}, (ops.stage e c t).1 = .done → Holds e t
  done_of_holds : ∀ {e c t}, Holds e t → ops.stage e c t = (.done, t)
  holds_of_commit : ∀ {e op c t}, Suits e op → (ops.commit e op c t).1 = .commit →
    Holds e (ops.commit e op c t).2.2
  holds_stage : ∀ {e e' c t}, Holds e t → Holds e (ops.stage e' c t).2
  holds_flush : ∀ {e t d}, Holds e t → Holds e (ops.flush t d).2.1
  holds_commit : ∀ {e e' op c t}, e'.key ≠ e.key → Holds e t →
    Holds e (ops.commit e' op c t).2.2
  holds_endPass : ∀ {e t}, Holds e t → Holds e (ops.endPass t)
  endPass_endPass : ∀ t, ops.endPass (ops.endPass t) = ops.endPass t

namespace Absorbing

variable {ops : BulkTable τ κ ε δ} (A : Absorbing ops)

def Known (t : τ) (o : Entry × StageOutcome κ) : Prop :=
  match o.2 with
  | .staged op => A.Suits o.1 op
  | .done => A.Holds o.1 t
  | .notReady _ | .invalid _ => True

/-- The entry has left the queue for good, and not because it was given up. -/
def Absorbed (course : Course κ) : Prop :=
  course.fate = .done ∨ course.fate = .decided .commit

variable {A}

theorem Known.mono {t t' : τ} {o : Entry × StageOutcome κ} (h : A.Known t o)
    (hholds : A.Holds o.1 t → A.Holds o.1 t') : A.Known t' o := by
  obtain ⟨e, outcome⟩ := o
  cases outcome with
  | staged op => exact h
  | done => exact hholds h
  | notReady | invalid => trivial

theorem known_stage (e : Entry) (c : ε) (t : τ) :
    A.Known (ops.stage e c t).2 (e, (ops.stage e c t).1) := by
  cases houtcome : (ops.stage e c t).1 with
  | staged op => exact A.stage_suits houtcome
  | done => exact A.holds_stage (A.holds_of_done houtcome)
  | notReady | invalid => trivial

variable (A)

def invariant : PassInvariant ops where
  staging outcomes rest _ t _ :=
    ((outcomes.map fun o => o.1.key) ++ rest.map Entry.key).Nodup ∧ ∀ o ∈ outcomes, A.Known t o
  committing courses outcomes _ t _ :=
    ((courses.map fun course => course.entry.key) ++ outcomes.map fun o => o.1.key).Nodup ∧
      (∀ o ∈ outcomes, A.Known t o) ∧
      ∀ course ∈ courses, Absorbed course → A.Holds course.entry t
  answered courses _ t _ :=
    ops.endPass t = t ∧ ∀ course ∈ courses, Absorbed course → A.Holds course.entry t
  unanswered _ _ _ := True
  stage {outcomes e rest c t d} h := by
    obtain ⟨hkeys, hknown⟩ := h
    refine ⟨by simpa using hkeys, fun o ho => ?_⟩
    rcases List.mem_append.1 ho with ho | ho
    · exact (hknown o ho).mono A.holds_stage
    · rw [List.mem_singleton.1 ho]
      exact known_stage e c t
  idle h _ := ⟨by simpa using h.1, h.2, nofun⟩
  flush {_ _ _ d _ _} h hflush := by
    refine ⟨by simpa using h.1, fun o ho => (h.2 o ho).mono fun hholds => ?_, nofun⟩
    have hafter := A.holds_flush (d := d) hholds
    rwa [hflush] at hafter
  failure _ _ := trivial
  commit {courses e op rest c t d} h := by
    obtain ⟨hkeys, hknown, hholds⟩ := h
    have hapart := List.nodup_append.1 hkeys
    refine ⟨by simpa [Course.entry] using hkeys, fun o ho => ?_,
      fun course hcourse habsorbed => ?_⟩
    · have hne : e.key ≠ o.1.key := fun heq =>
        (List.nodup_cons.1 hapart.2.1).1 (List.mem_map.2 ⟨o, ho, heq.symm⟩)
      exact (hknown o (List.mem_cons_of_mem _ ho)).mono (A.holds_commit hne)
    · rcases List.mem_append.1 hcourse with hcourse | hcourse
      · have hne : course.entry.key ≠ e.key :=
          hapart.2.2 _ (List.mem_map_of_mem hcourse) _ (List.mem_cons_self ..)
        exact A.holds_commit hne.symm (hholds course hcourse habsorbed)
      · rw [List.mem_singleton.1 hcourse] at habsorbed ⊢
        refine A.holds_of_commit (hknown _ (List.mem_cons_self ..)) ?_
        obtain hdone | hcommit := habsorbed
        · cases hdone
        · exact Fate.decided.inj hcommit
  skip {courses course rest c t d} hunstaged h := by
    obtain ⟨hkeys, hknown, hholds⟩ := h
    refine ⟨by simpa using hkeys, fun o ho => hknown o (List.mem_cons_of_mem _ ho),
      fun course' hcourse habsorbed => ?_⟩
    rcases List.mem_append.1 hcourse with hcourse | hcourse
    · exact hholds course' hcourse habsorbed
    · rw [List.mem_singleton.1 hcourse] at habsorbed ⊢
      have hself := hknown _ (List.mem_cons_self ..)
      cases course with
      | staged => cases hunstaged
      | done e => exact hself
      | notReady | invalid => obtain hfate | hfate := habsorbed <;> cases hfate
  finish h := ⟨A.endPass_endPass _, fun course hcourse habsorbed =>
    A.holds_endPass (h.2.2 course hcourse habsorbed)⟩

/-- After a pass that gave up nothing and put back nothing, every change of its batch holds. -/
theorem holds_reconcile {p : Pass τ ε δ} {summary : Summary} (hne : p.queue.entries ≠ [])
    (hanswer : (ops.reconcile p).1 = .ok summary) (hdropped : summary.dropped = 0)
    (hretried : summary.retried = 0) (hwaits : summary.notReady = 0) :
    ops.endPass (ops.reconcile p).2.table = (ops.reconcile p).2.table ∧
      (∀ e ∈ p.queue.entries.take p.queue.batchSize, A.Holds e (ops.reconcile p).2.table) ∧
      (ops.reconcile p).2.queue.entries = p.queue.entries.drop p.queue.batchSize := by
  have hkeys := p.queue.nodup_batch
  rw [ChangeQueue.popBatch_fst] at hkeys
  obtain ⟨summary', courses, hanswer', hcounted, hbatch, hqueue, hend, hholds⟩ |
      ⟨error, herror, -⟩ := A.invariant.reconcile hne ⟨by simpa using hkeys, nofun⟩
  case inr =>
    rw [hanswer] at herror
    cases herror
  rw [hanswer] at hanswer'
  cases hanswer'
  have hrequeued := hcounted.requeued
  rw [Summary.requeued, hretried, hwaits, eq_comm, List.length_eq_zero_iff] at hrequeued
  rw [hrequeued, List.nil_append] at hqueue
  refine ⟨hend, fun e he => ?_, hqueue⟩
  rw [← hbatch] at he
  obtain ⟨course, hcourse, rfl⟩ := List.mem_map.1 he
  refine hholds course hcourse ?_
  rw [hcounted.retried, List.countP_eq_zero] at hretried
  rw [hcounted.notReady, List.countP_eq_zero] at hwaits
  rw [hcounted.dropped, Nat.add_eq_zero_iff, List.countP_eq_zero, List.countP_eq_zero] at hdropped
  cases hfate : course.fate with
  | done => exact .inl hfate
  | notReady => exact absurd (decide_eq_true hfate) (hwaits course hcourse)
  | invalid => exact absurd (decide_eq_true hfate) (hdropped.2 course hcourse)
  | decided decision =>
    cases decision with
    | commit => exact .inr hfate
    | retry => exact absurd (decide_eq_true hfate) (hretried course hcourse)
    | drop => exact absurd (decide_eq_true hfate) (hdropped.1 course hcourse)

/-! ## Replays -/

include A in
/-- A pass over the whole of its queue that gave up nothing and put back nothing can be replayed at
any later time, as long as its table stays as it is. -/
theorem replayed {p : Pass τ ε δ} {summary : Summary}
    (hbatch : p.queue.entries.length ≤ p.queue.batchSize)
    (hanswer : (ops.reconcile p).1 = .ok summary) (hdropped : summary.dropped = 0)
    (hretried : summary.retried = 0) (hwaits : summary.notReady = 0) (c : ε) (d : δ) :
    ops.Replayed { (ops.reconcile p).2 with env := c, switch := d } p.queue.entries := by
  by_cases hne : p.queue.entries = []
  · rw [reconcile_idle hne, hne]
    have hidle : ops.traced.reconcile ⟨p.queue, (p.table, []), c, d⟩ = _ := reconcile_idle hne
    exact ⟨hne, nofun, congrArg (fun r => r.2.table.2) hidle, p.queue, hne, reconcile_idle hne⟩
  obtain ⟨hend, hholds, hqueue⟩ := A.holds_reconcile hne hanswer hdropped hretried hwaits
  have hsize := ops.batchSize_reconcile p
  generalize (ops.reconcile p).2 = left at hend hholds hqueue hsize
  have hentries : (left.queue.addAll p.queue.entries).entries = p.queue.entries := by
    rw [List.drop_of_length_le hbatch] at hqueue
    rw [ChangeQueue.entries_addAll (by rw [hqueue]; exact p.queue.nodup_entries), hqueue]
    rfl
  have hdone : ∀ e ∈ p.queue.entries, ops.stage e c left.table = (.done, left.table) := by
    intro e he
    exact A.done_of_holds (hholds e (by rwa [List.take_of_length_le hbatch]))
  have htaken : (left.queue.addAll p.queue.entries).entries.take
      (left.queue.addAll p.queue.entries).batchSize = p.queue.entries := by
    rw [hentries, ChangeQueue.batchSize_addAll, hsize, List.take_of_length_le hbatch]
  have hrest : (left.queue.addAll p.queue.entries).entries.drop
      (left.queue.addAll p.queue.entries).batchSize = [] := by
    rw [hentries, ChangeQueue.batchSize_addAll, hsize, List.drop_of_length_le hbatch]
  obtain ⟨q, hpass, hq⟩ := reconcile_of_done ops
    (p := ⟨left.queue.addAll p.queue.entries, left.table, c, d⟩) (by rwa [htaken]) hend
  obtain ⟨q', hpass', -⟩ := reconcile_of_done ops.traced
    (p := ⟨left.queue.addAll p.queue.entries, (left.table, []), c, d⟩)
    (by rw [htaken]; intro e he; simp only [traced, hdone e he]) (Prod.ext hend rfl)
  refine ⟨hentries, hdone, congrArg (fun r => r.2.table.2) hpass', q, hq.trans hrest, ?_⟩
  rw [htaken] at hpass
  exact hpass

end Absorbing

end DashAgent
