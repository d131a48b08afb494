import DashAgent.Context
import DashAgent.Proofs.Reconcile.Settlement
import DashAgent.Proofs.Switch.Ample

/-!
# Passes on an ample switch

On an ample switch whatever is staged is granted, so a pass puts back no change but those that are
not ready. An `Uptake` says what this takes of a table; nothing is asked of the changes. A pass that
consumes nothing has then found every change of its batch not ready, and has left everything as it
was.
-/
namespace DashAgent

open BulkTable

variable {τ κ : Type}

/-- What a table does with its requests on an ample switch. -/
structure Uptake (ops : BulkTable τ κ Context Simulator) where
  Tidy : τ → Prop
  /-- The table while changes are staged, so many of them with requests. -/
  Staging : Nat → τ → Prop
  /-- The table while changes are committed. -/
  Committing : τ → Prop
  Awaits : τ → κ → Prop
  Granted : τ → κ → Prop
  start : ∀ {t}, Tidy t → Staging 0 t ∧ ops.endPass t = t
  stage : ∀ {n t} e c, Staging n t →
    (ops.stage e c t).1.isStaged = false ∧ (ops.stage e c t).2 = t ∨
    ∃ op t', ops.stage e c t = (.staged op, t') ∧ Staging (n + 1) t' ∧ Awaits t' op ∧
      ∀ {op'}, Awaits t op' → Awaits t' op'
  flush : ∀ {n m t d}, Staging n t → d.Ample (m + n) →
    ∃ t' d', ops.flush t d = (.ok (), t', d') ∧ Committing t' ∧ d'.Ample m ∧
      ∀ {op}, Awaits t op → Granted t' op
  commit : ∀ {t op} e c, Committing t → Granted t op →
    (ops.commit e op c t).1 = .commit ∧ Committing (ops.commit e op c t).2.2 ∧
      ∀ {op'}, Granted t op' → Granted (ops.commit e op c t).2.2 op'
  finish : ∀ {t}, Committing t → Tidy (ops.endPass t)

namespace BulkTable

def waiting (outcomes : List (Entry × StageOutcome κ)) : List Entry :=
  (outcomes.filter fun o => o.2.isNotReady).map Prod.fst

def stagedCount (outcomes : List (Entry × StageOutcome κ)) : Nat :=
  outcomes.countP fun o => o.2.isStaged

/-- If all that is staged is committed, those that are not ready go back to the queue. -/
theorem keptEntries_eq_waiting {courses : List (Course κ)}
    (h : ∀ course ∈ courses, ∀ decision, course.fate = .decided decision → decision = .commit) :
    keptEntries courses = waiting (courses.map fun c => (c.entry, c.outcome)) := by
  rw [waiting, List.filter_map, List.map_map, keptEntries]
  have hfilter : courses.filter (fun c => c.fate.isKept) =
      courses.filter ((fun o => o.2.isNotReady) ∘ fun c => (c.entry, c.outcome)) := by
    refine List.filter_congr fun course hcourse => ?_
    cases course with
    | staged e op decision =>
      rw [h _ hcourse decision rfl]
      rfl
    | notReady e dependency | done e | invalid e error => rfl
  rw [hfilter]
  rfl

/-- A pass that commits all that it stages puts back what is not ready and consumes the rest of its
batch. -/
theorem reconcile_of_commits {ε δ : Type} {ops : BulkTable τ κ ε δ} {p : Pass τ ε δ}
    {outcomes : List (Entry × StageOutcome κ)} {t t' : τ} {d' : δ} (hne : p.queue.entries ≠ [])
    (hs : ops.stageAll p.env (p.queue.entries.take p.queue.batchSize) p.table = (outcomes, t))
    (hf : ops.flushStaged outcomes t p.switch = (.ok (), t', d'))
    (hcommits : ∀ course ∈ ops.settle outcomes p.env t', ∀ decision,
      course.fate = .decided decision → decision = .commit) :
    ∃ summary q, ops.reconcile p = (.ok summary,
        ⟨q, ops.endPass (ops.commitAll outcomes p.env t').2.2,
          (ops.commitAll outcomes p.env t').2.1, d'⟩) ∧
      q.entries = waiting outcomes ++ p.queue.entries.drop p.queue.batchSize ∧
      q.batchSize = p.queue.batchSize ∧
      summary.consumed + (waiting outcomes).length = outcomes.length := by
  obtain ⟨hbatch, hpass⟩ := reconcile_settle ops hne hs hf
  have hkept := keptEntries_eq_waiting hcommits
  rw [settle_outcomes] at hkept
  have hcounted := counted_ofFates (ops.settle outcomes p.env t')
  have hleaving := hcounted.leaving
  rw [hcounted.requeued, hkept] at hleaving
  have hcourses : (ops.settle outcomes p.env t').length = outcomes.length := by
    have houtcomes := settle_outcomes ops outcomes p.env t'
    rw [← List.length_map (f := fun c : Course κ => (c.entry, c.outcome)), houtcomes]
  have hqueue := entries_requeue_keptEntries hbatch
  rw [hkept] at hpass hqueue
  exact ⟨_, _, hpass, hqueue, by simp, hleaving.trans hcourses⟩

theorem length_waiting_add_le (outcomes : List (Entry × StageOutcome κ)) :
    (waiting outcomes).length + stagedCount outcomes ≤ outcomes.length := by
  rw [waiting, List.length_map, ← List.countP_eq_length_filter, stagedCount]
  induction outcomes with
  | nil => exact Nat.le_refl 0
  | cons o rest ih =>
    obtain ⟨e, outcome⟩ := o
    have hone : (if outcome.isNotReady = true then 1 else 0) +
        (if outcome.isStaged = true then 1 else 0) ≤ 1 := by
      cases outcome <;> simp [StageOutcome.isNotReady, StageOutcome.isStaged]
    rw [List.countP_cons, List.countP_cons, List.length_cons]
    dsimp only
    omega

end BulkTable

namespace Uptake

variable {ops : BulkTable τ κ Context Simulator} (U : Uptake ops)

/-! ## Staging and committing -/

theorem stageAll {c : Context} (es : List Entry) {n : Nat} {t : τ} (h : U.Staging n t) :
    U.Staging (n + stagedCount (ops.stageAll c es t).1) (ops.stageAll c es t).2 ∧
      (∀ {op}, U.Awaits t op → U.Awaits (ops.stageAll c es t).2 op) ∧
      ∀ e op, (e, .staged op) ∈ (ops.stageAll c es t).1 →
        U.Awaits (ops.stageAll c es t).2 op := by
  induction es generalizing n t with
  | nil => exact ⟨h, id, nofun⟩
  | cons e rest ih =>
    obtain ⟨hunstaged, hsame⟩ | ⟨op, t', hstage, hnext, hawaits, hkept⟩ := U.stage e c h
    · obtain ⟨hend, hlater, hrest⟩ := ih h
      simp only [BulkTable.stageAll, hsame, stagedCount, List.countP_cons, hunstaged] at hend ⊢
      refine ⟨hend, hlater, fun e' op hmem => ?_⟩
      rcases List.mem_cons.1 hmem with heq | hmem
      · rw [← (Prod.mk.inj heq).2] at hunstaged
        cases hunstaged
      · exact hrest e' op hmem
    · obtain ⟨hend, hlater, hrest⟩ := ih hnext
      simp only [BulkTable.stageAll, hstage, stagedCount, List.countP_cons,
        StageOutcome.isStaged, if_true] at hend ⊢
      rw [Nat.add_assoc, Nat.add_comm 1] at hend
      refine ⟨hend, fun hop => hlater (hkept hop), fun e' op' hmem => ?_⟩
      rcases List.mem_cons.1 hmem with heq | hmem
      · cases heq
        exact hlater hawaits
      · exact hrest e' op' hmem

include U in
/-- Where nothing is staged, every change finds the table as it was. -/
theorem stageAll_unstaged {c : Context} (es : List Entry) {n : Nat} {t : τ} (h : U.Staging n t)
    (hnone : stagedCount (ops.stageAll c es t).1 = 0) :
    ops.stageAll c es t = (es.map fun e => (e, (ops.stage e c t).1), t) := by
  induction es with
  | nil => rfl
  | cons e rest ih =>
    obtain ⟨hunstaged, hsame⟩ | ⟨op, t', hstage, -⟩ := U.stage e c h
    · simp only [BulkTable.stageAll, stagedCount, List.countP_cons, hsame, hunstaged] at hnone
      simp only [BulkTable.stageAll, hsame, ih hnone, List.map_cons]
    · simp only [BulkTable.stageAll, stagedCount, List.countP_cons, hstage,
        StageOutcome.isStaged, if_true] at hnone
      cases hnone

theorem commitAll (outcomes : List (Entry × StageOutcome κ)) {c : Context} {t : τ}
    (h : U.Committing t) (hgranted : ∀ e op, (e, .staged op) ∈ outcomes → U.Granted t op) :
    U.Committing (ops.commitAll outcomes c t).2.2 ∧
      ∀ course ∈ ops.settle outcomes c t, ∀ decision, course.fate = .decided decision →
        decision = .commit := by
  induction outcomes generalizing c t with
  | nil => exact ⟨h, nofun⟩
  | cons o rest ih =>
    obtain ⟨e, outcome⟩ := o
    have hrest : ∀ e op, (e, .staged op) ∈ rest → U.Granted t op :=
      fun e op hmem => hgranted e op (List.mem_cons_of_mem _ hmem)
    cases outcome with
    | staged op =>
      obtain ⟨hdecision, hnext, hkept⟩ := U.commit e c h (hgranted e op (List.mem_cons_self ..))
      obtain ⟨hend, hcourses⟩ := ih hnext (c := (ops.commit e op c t).2.1)
        fun e' op' hmem => hkept (hrest e' op' hmem)
      refine ⟨hend, List.forall_mem_cons.2 ⟨?_, hcourses⟩⟩
      rintro decision ⟨⟩
      exact hdecision
    | notReady dependency | done | invalid error =>
      obtain ⟨hend, hcourses⟩ := ih h (c := c) hrest
      exact ⟨hend, List.forall_mem_cons.2 ⟨nofun, hcourses⟩⟩

/-- Where nothing is staged, commits change nothing. -/
theorem commitAll_unstaged {outcomes : List (Entry × StageOutcome κ)} (c : Context) (t : τ)
    (h : ∀ o ∈ outcomes, o.2.isStaged = false) :
    (ops.commitAll outcomes c t).2 = (c, t) ∧
      ∀ course ∈ ops.settle outcomes c t, ∀ decision, course.fate = .decided decision →
        decision = .commit := by
  induction outcomes with
  | nil => exact ⟨rfl, nofun⟩
  | cons o rest ih =>
    obtain ⟨e, outcome⟩ := o
    rw [List.forall_mem_cons] at h
    obtain ⟨hend, hcourses⟩ := ih h.2
    cases outcome with
    | staged op => cases h.1
    | notReady dependency | done | invalid error =>
      exact ⟨hend, List.forall_mem_cons.2 ⟨nofun, hcourses⟩⟩

/-! ## Passes -/

/-- What a pass on an ample switch comes to. The switch remains ample for what is pending then, and
a pass that consumes nothing has changed nothing and found its batch not ready. -/
structure Taken (m : Nat) (summary : Summary) (p p' : Pass τ Context Simulator) : Prop where
  tidy : U.Tidy p'.table
  ample : p'.switch.Ample (m + p'.queue.entries.length)
  consumed : summary.consumed + p'.queue.entries.length = p.queue.entries.length
  batchSize : p'.queue.batchSize = p.queue.batchSize
  quiet : summary.consumed = 0 →
    p'.table = p.table ∧ p'.env = p.env ∧ p'.switch = p.switch ∧
      p'.queue.entries = p.queue.entries ∧
      ∀ e ∈ p.queue.entries.take p.queue.batchSize, (ops.stage e p.env p.table).1.isNotReady = true

variable {p : Pass τ Context Simulator} {outcomes : List (Entry × StageOutcome κ)} {t : τ} {m : Nat}

/-- A batch and what it leaves behind make up the queue. -/
theorem length_outcomes_add
    (hs : ops.stageAll p.env (p.queue.entries.take p.queue.batchSize) p.table = (outcomes, t)) :
    outcomes.length + (p.queue.entries.drop p.queue.batchSize).length =
      p.queue.entries.length := by
  have hentries := stageAll_entries ops p.env (p.queue.entries.take p.queue.batchSize) p.table
  rw [hs] at hentries
  have htaken := congrArg List.length hentries
  rw [List.length_map] at htaken
  rw [htaken, ← List.length_append, List.take_append_drop]

/-- A pass that stages nothing sends nothing and changes nothing. -/
theorem reconcile_unstaged (htidy : U.Tidy p.table)
    (hample : p.switch.Ample (m + p.queue.entries.length)) (hne : p.queue.entries ≠ [])
    (hs : ops.stageAll p.env (p.queue.entries.take p.queue.batchSize) p.table = (outcomes, t))
    (hnone : stagedCount outcomes = 0) :
    ∃ summary p', ops.reconcile p = (.ok summary, p') ∧ U.Taken m summary p p' := by
  obtain ⟨hstart, hends⟩ := U.start htidy
  have hlength := length_outcomes_add hs
  have hentries := stageAll_entries ops p.env (p.queue.entries.take p.queue.batchSize) p.table
  have hstaged := U.stageAll_unstaged (p.queue.entries.take p.queue.batchSize) hstart (c := p.env)
    (by rw [hs]; exact hnone)
  rw [hs] at hentries hstaged
  obtain ⟨houtcomes, rfl⟩ := Prod.mk.inj hstaged
  have hidle : ∀ o ∈ outcomes, o.2.isStaged = false := by
    intro o ho
    have hzero := List.countP_eq_zero.1 hnone o ho
    simpa using hzero
  have hflush : ops.flushStaged outcomes p.table p.switch = (.ok (), p.table, p.switch) := by
    rw [flushStaged, if_neg]
    simpa using hidle
  obtain ⟨hcommitted, hcommits⟩ := commitAll_unstaged p.env p.table hidle
  obtain ⟨summary, q, hpass, hqueue, hbatchSize, hconsumed⟩ :=
    reconcile_of_commits hne hs hflush hcommits
  rw [hcommitted, hends] at hpass
  have hleft : summary.consumed + q.entries.length = p.queue.entries.length := by
    rw [hqueue, List.length_append]
    omega
  refine ⟨summary, _, hpass, htidy, hample.mono (by dsimp only; omega), hleft, hbatchSize,
    fun hzero => ?_⟩
  have hall : (outcomes.filter fun o => o.2.isNotReady) = outcomes := by
    refine List.filter_sublist.eq_of_length ?_
    rw [waiting, List.length_map] at hconsumed
    omega
  refine ⟨rfl, rfl, rfl, ?_, fun e he => ?_⟩
  · dsimp only
    rw [hqueue, waiting, hall, hentries, List.take_append_drop]
  · have hmem : (e, (ops.stage e p.env p.table).1) ∈ outcomes := by
      rw [houtcomes]
      exact List.mem_map_of_mem he
    rw [← hall] at hmem
    exact (List.mem_filter.1 hmem).2

/-- A pass that stages something commits all of it, and so consumes it. -/
theorem reconcile_staged (htidy : U.Tidy p.table)
    (hample : p.switch.Ample (m + p.queue.entries.length)) (hne : p.queue.entries ≠ [])
    (hs : ops.stageAll p.env (p.queue.entries.take p.queue.batchSize) p.table = (outcomes, t))
    (hsome : 0 < stagedCount outcomes) :
    ∃ summary p', ops.reconcile p = (.ok summary, p') ∧ U.Taken m summary p p' := by
  have hlength := length_outcomes_add hs
  obtain ⟨hstaging, -, hawaits⟩ := U.stageAll (p.queue.entries.take p.queue.batchSize)
    (U.start htidy).1 (c := p.env)
  rw [hs] at hstaging hawaits
  rw [Nat.zero_add] at hstaging
  have hwaiting := length_waiting_add_le outcomes
  have hroom : p.switch.Ample (m + ((waiting outcomes).length +
      (p.queue.entries.drop p.queue.batchSize).length) + stagedCount outcomes) :=
    hample.mono (by omega)
  obtain ⟨t', d', hsent, hcommitting, hleft, hgranted⟩ := U.flush hstaging hroom
  have hany : (outcomes.any fun o => o.2.isStaged) = true := by
    obtain ⟨o, ho, hstaged⟩ := List.countP_pos_iff.1 hsome
    exact List.any_eq_true.2 ⟨o, ho, hstaged⟩
  have hflush : ops.flushStaged outcomes t p.switch = (.ok (), t', d') := by
    rw [flushStaged, if_pos hany, hsent]
  obtain ⟨hend, hcommits⟩ := U.commitAll outcomes hcommitting (c := p.env)
    fun e op hmem => hgranted (hawaits e op hmem)
  obtain ⟨summary, q, hpass, hqueue, hbatchSize, hconsumed⟩ :=
    reconcile_of_commits hne hs hflush hcommits
  have hpending : q.entries.length =
      (waiting outcomes).length + (p.queue.entries.drop p.queue.batchSize).length := by
    rw [hqueue, List.length_append]
  refine ⟨summary, _, hpass, U.finish hend, ?_, ?_, hbatchSize, fun hzero => ?_⟩
  · dsimp only
    rw [hpending]
    exact hleft
  · dsimp only
    omega
  · omega

/-- A pass commits what it stages and puts back what is not ready. -/
theorem reconcile (htidy : U.Tidy p.table)
    (hample : p.switch.Ample (m + p.queue.entries.length)) :
    ∃ summary p', ops.reconcile p = (.ok summary, p') ∧ U.Taken m summary p p' := by
  by_cases hne : p.queue.entries = []
  · refine ⟨.empty, p, reconcile_idle hne, htidy, hample, Nat.zero_add _, rfl,
      fun _ => ⟨rfl, rfl, rfl, rfl, ?_⟩⟩
    rw [hne, List.take_nil]
    nofun
  rcases hs : ops.stageAll p.env (p.queue.entries.take p.queue.batchSize) p.table
    with ⟨outcomes, t⟩
  obtain hnone | hsome := Nat.eq_zero_or_pos (stagedCount outcomes)
  · exact U.reconcile_unstaged htidy hample hne hs hnone
  · exact U.reconcile_staged htidy hample hne hs hsome

end Uptake

end DashAgent
