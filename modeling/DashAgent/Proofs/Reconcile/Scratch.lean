import DashAgent.Proofs.Reconcile.Settlement

/-!
# What belongs to a pass only

What a table writes while it stages and flushes is forgotten when the pass ends, and a change that
is not staged writes nothing at all. A failed pass therefore leaves the table as the end of a pass
would have left it in the first place, and puts back what was staged and what waits; what was found
to be done with or invalid is consumed all the same. The changes that are not staged can also be
taken out of a batch beforehand: the flush and the commits of the others go as they did.
-/
namespace DashAgent

open BulkTable

variable {τ κ ε δ : Type}

namespace BulkTable

def stagedOutcomes (outcomes : List (Entry × StageOutcome κ)) : List (Entry × StageOutcome κ) :=
  outcomes.filter fun o => o.2.isStaged

def stagedEntries (outcomes : List (Entry × StageOutcome κ)) : List Entry :=
  (stagedOutcomes outcomes).map Prod.fst

variable {ops : BulkTable τ κ ε δ}

theorem any_stagedOutcomes (outcomes : List (Entry × StageOutcome κ)) :
    ((stagedOutcomes outcomes).any fun o => o.2.isStaged) =
      outcomes.any fun o => o.2.isStaged := by
  rw [stagedOutcomes, List.any_filter]
  congr 1
  funext o
  exact Bool.and_self _

/-- Only what is staged has a part in the flush. -/
theorem flushStaged_stagedOutcomes (outcomes : List (Entry × StageOutcome κ)) (t : τ) (d : δ) :
    ops.flushStaged (stagedOutcomes outcomes) t d = ops.flushStaged outcomes t d := by
  rw [flushStaged, any_stagedOutcomes, ← flushStaged]

/-- Only what is staged has a part in the commits. -/
theorem commitAll_filter {keep : StageOutcome κ → Bool}
    (hkeep : ∀ outcome, outcome.isStaged = true → keep outcome = true)
    (outcomes : List (Entry × StageOutcome κ)) (c : ε) (t : τ) :
    (ops.commitAll (outcomes.filter fun o => keep o.2) c t).2 = (ops.commitAll outcomes c t).2 := by
  induction outcomes generalizing c t with
  | nil => rfl
  | cons o rest ih =>
    obtain ⟨e, outcome⟩ := o
    cases outcome with
    | staged op =>
      have hkept : keep (.staged op) = true := hkeep _ rfl
      simp only [List.filter_cons, hkept, if_true, commitAll]
      exact ih ..
    | notReady | done | invalid =>
      rw [List.filter_cons]
      split <;> exact ih ..

/-- What staging writes is forgotten. -/
theorem endPass_stageAll (h : ∀ e c t, ops.endPass (ops.stage e c t).2 = ops.endPass t) (c : ε)
    (es : List Entry) (t : τ) : ops.endPass (ops.stageAll c es t).2 = ops.endPass t := by
  induction es generalizing t with
  | nil => rfl
  | cons e rest ih => exact (ih _).trans (h e c t)

/-- Changes that are not staged can be left out. -/
theorem stageAll_filter
    (h : ∀ {e c t}, (ops.stage e c t).1.isStaged = false → (ops.stage e c t).2 = t)
    {keep : StageOutcome κ → Bool}
    (hkeep : ∀ outcome, outcome.isStaged = true → keep outcome = true) (c : ε) (es : List Entry)
    (t : τ) :
    ops.stageAll c (((ops.stageAll c es t).1.filter fun o => keep o.2).map Prod.fst) t =
      ((ops.stageAll c es t).1.filter fun o => keep o.2, (ops.stageAll c es t).2) := by
  induction es generalizing t with
  | nil => rfl
  | cons e rest ih =>
    have hrest := ih (ops.stage e c t).2
    cases hkept : keep (ops.stage e c t).1 with
    | true =>
      simp only [stageAll, List.filter_cons, hkept, if_true, List.map_cons] at hrest ⊢
      rw [hrest]
    | false =>
      have hunstaged : (ops.stage e c t).1.isStaged = false := by
        rw [← Bool.not_eq_true]
        intro hstaged
        rw [hkeep _ hstaged] at hkept
        cases hkept
      simp only [stageAll, List.filter_cons, hkept, Bool.false_eq_true, if_false,
        h hunstaged] at hrest ⊢
      exact hrest

/-- What a pass leaves besides its queue, and whether it was answered. -/
def remains (ops : BulkTable τ κ ε δ) (p : Pass τ ε δ) : Except DriverError Unit × τ × ε × δ :=
  let (answer, p) := ops.reconcile p
  (answer.map fun _ => (), ops.endPass p.table, p.env, p.switch)

/-- What the flush and the commits of a batch leave. -/
def concluded (ops : BulkTable τ κ ε δ) (outcomes : List (Entry × StageOutcome κ)) (c : ε) (t : τ)
    (d : δ) : Except DriverError Unit × τ × ε × δ :=
  match ops.flushStaged outcomes t d with
  | (.error error, t, d) => (.error error, ops.endPass t, c, d)
  | (.ok (), t, d) =>
    let (_, c, t) := ops.commitAll outcomes c t
    (.ok (), ops.endPass t, c, d)

/-- A pass leaves what its flush and its commits leave. -/
theorem remains_eq (hend : ∀ t, ops.endPass (ops.endPass t) = ops.endPass t) {p : Pass τ ε δ}
    {outcomes : List (Entry × StageOutcome κ)} {t : τ}
    (hs : ops.stageAll p.env (p.queue.entries.take p.queue.batchSize) p.table = (outcomes, t)) :
    ops.remains p = ops.concluded outcomes p.env t p.switch := by
  by_cases hne : p.queue.entries = []
  · rw [hne, List.take_nil] at hs
    cases hs
    rw [remains, reconcile_idle hne]
    rfl
  obtain ⟨answer, t', d', hf⟩ :
      ∃ answer t' d', ops.flushStaged outcomes t p.switch = (answer, t', d') := ⟨_, _, _, rfl⟩
  cases answer with
  | error error =>
    simp only [remains, concluded, reconcile_failed hne hs hf, hf, hend]
    rfl
  | ok =>
    simp only [remains, concluded, reconcile_answered hne hs hf, hf, hend]
    rfl

theorem concluded_stagedOutcomes (outcomes : List (Entry × StageOutcome κ)) (c : ε) (t : τ)
    (d : δ) : ops.concluded (stagedOutcomes outcomes) c t d = ops.concluded outcomes c t d := by
  unfold concluded
  rw [flushStaged_stagedOutcomes]
  split
  · rfl
  · next t' d' _ =>
    have hcommits : (ops.commitAll (stagedOutcomes outcomes) c t').2 =
        (ops.commitAll outcomes c t').2 := commitAll_filter (fun _ => id) outcomes c t'
    simp only [hcommits]

end BulkTable

/-! ## Deeds -/

/-- What a pass does once it has staged its batch: each call with what it found and what it left. -/
inductive Deed (κ ε τ δ : Type) where
  | flush (found : τ × δ) (answer : Except DriverError Unit) (left : τ × δ)
  | commit (e : Entry) (op : κ) (found : ε × τ) (decision : Decision) (left : ε × τ)

namespace BulkTable

variable (ops : BulkTable τ κ ε δ)

/-- The same table with a record of its flush and its commits. -/
def traced : BulkTable (τ × List (Deed κ ε τ δ)) κ ε δ where
  stage e c t :=
    let (outcome, table) := ops.stage e c t.1
    (outcome, table, t.2)
  flush t d :=
    let (answer, table, d') := ops.flush t.1 d
    (answer, (table, t.2 ++ [.flush (t.1, d) answer (table, d')]), d')
  commit e op c t :=
    let (decision, c', table) := ops.commit e op c t.1
    (decision, c', table, t.2 ++ [.commit e op (c, t.1) decision (c', table)])
  endPass t := (ops.endPass t.1, t.2)

theorem stageAll_traced (c : ε) (es : List Entry) (t : τ) (log : List (Deed κ ε τ δ)) :
    ops.traced.stageAll c es (t, log) =
      ((ops.stageAll c es t).1, (ops.stageAll c es t).2, log) := by
  induction es generalizing t with
  | nil => rfl
  | cons e rest ih =>
    have hrest := ih (ops.stage e c t).2
    simp only [stageAll, traced] at hrest ⊢
    rw [hrest]

/-- The flush of a pass and its commits, in order. -/
def deeds (p : Pass τ ε δ) : List (Deed κ ε τ δ) :=
  (ops.traced.reconcile ⟨p.queue, (p.table, []), p.env, p.switch⟩).2.table.2

theorem flushStaged_traced (outcomes : List (Entry × StageOutcome κ)) (t : τ)
    (log : List (Deed κ ε τ δ)) (d : δ) :
    ∃ log', ops.traced.flushStaged outcomes (t, log) d =
      ((ops.flushStaged outcomes t d).1, ((ops.flushStaged outcomes t d).2.1, log'),
        (ops.flushStaged outcomes t d).2.2) := by
  unfold flushStaged
  split <;> exact ⟨_, rfl⟩

theorem commitAll_traced (outcomes : List (Entry × StageOutcome κ)) (c : ε) (t : τ)
    (log : List (Deed κ ε τ δ)) :
    ∃ log', ops.traced.commitAll outcomes c (t, log) =
      ((ops.commitAll outcomes c t).1, (ops.commitAll outcomes c t).2.1,
        (ops.commitAll outcomes c t).2.2, log') := by
  induction outcomes generalizing c t log with
  | nil => exact ⟨log, rfl⟩
  | cons o rest ih =>
    obtain ⟨e, outcome⟩ := o
    cases outcome with
    | staged op =>
      obtain ⟨log', hrest⟩ := ih (ops.commit e op c t).2.1 (ops.commit e op c t).2.2
        (log ++ [.commit e op (c, t) (ops.commit e op c t).1 (ops.commit e op c t).2])
      refine ⟨log', ?_⟩
      simp only [traced] at hrest
      simp only [commitAll, traced, hrest]
    | notReady | done | invalid =>
      obtain ⟨log', hrest⟩ := ih c t log
      exact ⟨log', by simp only [commitAll, hrest]⟩

/-- Recording the deeds of a pass does not change it. -/
theorem reconcile_traced (p : Pass τ ε δ) :
    ops.traced.reconcile ⟨p.queue, (p.table, []), p.env, p.switch⟩ =
      ((ops.reconcile p).1, ⟨(ops.reconcile p).2.queue, ((ops.reconcile p).2.table, ops.deeds p),
        (ops.reconcile p).2.env, (ops.reconcile p).2.switch⟩) := by
  rw [deeds]
  by_cases hne : p.queue.entries = []
  · have hidle : ops.traced.reconcile ⟨p.queue, (p.table, []), p.env, p.switch⟩ = _ :=
      reconcile_idle hne
    rw [hidle, reconcile_idle hne]
  obtain ⟨outcomes, t, hs⟩ :
      ∃ outcomes t, ops.stageAll p.env (p.queue.entries.take p.queue.batchSize) p.table =
        (outcomes, t) := ⟨_, _, rfl⟩
  obtain ⟨answer, t', d', hf⟩ :
      ∃ answer t' d', ops.flushStaged outcomes t p.switch = (answer, t', d') := ⟨_, _, _, rfl⟩
  have hs' := stageAll_traced ops p.env (p.queue.entries.take p.queue.batchSize) p.table []
  obtain ⟨log, hf'⟩ := flushStaged_traced ops outcomes t [] p.switch
  rw [hs] at hs'
  rw [hf] at hf'
  cases answer with
  | error error =>
    have hfailed : ops.traced.reconcile ⟨p.queue, (p.table, []), p.env, p.switch⟩ = _ :=
      reconcile_failed hne hs' hf'
    rw [hfailed, reconcile_failed hne hs hf]
    rfl
  | ok =>
    have hanswered : ops.traced.reconcile ⟨p.queue, (p.table, []), p.env, p.switch⟩ = _ :=
      reconcile_answered hne hs' hf'
    obtain ⟨log', hcommits⟩ := commitAll_traced ops outcomes p.env t' log
    rw [hanswered, reconcile_answered hne hs hf, hcommits]
    rfl

/-- What a pass does when the changes that it would not stage are taken out of its batch: its flush
and its commits find and leave the same, and so does the pass. Without a batch there is no pass to
end, so the tables are compared as the end of a pass leaves them. -/
structure Trimmed (p : Pass τ ε δ) (q : ChangeQueue) : Prop where
  deeds : ops.deeds { p with queue := q } = ops.deeds p
  remains : ops.remains { p with queue := q } = ops.remains p

end BulkTable

/-! ## Scratch -/

/-- A table whose staging and flushing write nothing that outlasts the pass. -/
structure Scratch (ops : BulkTable τ κ ε δ) : Prop where
  unstaged : ∀ {e c t}, (ops.stage e c t).1.isStaged = false → (ops.stage e c t).2 = t
  endPass_stage : ∀ e c t, ops.endPass (ops.stage e c t).2 = ops.endPass t
  endPass_flush : ∀ t d, ops.endPass (ops.flush t d).2.1 = ops.endPass t
  endPass_endPass : ∀ t, ops.endPass (ops.endPass t) = ops.endPass t

namespace Scratch

variable {ops : BulkTable τ κ ε δ}

/-! ### Failed passes -/

/-- The queue is put back as it was if the whole batch was staged or waits. -/
theorem append_drop_eq_iff {outcomes : List (Entry × StageOutcome κ)} {es : List Entry} {n : Nat}
    (h : outcomes.map Prod.fst = es.take n) :
    unanswered outcomes ++ es.drop n = es ↔
      ∀ o ∈ outcomes, o.2.isStaged = true ∨ o.2.isNotReady = true := by
  have hall : (outcomes.filter fun o => o.2.isStaged || o.2.isNotReady) = outcomes ↔
      ∀ o ∈ outcomes, o.2.isStaged = true ∨ o.2.isNotReady = true := by
    rw [List.filter_eq_self]
    simp only [Bool.or_eq_true]
  rw [← hall]
  conv => lhs; rhs; rw [← List.take_append_drop n es, ← h]
  rw [List.append_cancel_right_eq, unanswered]
  constructor
  · intro heq
    refine List.filter_sublist.eq_of_length ?_
    have hlength := congrArg List.length heq
    rwa [List.length_map, List.length_map] at hlength
  · intro heq
    rw [heq]

/-- A failed pass leaves the shared state alone and the table as the end of a pass would have left
it. It puts back the changes that were staged or wait, in front of the rest of the queue. -/
theorem reconcile_error (h : Scratch ops) {p : Pass τ ε δ} {error : DriverError}
    (herror : (ops.reconcile p).1 = .error error) :
    (ops.reconcile p).2.table = ops.endPass p.table ∧ (ops.reconcile p).2.env = p.env ∧
      (ops.reconcile p).2.queue.entries =
        unanswered (ops.stageAll p.env (p.queue.entries.take p.queue.batchSize) p.table).1 ++
          p.queue.entries.drop p.queue.batchSize := by
  by_cases hne : p.queue.entries = []
  · rw [reconcile_idle hne] at herror
    cases herror
  obtain ⟨outcomes, t, hs⟩ :
      ∃ outcomes t, ops.stageAll p.env (p.queue.entries.take p.queue.batchSize) p.table =
        (outcomes, t) := ⟨_, _, rfl⟩
  obtain ⟨answer, t', d', hf⟩ :
      ∃ answer t' d', ops.flushStaged outcomes t p.switch = (answer, t', d') := ⟨_, _, _, rfl⟩
  cases answer with
  | ok answer =>
    rw [reconcile_answered hne hs hf] at herror
    cases herror
  | error error' =>
    have hforgets := endPass_stageAll h.endPass_stage p.env
      (p.queue.entries.take p.queue.batchSize) p.table
    have hentries := stageAll_entries ops p.env (p.queue.entries.take p.queue.batchSize) p.table
    rw [hs] at hforgets hentries ⊢
    rw [reconcile_failed hne hs hf]
    refine ⟨?_, rfl, ChangeQueue.entries_requeue_popBatch ?_⟩
    · unfold flushStaged at hf
      split at hf
      · have hflush := h.endPass_flush t p.switch
        rw [hf] at hflush
        exact hflush.trans hforgets
      · cases hf
    · rw [← hentries]
      exact List.filter_sublist.map _

/-! ### Batches without what is not staged -/

variable (ops) in
/-- A pass over those changes of its batch that are staged leaves what the whole pass leaves. -/
theorem remains_stagedEntries
    (hunstaged : ∀ {e c t}, (ops.stage e c t).1.isStaged = false → (ops.stage e c t).2 = t)
    (hend : ∀ t, ops.endPass (ops.endPass t) = ops.endPass t) {p : Pass τ ε δ} {q : ChangeQueue}
    (hq : q.entries.take q.batchSize =
      stagedEntries (ops.stageAll p.env (p.queue.entries.take p.queue.batchSize) p.table).1) :
    ops.remains { p with queue := q } = ops.remains p := by
  have hagain := stageAll_filter hunstaged (fun _ => id) p.env
    (p.queue.entries.take p.queue.batchSize) p.table
  obtain ⟨outcomes, t, hs⟩ :
      ∃ outcomes t, ops.stageAll p.env (p.queue.entries.take p.queue.batchSize) p.table =
        (outcomes, t) := ⟨_, _, rfl⟩
  rw [hs] at hq hagain
  have hs' : ops.stageAll p.env (q.entries.take q.batchSize) p.table =
      (stagedOutcomes outcomes, t) := by
    rw [hq]
    exact hagain
  rw [remains_eq hend hs, remains_eq (p := { p with queue := q }) hend hs',
    concluded_stagedOutcomes]

theorem trimmed (h : Scratch ops) {p : Pass τ ε δ} {q : ChangeQueue}
    (hq : q.entries.take q.batchSize =
      stagedEntries (ops.stageAll p.env (p.queue.entries.take p.queue.batchSize) p.table).1) :
    Trimmed ops p q := by
  refine ⟨?_, remains_stagedEntries ops h.unstaged h.endPass_endPass hq⟩
  have hunstaged : ∀ {e c} {t : τ × List (Deed κ ε τ δ)},
      (ops.traced.stage e c t).1.isStaged = false → (ops.traced.stage e c t).2 = t := by
    intro e c t hunstaged
    exact Prod.ext (h.unstaged hunstaged) rfl
  have hend : ∀ t, ops.traced.endPass (ops.traced.endPass t) = ops.traced.endPass t :=
    fun t => Prod.ext (h.endPass_endPass t.1) rfl
  rw [← congrArg Prod.fst (stageAll_traced ops p.env _ p.table [])] at hq
  have hremains := remains_stagedEntries ops.traced
    (p := ⟨p.queue, (p.table, []), p.env, p.switch⟩) hunstaged hend hq
  have htable := congrArg (fun r => r.2.1.2) hremains
  exact htable

end Scratch

end DashAgent
