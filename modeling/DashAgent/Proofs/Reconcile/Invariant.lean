import DashAgent.Proofs.Reconcile.Settlement

/-!
# Invariants of a pass

What holds of a pass is shown one call at a time. A `PassInvariant` says what holds while entries
are staged and while outcomes are committed, and that every call of the table keeps it. The
theorems here carry it through the loops of a pass, whatever the driver answers.
-/
namespace DashAgent

open BulkTable

variable {τ κ ε δ : Type} {ops : BulkTable τ κ ε δ}

namespace BulkTable

variable {env : ε} {P : List (Entry × StageOutcome κ) → List Entry → τ → Prop}

/-- What every call keeps while entries are staged holds when all of them are. -/
theorem stageAll_keeps
    (hstage : ∀ {outcomes e rest t}, P outcomes (e :: rest) t →
      P (outcomes ++ [(e, (ops.stage e env t).1)]) rest (ops.stage e env t).2)
    {outcomes : List (Entry × StageOutcome κ)} {es : List Entry} {t : τ} (h : P outcomes es t) :
    P (outcomes ++ (ops.stageAll env es t).1) [] (ops.stageAll env es t).2 := by
  induction es generalizing outcomes t with
  | nil => simpa [BulkTable.stageAll] using h
  | cons e rest ih =>
    have hnext := ih (hstage h)
    simpa only [BulkTable.stageAll, List.append_assoc, List.singleton_append] using hnext

/-- What every call keeps while entries are staged holds at the moment of each of them. -/
theorem stageAll_moment
    (hstage : ∀ {outcomes e rest t}, P outcomes (e :: rest) t →
      P (outcomes ++ [(e, (ops.stage e env t).1)]) rest (ops.stage e env t).2)
    {outcomes front back : List (Entry × StageOutcome κ)} {o : Entry × StageOutcome κ}
    {es : List Entry} {t : τ} (h : P outcomes es t)
    (hsplit : (ops.stageAll env es t).1 = front ++ o :: back) :
    ∃ rest t', P (outcomes ++ front) (o.1 :: rest) t' ∧ o.2 = (ops.stage o.1 env t').1 := by
  induction es generalizing outcomes front t with
  | nil => simp [BulkTable.stageAll] at hsplit
  | cons e rest ih =>
    simp only [BulkTable.stageAll] at hsplit
    cases front with
    | nil =>
      obtain ⟨rfl, -⟩ := List.cons.inj hsplit
      exact ⟨rest, t, by rwa [List.append_nil], rfl⟩
    | cons o' front =>
      obtain ⟨rfl, hrest⟩ := List.cons.inj hsplit
      obtain ⟨rest', t', hmoment, houtcome⟩ := ih (hstage h) hrest
      exact ⟨rest', t', by rwa [List.append_assoc, List.singleton_append] at hmoment, houtcome⟩

end BulkTable

/-- Assertions about every moment of a pass, each kept by the calls that the pass makes then. -/
structure PassInvariant (ops : BulkTable τ κ ε δ) where
  /-- The given outcomes are known, the given entries are still to be staged. -/
  staging : List (Entry × StageOutcome κ) → List Entry → ε → τ → δ → Prop
  /-- The given courses are known, the given outcomes are still to be committed. -/
  committing : List (Course κ) → List (Entry × StageOutcome κ) → ε → τ → δ → Prop
  /-- The pass has ended, and its entries took the given courses. -/
  answered : List (Course κ) → ε → τ → δ → Prop
  /-- The pass has ended with an error of the driver. -/
  unanswered : ε → τ → δ → Prop
  stage : ∀ {outcomes e rest env t d}, staging outcomes (e :: rest) env t d →
    staging (outcomes ++ [(e, (ops.stage e env t).1)]) rest env (ops.stage e env t).2 d
  /-- Nothing was staged, so nothing is flushed. -/
  idle : ∀ {outcomes env t d}, staging outcomes [] env t d →
    (∀ o ∈ outcomes, o.2.isStaged = false) → committing [] outcomes env t d
  flush : ∀ {outcomes env t d t' d'}, staging outcomes [] env t d →
    ops.flush t d = (.ok (), t', d') → committing [] outcomes env t' d'
  failure : ∀ {outcomes env t d error t' d'}, staging outcomes [] env t d →
    ops.flush t d = (.error error, t', d') → unanswered env (ops.endPass t') d'
  commit : ∀ {courses e op rest env t d}, committing courses ((e, .staged op) :: rest) env t d →
    committing (courses ++ [.staged e op (ops.commit e op env t).1]) rest
      (ops.commit e op env t).2.1 (ops.commit e op env t).2.2 d
  /-- What was not staged is passed over. -/
  skip : ∀ {courses c rest env t d}, c.outcome.isStaged = false →
    committing courses ((c.entry, c.outcome) :: rest) env t d →
    committing (courses ++ [c]) rest env t d
  finish : ∀ {courses env t d}, committing courses [] env t d →
    answered courses env (ops.endPass t) d

namespace PassInvariant

variable (I : PassInvariant ops)

theorem stageAll {env : ε} {es : List Entry} {outcomes : List (Entry × StageOutcome κ)} {t : τ}
    {d : δ} (h : I.staging outcomes es env t d) :
    I.staging (outcomes ++ (ops.stageAll env es t).1) [] env (ops.stageAll env es t).2 d :=
  stageAll_keeps (P := fun outcomes rest t => I.staging outcomes rest env t d) I.stage h

theorem commitAll {outcomes : List (Entry × StageOutcome κ)} {courses : List (Course κ)} {env : ε}
    {t : τ} {d : δ} (h : I.committing courses outcomes env t d) :
    I.committing (courses ++ ops.settle outcomes env t) [] (ops.commitAll outcomes env t).2.1
      (ops.commitAll outcomes env t).2.2 d := by
  induction outcomes generalizing courses env t with
  | nil => simpa [BulkTable.commitAll, settle] using h
  | cons o rest ih =>
    obtain ⟨e, outcome⟩ := o
    cases outcome with
    | staged op =>
      have hnext := ih (I.commit h)
      simpa only [BulkTable.commitAll, settle, List.append_assoc, List.singleton_append] using hnext
    | notReady dependency =>
      have hnext := ih (I.skip (c := .notReady e dependency) rfl h)
      simpa only [BulkTable.commitAll, settle, List.append_assoc, List.singleton_append] using hnext
    | done =>
      have hnext := ih (I.skip (c := .done e) rfl h)
      simpa only [BulkTable.commitAll, settle, List.append_assoc, List.singleton_append] using hnext
    | invalid error =>
      have hnext := ih (I.skip (c := .invalid e error) rfl h)
      simpa only [BulkTable.commitAll, settle, List.append_assoc, List.singleton_append] using hnext

/-- A pass over something ends in one of two ways. Either it is answered, the entries of the batch
take courses in which the summary counts, and those that are kept go back to the queue; or the
driver fails. -/
theorem reconcile {p : Pass τ ε δ} (hne : p.queue.entries ≠ [])
    (h : I.staging [] (p.queue.entries.take p.queue.batchSize) p.env p.table p.switch) :
    (∃ summary courses, (ops.reconcile p).1 = .ok summary ∧ Counted summary courses ∧
      courses.map Course.entry = p.queue.entries.take p.queue.batchSize ∧
      (ops.reconcile p).2.queue.entries =
        keptEntries courses ++ p.queue.entries.drop p.queue.batchSize ∧
      I.answered courses (ops.reconcile p).2.env (ops.reconcile p).2.table
        (ops.reconcile p).2.switch) ∨
    ∃ error, (ops.reconcile p).1 = .error error ∧
      I.unanswered (ops.reconcile p).2.env (ops.reconcile p).2.table
        (ops.reconcile p).2.switch := by
  obtain ⟨outcomes, t, hs⟩ :
      ∃ outcomes t, ops.stageAll p.env (p.queue.entries.take p.queue.batchSize) p.table =
        (outcomes, t) := ⟨_, _, rfl⟩
  obtain ⟨answer, t', d', hf⟩ :
      ∃ answer t' d', ops.flushStaged outcomes t p.switch = (answer, t', d') := ⟨_, _, _, rfl⟩
  have hstaged := I.stageAll h
  rw [hs, List.nil_append] at hstaged
  cases answer with
  | error error =>
    right
    rw [reconcile_failed hne hs hf]
    refine ⟨error, rfl, ?_⟩
    unfold flushStaged at hf
    split at hf
    · exact I.failure hstaged hf
    · cases hf
  | ok answer =>
    left
    have hcommitting : I.committing [] outcomes p.env t' d' := by
      unfold flushStaged at hf
      split at hf
      · exact I.flush hstaged hf
      · next hidle =>
        cases hf
        apply I.idle hstaged
        simpa using hidle
    have hcommitted := I.commitAll hcommitting
    obtain ⟨hbatch, hpass⟩ := reconcile_settle ops hne hs hf
    rw [hpass]
    refine ⟨_, _, rfl, counted_ofFates _, hbatch, entries_requeue_keptEntries hbatch, ?_⟩
    rw [List.nil_append] at hcommitted
    exact I.finish hcommitted

/-- An assertion between passes is kept by a pass if both of its ends establish it. -/
theorem keeps {B : ε → τ → δ → Prop} {p : Pass τ ε δ} (h : B p.env p.table p.switch)
    (hstart : I.staging [] (p.queue.entries.take p.queue.batchSize) p.env p.table p.switch)
    (hanswered : ∀ {courses env t d}, I.answered courses env t d → B env t d)
    (hunanswered : ∀ {env t d}, I.unanswered env t d → B env t d) :
    B (ops.reconcile p).2.env (ops.reconcile p).2.table (ops.reconcile p).2.switch := by
  by_cases hne : p.queue.entries = []
  · rw [reconcile_idle hne]
    exact h
  · obtain ⟨_, _, -, -, -, -, hend⟩ | ⟨_, -, hend⟩ := I.reconcile hne hstart
    · exact hanswered hend
    · exact hunanswered hend

end PassInvariant

end DashAgent
