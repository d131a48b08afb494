import DashAgent.Overlay.Eni
import DashAgent.Proofs.Reconcile.Fates
import DashAgent.Switch.Simulator

/-!
# How a pass settles its batch

A pass asks its table to stage every entry of the batch once and in order, flushes at most once,
commits every staged entry once and in order, and ends the pass. `recorded` writes these calls down
together with their answers, for any table. The courses of the entries, one for each, tell the
calls, what stays in the queue and the summary: no entry is lost, moved or counted twice.
-/
namespace DashAgent

inductive TableCall (κ : Type) where
  | stage (e : Entry) (outcome : StageOutcome κ)
  | flush (answer : Except DriverError Unit)
  | commit (e : Entry) (op : κ) (decision : Decision)
  | endPass

/-- How one entry went through a pass that was answered. -/
inductive Course (κ : Type) where
  | staged (e : Entry) (op : κ) (decision : Decision)
  | notReady (e : Entry) (dependency : Dependency)
  | done (e : Entry)
  | invalid (e : Entry) (error : EntryError)

namespace Course

variable {κ : Type}

def entry : Course κ → Entry
  | staged e _ _ | notReady e _ | done e | invalid e _ => e

def outcome : Course κ → StageOutcome κ
  | staged _ op _ => .staged op
  | notReady _ dependency => .notReady dependency
  | done _ => .done
  | invalid _ error => .invalid error

def fate : Course κ → Fate
  | staged _ _ decision => .decided decision
  | notReady .. => .notReady
  | done _ => .done
  | invalid .. => .invalid

def stageCall (c : Course κ) : TableCall κ := .stage c.entry c.outcome

def commitCall? : Course κ → Option (TableCall κ)
  | staged e op decision => some (.commit e op decision)
  | _ => none

end Course

namespace BulkTable

variable {τ κ ε δ : Type} (ops : BulkTable τ κ ε δ)

/-- The same table with a record of the calls made to it. -/
def recorded : BulkTable (τ × List (TableCall κ)) κ ε δ where
  stage e env t :=
    let (outcome, table) := ops.stage e env t.1
    (outcome, table, t.2 ++ [.stage e outcome])
  flush t d :=
    let (answer, table, d) := ops.flush t.1 d
    (answer, (table, t.2 ++ [.flush answer]), d)
  commit e op env t :=
    let (decision, env, table) := ops.commit e op env t.1
    (decision, env, table, t.2 ++ [.commit e op decision])
  endPass t := (ops.endPass t.1, t.2 ++ [.endPass])

/-- The courses of staged entries that are committed in order. -/
def settle : List (Entry × StageOutcome κ) → ε → τ → List (Course κ)
  | [], _, _ => []
  | (e, .staged op) :: rest, env, t =>
    let (decision, env, t) := ops.commit e op env t
    .staged e op decision :: settle rest env t
  | (e, .notReady dependency) :: rest, env, t => .notReady e dependency :: settle rest env t
  | (e, .done) :: rest, env, t => .done e :: settle rest env t
  | (e, .invalid error) :: rest, env, t => .invalid e error :: settle rest env t

def keptEntries (courses : List (Course κ)) : List Entry :=
  (courses.filter fun c => c.fate.isKept).map Course.entry

/-- The calls of an answered pass whose entries took the given courses. -/
def passCalls (courses : List (Course κ)) : List (TableCall κ) :=
  courses.map Course.stageCall ++
    (if courses.any fun c => c.outcome.isStaged then [.flush (.ok ())] else []) ++
    courses.filterMap Course.commitCall? ++
    (if courses = [] then [] else [.endPass])

/-! ## The equations of a pass -/

variable {ops} {p : Pass τ ε δ} {outcomes : List (Entry × StageOutcome κ)} {t t' : τ} {d' : δ}

theorem reconcile_idle (h : p.queue.entries = []) : ops.reconcile p = (.ok .empty, p) := by
  have hb : p.queue.popBatch.1 = [] := by simp [h]
  rw [reconcile_eq_byFates]
  unfold passByFates
  split
  · rfl
  · next hne heq =>
    rw [heq] at hb
    exact absurd hb hne

theorem reconcile_failed {error : DriverError} (hne : p.queue.entries ≠ [])
    (hs : ops.stageAll p.env (p.queue.entries.take p.queue.batchSize) p.table = (outcomes, t))
    (hf : ops.flushStaged outcomes t p.switch = (.error error, t', d')) :
    ops.reconcile p = (.error error,
      ⟨p.queue.popBatch.2.requeue (unanswered outcomes), ops.endPass t', p.env, d'⟩) := by
  have hb : p.queue.popBatch.1 ≠ [] := by
    simp [hne, Nat.ne_of_gt p.queue.batchSize_pos]
  rw [← ChangeQueue.popBatch_fst] at hs
  rw [reconcile_eq_byFates]
  unfold passByFates
  split
  · next heq =>
    rw [heq] at hb
    exact absurd rfl hb
  · next heq =>
    rw [heq] at hs
    simp only [hs, hf, heq]

theorem reconcile_answered (hne : p.queue.entries ≠ [])
    (hs : ops.stageAll p.env (p.queue.entries.take p.queue.batchSize) p.table = (outcomes, t))
    (hf : ops.flushStaged outcomes t p.switch = (.ok (), t', d')) :
    ops.reconcile p =
      (.ok (.ofFates ((ops.commitAll outcomes p.env t').1.map Prod.snd)),
        ⟨p.queue.popBatch.2.requeue (kept (ops.commitAll outcomes p.env t').1),
          ops.endPass (ops.commitAll outcomes p.env t').2.2,
          (ops.commitAll outcomes p.env t').2.1, d'⟩) := by
  have hb : p.queue.popBatch.1 ≠ [] := by
    simp [hne, Nat.ne_of_gt p.queue.batchSize_pos]
  rw [← ChangeQueue.popBatch_fst] at hs
  rw [reconcile_eq_byFates]
  unfold passByFates
  split
  · next heq =>
    rw [heq] at hb
    exact absurd rfl hb
  · next heq =>
    rw [heq] at hs
    simp only [hs, hf, heq]

/-! ## What recording shows -/

section Recorded

variable (ops)

theorem stageAll_entries (env : ε) (es : List Entry) (t : τ) :
    (ops.stageAll env es t).1.map Prod.fst = es := by
  induction es generalizing t with
  | nil => rfl
  | cons e es ih =>
    have h := ih (ops.stage e env t).2
    simp only [stageAll, List.map_cons, h]

theorem stageAll_recorded (env : ε) (es : List Entry) (t : τ) (log : List (TableCall κ)) :
    ops.recorded.stageAll env es (t, log) =
      ((ops.stageAll env es t).1, (ops.stageAll env es t).2,
        log ++ (ops.stageAll env es t).1.map fun o => .stage o.1 o.2) := by
  induction es generalizing t log with
  | nil => simp [stageAll]
  | cons e es ih =>
    have h := ih (ops.stage e env t).2 (log ++ [.stage e (ops.stage e env t).1])
    simp only [stageAll, recorded, List.map_cons] at h ⊢
    rw [h]
    simp

theorem flushStaged_recorded (outcomes : List (Entry × StageOutcome κ)) (t : τ)
    (log : List (TableCall κ)) (d : δ) :
    ops.recorded.flushStaged outcomes (t, log) d =
      ((ops.flushStaged outcomes t d).1,
        ((ops.flushStaged outcomes t d).2.1, log ++
          if outcomes.any fun o => o.2.isStaged then [.flush (ops.flushStaged outcomes t d).1]
          else []),
        (ops.flushStaged outcomes t d).2.2) := by
  unfold flushStaged
  split <;> simp [recorded]

theorem settle_outcomes (outcomes : List (Entry × StageOutcome κ)) (env : ε) (t : τ) :
    (ops.settle outcomes env t).map (fun c => (c.entry, c.outcome)) = outcomes := by
  induction outcomes generalizing env t with
  | nil => rfl
  | cons o rest ih =>
    obtain ⟨e, outcome⟩ := o
    cases outcome with
    | staged op =>
      have h := ih (ops.commit e op env t).2.1 (ops.commit e op env t).2.2
      rw [settle, List.map_cons, h]
      rfl
    | notReady dependency | done | invalid error =>
      rw [settle, List.map_cons, ih]
      rfl

theorem settle_entries (outcomes : List (Entry × StageOutcome κ)) (env : ε) (t : τ) :
    (ops.settle outcomes env t).map Course.entry = outcomes.map Prod.fst := by
  conv => rhs; rw [← settle_outcomes ops outcomes env t, List.map_map]
  rfl

/-- The fates of a commit pass are those of the courses, and so are the commits in the record. -/
theorem commitAll_recorded (outcomes : List (Entry × StageOutcome κ)) (env : ε) (t : τ)
    (log : List (TableCall κ)) :
    (ops.commitAll outcomes env t).1 =
        (ops.settle outcomes env t).map (fun c => (c.entry, c.fate)) ∧
      ops.recorded.commitAll outcomes env (t, log) =
        ((ops.commitAll outcomes env t).1, (ops.commitAll outcomes env t).2.1,
          (ops.commitAll outcomes env t).2.2,
          log ++ (ops.settle outcomes env t).filterMap Course.commitCall?) := by
  induction outcomes generalizing env t log with
  | nil => simp [commitAll, settle]
  | cons o rest ih =>
    obtain ⟨e, outcome⟩ := o
    cases outcome with
    | staged op =>
      have h := ih (ops.commit e op env t).2.1 (ops.commit e op env t).2.2
        (log ++ [.commit e op (ops.commit e op env t).1])
      constructor
      · simp only [commitAll, settle, List.map_cons, h.1, Course.entry, Course.fate]
      · have hr := h.2
        simp only [recorded] at hr
        simp only [commitAll, settle, recorded, hr, List.filterMap_cons, Course.commitCall?]
        simp
    | notReady dependency | done | invalid error =>
      have h := ih env t log
      constructor
      · simp only [commitAll, settle, List.map_cons, h.1, Course.entry, Course.fate]
      · simp only [commitAll, settle, h.2, List.filterMap_cons, Course.commitCall?]

theorem fates_settle (outcomes : List (Entry × StageOutcome κ)) (env : ε) (t : τ) :
    (ops.commitAll outcomes env t).1.map Prod.snd =
      (ops.settle outcomes env t).map Course.fate := by
  rw [(commitAll_recorded ops outcomes env t []).1, List.map_map]
  rfl

theorem kept_settle (outcomes : List (Entry × StageOutcome κ)) (env : ε) (t : τ) :
    kept (ops.commitAll outcomes env t).1 = keptEntries (ops.settle outcomes env t) := by
  rw [kept, (commitAll_recorded ops outcomes env t []).1, List.filter_map, List.map_map]
  rfl

end Recorded

/-! ## The summary -/

/-- The courses of a pass in which the summary counts. -/
structure Counted (summary : Summary) (courses : List (Course κ)) : Prop where
  staged : summary.staged = courses.countP fun c => c.outcome.isStaged
  committed : summary.committed = courses.countP fun c => c.fate = .decided .commit
  retried : summary.retried = courses.countP fun c => c.fate = .decided .retry
  notReady : summary.notReady = courses.countP fun c => c.fate = .notReady
  dropped : summary.dropped =
    (courses.countP fun c => c.fate = .decided .drop) + courses.countP fun c => c.fate = .invalid
  done : summary.done = courses.countP fun c => c.fate = .done

/-- Every entry is found in one of four ways while staging. -/
theorem Counted.staging {summary : Summary} {courses : List (Course κ)}
    (h : Counted summary courses) :
    summary.staged + summary.notReady + summary.done +
      (courses.countP fun c => c.fate = .invalid) = courses.length := by
  rw [h.staged, h.notReady, h.done]
  clear h
  induction courses with
  | nil => rfl
  | cons c rest ih =>
    cases c with
    | staged e op decision | notReady e dependency | done e | invalid e error =>
      simp [Course.fate, Course.outcome, StageOutcome.isStaged] at ih ⊢
      omega

/-- Every entry leaves the queue or goes back to it, and is counted once. -/
theorem Counted.leaving {summary : Summary} {courses : List (Course κ)}
    (h : Counted summary courses) : summary.consumed + summary.requeued = courses.length := by
  rw [Summary.consumed, Summary.requeued, h.committed, h.dropped, h.done, h.retried, h.notReady]
  clear h
  induction courses with
  | nil => rfl
  | cons c rest ih =>
    cases c with
    | staged e op decision => cases decision <;> simp [Course.fate] at ih ⊢ <;> omega
    | notReady e dependency | done e | invalid e error => simp [Course.fate] at ih ⊢; omega

/-- What goes back to the queue is counted as such. -/
theorem Counted.requeued {summary : Summary} {courses : List (Course κ)}
    (h : Counted summary courses) : summary.requeued = (keptEntries courses).length := by
  rw [Summary.requeued, h.retried, h.notReady, keptEntries, List.length_map,
    ← List.countP_eq_length_filter]
  clear h
  induction courses with
  | nil => rfl
  | cons c rest ih =>
    cases c with
    | staged e op decision =>
      cases decision <;> simp [Course.fate, Fate.isKept] at ih ⊢ <;> omega
    | notReady e dependency | done e | invalid e error =>
      simp [Course.fate, Fate.isKept] at ih ⊢
      omega

/-! ## A pass that was answered -/

section Answered

variable (ops)

/-- The calls for outcomes that were answered are those of their courses. -/
theorem passCalls_settle {outcomes : List (Entry × StageOutcome κ)} (hne : outcomes ≠ []) (env : ε)
    (t : τ) :
    passCalls (ops.settle outcomes env t) =
      outcomes.map (fun o => .stage o.1 o.2) ++
        (if outcomes.any fun o => o.2.isStaged then [.flush (.ok ())] else []) ++
        (ops.settle outcomes env t).filterMap Course.commitCall? ++ [.endPass] := by
  have hsettled := settle_outcomes ops outcomes env t
  have hcourses : ops.settle outcomes env t ≠ [] := by
    intro hnil
    rw [hnil] at hsettled
    exact hne hsettled.symm
  have hstages : (ops.settle outcomes env t).map Course.stageCall =
      outcomes.map fun o => .stage o.1 o.2 := by
    conv => rhs; rw [← hsettled, List.map_map]
    rfl
  have hany : ((ops.settle outcomes env t).any fun c => c.outcome.isStaged) =
      outcomes.any fun o => o.2.isStaged := by
    conv => rhs; rw [← hsettled, List.any_map]
    rfl
  rw [passCalls, hstages, hany, if_neg hcourses]

/-- The summary of the fates of courses counts in them. -/
theorem counted_ofFates (courses : List (Course κ)) :
    Counted (.ofFates (courses.map Course.fate)) courses := by
  have hcount : ∀ fate : Fate, (courses.map Course.fate).count fate =
      courses.countP fun c => c.fate = fate := by
    intro fate
    rw [List.count, List.countP_map]
    congr 1
  constructor
  case staged =>
    simp only [Summary.ofFates, List.countP_map]
    congr 1
    funext c
    cases c <;> rfl
  case dropped => simp only [Summary.ofFates, hcount]
  all_goals exact hcount _

/-- The courses of an answered pass are those of its batch, and they say what is put back. -/
theorem reconcile_settle {p : Pass τ ε δ} {outcomes : List (Entry × StageOutcome κ)} {t t' : τ}
    {d' : δ} (hne : p.queue.entries ≠ [])
    (hs : ops.stageAll p.env (p.queue.entries.take p.queue.batchSize) p.table = (outcomes, t))
    (hf : ops.flushStaged outcomes t p.switch = (.ok (), t', d')) :
    (ops.settle outcomes p.env t').map Course.entry =
        p.queue.entries.take p.queue.batchSize ∧
      ops.reconcile p =
        (.ok (.ofFates ((ops.settle outcomes p.env t').map Course.fate)),
          ⟨p.queue.popBatch.2.requeue (keptEntries (ops.settle outcomes p.env t')),
            ops.endPass (ops.commitAll outcomes p.env t').2.2,
            (ops.commitAll outcomes p.env t').2.1, d'⟩) := by
  have hentries := stageAll_entries ops p.env (p.queue.entries.take p.queue.batchSize) p.table
  rw [hs] at hentries
  constructor
  · rw [← hentries, settle_entries]
  · rw [reconcile_answered hne hs hf, fates_settle, kept_settle]

/-- An answered pass that records its calls is the pass, and its record is that of the courses. -/
theorem reconcile_recorded {p : Pass τ ε δ} {outcomes : List (Entry × StageOutcome κ)} {t t' : τ}
    {d' : δ} (hne : p.queue.entries ≠ [])
    (hs : ops.stageAll p.env (p.queue.entries.take p.queue.batchSize) p.table = (outcomes, t))
    (hf : ops.flushStaged outcomes t p.switch = (.ok (), t', d')) :
    ops.recorded.reconcile ⟨p.queue, (p.table, []), p.env, p.switch⟩ =
      ((ops.reconcile p).1, ⟨(ops.reconcile p).2.queue,
        ((ops.reconcile p).2.table, passCalls (ops.settle outcomes p.env t')),
        (ops.reconcile p).2.env, (ops.reconcile p).2.switch⟩) := by
  obtain ⟨hbatch, hpass⟩ := reconcile_settle ops hne hs hf
  have houtcomes : outcomes ≠ [] := by
    intro hnil
    rw [hnil] at hbatch
    have hempty : p.queue.entries.take p.queue.batchSize = [] := hbatch.symm
    simp [hne, Nat.ne_of_gt p.queue.batchSize_pos] at hempty
  have hrec := stageAll_recorded ops p.env (p.queue.entries.take p.queue.batchSize) p.table []
  rw [hs, List.nil_append] at hrec
  have hflush := flushStaged_recorded ops outcomes t
    (outcomes.map fun o => TableCall.stage o.1 o.2) p.switch
  rw [hf] at hflush
  have hcommit := (commitAll_recorded ops outcomes p.env t'
    ((outcomes.map fun o => TableCall.stage o.1 o.2) ++
      if outcomes.any fun o => o.2.isStaged then [.flush (.ok ())] else [])).2
  have hrecorded : ops.recorded.reconcile ⟨p.queue, (p.table, []), p.env, p.switch⟩ = _ :=
    reconcile_answered hne hrec hflush
  rw [hrecorded, hcommit, hpass, passCalls_settle ops houtcomes, fates_settle, kept_settle]
  rfl

/-- What an answered pass puts back stands in front of what its batch left behind. -/
theorem entries_requeue_keptEntries {q : ChangeQueue} {courses : List (Course κ)}
    (h : courses.map Course.entry = q.entries.take q.batchSize) :
    (q.popBatch.2.requeue (keptEntries courses)).entries =
      keptEntries courses ++ q.entries.drop q.batchSize := by
  apply ChangeQueue.entries_requeue_popBatch
  rw [← h]
  exact List.filter_sublist.map _

/-- A pass puts back changes of its queue only. -/
theorem queue_reconcile_subset (p : Pass τ ε δ) :
    (ops.reconcile p).2.queue.entries ⊆ p.queue.entries := by
  by_cases hne : p.queue.entries = []
  · rw [reconcile_idle hne]
    exact fun _ h => h
  obtain ⟨outcomes, t, hs⟩ :
      ∃ outcomes t, ops.stageAll p.env (p.queue.entries.take p.queue.batchSize) p.table =
        (outcomes, t) := ⟨_, _, rfl⟩
  obtain ⟨answer, t', d', hf⟩ :
      ∃ answer t' d', ops.flushStaged outcomes t p.switch = (answer, t', d') := ⟨_, _, _, rfl⟩
  have hbatch := stageAll_entries ops p.env (p.queue.entries.take p.queue.batchSize) p.table
  rw [hs] at hbatch
  have hput : ∀ es : List Entry, es.Sublist (p.queue.entries.take p.queue.batchSize) →
      (p.queue.popBatch.2.requeue es).entries ⊆ p.queue.entries := by
    intro es hes e he
    rw [ChangeQueue.entries_requeue_popBatch hes] at he
    rcases List.mem_append.1 he with he | he
    · exact List.mem_of_mem_take (hes.subset he)
    · exact List.mem_of_mem_drop he
  cases answer with
  | error error =>
    rw [reconcile_failed hne hs hf]
    apply hput
    rw [← hbatch]
    exact List.filter_sublist.map _
  | ok answer =>
    obtain ⟨hsettled, hpass⟩ := reconcile_settle ops hne hs hf
    rw [hpass]
    apply hput
    rw [← hsettled]
    exact List.filter_sublist.map _

theorem batchSize_reconcile (p : Pass τ ε δ) :
    (ops.reconcile p).2.queue.batchSize = p.queue.batchSize := by
  by_cases hne : p.queue.entries = []
  · rw [reconcile_idle hne]
  · obtain ⟨outcomes, t, hs⟩ :
        ∃ outcomes t, ops.stageAll p.env (p.queue.entries.take p.queue.batchSize) p.table =
          (outcomes, t) := ⟨_, _, rfl⟩
    obtain ⟨answer, t', d', hf⟩ :
        ∃ answer t' d', ops.flushStaged outcomes t p.switch = (answer, t', d') := ⟨_, _, _, rfl⟩
    cases answer with
    | error error =>
      rw [reconcile_failed hne hs hf]
      simp
    | ok _ =>
      rw [reconcile_answered hne hs hf]
      simp

/-- An answered pass loses and duplicates nothing. Every entry of the batch takes one course: it is
staged once and in order, what was staged is committed once and in order after the one flush, what
waits or is retried goes back in front of the rest of the queue, and each entry is counted once. -/
theorem reconcile_settles_batch {p : Pass τ ε δ} {summary : Summary}
    (h : (ops.reconcile p).1 = .ok summary) :
    ∃ courses : List (Course κ),
      courses.map Course.entry = p.queue.entries.take p.queue.batchSize ∧
      ops.recorded.reconcile ⟨p.queue, (p.table, []), p.env, p.switch⟩ =
        (.ok summary, ⟨(ops.reconcile p).2.queue,
          ((ops.reconcile p).2.table, passCalls courses),
          (ops.reconcile p).2.env, (ops.reconcile p).2.switch⟩) ∧
      (ops.reconcile p).2.queue.entries =
        keptEntries courses ++ p.queue.entries.drop p.queue.batchSize ∧
      Counted summary courses ∧
      summary.staged + summary.notReady + summary.done +
          (courses.countP fun c => c.fate = .invalid) =
        min p.queue.batchSize p.queue.entries.length ∧
      summary.consumed + summary.requeued = min p.queue.batchSize p.queue.entries.length := by
  by_cases hne : p.queue.entries = []
  · have hidle : ops.recorded.reconcile ⟨p.queue, (p.table, []), p.env, p.switch⟩ = _ :=
      reconcile_idle hne
    rw [reconcile_idle hne] at h ⊢
    cases h
    have hcounted : Counted .empty ([] : List (Course κ)) := by constructor <;> rfl
    refine ⟨[], by simp [hne], hidle, by simp [hne, keptEntries], hcounted, ?_, ?_⟩
    · rw [hcounted.staging]
      simp [hne]
    · rw [hcounted.leaving]
      simp [hne]
  · obtain ⟨outcomes, t, hs⟩ :
        ∃ outcomes t, ops.stageAll p.env (p.queue.entries.take p.queue.batchSize) p.table =
          (outcomes, t) := ⟨_, _, rfl⟩
    obtain ⟨answer, t', d', hf⟩ :
        ∃ answer t' d', ops.flushStaged outcomes t p.switch = (answer, t', d') := ⟨_, _, _, rfl⟩
    cases answer with
    | error error =>
      rw [reconcile_failed hne hs hf] at h
      cases h
    | ok _ =>
      obtain ⟨hbatch, hpass⟩ := reconcile_settle ops hne hs hf
      have hrecorded := reconcile_recorded ops hne hs hf
      have hlength : (ops.settle outcomes p.env t').length =
          min p.queue.batchSize p.queue.entries.length := by
        rw [← List.length_map, hbatch, List.length_take]
      have hcounted := counted_ofFates (ops.settle outcomes p.env t')
      rw [h] at hrecorded
      rw [hpass] at h
      cases h
      refine ⟨ops.settle outcomes p.env t', hbatch, hrecorded, ?_, hcounted, ?_, ?_⟩
      · rw [hpass]
        exact entries_requeue_keptEntries hbatch
      · rw [hcounted.staging, hlength]
      · rw [hcounted.leaving, hlength]

end Answered

/-- Seven ENI changes, of which six fit into the batch. There is room for one ENI, one VNET is
programmed, and the switch fails the last of three requests. -/
def mixedEnis : Pass EniTable Context Simulator where
  queue := (ChangeQueue.new EniTable.name 20 6).addAll
    [⟨"early", .set, [("vnet", "blue"), ("mac_address", "00:00:00:00:00:01"),
        ("underlay_ip", "192.0.2.1")]⟩,
      ⟨"first", .set, [("vnet", "red"), ("mac_address", "00:00:00:00:00:02"),
        ("underlay_ip", "192.0.2.2")]⟩,
      ⟨"gone", .del, []⟩,
      ⟨"bare", .set, [("vnet", "red")]⟩,
      ⟨"second", .set, [("vnet", "red"), ("mac_address", "00:00:00:00:00:03"),
        ("underlay_ip", "192.0.2.3")]⟩,
      ⟨"third", .set, [("vnet", "red"), ("mac_address", "00:00:00:00:00:04"),
        ("underlay_ip", "192.0.2.4")]⟩,
      ⟨"late", .del, []⟩]
  table := .new BulkStager.defaultBulkSize
  env := (Context.new (.new Monitor.defaultPollingMs .empty)).setVnet "red" 0x000b000000000001
  switch := [.success, .success, .failure].foldl (·.pushStatus .eni ·)
    ((Simulator.new Simulator.defaultTableSize).setCapacity .eni 1)

/-- One change is committed, one is retried, one waits, one is dropped, one has nothing to do and
one cannot be read. What is retried and what waits comes before the change that was left behind. -/
theorem mixedEnis_settled :
    (EniTable.bulk.reconcile mixedEnis).1 = .ok ⟨3, 1, 1, 1, 2, 1⟩ ∧
      (EniTable.bulk.reconcile mixedEnis).2.queue.entries.map Entry.key =
        ["early", "second", "late"] ∧
      ∃ courses : List (Course (NamedOp (Oid .vnet × EniConfig))),
        courses.map (·.entry.key) = ["early", "first", "gone", "bare", "second", "third"] ∧
        (keptEntries courses).map Entry.key = ["early", "second"] ∧
        Counted ⟨3, 1, 1, 1, 2, 1⟩ courses := by
  have h : (EniTable.bulk.reconcile mixedEnis).1 = .ok ⟨3, 1, 1, 1, 2, 1⟩ := by decide +kernel
  have hkeys : (EniTable.bulk.reconcile mixedEnis).2.queue.entries.map Entry.key =
      ["early", "second", "late"] := by decide +kernel
  have hbatch : (mixedEnis.queue.entries.take mixedEnis.queue.batchSize).map Entry.key =
      ["early", "first", "gone", "bare", "second", "third"] := by decide +kernel
  have hrest : (mixedEnis.queue.entries.drop mixedEnis.queue.batchSize).map Entry.key =
      ["late"] := by decide +kernel
  obtain ⟨courses, hentries, -, hqueue, hcounted, -⟩ := reconcile_settles_batch EniTable.bulk h
  refine ⟨h, hkeys, courses, ?_, ?_, hcounted⟩
  · rw [← hbatch, ← hentries, List.map_map]
    rfl
  · rw [hqueue, List.map_append, hrest] at hkeys
    exact List.append_cancel_right hkeys

end BulkTable

end DashAgent
