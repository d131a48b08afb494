import DashAgent.Proofs.Reconcile.Scratch
import DashAgent.Proofs.Switch.Interruption

/-!
# A pass that is cut off and repeated

A pass whose channel is cut puts back what it staged and what waits, and has touched nothing else.
Repeated on the restored channel it stages the same requests, decides alike on them, and so leaves
what it would have left in the first place. A `Repeatable` says what this takes of a table.
-/
namespace DashAgent

open BulkTable

/-- A gate without faults to a switch that is up, with no status queued and each object once. -/
structure FaultGate.Plain (g : FaultGate) : Prop where
  faults : g.faults = .inactive
  up : g.switch.channelLost = false
  unforced : ∀ type, (g.switch.pools.get type).forced = []
  nodup : ∀ type, (g.switch.objects type).Nodup

section Pass

variable {τ ε : Type}

/-- The pass with the channel to be cut after so many bulk calls. -/
def Pass.cutAfter (p : Pass τ ε FaultGate) (calls : Nat) : Pass τ ε FaultGate :=
  { p with switch := p.switch.cutAfter calls }

def Pass.restored (p : Pass τ ε FaultGate) : Pass τ ε FaultGate :=
  { p with switch := p.switch.restored }

end Pass

variable {τ κ ε : Type}

/-- The pass succeeds. However late the channel is cut, it fails then with its channel down, and
when it is repeated on the restored channel, it leaves the table, the shared state, the pending
changes and the objects of the switch that it would have left. -/
def BulkTable.Recovers (ops : BulkTable τ κ ε FaultGate) (p : Pass τ ε FaultGate) : Prop :=
  (∃ summary, (ops.reconcile p).1 = .ok summary) ∧
    ∀ calls error cut, ops.reconcile (p.cutAfter calls) = (.error error, cut) →
      error = Simulator.channelDown ∧
      (∃ summary, (ops.reconcile cut.restored).1 = .ok summary) ∧
      (ops.reconcile cut.restored).2.table = (ops.reconcile p).2.table ∧
      (ops.reconcile cut.restored).2.env = (ops.reconcile p).2.env ∧
      (ops.reconcile cut.restored).2.queue.entries = (ops.reconcile p).2.queue.entries ∧
      ∀ type, (ops.reconcile cut.restored).2.switch.switch.objects type =
        (ops.reconcile p).2.switch.switch.objects type

/-- What it takes to repeat the passes of a table. -/
structure Repeatable (ops : BulkTable τ κ ε FaultGate) where
  /-- The table is between two passes. -/
  Tidy : τ → Prop
  /-- Some changes are staged. -/
  Staging : τ → Prop
  Awaits : τ → κ → Prop
  Distinct : τ → Prop
  /-- Flushed from the first table, the others decide alike on what was staged, and they are the
  same in all but the answers. -/
  Alike : τ → τ → τ → Prop
  start : ∀ {t}, Tidy t → Staging t ∧ ops.endPass t = t
  endPass_stage : ∀ e c t, ops.endPass (ops.stage e c t).2 = ops.endPass t
  endPass_flush : ∀ t g, ops.endPass (ops.flush t g).2.1 = ops.endPass t
  unstaged : ∀ {e c t}, (ops.stage e c t).1.isStaged = false → (ops.stage e c t).2 = t
  stage : ∀ {e c t}, Staging t → Staging (ops.stage e c t).2 ∧
    (∀ op, Awaits t op → Awaits (ops.stage e c t).2 op) ∧
    ∀ op, (ops.stage e c t).1 = .staged op → Awaits (ops.stage e c t).2 op
  flush : ∀ {t g}, Staging t → Distinct t → g.Plain →
    ∃ t₁ g₁, ops.flush t g = (.ok (), t₁, g₁) ∧
      ∀ calls error t₂ g₂, ops.flush t (g.cutAfter calls) = (.error error, t₂, g₂) →
        error = Simulator.channelDown ∧
        ∃ t₃ g₃, ops.flush t g₂.restored = (.ok (), t₃, g₃) ∧ Alike t t₁ t₃ ∧
          ∀ type, g₃.switch.objects type = g₁.switch.objects type
  commit : ∀ {t t₁ t₂ e op c}, Alike t t₁ t₂ → Awaits t op →
    (ops.commit e op c t₁).1 = (ops.commit e op c t₂).1 ∧
      (ops.commit e op c t₁).2.1 = (ops.commit e op c t₂).2.1 ∧
      Alike t (ops.commit e op c t₁).2.2 (ops.commit e op c t₂).2.2
  finish : ∀ {t t₁ t₂}, Alike t t₁ t₂ → ops.endPass t₁ = ops.endPass t₂

namespace Repeatable

variable {ops : BulkTable τ κ ε FaultGate} (R : Repeatable ops)

/-! ## Staging -/

theorem stageAll {c : ε} (es : List Entry) {t : τ} (h : R.Staging t) :
    R.Staging (ops.stageAll c es t).2 ∧
      (∀ op, R.Awaits t op → R.Awaits (ops.stageAll c es t).2 op) ∧
      ∀ e op, (e, .staged op) ∈ (ops.stageAll c es t).1 →
        R.Awaits (ops.stageAll c es t).2 op := by
  induction es generalizing t with
  | nil => exact ⟨h, fun _ => id, nofun⟩
  | cons e rest ih =>
    obtain ⟨hnext, hkept, hawaits⟩ := R.stage h (e := e) (c := c)
    obtain ⟨hend, hlater, hrest⟩ := ih hnext
    simp only [BulkTable.stageAll]
    refine ⟨hend, fun op hop => hlater op (hkept op hop), fun e' op hmem => ?_⟩
    rcases List.mem_cons.1 hmem with heq | hmem
    · exact hlater op (hawaits op (Prod.mk.inj heq).2.symm)
    · exact hrest e' op hmem

/-- The outcomes that a failed pass puts back. -/
def standing (outcomes : List (Entry × StageOutcome κ)) : List (Entry × StageOutcome κ) :=
  outcomes.filter fun o => o.2.isStaged || o.2.isNotReady

include R in
/-- What a failed pass puts back is staged again as before. -/
theorem stageAll_unanswered (c : ε) (es : List Entry) (t : τ) :
    ops.stageAll c (unanswered (ops.stageAll c es t).1) t =
      (standing (ops.stageAll c es t).1, (ops.stageAll c es t).2) :=
  stageAll_filter R.unstaged (fun _ hstaged => Bool.or_eq_true_iff.2 (.inl hstaged)) c es t

/-! ## Committing -/

/-- Tables that decide alike commit alike. -/
theorem commitAll {t : τ} (outcomes : List (Entry × StageOutcome κ)) {c : ε} {t₁ t₂ : τ}
    (h : R.Alike t t₁ t₂) (hawaits : ∀ e op, (e, .staged op) ∈ outcomes → R.Awaits t op) :
    (ops.commitAll outcomes c t₁).1 = (ops.commitAll outcomes c t₂).1 ∧
      (ops.commitAll outcomes c t₁).2.1 = (ops.commitAll outcomes c t₂).2.1 ∧
      R.Alike t (ops.commitAll outcomes c t₁).2.2 (ops.commitAll outcomes c t₂).2.2 := by
  induction outcomes generalizing c t₁ t₂ with
  | nil => exact ⟨rfl, rfl, h⟩
  | cons o rest ih =>
    obtain ⟨e, outcome⟩ := o
    have hrest : ∀ e op, (e, .staged op) ∈ rest → R.Awaits t op :=
      fun e op hmem => hawaits e op (List.mem_cons_of_mem _ hmem)
    cases outcome with
    | staged op =>
      obtain ⟨hdecision, hcontext, hnext⟩ :=
        R.commit h (hawaits e op (List.mem_cons_self ..)) (e := e) (c := c)
      obtain ⟨hfates, hcontext', hend⟩ := ih hnext hrest (c := (ops.commit e op c t₂).2.1)
      simp only [BulkTable.commitAll, hdecision, hcontext, hfates]
      exact ⟨trivial, hcontext', hend⟩
    | notReady | done | invalid =>
      obtain ⟨hfates, hcontext, hend⟩ := ih h hrest (c := c)
      simp only [BulkTable.commitAll, hfates]
      exact ⟨trivial, hcontext, hend⟩

/-- Outcomes that are done with or invalid are not kept. -/
theorem kept_standing (outcomes : List (Entry × StageOutcome κ)) (c : ε) (t : τ) :
    kept (ops.commitAll (standing outcomes) c t).1 = kept (ops.commitAll outcomes c t).1 := by
  induction outcomes generalizing c t with
  | nil => rfl
  | cons o rest ih =>
    obtain ⟨e, outcome⟩ := o
    cases outcome with
    | staged op =>
      have hrest := ih (ops.commit e op c t).2.1 (ops.commit e op c t).2.2
      simp only [standing, List.filter_cons, StageOutcome.isStaged, Bool.true_or, if_true,
        BulkTable.commitAll, kept] at hrest ⊢
      split
      · simp only [List.map_cons, hrest]
      · exact hrest
    | notReady dependency =>
      have hrest := ih c t
      simp only [standing, List.filter_cons, StageOutcome.isStaged, StageOutcome.isNotReady,
        Bool.or_true, if_true, BulkTable.commitAll, kept, Fate.isKept, List.map_cons] at hrest ⊢
      rw [hrest]
    | done | invalid error =>
      have hrest := ih c t
      simp only [standing, List.filter_cons, StageOutcome.isStaged, StageOutcome.isNotReady,
        Bool.or_false, Bool.false_eq_true, if_false, BulkTable.commitAll, kept,
        Fate.isKept] at hrest ⊢
      exact hrest

/-- Nor have they a part in the commits. -/
theorem commitAll_standing (outcomes : List (Entry × StageOutcome κ)) (c : ε) (t : τ) :
    (ops.commitAll (standing outcomes) c t).2 = (ops.commitAll outcomes c t).2 :=
  commitAll_filter (fun _ hstaged => Bool.or_eq_true_iff.2 (.inl hstaged)) outcomes c t

variable (ops) in
/-- An answered pass keeps some of the changes that a failed one puts back. -/
theorem kept_sublist (outcomes : List (Entry × StageOutcome κ)) (c : ε) (t : τ) :
    (kept (ops.commitAll outcomes c t).1).Sublist (unanswered outcomes) := by
  have hentries : (ops.settle (standing outcomes) c t).map Course.entry = unanswered outcomes :=
    settle_entries ops (standing outcomes) c t
  rw [← kept_standing outcomes c t, kept_settle, ← hentries]
  exact List.filter_sublist.map _

/-! ## Passes -/

/-- A queue whose batch holds all of it keeps what a pass puts back. -/
theorem entries_requeue {q : ChangeQueue} (hbatch : q.entries.length ≤ q.batchSize)
    {es : List Entry} (h : es.Sublist q.entries) : (q.popBatch.2.requeue es).entries = es := by
  rw [ChangeQueue.entries_requeue_popBatch (by rwa [List.take_of_length_le hbatch]),
    List.drop_of_length_le hbatch, List.append_nil]

/-- A pass over what a failed one put back commits what that one would have committed. -/
theorem reconcile_standing {outcomes : List (Entry × StageOutcome κ)} {q : ChangeQueue} {c : ε}
    {t₀ t t' : τ} {g g' : FaultGate}
    (hs : ops.stageAll c (unanswered outcomes) t₀ = (standing outcomes, t))
    (hany : (outcomes.any fun o => o.2.isStaged) = true) (hqueue : q.entries = unanswered outcomes)
    (hroom : q.entries.length ≤ q.batchSize) (hflush : ops.flush t g = (.ok (), t', g')) :
    ∃ summary, ops.reconcile ⟨q, t₀, c, g⟩ = (.ok summary,
      ⟨q.popBatch.2.requeue (kept (ops.commitAll outcomes c t').1),
        ops.endPass (ops.commitAll outcomes c t').2.2, (ops.commitAll outcomes c t').2.1,
        g'⟩) := by
  have hstands : ((standing outcomes).any fun o => o.2.isStaged) = true := by
    obtain ⟨o, ho, hstaged⟩ := List.any_eq_true.1 hany
    refine List.any_eq_true.2 ⟨o, List.mem_filter.2 ⟨ho, ?_⟩, hstaged⟩
    rw [hstaged, Bool.true_or]
  have hne : q.entries ≠ [] := by
    rw [hqueue]
    intro hnil
    have hempty : standing outcomes = [] := List.map_eq_nil_iff.1 hnil
    rw [hempty] at hstands
    cases hstands
  have hbatch : ops.stageAll c (q.entries.take q.batchSize) t₀ = (standing outcomes, t) := by
    rw [List.take_of_length_le hroom, hqueue, hs]
  have hsent : ops.flushStaged (standing outcomes) t g = (.ok (), t', g') := by
    rw [flushStaged, if_pos hstands, hflush]
  have hpass : ops.reconcile ⟨q, t₀, c, g⟩ = _ := reconcile_answered hne hbatch hsent
  rw [kept_standing, commitAll_standing] at hpass
  exact ⟨_, hpass⟩

section Recovery

variable {p : Pass τ ε FaultGate} {outcomes : List (Entry × StageOutcome κ)} {t : τ}

/-- A pass that stages nothing calls nothing, so it succeeds behind every gate. -/
theorem reconcile_unstaged
    (hs : ops.stageAll p.env (p.queue.entries.take p.queue.batchSize) p.table = (outcomes, t))
    (hnone : (outcomes.any fun o => o.2.isStaged) = false) :
    ∃ summary, (ops.reconcile p).1 = .ok summary := by
  by_cases hne : p.queue.entries = []
  · exact ⟨.empty, by rw [reconcile_idle hne]⟩
  · have hidle : ops.flushStaged outcomes t p.switch = (.ok (), t, p.switch) := by
      simp only [flushStaged, hnone, Bool.false_eq_true, if_false]
    exact ⟨_, by rw [reconcile_answered hne hs hidle]⟩

include R in
/-- The table that a flush leaves is that of before, once the pass has ended. -/
theorem endPass_flushed {es : List Entry} {c : ε} {t₀ : τ} (htidy : R.Tidy t₀)
    (hs : ops.stageAll c es t₀ = (outcomes, t)) (g : FaultGate) :
    ops.endPass (ops.flush t g).2.1 = t₀ := by
  have hends := endPass_stageAll R.endPass_stage c es t₀
  rw [hs] at hends
  exact (R.endPass_flush t g).trans (hends.trans (R.start htidy).2)

/-- A pass that flushes recovers: when it is repeated, it finds the table and the staged changes as
they were. -/
theorem recovers_staged (htidy : R.Tidy p.table)
    (hbatch : p.queue.entries.length ≤ p.queue.batchSize)
    (hs : ops.stageAll p.env p.queue.entries p.table = (outcomes, t))
    (hany : (outcomes.any fun o => o.2.isStaged) = true) (hdistinct : R.Distinct t)
    (hplain : p.switch.Plain) : ops.Recovers p := by
  have hne : p.queue.entries ≠ [] := by
    intro hnil
    rw [hnil] at hs
    cases hs
    cases hany
  obtain ⟨hstaging, -, hawaits⟩ := R.stageAll p.queue.entries (R.start htidy).1 (c := p.env)
  have hagain := R.stageAll_unanswered p.env p.queue.entries p.table
  have hentries := stageAll_entries ops p.env p.queue.entries p.table
  rw [hs] at hstaging hawaits hagain hentries
  dsimp only at hstaging hawaits hagain hentries
  have hput : (unanswered outcomes).Sublist p.queue.entries := by
    rw [← hentries]
    exact List.filter_sublist.map _
  have htaken : ∀ g : FaultGate,
      ops.stageAll p.env (p.queue.entries.take p.queue.batchSize) p.table = (outcomes, t) ∧
        ops.flushStaged outcomes t g = ops.flush t g := by
    intro g
    simp only [List.take_of_length_le hbatch, hs, flushStaged, hany, if_true, and_self]
  obtain ⟨t₁, g₁, hflush, hrepeat⟩ := R.flush hstaging hdistinct hplain
  have hwhole := reconcile_answered hne (htaken g₁).1 ((htaken _).2.trans hflush)
  rw [Recovers, hwhole]
  refine ⟨⟨_, rfl⟩, fun calls error cut hcut => ?_⟩
  obtain ⟨answer, t₂, g₂, hflush'⟩ : ∃ answer t₂ g₂,
      ops.flush t (p.switch.cutAfter calls) = (answer, t₂, g₂) := ⟨_, _, _, rfl⟩
  have hsent : ops.flushStaged outcomes t (p.cutAfter calls).switch = (answer, t₂, g₂) :=
    (htaken _).2.trans hflush'
  cases answer with
  | ok =>
    rw [reconcile_answered (p := p.cutAfter calls) hne (htaken g₁).1 hsent] at hcut
    cases hcut
  | error error' =>
    rw [reconcile_failed (p := p.cutAfter calls) hne (htaken g₁).1 hsent] at hcut
    cases hcut
    obtain ⟨hdown, t₃, g₃, hflush₃, halike, hobjects⟩ := hrepeat calls _ _ _ hflush'
    have hfound : ops.endPass t₂ = p.table := by
      have hforgotten := R.endPass_flushed htidy hs (p.switch.cutAfter calls)
      rw [hflush'] at hforgotten
      exact hforgotten
    obtain ⟨q, hq⟩ : ∃ q, p.queue.popBatch.2.requeue (unanswered outcomes) = q := ⟨_, rfl⟩
    have hqueue : q.entries = unanswered outcomes := hq ▸ entries_requeue hbatch hput
    have hsize : q.batchSize = p.queue.batchSize := by simp [← hq]
    have hroom : q.entries.length ≤ q.batchSize := by
      rw [hqueue, hsize]
      exact Nat.le_trans hput.length_le hbatch
    obtain ⟨summary, hrepeated⟩ := reconcile_standing hagain hany hqueue hroom hflush₃
    obtain ⟨hfates, hcontext, halike'⟩ := R.commitAll outcomes halike hawaits (c := p.env)
    have hleft := kept_sublist ops outcomes p.env t₁
    refine ⟨hdown, ?_⟩
    simp only [Pass.restored, hfound, hq, Pass.cutAfter]
    rw [hrepeated]
    refine ⟨⟨_, rfl⟩, (R.finish halike').symm, hcontext.symm, ?_, hobjects⟩
    rw [← hfates, entries_requeue hroom (hqueue ▸ hleft),
      entries_requeue hbatch (hleft.trans hput)]

/-- Passes of the table recover. -/
theorem recovers (htidy : R.Tidy p.table) (hbatch : p.queue.entries.length ≤ p.queue.batchSize)
    (hdistinct : R.Distinct (ops.stageAll p.env p.queue.entries p.table).2)
    (hplain : p.switch.Plain) : ops.Recovers p := by
  rcases hs : ops.stageAll p.env p.queue.entries p.table with ⟨outcomes, t⟩
  rw [hs] at hdistinct
  cases hany : outcomes.any fun o => o.2.isStaged with
  | true => exact R.recovers_staged htidy hbatch hs hany hdistinct hplain
  | false =>
    have htaken : ops.stageAll p.env (p.queue.entries.take p.queue.batchSize) p.table =
        (outcomes, t) := by rw [List.take_of_length_le hbatch, hs]
    refine ⟨reconcile_unstaged htaken hany, fun calls error cut hcut => ?_⟩
    obtain ⟨summary, hok⟩ := reconcile_unstaged (p := p.cutAfter calls) htaken hany
    rw [hcut] at hok
    cases hok

end Recovery

end Repeatable

end DashAgent
