import DashAgent.Proofs.Reconcile.Shape
import DashAgent.Proofs.Switch.Watch

/-!
# Watched passes

A pass over a table whose flushes on a watched switch are answered is answered, and its removals are
those of the requests that were staged.
-/
namespace DashAgent

open BulkTable WatchedSwitch

/-- A pass whose flush is answered is answered, and leaves the switch as the flush did. -/
theorem BulkTable.reconcile_of_flushStaged {τ κ ε δ : Type} {ops : BulkTable τ κ ε δ}
    {p : Pass τ ε δ} {outcomes : List (Entry × StageOutcome κ)} {t t' : τ} {d' : δ}
    (hs : ops.stageAll p.env (p.queue.entries.take p.queue.batchSize) p.table = (outcomes, t))
    (hf : ops.flushStaged outcomes t p.switch = (.ok (), t', d')) :
    ∃ summary, (ops.reconcile p).1 = .ok summary ∧ (ops.reconcile p).2.switch = d' := by
  by_cases hne : p.queue.entries = []
  · rw [hne, List.take_nil] at hs
    cases hs
    cases hf
    rw [reconcile_idle hne]
    exact ⟨_, rfl, rfl⟩
  · rw [reconcile_answered hne hs hf]
    exact ⟨_, rfl, rfl⟩

variable {τ κ : Type}

/-- A table whose flushes on a watched switch are answered and noted. -/
structure Noted (ops : BulkTable τ κ Context WatchedSwitch) extends Shaped ops where
  /-- A remove request for this object waits for the driver. -/
  Asks : τ → ObjectType → ObjectKey → Prop
  flush_watches : ∀ {t w}, Typed t → w.switch.channelLost = false →
    ∃ t' w' noted, ops.flush t w = (.ok (), t', w') ∧ Watches touched w w' noted ∧
      ∀ {type key}, Asks t type key → ∃ r ∈ noted, r.type = type ∧ key ∈ r.keys

namespace Noted

variable {ops : BulkTable τ κ Context WatchedSwitch} (N : Noted ops)

include N in
theorem stageAll_typed {c : Context} (es : List Entry) {t : τ} (h : N.Typed t) :
    N.Typed (ops.stageAll c es t).2 := by
  induction es generalizing t with
  | nil => exact h
  | cons e rest ih => exact ih (N.stage_typed e c h)

/-- On a switch with its channel up a pass is answered. It notes the removals that are asked for
when all is staged. -/
theorem reconcile {p : Pass τ Context WatchedSwitch} (htyped : N.Typed p.table)
    (hup : p.switch.switch.channelLost = false) :
    ∃ summary noted, (ops.reconcile p).1 = .ok summary ∧
      Watches N.touched p.switch (ops.reconcile p).2.switch noted ∧
      ∀ {e op type key},
        (e, .staged op) ∈
          (ops.stageAll p.env (p.queue.entries.take p.queue.batchSize) p.table).1 →
        N.Asks (ops.stageAll p.env (p.queue.entries.take p.queue.batchSize) p.table).2 type key →
        ∃ r ∈ noted, r.type = type ∧ key ∈ r.keys := by
  have hstaged := N.stageAll_typed (c := p.env) (p.queue.entries.take p.queue.batchSize) htyped
  obtain ⟨outcomes, t, hs⟩ :
      ∃ outcomes t, ops.stageAll p.env (p.queue.entries.take p.queue.batchSize) p.table =
        (outcomes, t) := ⟨_, _, rfl⟩
  rw [hs] at hstaged ⊢
  by_cases hany : (outcomes.any fun o => o.2.isStaged) = true
  · obtain ⟨t', w', noted, hflush, hwatches, hasked⟩ := N.flush_watches hstaged hup
    have hsent : ops.flushStaged outcomes t p.switch = (.ok (), t', w') := by
      rw [flushStaged, if_pos hany, hflush]
    obtain ⟨summary, hanswer, hswitch⟩ := reconcile_of_flushStaged hs hsent
    exact ⟨summary, noted, hanswer, hswitch ▸ hwatches, fun _ hasks => hasked hasks⟩
  · have hsent : ops.flushStaged outcomes t p.switch = (.ok (), t, p.switch) := by
      rw [flushStaged, if_neg hany]
    obtain ⟨summary, hanswer, hswitch⟩ := reconcile_of_flushStaged hs hsent
    refine ⟨summary, [], hanswer, hswitch ▸ .refl, fun hmem _ => ?_⟩
    exact absurd (List.any_eq_true.2 ⟨_, hmem, rfl⟩) hany

end Noted

end DashAgent
