import DashAgent.Context
import DashAgent.Proofs.Reconcile.Invariant

/-!
# The shape of a table over a pass

A table makes requests about objects of some types of the switch, through stagers of these types. It
keeps the stagers all through a pass and has nothing left in them when the pass has ended, whatever
the driver answers.
-/
namespace DashAgent

variable {τ κ δ : Type}

/-- A table with stagers of some types, which every call of a pass keeps. -/
structure Shaped (ops : BulkTable τ κ Context δ) where
  /-- The types of the objects that requests are made about. -/
  touched : ObjectType → Prop
  /-- The stagers are those of the types. -/
  Typed : τ → Prop
  Idle : τ → Prop
  stage_typed : ∀ {t} e c, Typed t → Typed (ops.stage e c t).2
  flush_typed : ∀ {t} d, Typed t → Typed (ops.flush t d).2.1
  commit_typed : ∀ {t} e op c, Typed t → Typed (ops.commit e op c t).2.2
  endPass_typed : ∀ {t}, Typed t → Typed (ops.endPass t)
  endPass_idle : ∀ t, Idle (ops.endPass t)

namespace Shaped

variable {ops : BulkTable τ κ Context δ} (S : Shaped ops)

structure Rests (t : τ) : Prop where
  typed : S.Typed t
  idle : S.Idle t

def invariant : PassInvariant ops where
  staging _ _ _ t _ := S.Typed t
  committing _ _ _ t _ := S.Typed t
  answered _ _ t _ := S.Rests t
  unanswered _ t _ := S.Rests t
  stage h := S.stage_typed _ _ h
  idle h _ := h
  flush {_ _ _ d _ _} h hflush := by
    have htyped := S.flush_typed d h
    rwa [hflush] at htyped
  failure {_ _ _ d _ _ _} h hflush := by
    have htyped := S.flush_typed d h
    rw [hflush] at htyped
    exact ⟨S.endPass_typed htyped, S.endPass_idle _⟩
  commit h := S.commit_typed _ _ _ h
  skip _ h := h
  finish h := ⟨S.endPass_typed h, S.endPass_idle _⟩

theorem rests_reconcile {p : Pass τ Context δ} (h : S.Rests p.table) :
    S.Rests (ops.reconcile p).2.table :=
  S.invariant.keeps (B := fun _ t _ => S.Rests t) h h.typed id id

end Shaped

end DashAgent
