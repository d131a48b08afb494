import DashAgent.Proofs.Overlay.MappingStaging
import DashAgent.Proofs.Overlay.SoleTables
import DashAgent.Proofs.Reconcile.Shape
import DashAgent.Proofs.Switch.FlushInvariant

/-!
# The shapes of the tables

Four of the tables make requests about objects of one type. The mapping table makes requests about
objects of two types.
-/
namespace DashAgent

variable {δ : Type} [Driver δ]

namespace NamedTable

variable {kind : OidKind} {α β ρ : Type} (K : NamedKind kind α β ρ)

def shaped : Shaped (bulk (δ := δ) K) where
  touched type := type = K.type
  Typed t := t.stager.type = K.type
  Idle t := t.stager.slots = []
  stage_typed {t} e c h := by
    have hstage := stage_spec K t e c
    simp only [bulk]
    generalize stage K t e c = result at hstage ⊢
    cases hstage <;> exact h
  flush_typed d h := (BulkStager.type_flush ..).trans h
  commit_typed {t} e op c h := by
    have hcommit := commit_spec K t e op c
    simp only [bulk]
    generalize commit K t e op c = result at hcommit ⊢
    cases hcommit <;> exact h
  endPass_typed h := h
  endPass_idle _ := rfl

end NamedTable

namespace RoutingTable

variable {α ρ : Type} (K : RoutingKind α ρ)

def shaped : Shaped (bulk (δ := δ) K) where
  touched type := type = K.type
  Typed t := t.stager.type = K.type
  Idle t := t.stager.slots = []
  stage_typed {t} e c h := by
    have hstage := stage_spec K t e c
    simp only [bulk]
    generalize stage K t e c = result at hstage ⊢
    cases hstage <;> exact h
  flush_typed d h := (BulkStager.type_flush ..).trans h
  commit_typed {t} e op c h := by
    have hcommit := commit_spec K t e op c
    simp only [bulk]
    generalize commit K t e op c = result at hcommit ⊢
    cases hcommit <;> exact h
  endPass_typed h := h
  endPass_idle _ := rfl

end RoutingTable

namespace MappingTable

def Typed (t : MappingTable) : Prop :=
  t.caToPaStager.type = .outboundCaToPaEntry ∧ t.paStager.type = .paValidationEntry

theorem stage_typed {t : MappingTable} (e : Entry) (c : Context) (h : t.Typed) :
    (t.stage e c).2.Typed := by
  obtain ⟨-, hsame⟩ | ⟨op, s, -, -, hca, hpa⟩ := t.stage_cases e c
  · rwa [hsame]
  · exact ⟨(congrArg BulkStager.type hca.clear).trans h.1,
      (congrArg BulkStager.type hpa.clear).trans h.2⟩

theorem flush_typed {t : MappingTable} (d : δ) (h : t.Typed) :
    (t.flush d).2.1.Typed := by
  have htype := BulkStager.type_flush t.caToPaStager d
  unfold flush
  split
  · next heq =>
    rw [heq] at htype
    exact ⟨htype.trans h.1, h.2⟩
  · next s d' heq =>
    rw [heq] at htype
    exact ⟨htype.trans h.1, (BulkStager.type_flush t.paStager d').trans h.2⟩

theorem commit_typed {t : MappingTable} (e : Entry) (op : MappingOp) (c : Context)
    (h : t.Typed) : (t.commit e op c).2.2.Typed := by
  rw [commit_eq]
  exact h

def shaped : Shaped (bulk (δ := δ)) where
  touched type := type = .outboundCaToPaEntry ∨ type = .paValidationEntry
  Typed := Typed
  Idle t := t.caToPaStager.slots = [] ∧ t.paStager.slots = [] ∧ t.pass = .empty
  stage_typed := stage_typed
  flush_typed := flush_typed
  commit_typed := commit_typed
  endPass_typed h := h
  endPass_idle _ := ⟨rfl, rfl, rfl⟩

theorem betweenPasses_of_rests {t : MappingTable} (h : (shaped (δ := δ)).Rests t) :
    t.BetweenPasses :=
  ⟨h.typed.1, h.typed.2, h.idle.1, h.idle.2.1, h.idle.2.2⟩

theorem BetweenPasses.reconcile {p : Pass MappingTable Context δ} (h : p.table.BetweenPasses) :
    (bulk.reconcile p).2.table.BetweenPasses :=
  betweenPasses_of_rests <| shaped.rests_reconcile
    ⟨⟨h.caToPa, h.pa⟩, h.caToPaSlots, h.paSlots, h.pass⟩

end MappingTable

end DashAgent
