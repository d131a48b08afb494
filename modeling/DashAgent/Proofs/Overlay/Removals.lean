import DashAgent.Proofs.Overlay.Shapes
import DashAgent.Proofs.Reconcile.Watched

/-!
# The removals of a pass

The tables of the agent on a watched switch. A pass over named objects sends a remove request for
every object of its batch that is told to go.
-/
namespace DashAgent

open WatchedSwitch

namespace NamedTable

variable {kind : OidKind} {α β ρ : Type} (K : NamedKind kind α β ρ)

def noted : Noted (bulk (δ := WatchedSwitch) K) where
  toShaped := shaped K
  Asks t type key := type = K.type ∧ .remove key none ∈ t.stager.slots
  flush_watches {t w} htyped hup := by
    have htype : t.stager.type = K.type := htyped
    obtain ⟨s', w', noted, hflush, hwatches, hkeys⟩ := t.stager.flush_watches hup
    rw [htype] at hwatches hkeys
    refine ⟨{ t with stager := s' }, w', noted, by simp only [bulk, hflush], hwatches, ?_⟩
    rintro type key ⟨rfl, hslot⟩
    exact hkeys key hslot

theorem slots_subset_stage (t : NamedTable ρ) (e : Entry) (c : Context) :
    t.stager.slots ⊆ (stage K t e c).2.stager.slots := by
  have hstage := stage_spec K t e c
  generalize stage K t e c = result at hstage ⊢
  cases hstage with
  | done | invalid | notReady => exact List.Subset.refl _
  | create | remove => exact List.subset_append_left ..

theorem slots_subset_stageAll {δ : Type} [Driver δ] (c : Context) (es : List Entry)
    (t : NamedTable ρ) :
    t.stager.slots ⊆ ((bulk (δ := δ) K).stageAll c es t).2.stager.slots := by
  induction es generalizing t with
  | nil => exact List.Subset.refl _
  | cons e rest ih => exact List.Subset.trans (slots_subset_stage K t e c) (ih _)

/-- A programmed object that is told to go is staged to be removed. -/
theorem asks_stageAll {δ : Type} [Driver δ] {c : Context} {es : List Entry} {t : NamedTable ρ}
    {e : Entry} {r : ρ} (he : e ∈ es) (hop : e.op = .del)
    (hrecord : t.records.get? e.key = some r) :
    (∃ op, (e, .staged op) ∈ ((bulk (δ := δ) K).stageAll c es t).1) ∧
      .remove (.oid (K.id r).raw) none ∈
        ((bulk (δ := δ) K).stageAll c es t).2.stager.slots := by
  induction es generalizing t with
  | nil => cases he
  | cons first rest ih =>
    rcases List.mem_cons.1 he with rfl | hrest
    · have hstage := stage_remove (K := K) (c := c) hop hrecord
      have hslot : .remove (.oid (K.id r).raw) none ∈ (stage K t e c).2.stager.slots := by
        rw [hstage]
        exact List.mem_append_right _ (List.mem_singleton_self _)
      refine ⟨⟨.remove t.stager.slots.length, ?_⟩, ?_⟩
      · refine List.mem_cons.2 (.inl ?_)
        change _ = (e, (stage K t e c).1)
        rw [hstage]
      · exact slots_subset_stageAll K c rest (stage K t e c).2 hslot
    · have hsame : (stage K t first c).2.records.get? e.key = some r := by
        rw [records_stage, hrecord]
      obtain ⟨⟨op, hmem⟩, hslot⟩ := ih hrest hsame
      exact ⟨⟨op, List.mem_cons_of_mem _ hmem⟩, hslot⟩

/-- A pass notes the removal of every programmed object that its batch tells to go. -/
theorem reconcile_removes {p : Pass (NamedTable ρ) Context WatchedSwitch} {e : Entry} {r : ρ}
    (htype : p.table.stager.type = K.type) (hup : p.switch.switch.channelLost = false)
    (he : e ∈ p.queue.entries.take p.queue.batchSize) (hop : e.op = .del)
    (hrecord : p.table.records.get? e.key = some r) :
    ∃ summary noted, ((bulk K).reconcile p).1 = .ok summary ∧
      Watches (· = K.type) p.switch ((bulk K).reconcile p).2.switch noted ∧
      ∃ x ∈ noted, x.type = K.type ∧ .oid (K.id r).raw ∈ x.keys := by
  obtain ⟨summary, removals, hanswer, hwatches, hasked⟩ := (noted K).reconcile (p := p) htype hup
  obtain ⟨⟨op, hmem⟩, hslot⟩ := asks_stageAll (δ := WatchedSwitch) K (c := p.env) he hop hrecord
  exact ⟨summary, removals, hanswer, hwatches, hasked hmem ⟨rfl, hslot⟩⟩

end NamedTable

namespace RoutingTable

variable {α ρ : Type} (K : RoutingKind α ρ)

def noted : Noted (bulk (δ := WatchedSwitch) K) where
  toShaped := shaped K
  Asks t type key := type = K.type ∧ .remove key none ∈ t.stager.slots
  flush_watches {t w} htyped hup := by
    have htype : t.stager.type = K.type := htyped
    obtain ⟨s', w', noted, hflush, hwatches, hkeys⟩ := t.stager.flush_watches hup
    rw [htype] at hwatches hkeys
    refine ⟨{ t with stager := s' }, w', noted, by simp only [bulk, hflush], hwatches, ?_⟩
    rintro type key ⟨rfl, hslot⟩
    exact hkeys key hslot

end RoutingTable

namespace MappingTable

def noted : Noted (bulk (δ := WatchedSwitch)) where
  toShaped := shaped
  Asks t type key := type = .outboundCaToPaEntry ∧ .remove key none ∈ t.caToPaStager.slots ∨
    type = .paValidationEntry ∧ .remove key none ∈ t.paStager.slots
  flush_watches {t w} htyped hup := by
    obtain ⟨hca, hpa⟩ : t.caToPaStager.type = .outboundCaToPaEntry ∧
      t.paStager.type = .paValidationEntry := htyped
    obtain ⟨s₁, w₁, first, hflush₁, hwatches₁, hkeys₁⟩ := t.caToPaStager.flush_watches hup
    obtain ⟨s₂, w₂, second, hflush₂, hwatches₂, hkeys₂⟩ :=
      t.paStager.flush_watches (hwatches₁.up hup)
    rw [hca] at hwatches₁ hkeys₁
    rw [hpa] at hwatches₂ hkeys₂
    refine ⟨{ t with caToPaStager := s₁, paStager := s₂ }, w₂, first ++ second,
      by simp only [bulk, flush, hflush₁, hflush₂],
      (hwatches₁.mono fun _ => .inl).trans (hwatches₂.mono fun _ => .inr), ?_⟩
    rintro type key (⟨rfl, hslot⟩ | ⟨rfl, hslot⟩)
    · obtain ⟨r, hr, hrest⟩ := hkeys₁ key hslot
      exact ⟨r, List.mem_append_left _ hr, hrest⟩
    · obtain ⟨r, hr, hrest⟩ := hkeys₂ key hslot
      exact ⟨r, List.mem_append_right _ hr, hrest⟩

end MappingTable

end DashAgent
