import DashAgent.Overlay.Eni
import DashAgent.Overlay.Route
import DashAgent.Overlay.RouteRule
import DashAgent.Overlay.Vnet
import DashAgent.Proofs.Overlay.MappingStaging
import DashAgent.Proofs.Overlay.SoleTables
import DashAgent.Proofs.Reconcile.Uptake

/-!
# The tables of the agent on an ample switch

Four of the tables make one request for a change, and the mapping table makes up to two, to
different tables of the switch. On an ample switch all of them are granted and all changes with
requests are committed.
-/
namespace DashAgent

open BulkStager

/-! ## Tables with one request for a change -/

def Uptake.sole {τ κ : Type} {ops : BulkTable τ κ Context Simulator} (stager : τ → BulkStager)
    (kind : κ → RequestKind) (allocates : κ → Bool) (position : κ → Nat)
    (hstage : ∀ t e c, (ops.stage e c t).1.isStaged = false ∧ (ops.stage e c t).2 = t ∨
      ∃ op t' slot, ops.stage e c t = (.staged op, t') ∧ stager t' = ((stager t).push slot).2 ∧
        position op = (stager t).slots.length ∧ slot.Asks (kind op) (allocates op))
    (hflush : ∀ t d, (ops.flush t d).1 = ((stager t).flush d).1 ∧
      stager (ops.flush t d).2.1 = ((stager t).flush d).2.1 ∧
      (ops.flush t d).2.2 = ((stager t).flush d).2.2)
    (hcommit : ∀ {t op} e c, (stager t).Grants (kind op) (allocates op) (position op) →
      (ops.commit e op c t).1 = .commit ∧ stager (ops.commit e op c t).2.2 = stager t)
    (hclear : ∀ t, stager (ops.endPass t) = (stager t).clear)
    (hrest : ∀ t, (stager t).slots = [] → ops.endPass t = t) : Uptake ops where
  Tidy t := (stager t).slots = []
  Staging n t := (stager t).createCount ≤ n
  Committing _ := True
  Awaits t op := (stager t).Awaits (kind op) (allocates op) (position op)
  Granted t op := (stager t).Grants (kind op) (allocates op) (position op)
  start := by
    intro t h
    refine ⟨?_, hrest t h⟩
    simp [createCount, selected, h]
  stage := by
    intro n t e c h
    refine (hstage t e c).imp_right ?_
    rintro ⟨op, t', slot, hstaged, hstager, hposition, hasks⟩
    have hcount := createCount_push_le (stager t) slot
    refine ⟨op, t', hstaged, ?_, ?_, fun hbefore => ?_⟩
    · rw [hstager]
      exact Nat.le_trans hcount (Nat.add_le_add_right h 1)
    · rw [hstager, hposition]
      exact awaits_push hasks
    · rw [hstager]
      exact hbefore.push slot
  flush := by
    intro n m t d h hample
    obtain ⟨s', d', hsent, -, hleft, hslots⟩ :=
      flush_ample (hample.mono (Nat.add_le_add_left h m))
    obtain ⟨hanswer, hstager, hswitch⟩ := hflush t d
    rw [hsent] at hanswer hstager hswitch
    refine ⟨(ops.flush t d).2.1, d', Prod.ext hanswer (Prod.ext rfl hswitch), trivial, hleft, ?_⟩
    intro op hawaits
    rw [hstager]
    exact grants_of_awaits hawaits hslots
  commit := by
    intro t op e c _ hgranted
    obtain ⟨hdecision, hstager⟩ := hcommit e c hgranted
    refine ⟨hdecision, trivial, fun hother => ?_⟩
    rw [hstager]
    exact hother
  finish := by
    intro t _
    rw [hclear]
    rfl

namespace NamedTable

variable {kind : OidKind} {α β ρ : Type} (K : NamedKind kind α β ρ)

/-- A flush of the table is one of its stager. -/
theorem flush_stager (t : NamedTable ρ) (d : Simulator) :
    ((bulk K).flush t d).1 = (t.stager.flush d).1 ∧
      ((bulk K).flush t d).2.1.stager = (t.stager.flush d).2.1 ∧
      ((bulk K).flush t d).2.2 = (t.stager.flush d).2.2 := ⟨rfl, rfl, rfl⟩

theorem stager_endPass (t : NamedTable ρ) :
    ((bulk (δ := Simulator) K).endPass t).stager = t.stager.clear := rfl

def uptake : Uptake (bulk (δ := Simulator) K) :=
  .sole stager opKind opAllocates opPosition
    (by
      intro t e c
      have hstage := stage_spec K t e c
      simp only [bulk]
      generalize stage K t e c = result at hstage ⊢
      cases hstage with
      | done | invalid | notReady => exact .inl ⟨rfl, rfl⟩
      | create | remove =>
        exact .inr ⟨_, _, _, rfl, rfl, rfl, rfl, by simp [opAllocates]⟩)
    (flush_stager K)
    (by
      intro t op e c hgranted
      simp only [bulk]
      cases op with
      | create position asked =>
        simp only [opKind, opAllocates, opPosition] at hgranted
        obtain ⟨hstatus, hallocated⟩ := hgranted
        obtain ⟨id, hid, hne⟩ := hallocated rfl
        rw [commit_created K hstatus (bind_ofRaw hid hne)]
        exact ⟨rfl, rfl⟩
      | remove position =>
        simp only [opKind, opPosition] at hgranted
        rw [commit_removed K hgranted.1]
        exact ⟨rfl, rfl⟩)
    (stager_endPass K)
    (by
      rintro ⟨⟨_, _, _, _⟩, _⟩ ⟨⟩
      rfl)

end NamedTable

namespace RoutingTable

variable {α ρ : Type} (K : RoutingKind α ρ)

/-- A flush of the table is one of its stager. -/
theorem flush_stager (t : RoutingTable ρ) (d : Simulator) :
    ((bulk K).flush t d).1 = (t.stager.flush d).1 ∧
      ((bulk K).flush t d).2.1.stager = (t.stager.flush d).2.1 ∧
      ((bulk K).flush t d).2.2 = (t.stager.flush d).2.2 := ⟨rfl, rfl, rfl⟩

theorem stager_endPass (t : RoutingTable ρ) :
    ((bulk (δ := Simulator) K).endPass t).stager = t.stager.clear := rfl

def uptake : Uptake (bulk (δ := Simulator) K) :=
  .sole stager opKind (fun _ => false) opPosition
    (by
      intro t e c
      have hstage := stage_spec K t e c
      simp only [bulk]
      generalize stage K t e c = result at hstage ⊢
      cases hstage with
      | done | invalid | notReady => exact .inl ⟨rfl, rfl⟩
      | create | remove => exact .inr ⟨_, _, _, rfl, rfl, rfl, rfl, by simp⟩)
    (flush_stager K)
    (by
      intro t op e c hgranted
      simp only [bulk]
      cases op with
      | create position r =>
        simp only [opKind, opPosition] at hgranted
        rw [commit_created K hgranted.1]
        exact ⟨rfl, rfl⟩
      | remove position =>
        simp only [opKind, opPosition] at hgranted
        cases hget : t.records.get? e.key with
        | none =>
          rw [commit_absent K hgranted.1 hget]
          exact ⟨rfl, rfl⟩
        | some r =>
          rw [commit_removed K hgranted.1 hget]
          exact ⟨rfl, rfl⟩)
    (stager_endPass K)
    (by
      rintro ⟨⟨_, _, _, _⟩, _⟩ ⟨⟩
      rfl)

end RoutingTable

/-! ## Mappings -/

namespace MappingTable

theorem BetweenPasses.endPass {t : MappingTable} (h : t.BetweenPasses) :
    (bulk (δ := Simulator)).endPass t = t := by
  obtain ⟨⟨_, _, _, _⟩, ⟨_, _, _, _⟩, _, _, _⟩ := t
  obtain ⟨-, -, ⟨⟩, ⟨⟩, ⟨⟩⟩ := h
  rfl

/-- What is granted as far as it was asked for is committed. -/
theorem decision_of_asked {t : MappingTable} {op : MappingOp} (h : Asked Granted t op) (e : Entry)
    (c : Context) : (t.commit e op c).1 = .commit := by
  have hca : ∀ {position}, op.caToPa = some position →
      Decision.ofStatus op.kind (t.caToPaStager.outcome position) = .commit :=
    fun hposition => (h.caToPa hposition).1
  have hpa : ∀ {staged}, op.pa = some staged →
      Decision.ofStatus op.kind (t.paStager.outcome staged.2) = .commit :=
    fun haction => (h.pa haction).2.1
  simp only [MappingTable.commit, statuses]
  cases hposition : op.caToPa with
  | none =>
    cases haction : op.pa with
    | none => rfl
    | some staged => simp [Decision.ofStatuses, Decision.worse, hpa haction]
  | some position =>
    cases haction : op.pa with
    | none => simp [Decision.ofStatuses, Decision.worse, hca hposition]
    | some staged => simp [Decision.ofStatuses, Decision.worse, hca hposition, hpa haction]

def uptake : Uptake (bulk (δ := Simulator)) where
  Tidy := BetweenPasses
  Staging := StagingBoth
  Committing t := t.caToPaStager.type = .outboundCaToPaEntry ∧ t.paStager.type = .paValidationEntry
  Awaits := Asked Waits
  Granted := Asked Granted
  start h := ⟨h.staging, h.endPass⟩
  stage e c h := h.stage e c
  flush := by
    intro n m t d h hample
    obtain ⟨ca', d₁, hca, hcaType, hcaRest, hcaGrants, hcaOthers⟩ := h.caToPa.flush_ample hample
    obtain ⟨pa', d₂, hpa, hpaType, hpaRest, hpaGrants, hpaOthers⟩ :=
      h.pa.holds.flush (hcaOthers .paValidationEntry (by decide))
    refine ⟨{ t with caToPaStager := ca', paStager := pa' }, d₂, ?_, ⟨hcaType, hpaType⟩,
      fun type => ?_, fun hasked => hasked.mono hcaGrants hpaGrants⟩
    · simp only [bulk, MappingTable.flush, hca, hpa]
    · by_cases hpaTable : .paValidationEntry = type
      · exact hpaTable ▸ hpaRest
      · by_cases hcaTable : .outboundCaToPaEntry = type
        · exact hpaOthers hpaTable (hcaTable ▸ hcaRest)
        · exact (hpaOthers hpaTable (hcaOthers type hcaTable)).mono (Nat.le_add_right m n)
  commit := by
    intro t op e c h hgranted
    simp only [bulk]
    rw [commit_eq]
    exact ⟨decision_of_asked hgranted e c, h, fun hother => hother.mono id id⟩
  finish h := ⟨h.1, h.2, rfl, rfl, rfl⟩

end MappingTable

end DashAgent
