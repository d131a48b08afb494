import DashAgent.Proofs.Overlay.MappingConduct
import DashAgent.Proofs.Overlay.SoleTables

/-!
# Staging mappings

What staging does to both stagers of the mapping table, for any stored mappings and any changes.
A change may ask for one of the objects of its mapping only, where the other one is already as the
change wants it.
-/
namespace DashAgent.MappingTable

open BulkStager

structure BetweenPasses (t : MappingTable) : Prop where
  caToPa : t.caToPaStager.type = .outboundCaToPaEntry
  pa : t.paStager.type = .paValidationEntry
  caToPaSlots : t.caToPaStager.slots = []
  paSlots : t.paStager.slots = []
  pass : t.pass = .empty

/-- The requests of an operation, as far as it makes any, are of its kind and stand as `P` says. -/
structure Asked (P : BulkStager → RequestKind → Nat → Prop) (t : MappingTable) (op : MappingOp) :
    Prop where
  caToPa : ∀ {position}, op.caToPa = some position → P t.caToPaStager op.kind position
  pa : ∀ {action position}, op.pa = some (action, position) →
    action.kind = op.kind ∧ P t.paStager op.kind position

theorem Asked.mono {P Q : BulkStager → RequestKind → Nat → Prop} {t t' : MappingTable}
    {op : MappingOp} (h : Asked P t op)
    (hca : ∀ {kind position}, P t.caToPaStager kind position → Q t'.caToPaStager kind position)
    (hpa : ∀ {kind position}, P t.paStager kind position → Q t'.paStager kind position) :
    Asked Q t' op :=
  ⟨fun hop => hca (h.caToPa hop), fun hop => ⟨(h.pa hop).1, hpa (h.pa hop).2⟩⟩

theorem CaStaged.clear {s s' : BulkStager} {op : MappingOp} (h : CaStaged s op s') :
    s'.clear = s.clear := by
  cases h <;> rfl

theorem PaStaged.clear {t t' : MappingTable} {pa : String} {m : MappingRecord}
    {staged : Option (PaAction × Nat)} (h : PaStaged t pa m staged t') :
    t'.paStager.clear = t.paStager.clear := by
  cases h with
  | nothing => rfl
  | acquired =>
    have hspec := stageAcquire_spec t pa m
    generalize t.stageAcquire pa m = result at hspec ⊢
    cases hspec <;> rfl
  | released =>
    have hspec := stageRelease_spec t pa m
    generalize t.stageRelease pa m = result at hspec ⊢
    cases hspec <;> rfl

/-- What was staged before a CA-to-PA request still waits, and so does the request. -/
theorem CaStaged.requested {s s' : BulkStager} {op : MappingOp} {n : Nat} (h : CaStaged s op s')
    (hs : s.HoldsEntries .outboundCaToPaEntry n) :
    s'.HoldsEntries .outboundCaToPaEntry (n + 1) ∧
      (∀ {kind position}, s.Awaits kind false position → s'.Awaits kind false position) ∧
      ∀ {position}, op.caToPa = some position → s'.Awaits op.kind false position := by
  cases h with
  | nothing hnone => exact ⟨hs.mono (Nat.le_succ n), id, by simp [hnone]⟩
  | create hkind _ hposition =>
    refine ⟨hs.push Slot.keyed_create, fun hwaits => hwaits.push _, ?_⟩
    intro position hsome
    cases hposition.symm.trans hsome
    exact awaits_push ⟨hkind, by simp⟩
  | remove hkind _ hposition =>
    refine ⟨hs.push Slot.keyed_remove, fun hwaits => hwaits.push _, ?_⟩
    intro position hsome
    cases hposition.symm.trans hsome
    exact awaits_push ⟨hkind, rfl⟩

/-- What was staged before a PA validation request still waits, and so does the request. -/
theorem PaStaged.requested {t t' : MappingTable} {pa : String} {m : MappingRecord}
    {staged : Option (PaAction × Nat)} {n : Nat} (h : PaStaged t pa m staged t')
    (ht : PaStaging n t) :
    PaStaging (n + 1) t' ∧
      (∀ {kind position}, t.paStager.Awaits kind false position →
        t'.paStager.Awaits kind false position) ∧
      ∀ {action position}, staged = some (action, position) →
        t'.paStager.Awaits action.kind false position := by
  cases h with
  | nothing => exact ⟨⟨ht.holds.mono (Nat.le_succ n), ht.shared⟩, id, nofun⟩
  | acquired =>
    have hrequested := stageAcquire_requested ht pa m
    refine ⟨hrequested.staging, hrequested.kept, ?_⟩
    rintro action position ⟨⟩
    exact hrequested.awaits
  | released =>
    have hrequested := stageRelease_requested ht pa m
    refine ⟨hrequested.staging, hrequested.kept, ?_⟩
    intro action position hstaged
    have hkind := stageRelease_kind t pa m
    rw [Option.some.inj hstaged] at hkind hrequested
    rw [hkind]
    exact hrequested.awaits

/-- Either nothing is staged, or requests of both types may be. -/
theorem stage_cases (t : MappingTable) (e : Entry) (c : Context) :
    (t.stage e c).1.isStaged = false ∧ (t.stage e c).2 = t ∨
      ∃ op s, (t.stage e c).1 = .staged op ∧ Agrees t.mappings e.key op ∧
        CaStaged t.caToPaStager op (t.stage e c).2.caToPaStager ∧
        PaStaged { t with caToPaStager := s } (paOf e.key op) op.mapping op.pa (t.stage e c).2 := by
  have hresult := stage_result t e c
  have hca := stage_caToPa t e c
  generalize t.stage e c = result at hresult hca ⊢
  obtain ⟨outcome, t'⟩ := result
  cases hresult with
  | nothing _ hunstaged => exact .inl ⟨hunstaged, rfl⟩
  | staged op s _ hagrees hpa =>
    obtain ⟨hunstaged, -⟩ | ⟨_, ⟨⟩, hca⟩ := hca
    · cases hunstaged
    · exact .inr ⟨op, s, rfl, hagrees, hca, hpa⟩

theorem stageMissing_pa (t : MappingTable) (pa : String) (m : MappingRecord) :
    (t.stageMissing pa m).1.kind = .create ∧
      ((t.stageMissing pa m).1.pa = none →
        (t.stageMissing pa m).1.mapping.paValidation = true) := by
  cases hpa : m.paValidation <;> simp [stageMissing, hpa]

theorem stagePresent_pa (t : MappingTable) (vnet : String) (m : MappingRecord) :
    (t.stagePresent vnet m).1.kind = .remove ∧
      ((t.stagePresent vnet m).1.pa = none →
        (t.stagePresent vnet m).1.mapping.paValidation = false) := by
  cases hpa : m.paValidation <;> simp [stagePresent, hpa]

/-- The table while changes are staged, so many of them with requests. -/
structure StagingBoth (n : Nat) (t : MappingTable) : Prop where
  caToPa : t.caToPaStager.HoldsEntries .outboundCaToPaEntry n
  pa : PaStaging n t

theorem BetweenPasses.staging {t : MappingTable} (h : t.BetweenPasses) : StagingBoth 0 t := by
  refine ⟨holdsEntries_of_nil h.caToPa h.caToPaSlots, holdsEntries_of_nil h.pa h.paSlots, ?_⟩
  intro pa position hshared
  rw [passOf, h.pass] at hshared
  cases hshared

/-- Either nothing is staged, or the requests of an operation are, and what waited still waits. -/
theorem StagingBoth.stage {n : Nat} {t : MappingTable} (h : StagingBoth n t) (e : Entry)
    (c : Context) :
    (t.stage e c).1.isStaged = false ∧ (t.stage e c).2 = t ∨
      ∃ op t', t.stage e c = (.staged op, t') ∧ StagingBoth (n + 1) t' ∧ Asked Waits t' op ∧
        ∀ {op'}, Asked Waits t op' → Asked Waits t' op' := by
  refine (t.stage_cases e c).imp_right ?_
  rintro ⟨op, s, hop, hagrees, hca, hpa⟩
  have hstart : PaStaging n { t with caToPaStager := s } := ⟨h.pa.holds, h.pa.shared⟩
  obtain ⟨hcaHolds, hcaKept, hcaWaits⟩ := hca.requested h.caToPa
  obtain ⟨hpaHolds, hpaKept, hpaWaits⟩ := hpa.requested hstart
  refine ⟨op, _, Prod.ext hop rfl, ⟨hcaHolds, hpaHolds⟩, ⟨hcaWaits, fun hstaged => ?_⟩,
    fun hbefore => hbefore.mono hcaKept hpaKept⟩
  obtain ⟨-, hkind⟩ := hagrees.pa hstaged
  rw [← hkind]
  exact ⟨rfl, hpaWaits hstaged⟩

end DashAgent.MappingTable
