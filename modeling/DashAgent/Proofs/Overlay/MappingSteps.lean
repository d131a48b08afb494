import DashAgent.Overlay.MappingTable
import DashAgent.Proofs.Table

/-!
# Steps of the mapping table

What staging a change of a mapping finds and does, and what taking or dropping a reference on its PA
validation entry leaves staged, one constructor for each way that they can go. Whatever is said of
staging elsewhere is read off these.
-/
namespace DashAgent.MappingTable

/-! ## References -/

def remembering (t : MappingTable) (s : BulkStager) (pa : String) (p : PaPass) : MappingTable :=
  { t with paStager := s, pass := t.pass.insert pa p }

section Remembering

variable (t : MappingTable) (s : BulkStager) {pa : String} (p : PaPass)

theorem passOf_remembering (pa pa' : String) :
    (t.remembering s pa p).passOf pa' = if pa = pa' then p else t.passOf pa' := by
  unfold remembering passOf
  split
  · next heq =>
    rw [← heq, Table.get?_insert_self]
    rfl
  · next hne => rw [Table.get?_insert_of_ne _ hne]

@[simp] theorem passOf_remembering_self : (t.remembering s pa p).passOf pa = p := by
  rw [passOf_remembering, if_pos rfl]

theorem passOf_remembering_of_ne {pa' : String} (h : pa ≠ pa') :
    (t.remembering s pa p).passOf pa' = t.passOf pa' := by
  rw [passOf_remembering, if_neg h]

end Remembering

section References

variable {t : MappingTable} {pa : String} {m : MappingRecord}

inductive Acquires (t : MappingTable) (pa : String) (m : MappingRecord) :
    Nat × MappingTable → Prop where
  /-- The entry is there, so the driver is not asked. -/
  | present : t.paEntries.contains pa = true →
    Acquires t pa m (t.paStager.slots.length,
      t.remembering (t.paStager.push (.settled .success)).2 pa
        { t.passOf pa with acquired := (t.passOf pa).acquired + 1 })
  /-- The pass has staged a create already. -/
  | shared (position : Nat) : t.paEntries.contains pa = false →
    (t.passOf pa).creating = some position →
    Acquires t pa m (position,
      t.remembering t.paStager pa { t.passOf pa with acquired := (t.passOf pa).acquired + 1 })
  | created : t.paEntries.contains pa = false → (t.passOf pa).creating = none →
    Acquires t pa m (t.paStager.slots.length,
      t.remembering (t.paStager.push (.create
          ⟨some (paValidationEntryKey m.vnetId m.config.underlayIp), []⟩ none)).2 pa
        { t.passOf pa with
          creating := some t.paStager.slots.length
          acquired := (t.passOf pa).acquired + 1 })

theorem stageAcquire_spec (t : MappingTable) (pa : String) (m : MappingRecord) :
    Acquires t pa m (t.stageAcquire pa m) := by
  unfold stageAcquire
  dsimp only
  split
  · next hpresent => exact .present hpresent
  · next habsent =>
    rw [Bool.not_eq_true] at habsent
    split
    · next position hcreating => exact .shared position habsent hcreating
    · next hcreating => exact .created habsent hcreating

inductive Releases (t : MappingTable) (pa : String) (m : MappingRecord) :
    (PaAction × Nat) × MappingTable → Prop where
  /-- References are left, so the driver is not asked. -/
  | shared : 1 < ((t.paEntries.references? pa).getD 0).toNat + (t.passOf pa).acquired -
      (t.passOf pa).released →
    Releases t pa m ((.release, t.paStager.slots.length),
      t.remembering (t.paStager.push (.settled .success)).2 pa
        { t.passOf pa with released := (t.passOf pa).released + 1 })
  | last : ¬1 < ((t.paEntries.references? pa).getD 0).toNat + (t.passOf pa).acquired -
      (t.passOf pa).released →
    Releases t pa m ((.remove, t.paStager.slots.length),
      t.remembering (t.paStager.push (.remove
          (.entry (paValidationEntryKey m.vnetId m.config.underlayIp)) none)).2 pa
        { t.passOf pa with removing := true, released := (t.passOf pa).released + 1 })

theorem stageRelease_spec (t : MappingTable) (pa : String) (m : MappingRecord) :
    Releases t pa m (t.stageRelease pa m) := by
  unfold stageRelease
  dsimp only
  split
  · next hshared => exact .shared hshared
  · next hlast => exact .last hlast

/-- Taking a reference leaves the other entries, and what is stored, as they are. -/
theorem exists_remembering_stageAcquire (t : MappingTable) (pa : String) (m : MappingRecord) :
    ∃ s p, (t.stageAcquire pa m).2 = t.remembering s pa p := by
  have hspec := stageAcquire_spec t pa m
  generalize t.stageAcquire pa m = result at hspec ⊢
  cases hspec <;> exact ⟨_, _, rfl⟩

/-- So does dropping one. -/
theorem exists_remembering_stageRelease (t : MappingTable) (pa : String) (m : MappingRecord) :
    ∃ s p, (t.stageRelease pa m).2 = t.remembering s pa p := by
  have hspec := stageRelease_spec t pa m
  generalize t.stageRelease pa m = result at hspec ⊢
  cases hspec <;> exact ⟨_, _, rfl⟩

end References

/-! ## Changes -/

/-- The mapping that a SET works on, or why there is none. -/
inductive Found (t : MappingTable) (e : Entry) (key : MappingKey) (c : Context) :
    Except (StageOutcome MappingOp) MappingRecord → Prop where
  | complete (m : MappingRecord) : t.mappings.get? e.key = some m → m.isComplete = true →
    Found t e key c (.error .done)
  | incomplete (m : MappingRecord) : t.mappings.get? e.key = some m → m.isComplete = false →
    Found t e key c (.ok m)
  | invalid (error : EntryError) : t.mappings.get? e.key = none →
    MappingConfig.ofEntry e = .error error → Found t e key c (.error (.invalid error))
  | orphan (config : MappingConfig) : t.mappings.get? e.key = none →
    MappingConfig.ofEntry e = .ok config → c.vnetId? key.vnet = none →
    Found t e key c (.error (.notReady (.vnet key.vnet)))
  | fresh (config : MappingConfig) (vnetId : Oid .vnet) : t.mappings.get? e.key = none →
    MappingConfig.ofEntry e = .ok config → c.vnetId? key.vnet = some vnetId →
    Found t e key c (.ok ⟨vnetId, key.overlayIp, config, false, false⟩)

theorem mappingOf_spec (t : MappingTable) (e : Entry) (key : MappingKey) (c : Context) :
    Found t e key c (t.mappingOf e key c) := by
  unfold mappingOf
  split
  · next m hget =>
    split
    · next hcomplete => exact .complete m hget hcomplete
    · next hincomplete => exact .incomplete m hget (by simpa using hincomplete)
  · next hget =>
    split
    · next error hconfig => exact .invalid error hget hconfig
    · next config hconfig =>
      split
      · next hvnet => exact .orphan config hget hconfig hvnet
      · next vnetId hvnet => exact .fresh config vnetId hget hconfig hvnet

inductive Stages (t : MappingTable) (e : Entry) (c : Context) :
    StageOutcome MappingOp × MappingTable → Prop where
  | unreadable (error : EntryError) : e.op = .set → MappingKey.parse e.key = .error error →
    Stages t e c (.invalid error, t)
  | unmapped (key : MappingKey) (outcome : StageOutcome MappingOp) : e.op = .set →
    MappingKey.parse e.key = .ok key → t.mappingOf e key c = .error outcome →
    Stages t e c (outcome, t)
  | conflict (key : MappingKey) (m : MappingRecord) : e.op = .set →
    MappingKey.parse e.key = .ok key → t.mappingOf e key c = .ok m → m.paValidation = false →
    (t.passOf (m.paKey key.vnet)).removing = true →
    Stages t e c (.notReady (.paRemoval (m.paKey key.vnet)), t)
  | missing (key : MappingKey) (m : MappingRecord) : e.op = .set →
    MappingKey.parse e.key = .ok key → t.mappingOf e key c = .ok m →
    (m.paValidation = true ∨ (t.passOf (m.paKey key.vnet)).removing = false) →
    Stages t e c (.staged (t.stageMissing (m.paKey key.vnet) m).1,
      (t.stageMissing (m.paKey key.vnet) m).2)
  | gone : e.op = .del → t.mappings.get? e.key = none → Stages t e c (.done, t)
  | unnamed (m : MappingRecord) : e.op = .del → t.mappings.get? e.key = some m →
    MappingKey.vnetOf? e.key = none → Stages t e c (.invalid .mappingKeyShape, t)
  | present (m : MappingRecord) (vnet : String) : e.op = .del →
    t.mappings.get? e.key = some m → MappingKey.vnetOf? e.key = some vnet →
    Stages t e c (.staged (t.stagePresent vnet m).1, (t.stagePresent vnet m).2)

theorem stage_spec (t : MappingTable) (e : Entry) (c : Context) : Stages t e c (t.stage e c) := by
  unfold stage
  split
  · next hset =>
    unfold stageSet
    split
    · next error hparse => exact .unreadable error hset hparse
    · next key hparse =>
      split
      · next outcome hm => exact .unmapped key outcome hset hparse hm
      · next m hm =>
        dsimp only
        split
        · next hconflict =>
          rw [Bool.and_eq_true, Bool.not_eq_true'] at hconflict
          exact .conflict key m hset hparse hm hconflict.1 hconflict.2
        · next hfree =>
          refine .missing key m hset hparse hm ?_
          cases hpa : m.paValidation <;> simp_all
  · next hdel =>
    unfold stageDel
    split
    · next hnone => exact .gone hdel hnone
    · next m hm =>
      split
      · next hvnet => exact .unnamed m hdel hm hvnet
      · next vnet hvnet => exact .present m vnet hdel hm hvnet

section Asked

variable {t : MappingTable} {e : Entry} {c : Context} {key : MappingKey} {m : MappingRecord}

theorem mappingOf_complete (hget : t.mappings.get? e.key = some m)
    (hcomplete : m.isComplete = true) : t.mappingOf e key c = .error .done := by
  simp only [mappingOf, hget, hcomplete, if_true]

theorem mappingOf_invalid {error : EntryError} (hget : t.mappings.get? e.key = none)
    (hconfig : MappingConfig.ofEntry e = .error error) :
    t.mappingOf e key c = .error (.invalid error) := by
  simp only [mappingOf, hget, hconfig]

section Readable

variable {config : MappingConfig} (hget : t.mappings.get? e.key = none)
  (hconfig : MappingConfig.ofEntry e = .ok config)
include hget hconfig

theorem mappingOf_orphan (hvnet : c.vnetId? key.vnet = none) :
    t.mappingOf e key c = .error (.notReady (.vnet key.vnet)) := by
  simp only [mappingOf, hget, hconfig, hvnet]

theorem mappingOf_fresh {vnetId : Oid .vnet} (hvnet : c.vnetId? key.vnet = some vnetId) :
    t.mappingOf e key c = .ok ⟨vnetId, key.overlayIp, config, false, false⟩ := by
  simp only [mappingOf, hget, hconfig, hvnet]

end Readable

theorem stage_unreadable {error : EntryError} (hset : e.op = .set)
    (hkey : MappingKey.parse e.key = .error error) : t.stage e c = (.invalid error, t) := by
  simp only [stage, hset, stageSet, hkey]

theorem stage_unmapped {outcome : StageOutcome MappingOp} (hset : e.op = .set)
    (hkey : MappingKey.parse e.key = .ok key) (hm : t.mappingOf e key c = .error outcome) :
    t.stage e c = (outcome, t) := by
  simp only [stage, hset, stageSet, hkey, hm]

theorem stage_conflict (hset : e.op = .set) (hkey : MappingKey.parse e.key = .ok key)
    (hm : t.mappingOf e key c = .ok m) (hpa : m.paValidation = false)
    (hremoving : (t.passOf (m.paKey key.vnet)).removing = true) :
    t.stage e c = (.notReady (.paRemoval (m.paKey key.vnet)), t) := by
  simp only [stage, hset, stageSet, hkey, hm, hpa, hremoving, Bool.not_false, Bool.and_self,
    if_true]

theorem stage_missing (hset : e.op = .set) (hkey : MappingKey.parse e.key = .ok key)
    (hm : t.mappingOf e key c = .ok m)
    (hfree : (t.passOf (m.paKey key.vnet)).removing = false) :
    t.stage e c = (.staged (t.stageMissing (m.paKey key.vnet) m).1,
      (t.stageMissing (m.paKey key.vnet) m).2) := by
  simp only [stage, hset, stageSet, hkey, hm, hfree, Bool.and_false, Bool.false_eq_true, if_false]

theorem stage_gone (hdel : e.op = .del) (hget : t.mappings.get? e.key = none) :
    t.stage e c = (.done, t) := by
  simp only [stage, hdel, stageDel, hget]

theorem stage_present {vnet : String} (hdel : e.op = .del)
    (hget : t.mappings.get? e.key = some m) (hvnet : MappingKey.vnetOf? e.key = some vnet) :
    t.stage e c = (.staged (t.stagePresent vnet m).1, (t.stagePresent vnet m).2) := by
  simp only [stage, hdel, stageDel, hget, hvnet]

end Asked

/-- A mapping that has nothing yet asks for both of its objects. -/
theorem stageMissing_new (t : MappingTable) (pa : String) {m : MappingRecord}
    (hca : m.caToPa = false) (hpa : m.paValidation = false) :
    t.stageMissing pa m =
      (⟨.create, m, some t.caToPaStager.slots.length,
        some (.acquire, ((t.stageCaToPaCreate m).2.stageAcquire pa m).1)⟩,
        ((t.stageCaToPaCreate m).2.stageAcquire pa m).2) := by
  simp only [stageMissing, hca, hpa, Bool.false_eq_true, if_false]
  rfl

/-- A mapping that has both of its objects gives both up. -/
theorem stagePresent_complete (t : MappingTable) (vnet : String) {m : MappingRecord}
    (hcomplete : m.isComplete = true) :
    t.stagePresent vnet m =
      (⟨.remove, m, some t.caToPaStager.slots.length,
        some ((t.stageCaToPaRemove m).2.stageRelease (m.paKey vnet) m).1⟩,
        ((t.stageCaToPaRemove m).2.stageRelease (m.paKey vnet) m).2) := by
  rw [MappingRecord.isComplete, Bool.and_eq_true] at hcomplete
  simp only [stagePresent, hcomplete, if_true]
  rfl

end DashAgent.MappingTable
