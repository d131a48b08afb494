import DashAgent.Proofs.Overlay.MappingSteps
import DashAgent.Proofs.Switch.Stager

/-!
# Staging and committing mappings

What the calls of a pass do to the mapping table, in the form that invariants are proved from.
Staging touches neither mappings nor PA validation entries, and what it stages agrees with the
mapping that is stored. A commit is then one step of the PA validation entry followed by one store
of the mapping with the flags that its answers leave it.
-/
namespace DashAgent

namespace MappingKey

/-- A key that can be read has a VNET name. -/
theorem vnetOf?_of_parse {s : String} {key : MappingKey} (h : parse s = .ok key) :
    vnetOf? s = some key.vnet := by
  unfold parse at h
  split at h
  · cases h
  · cases h
  · next vnet ip _ heq =>
    cases hip : IpAddress.ofChars? ip with
    | none => simp [hip, orError, bind, Except.bind] at h
    | some overlayIp =>
      simp only [hip, orError, bind, Except.bind] at h
      cases h
      simp [vnetOf?, heq]

end MappingKey

namespace MappingTable

/-! ## Stored mappings -/

/-- The mapping is what the table holds for a key; nothing is held for an empty mapping. -/
def Stored (ms : Table String MappingRecord) (key : String) (m : MappingRecord) : Prop :=
  ms.get? key = some m ∨ ms.get? key = none ∧ m.isEmpty = true

/-- The mappings in which a key is given a mapping, or none if it is empty. -/
def stored (ms : Table String MappingRecord) (key : String) (m : MappingRecord) :
    Table String MappingRecord := if m.isEmpty then ms.erase key else ms.insert key m

section Stored

variable {ms : Table String MappingRecord} {key l : String} {m m' : MappingRecord}

theorem get?_stored_of_ne (h : key ≠ l) : (stored ms key m).get? l = ms.get? l := by
  unfold stored
  split
  · exact Table.get?_erase_of_ne h
  · exact Table.get?_insert_of_ne _ h

theorem stored_of_ne (h : key ≠ l) (hl : Stored ms l m') : Stored (stored ms key m) l m' := by
  rw [Stored, get?_stored_of_ne h]
  exact hl

theorem eq_of_get?_stored (h : (stored ms key m).get? key = some m') :
    m' = m ∧ m.isEmpty = false := by
  unfold stored at h
  split at h
  · simp at h
  · next hne =>
    rw [Table.get?_insert_self] at h
    cases h
    exact ⟨rfl, by simpa using hne⟩

theorem Stored.weight {w : String → MappingRecord → Nat} (h : Stored ms key m)
    (hw : m.isEmpty = true → w key m = 0) : ms.weight w key = w key m := by
  obtain h | ⟨h, hempty⟩ := h
  · exact Table.weight_of_some w h
  · rw [Table.weight_of_none w h, hw hempty]

theorem tally_stored (ms : Table String MappingRecord) (key : String) (m : MappingRecord)
    {w : String → MappingRecord → Nat} (hw : m.isEmpty = true → w key m = 0) :
    (stored ms key m).tally w = (ms.erase key).tally w + w key m := by
  unfold stored
  split
  · next hempty => rw [hw hempty, Nat.add_zero]
  · exact Table.tally_insert ..

/-- Giving a key a new mapping moves a tally by the weights of the old and the new one. -/
theorem Stored.tally {w : String → MappingRecord → Nat} (h : Stored ms key m)
    (hw : ∀ m : MappingRecord, m.isEmpty = true → w key m = 0) (m' : MappingRecord) :
    (stored ms key m').tally w + w key m = ms.tally w + w key m' := by
  have hafter := tally_stored ms key m' (hw m')
  have hbefore := ms.tally_erase w key
  rw [h.weight (hw m)] at hbefore
  omega

theorem size_stored_le (ms : Table String MappingRecord) (key : String) (m : MappingRecord) :
    (stored ms key m).size ≤ ms.size + 1 := by
  have herase := ms.size_erase key
  unfold stored
  split
  · omega
  · rw [Table.size_insert]
    omega

end Stored

/-- A staged operation works on the stored mapping, and on those of its objects that are missing
or in place, as the case may be. -/
structure Agrees (ms : Table String MappingRecord) (key : String) (op : MappingOp) : Prop where
  stored : Stored ms key op.mapping
  vnet : (MappingKey.vnetOf? key).isSome = true
  caToPa : ∀ {position}, op.caToPa = some position → op.mapping.caToPa = decide (op.kind = .remove)
  pa : ∀ {action position}, op.pa = some (action, position) →
    op.mapping.paValidation = decide (op.kind = .remove) ∧ action.kind = op.kind

def paOf (key : String) (op : MappingOp) : String :=
  op.mapping.paKey ((MappingKey.vnetOf? key).getD "")

/-! ## Staging -/

theorem stageAcquire_frame (t : MappingTable) (pa : String) (m : MappingRecord) :
    (t.stageAcquire pa m).2.mappings = t.mappings ∧
      (t.stageAcquire pa m).2.paEntries = t.paEntries := by
  obtain ⟨s, p, heq⟩ := exists_remembering_stageAcquire t pa m
  rw [heq]
  exact ⟨rfl, rfl⟩

theorem stageRelease_frame (t : MappingTable) (pa : String) (m : MappingRecord) :
    (t.stageRelease pa m).2.mappings = t.mappings ∧
      (t.stageRelease pa m).2.paEntries = t.paEntries := by
  obtain ⟨s, p, heq⟩ := exists_remembering_stageRelease t pa m
  rw [heq]
  exact ⟨rfl, rfl⟩

theorem stageRelease_kind (t : MappingTable) (pa : String) (m : MappingRecord) :
    (t.stageRelease pa m).1.1.kind = .remove := by
  have hspec := stageRelease_spec t pa m
  generalize t.stageRelease pa m = result at hspec ⊢
  cases hspec <;> rfl

theorem passOf_stageAcquire_of_ne {t : MappingTable} {pa pa' : String} {m : MappingRecord}
    (h : pa ≠ pa') : (t.stageAcquire pa m).2.passOf pa' = t.passOf pa' := by
  obtain ⟨s, p, heq⟩ := exists_remembering_stageAcquire t pa m
  rw [heq, passOf_remembering_of_ne _ _ _ h]

theorem passOf_stageRelease_of_ne {t : MappingTable} {pa pa' : String} {m : MappingRecord}
    (h : pa ≠ pa') : (t.stageRelease pa m).2.passOf pa' = t.passOf pa' := by
  obtain ⟨s, p, heq⟩ := exists_remembering_stageRelease t pa m
  rw [heq, passOf_remembering_of_ne _ _ _ h]

/-- An acquire stages no removal. -/
theorem removing_stageAcquire (t : MappingTable) (pa : String) (m : MappingRecord) (pa' : String) :
    ((t.stageAcquire pa m).2.passOf pa').removing = (t.passOf pa').removing := by
  by_cases hpa : pa = pa'
  · subst hpa
    have hspec := stageAcquire_spec t pa m
    generalize t.stageAcquire pa m = result at hspec ⊢
    cases hspec <;> rw [passOf_remembering_self]
  · rw [passOf_stageAcquire_of_ne hpa]

/-- What a release does depends on the references that are left before it. -/
theorem stageRelease_action (t : MappingTable) (pa : String) (m : MappingRecord) :
    (t.stageRelease pa m).1.1 =
        (if 1 < ((t.paEntries.references? pa).getD 0).toNat + (t.passOf pa).acquired -
          (t.passOf pa).released then .release else .remove) ∧
      ((t.stageRelease pa m).2.passOf pa).removing =
        ((t.passOf pa).removing || decide ((t.stageRelease pa m).1.1 = .remove)) := by
  have hspec := stageRelease_spec t pa m
  generalize t.stageRelease pa m = result at hspec ⊢
  cases hspec with
  | shared hshared => simp [hshared]
  | last hlast => simp [hlast]

/-- What staging a change did to the table, besides requests for CA-to-PA entries. -/
inductive PaStaged (t : MappingTable) (pa : String) (m : MappingRecord) :
    Option (PaAction × Nat) → MappingTable → Prop where
  | nothing : PaStaged t pa m none t
  | acquired : (t.passOf pa).removing = false →
    PaStaged t pa m (some (.acquire, (t.stageAcquire pa m).1)) (t.stageAcquire pa m).2
  | released : PaStaged t pa m (some (t.stageRelease pa m).1) (t.stageRelease pa m).2

theorem PaStaged.frame {t t' : MappingTable} {pa : String} {m : MappingRecord}
    {staged : Option (PaAction × Nat)} (h : PaStaged t pa m staged t') :
    t'.mappings = t.mappings ∧ t'.paEntries = t.paEntries := by
  cases h with
  | nothing => exact ⟨rfl, rfl⟩
  | acquired => exact stageAcquire_frame ..
  | released => exact stageRelease_frame ..

/-- Staging a change either leaves the table alone or stages an operation that agrees with it. -/
inductive StageResult (t : MappingTable) (e : Entry) :
    StageOutcome MappingOp → MappingTable → Prop where
  | nothing (outcome : StageOutcome MappingOp) : outcome.isStaged = false →
    StageResult t e outcome t
  | staged (op : MappingOp) (caToPaStager : BulkStager) (t' : MappingTable) :
    Agrees t.mappings e.key op →
    PaStaged { t with caToPaStager } (paOf e.key op) op.mapping op.pa t' →
    StageResult t e (.staged op) t'

theorem stageMissing_result {t : MappingTable} {key : String} {vnet : String} {m : MappingRecord}
    (hvnet : MappingKey.vnetOf? key = some vnet) (hstored : Stored t.mappings key m)
    (hfree : m.paValidation = true ∨ (t.passOf (m.paKey vnet)).removing = false) :
    ∃ op t' caToPaStager, t.stageMissing (m.paKey vnet) m = (op, t') ∧ op.mapping = m ∧
      Agrees t.mappings key op ∧
      PaStaged { t with caToPaStager } (m.paKey vnet) m op.pa t' := by
  obtain ⟨caToPa, s, hs, hca⟩ : ∃ caToPa s,
      (if m.caToPa then (none, t)
        else ((t.stageCaToPaCreate m).1, (t.stageCaToPaCreate m).2)) =
        ((caToPa, { t with caToPaStager := s }) : Option Nat × MappingTable) ∧
      (∀ {position}, caToPa = some position → m.caToPa = false) := by
    cases hca : m.caToPa with
    | false => exact ⟨_, _, rfl, fun _ => rfl⟩
    | true => exact ⟨_, t.caToPaStager, rfl, by simp⟩
  cases hpa : m.paValidation with
  | false =>
    have hfree : (t.passOf (m.paKey vnet)).removing = false := by simpa [hpa] using hfree
    refine ⟨⟨.create, m, caToPa, some (.acquire, _)⟩, _, s, ?_, rfl, ?_, .acquired hfree⟩
    · simp only [stageMissing, hs, hpa]
      rfl
    · refine ⟨hstored, by simp [hvnet], fun h => by simp [hca h], ?_⟩
      intro action position h
      cases h
      simp [hpa, PaAction.kind]
  | true =>
    refine ⟨⟨.create, m, caToPa, none⟩, _, s, ?_, rfl, ?_, .nothing⟩
    · simp only [stageMissing, hs, hpa]
      rfl
    · exact ⟨hstored, by simp [hvnet], fun h => by simp [hca h], by simp⟩

theorem stagePresent_result {t : MappingTable} {key : String} {vnet : String} {m : MappingRecord}
    (hvnet : MappingKey.vnetOf? key = some vnet) (hstored : Stored t.mappings key m) :
    ∃ op t' caToPaStager, t.stagePresent vnet m = (op, t') ∧ op.mapping = m ∧
      Agrees t.mappings key op ∧
      PaStaged { t with caToPaStager } (m.paKey vnet) m op.pa t' := by
  obtain ⟨caToPa, s, hs, hca⟩ : ∃ caToPa s,
      (if m.caToPa then (some (t.stageCaToPaRemove m).1, (t.stageCaToPaRemove m).2)
        else (none, t)) =
        ((caToPa, { t with caToPaStager := s }) : Option Nat × MappingTable) ∧
      (∀ {position}, caToPa = some position → m.caToPa = true) := by
    cases hca : m.caToPa with
    | false => exact ⟨_, t.caToPaStager, rfl, by simp⟩
    | true => exact ⟨_, _, rfl, fun _ => rfl⟩
  cases hpa : m.paValidation with
  | false =>
    refine ⟨⟨.remove, m, caToPa, none⟩, _, s, ?_, rfl, ?_, .nothing⟩
    · simp only [stagePresent, hs, hpa]
      rfl
    · exact ⟨hstored, by simp [hvnet], fun h => by simp [hca h], by simp⟩
  | true =>
    refine ⟨⟨.remove, m, caToPa, some _⟩, _, s, ?_, rfl, ?_, .released⟩
    · simp only [stagePresent, hs, hpa]
      rfl
    · refine ⟨hstored, by simp [hvnet], fun h => by simp [hca h], ?_⟩
      intro action position h
      have hkind := stageRelease_kind { t with caToPaStager := s } (m.paKey vnet) m
      rw [Option.some.inj h] at hkind
      exact ⟨by simp [hpa], hkind⟩

/-- The mapping that a SET works on is stored, and it is not complete. -/
theorem stored_of_mappingOf {t : MappingTable} {e : Entry} {key : MappingKey} {c : Context}
    {m : MappingRecord} (h : t.mappingOf e key c = .ok m) : Stored t.mappings e.key m := by
  have hfound := mappingOf_spec t e key c
  rw [h] at hfound
  cases hfound with
  | incomplete _ hget => exact .inl hget
  | fresh _ _ hget => exact .inr ⟨hget, rfl⟩

theorem mappingOf_error {t : MappingTable} {e : Entry} {key : MappingKey} {c : Context}
    {outcome : StageOutcome MappingOp} (h : t.mappingOf e key c = .error outcome) :
    outcome.isStaged = false := by
  have hfound := mappingOf_spec t e key c
  rw [h] at hfound
  cases hfound <;> rfl

theorem stage_result (t : MappingTable) (e : Entry) (c : Context) :
    StageResult t e (t.stage e c).1 (t.stage e c).2 := by
  have hstages := stage_spec t e c
  generalize t.stage e c = result at hstages ⊢
  cases hstages with
  | unreadable | conflict | gone | unnamed => exact .nothing _ rfl
  | unmapped _ outcome _ _ hm => exact .nothing outcome (mappingOf_error hm)
  | missing key m _ hparse hm hfree =>
    have hvnet := MappingKey.vnetOf?_of_parse hparse
    obtain ⟨op, t', s, hop, rfl, hagrees, hpa⟩ :=
      stageMissing_result hvnet (stored_of_mappingOf hm) hfree
    rw [hop]
    refine .staged op s t' hagrees ?_
    simpa only [paOf, hvnet, Option.getD_some] using hpa
  | present m vnet _ hm hvnet =>
    obtain ⟨op, t', s, hop, rfl, hagrees, hpa⟩ := stagePresent_result hvnet (.inl hm)
    rw [hop]
    refine .staged op s t' hagrees ?_
    simpa only [paOf, hvnet, Option.getD_some] using hpa

/-- Staging touches neither mappings nor PA validation entries. -/
theorem StageResult.frame {t t' : MappingTable} {e : Entry} {outcome : StageOutcome MappingOp}
    (h : StageResult t e outcome t') :
    t'.mappings = t.mappings ∧ t'.paEntries = t.paEntries := by
  cases h with
  | nothing => exact ⟨rfl, rfl⟩
  | staged op s t' hagrees hpa => exact hpa.frame

/-! ## Flushing -/

theorem flush_frame {δ : Type} [Driver δ] (t : MappingTable) (d : δ) :
    (t.flush d).2.1.mappings = t.mappings ∧ (t.flush d).2.1.paEntries = t.paEntries := by
  unfold flush
  split <;> exact ⟨rfl, rfl⟩

theorem frame_of_flush {δ : Type} [Driver δ] {t t' : MappingTable} {d d' : δ}
    {answer : Except DriverError Unit} (h : t.flush d = (answer, t', d')) :
    t'.mappings = t.mappings ∧ t'.paEntries = t.paEntries := by
  have hframe := t.flush_frame d
  rw [h] at hframe
  exact hframe

/-- A settled PA validation slot outlives every flush. -/
theorem flush_settled {δ : Type} [Driver δ] {t : MappingTable} {position : Nat} {slot : Slot}
    (h : t.paStager.slots[position]? = some slot) (hsettled : slot.isOpen = false) (d : δ) :
    (t.flush d).2.1.paStager.slots[position]? = some slot := by
  unfold flush
  split
  · exact h
  · exact BulkStager.slots_flush_settled h hsettled _

/-! ## Committing -/

/-- The PA validation entries after an action that was accepted. -/
def paStep (es : Table String PaRecord) (pa : String) (m : MappingRecord) :
    PaAction → Table String PaRecord
  | .acquire =>
    if es.contains pa then es.modify pa Referenced.acquired
    else es.insert pa ⟨m.vnetId, m.config.underlayIp, 1⟩
  | .release => ((es.release pa).toOption).getD es
  | .remove => if es.contains pa then es.erase pa else es

def paCount (es : Table String PaRecord) (pa : String) (m : MappingRecord) (c : Context) :
    PaAction → Context
  | .acquire =>
    if es.contains pa then c else c.count (.paValidation m.config.underlayIp.family)
  | .release => c
  | .remove => if es.contains pa then c.uncount (.paValidation m.config.underlayIp.family) else c

/-- The CA-to-PA request of an operation was answered with the state that it asks for. -/
def caAccepted (t : MappingTable) (op : MappingOp) : Bool :=
  op.caToPa.any fun position =>
    Decision.ofStatus op.kind (t.caToPaStager.outcome position) = .commit

/-- The PA action of an operation, if it was answered with the state that it asks for. -/
def paAccepted? (t : MappingTable) (op : MappingOp) : Option PaAction :=
  (op.pa.filter fun (action, position) =>
    Decision.ofStatus action.kind (t.paStager.outcome position) = .commit).map Prod.fst

def settled (t : MappingTable) (op : MappingOp) : MappingRecord :=
  { op.mapping with
    caToPa := if t.caAccepted op then decide (op.kind = .create) else op.mapping.caToPa
    paValidation := (t.paAccepted? op).elim op.mapping.paValidation (decide <| · = .acquire) }

def caCount (kind : RequestKind) (m : MappingRecord) (c : Context) : Context :=
  match kind with
  | .create => c.count (.outboundCaToPa m.overlayIp.family)
  | .remove => c.uncount (.outboundCaToPa m.overlayIp.family)

def caCounted (t : MappingTable) (op : MappingOp) (c : Context) : Context :=
  if t.caAccepted op then caCount op.kind op.mapping c else c

theorem answerCaToPa_eq (t : MappingTable) (op : MappingOp) (c : Context) :
    t.answerCaToPa op c =
      ({ op.mapping with
          caToPa := if t.caAccepted op then decide (op.kind = .create) else op.mapping.caToPa },
        t.caCounted op c) := by
  unfold answerCaToPa
  cases hca : op.caToPa with
  | none => simp [caCounted, caAccepted, hca]
  | some position =>
    by_cases hd : Decision.ofStatus op.kind (t.caToPaStager.outcome position) = .commit
    · have haccepted : t.caAccepted op = true := by simp [caAccepted, hca, hd]
      simp only [commitCaToPa, hd, if_true, caCounted, haccepted, caCount]
      cases op.kind <;> rfl
    · have hrefused : t.caAccepted op = false := by simp [caAccepted, hca, hd]
      simp [commitCaToPa, hd, caCounted, hrefused]

/-- An accepted action takes its step of the entries and of the counts. -/
theorem commitPa_accepted {t : MappingTable} {action : PaAction} {status : Status}
    (h : Decision.ofStatus action.kind status = .commit) (pa : String) (m : MappingRecord)
    (c : Context) :
    t.commitPa pa action status m c =
      ({ m with paValidation := decide (action = .acquire) },
        { t with paEntries := paStep t.paEntries pa m action },
        paCount t.paEntries pa m c action) := by
  simp only [commitPa, h, if_true]
  cases action with
  | acquire =>
    simp only [acquirePa, Table.acquire, paStep, paCount]
    split <;> next heq => split at heq <;> simp_all
  | release =>
    simp only [releasePa, paStep, paCount]
    cases t.paEntries.release pa <;> rfl
  | remove =>
    simp only [removePa, paStep, paCount]
    split <;> simp

/-- A commit stores the mapping with its flags settled, and takes a step of the PA validation
entries if their request was accepted. -/
theorem commit_eq (t : MappingTable) (e : Entry) (op : MappingOp) (c : Context) :
    (t.commit e op c).2 =
      ((t.paAccepted? op).elim (t.caCounted op c)
          (paCount t.paEntries (paOf e.key op) op.mapping (t.caCounted op c)),
        { t with
          mappings := stored t.mappings e.key (t.settled op)
          paEntries := (t.paAccepted? op).elim t.paEntries
            (paStep t.paEntries (paOf e.key op) op.mapping) }) := by
  simp only [commit, answerCaToPa_eq, answerPa]
  cases hpa : op.pa with
  | none => simp [paAccepted?, settled, hpa, store, stored]
  | some staged =>
    obtain ⟨action, position⟩ := staged
    by_cases hd : Decision.ofStatus action.kind (t.paStager.outcome position) = .commit
    · have haccepted : t.paAccepted? op = some action := by simp [paAccepted?, hpa, hd]
      dsimp only
      rw [commitPa_accepted hd]
      simp only [settled, haccepted, store, stored, Option.elim_some]
      rfl
    · have hrefused : t.paAccepted? op = none := by simp [paAccepted?, hpa, hd]
      simp [commitPa, hd, settled, hrefused, store, stored]

end MappingTable

end DashAgent
