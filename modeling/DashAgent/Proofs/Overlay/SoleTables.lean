import DashAgent.Overlay.Eni
import DashAgent.Overlay.RouteRule
import DashAgent.Overlay.Vnet
import DashAgent.Proofs.Overlay.MappingPass
import DashAgent.Proofs.Overlay.SoleRequests
import DashAgent.Proofs.Overlay.TableSteps

/-!
# Tables with one request for each change

Named objects, routing entries and the CA-to-PA entries of mappings as seen by the requests that
their changes make.
-/
namespace DashAgent

variable {δ : Type} [Driver δ]

/-! ## Named objects -/

namespace NamedTable

variable {kind : OidKind} {α β ρ : Type} (K : NamedKind kind α β ρ)

/-- What a create makes is what its slot gave. -/
theorem map_made (hid : ∀ id asked, K.id (K.record id asked) = id) (asked : β)
    (attributes : List Attribute) (answer : Option CreateAnswer)
    (hnonnull : (Slot.create ⟨none, attributes⟩ answer).given? ≠ some (.oid 0)) :
    (made K asked (.create ⟨none, attributes⟩ answer)).map (fun r => .oid (K.id r).raw) =
      (Slot.create ⟨none, attributes⟩ answer).given? := by
  cases answer with
  | none => simp [made, Slot.status?, Slot.given?, ofStatus_notExecuted]
  | some answer =>
    obtain ⟨status, objectId⟩ := answer
    simp only [made, Slot.status?, Slot.objectId?, Slot.given?, CreateAnswer.key?, Option.map_some,
      Option.getD_some, Option.bind_some] at hnonnull ⊢
    by_cases hcommit : Decision.ofStatus .create status = .commit
    · simp only [hcommit, if_true] at hnonnull ⊢
      cases objectId with
      | none => rfl
      | some id =>
        have hne : id ≠ 0 := by
          rintro rfl
          exact hnonnull rfl
        simp [Oid.ofRaw?, hne, hid]
    · simp [hcommit]

theorem records_endPass (t : NamedTable ρ) :
    ((bulk (δ := δ) K).endPass t).records = t.records := rfl

def soleRequests (hid : ∀ id asked, K.id (K.record id asked) = id) :
    SoleRequests (bulk (δ := δ) K) ρ ρ where
  type := K.type
  stager t := t.stager
  cells t := t.records
  view := some
  key r := .oid (K.id r).raw
  position?
    | .create position _ => some position
    | .remove position => some position
  creates
    | .create .. => true
    | .remove _ => false
  made
    | .create _ asked => made K asked
    | .remove _ => fun _ => none
  Suits op old := (op matches .create ..) → old = none
  stage_cells := records_stage K
  stage_idle {e c t} h := by
    have hstage := stage_spec K t e c
    simp only [bulk] at h ⊢
    generalize stage K t e c = result at hstage h ⊢
    cases hstage with
    | done | invalid | notReady => rfl
    | create | remove => cases h
  stage_suits {e c t op} h := by
    have hstage := stage_spec K t e c
    simp only [bulk] at h
    generalize stage K t e c = result at hstage h
    cases hstage with
    | done | invalid | notReady => cases h
    | create asked found hset habsent hread hresolve =>
      cases h
      exact fun _ => habsent
    | remove r hdel hpresent =>
      cases h
      exact fun hcreates => by cases hcreates
  stage_slot {e c t op} h := by
    have hstage := stage_spec K t e c
    simp only [bulk] at h ⊢
    generalize stage K t e c = result at hstage h ⊢
    cases hstage with
    | done | invalid | notReady => cases h
    | create asked found hset habsent hread hresolve =>
      cases h
      refine .inr ⟨_, rfl, rfl, ?_⟩
      rw [habsent]
      exact .create _ fun answer => map_made K hid found _ answer
    | remove r hdel hpresent =>
      cases h
      refine .inr ⟨_, rfl, rfl, ?_⟩
      rw [hpresent]
      exact .remove r
  endPass_cells := records_endPass K
  endPass_stager _ := rfl
  commit_stager e op c t := by
    have hcommit := commit_spec K t e op c
    simp only [bulk]
    generalize commit K t e op c = result at hcommit ⊢
    cases hcommit <;> rfl
  commit_other {e op c t l} hne := by
    have hcommit := commit_spec K t e op c
    simp only [bulk]
    generalize commit K t e op c = result at hcommit ⊢
    cases hcommit with
    | kept | stays => rfl
    | created => exact Table.get?_insert_of_ne _ hne
    | removed => exact Table.get?_erase_of_ne hne
  commit_view {e op c t} hsuits := by
    have hcommit := commit_spec K t e op c
    simp only [bulk]
    generalize commit K t e op c = result at hcommit ⊢
    cases hcommit with
    | kept position asked decision hdecision hmade =>
      rw [hsuits rfl]
      cases hslot : t.stager.slots[position]? with
      | none => simp [hslot]
      | some slot =>
        rw [hslot, Option.bind_some] at hmade
        simp [hslot, hmade]
    | created position asked id hmade =>
      cases hslot : t.stager.slots[position]? with
      | none => simp [hslot] at hmade
      | some slot =>
        rw [hslot, Option.bind_some] at hmade
        simp [hslot, hmade]
    | stays position hstays =>
      cases hslot : t.stager.slots[position]? with
      | none => simp [hslot]
      | some slot =>
        rw [BulkStager.outcome_of_getElem? hslot] at hstays
        simp [hslot, hstays]
    | removed position hgone =>
      cases hslot : t.stager.slots[position]? with
      | none =>
        rw [BulkStager.outcome_of_none hslot] at hgone
        cases hgone
      | some slot =>
        rw [BulkStager.outcome_of_getElem? hslot] at hgone
        simp [hslot, hgone]

end NamedTable

/-! ## Routing entries -/

namespace RoutingTable

variable {α ρ : Type} (K : RoutingKind α ρ)

def made (r : ρ) (slot : Slot) : Option ρ :=
  if Decision.ofStatus .create (slot.status?.getD .notExecuted) = .commit then some r else none

/-- What a create makes is what its slot gave. -/
theorem map_made (r : ρ) (attributes : List Attribute) (answer : Option CreateAnswer) :
    (made r (.create ⟨some (K.entryKey r), attributes⟩ answer)).map
        (fun r => .entry (K.entryKey r)) =
      (Slot.create ⟨some (K.entryKey r), attributes⟩ answer).given? := by
  cases answer with
  | none => simp [made, Slot.status?, Slot.given?, ofStatus_notExecuted]
  | some answer =>
    simp only [made, Slot.status?, Slot.given?, CreateAnswer.key?, Option.map_some,
      Option.getD_some]
    by_cases hcommit : Decision.ofStatus .create answer.status = .commit <;> simp [hcommit]

theorem records_endPass (t : RoutingTable ρ) : ((bulk (δ := δ) K).endPass t).records = t.records :=
  rfl

def soleRequests : SoleRequests (bulk (δ := δ) K) ρ ρ where
  type := K.type
  stager t := t.stager
  cells t := t.records
  view := some
  key r := .entry (K.entryKey r)
  position?
    | .create position _ => some position
    | .remove position => some position
  creates
    | .create .. => true
    | .remove _ => false
  made
    | .create _ r => made r
    | .remove _ => fun _ => none
  Suits op old := (op matches .create ..) → old = none
  stage_cells := records_stage K
  stage_idle {e c t} h := by
    have hstage := stage_spec K t e c
    simp only [bulk] at h ⊢
    generalize stage K t e c = result at hstage h ⊢
    cases hstage with
    | done | invalid | notReady => rfl
    | create | remove => cases h
  stage_suits {e c t op} h := by
    have hstage := stage_spec K t e c
    simp only [bulk] at h
    generalize stage K t e c = result at hstage h
    cases hstage with
    | done | invalid | notReady => cases h
    | create asked r hset habsent hread hresolve =>
      cases h
      exact fun _ => habsent
    | remove r hdel hpresent =>
      cases h
      exact fun hcreates => by cases hcreates
  stage_slot {e c t op} h := by
    have hstage := stage_spec K t e c
    simp only [bulk] at h ⊢
    generalize stage K t e c = result at hstage h ⊢
    cases hstage with
    | done | invalid | notReady => cases h
    | create asked r hset habsent hread hresolve =>
      cases h
      refine .inr ⟨_, rfl, rfl, ?_⟩
      rw [habsent]
      exact .create _ fun answer _ => map_made K r _ answer
    | remove r hdel hpresent =>
      cases h
      refine .inr ⟨_, rfl, rfl, ?_⟩
      rw [hpresent]
      exact .remove r
  endPass_cells := records_endPass K
  endPass_stager _ := rfl
  commit_stager e op c t := by
    have hcommit := commit_spec K t e op c
    simp only [bulk]
    generalize commit K t e op c = result at hcommit ⊢
    cases hcommit <;> rfl
  commit_other {e op c t l} hne := by
    have hcommit := commit_spec K t e op c
    simp only [bulk]
    generalize commit K t e op c = result at hcommit ⊢
    cases hcommit with
    | kept | stays | absent => rfl
    | created => exact Table.get?_insert_of_ne _ hne
    | removed => exact Table.get?_erase_of_ne hne
  commit_view {e op c t} hsuits := by
    have hcommit := commit_spec K t e op c
    simp only [bulk]
    generalize commit K t e op c = result at hcommit ⊢
    cases hcommit with
    | kept position r hnot =>
      cases hslot : t.stager.slots[position]? with
      | none => simp [hslot]
      | some slot =>
        rw [BulkStager.outcome_of_getElem? hslot] at hnot
        simp [hslot, made, hnot, hsuits rfl]
    | created position r hmade =>
      cases hslot : t.stager.slots[position]? with
      | none =>
        rw [BulkStager.outcome_of_none hslot, ofStatus_notExecuted] at hmade
        cases hmade
      | some slot =>
        rw [BulkStager.outcome_of_getElem? hslot] at hmade
        simp [hslot, made, hmade]
    | stays position hstays =>
      cases hslot : t.stager.slots[position]? with
      | none => simp [hslot]
      | some slot =>
        rw [BulkStager.outcome_of_getElem? hslot] at hstays
        simp [hslot, hstays]
    | absent position hgone hget =>
      cases hslot : t.stager.slots[position]? with
      | none => simp [hslot]
      | some slot => simp [hslot, hget]
    | removed position r hgone _ =>
      cases hslot : t.stager.slots[position]? with
      | none =>
        rw [BulkStager.outcome_of_none hslot] at hgone
        cases hgone
      | some slot =>
        rw [BulkStager.outcome_of_getElem? hslot] at hgone
        simp [hslot, hgone]

end RoutingTable

/-! ## CA-to-PA entries -/

namespace MappingTable

/-- The VNET and the overlay address of the CA-to-PA entry of a mapping, while it is in place. -/
def caObject? (m : MappingRecord) : Option (Oid .vnet × IpAddress) :=
  if m.caToPa then some (m.vnetId, m.overlayIp) else none

/-- What staging an operation did to the requests for CA-to-PA entries: it asks for the entry if
that is not already as the operation wants it. -/
inductive CaStaged (s : BulkStager) (op : MappingOp) : BulkStager → Prop where
  | nothing : op.caToPa = none → op.mapping.caToPa = decide (op.kind = .create) → CaStaged s op s
  | create : op.kind = .create → op.mapping.caToPa = false → op.caToPa = some s.slots.length →
    CaStaged s op (s.push (.create ⟨some (caToPaEntryKey op.mapping.vnetId op.mapping.overlayIp),
      attributes op.mapping.config⟩ none)).2
  | remove : op.kind = .remove → op.mapping.caToPa = true → op.caToPa = some s.slots.length →
    CaStaged s op (s.push (.remove (.entry
      (caToPaEntryKey op.mapping.vnetId op.mapping.overlayIp)) none)).2

theorem caToPaStager_stageAcquire (t : MappingTable) (pa : String) (m : MappingRecord) :
    (t.stageAcquire pa m).2.caToPaStager = t.caToPaStager := by
  obtain ⟨s, p, heq⟩ := exists_remembering_stageAcquire t pa m
  rw [heq]
  rfl

theorem caToPaStager_stageRelease (t : MappingTable) (pa : String) (m : MappingRecord) :
    (t.stageRelease pa m).2.caToPaStager = t.caToPaStager := by
  obtain ⟨s, p, heq⟩ := exists_remembering_stageRelease t pa m
  rw [heq]
  rfl

theorem stageMissing_caToPa (t : MappingTable) (pa : String) (m : MappingRecord) :
    CaStaged t.caToPaStager (t.stageMissing pa m).1 (t.stageMissing pa m).2.caToPaStager := by
  cases hca : m.caToPa <;> cases hpa : m.paValidation <;>
    simp only [stageMissing, hca, hpa, if_true, Bool.false_eq_true, if_false,
      caToPaStager_stageAcquire]
  case false.false | false.true => exact .create rfl hca rfl
  case true.false | true.true => exact .nothing rfl hca

theorem stagePresent_caToPa (t : MappingTable) (vnet : String) (m : MappingRecord) :
    CaStaged t.caToPaStager (t.stagePresent vnet m).1 (t.stagePresent vnet m).2.caToPaStager := by
  cases hca : m.caToPa <;> cases hpa : m.paValidation <;>
    simp only [stagePresent, hca, hpa, if_true, Bool.false_eq_true, if_false,
      caToPaStager_stageRelease]
  case false.false | false.true => exact .nothing rfl hca
  case true.false | true.true => exact .remove rfl hca rfl

theorem stage_caToPa (t : MappingTable) (e : Entry) (c : Context) :
    ((t.stage e c).1.isStaged = false ∧ (t.stage e c).2.caToPaStager = t.caToPaStager) ∨
    ∃ op, (t.stage e c).1 = .staged op ∧
      CaStaged t.caToPaStager op (t.stage e c).2.caToPaStager := by
  have hstages := stage_spec t e c
  generalize t.stage e c = result at hstages ⊢
  cases hstages with
  | unreadable | conflict | gone | unnamed => exact .inl ⟨rfl, rfl⟩
  | unmapped _ outcome _ _ hm => exact .inl ⟨mappingOf_error hm, rfl⟩
  | missing key m => exact .inr ⟨_, rfl, stageMissing_caToPa t (m.paKey key.vnet) m⟩
  | present m vnet => exact .inr ⟨_, rfl, stagePresent_caToPa t vnet m⟩

/-- What is staged agrees with the stored mappings. -/
theorem agrees_of_staged {t : MappingTable} {e : Entry} {c : Context} {op : MappingOp}
    (h : (t.stage e c).1 = .staged op) : Agrees t.mappings e.key op := by
  have hresult := stage_result t e c
  rw [h] at hresult
  generalize (t.stage e c).2 = t' at hresult
  cases hresult with
  | nothing _ hunstaged => cases hunstaged
  | staged _ _ _ hagrees => exact hagrees

/-- An operation on a mapping whose CA-to-PA entry is as the table says. -/
structure CaSuits (op : MappingOp) (old : Option MappingRecord) : Prop where
  stored : old.bind caObject? = caObject? op.mapping
  asks : op.caToPa.isSome = true → op.mapping.caToPa = decide (op.kind = .remove)

theorem Agrees.caSuits {ms : Table String MappingRecord} {key : String} {op : MappingOp}
    (h : Agrees ms key op) : CaSuits op (ms.get? key) where
  stored := by
    obtain hget | ⟨hget, hempty⟩ := h.stored
    · rw [hget, Option.bind_some]
    · simp only [MappingRecord.isEmpty, Bool.and_eq_true, Bool.not_eq_true'] at hempty
      simp [hget, caObject?, hempty.1]
  asks hasks := by
    obtain ⟨position, hposition⟩ := Option.isSome_iff_exists.1 hasks
    exact h.caToPa hposition

theorem get?_stored_caObject (ms : Table String MappingRecord) (key : String) (m : MappingRecord) :
    ((stored ms key m).get? key).bind caObject? = caObject? m := by
  unfold stored
  split
  · next hempty =>
    simp only [MappingRecord.isEmpty, Bool.and_eq_true, Bool.not_eq_true'] at hempty
    simp [caObject?, hempty.1]
  · rw [Table.get?_insert_self, Option.bind_some]

def caMade (op : MappingOp) (slot : Slot) : Option (Oid .vnet × IpAddress) :=
  if Decision.ofStatus .create (slot.status?.getD .notExecuted) = .commit then
    some (op.mapping.vnetId, op.mapping.overlayIp)
  else none

/-- The flags that a commit settles put the entry in place, take it away or leave it as it is. -/
theorem caObject?_settled (t : MappingTable) {op : MappingOp}
    (hasks : op.caToPa.isSome = true → op.mapping.caToPa = decide (op.kind = .remove)) :
    caObject? (t.settled op) =
      match op.caToPa.bind fun i => t.caToPaStager.slots[i]? with
      | none => caObject? op.mapping
      | some slot =>
        if op.kind matches .create then caMade op slot
        else if (slot.status?.getD .notExecuted).IsGone then none else caObject? op.mapping := by
  cases hposition : op.caToPa with
  | none => simp [caObject?, settled, caAccepted, hposition]
  | some i =>
    have hflag := hasks (by rw [hposition]; rfl)
    rw [Option.bind_some]
    cases hslot : t.caToPaStager.slots[i]? with
    | none =>
      have hretry : Decision.ofStatus op.kind .notExecuted ≠ .commit := by
        rw [ofStatus_notExecuted]
        decide
      simp [caObject?, settled, caAccepted, hposition, BulkStager.outcome_of_none hslot, hretry]
    | some slot =>
      have houtcome := BulkStager.outcome_of_getElem? hslot
      cases hkind : op.kind with
      | create =>
        rw [hkind] at hflag
        by_cases hcommit :
            Decision.ofStatus .create (slot.status?.getD .notExecuted) = .commit <;>
          simp [caObject?, settled, caAccepted, caMade, hposition, hkind, houtcome, hcommit, hflag]
      | remove =>
        by_cases hgone : (slot.status?.getD .notExecuted).IsGone
        · have hcommit : Decision.ofStatus .remove (slot.status?.getD .notExecuted) = .commit :=
            hgone
          simp [caObject?, settled, caAccepted, hposition, hkind, houtcome, hcommit, hgone]
        · have hkept : Decision.ofStatus .remove (slot.status?.getD .notExecuted) ≠ .commit :=
            hgone
          simp [caObject?, settled, caAccepted, hposition, hkind, houtcome, hkept, hgone]

def caRequests : SoleRequests (bulk (δ := δ)) MappingRecord (Oid .vnet × IpAddress) where
  type := .outboundCaToPaEntry
  stager t := t.caToPaStager
  cells t := t.mappings
  view := caObject?
  key v := .entry (caToPaEntryKey v.1 v.2)
  position? op := op.caToPa
  creates op := op.kind matches .create
  made := caMade
  Suits := CaSuits
  stage_cells e c t := (stage_result t e c).frame.1
  stage_idle {e c t} h := by
    obtain ⟨-, hstager⟩ | ⟨op, hop, -⟩ := stage_caToPa t e c
    · exact hstager
    · simp only [bulk, hop] at h
      cases h
  stage_suits h := (agrees_of_staged h).caSuits
  stage_slot {e c t op} h := by
    obtain ⟨hunstaged, -⟩ | ⟨op', hop', hstaged⟩ := stage_caToPa t e c
    · simp only [bulk] at h
      rw [h] at hunstaged
      cases hunstaged
    · simp only [bulk] at h ⊢
      rw [h] at hop'
      cases hop'
      have hsuits := (agrees_of_staged h).caSuits
      generalize (t.stage e c).2.caToPaStager = s at hstaged ⊢
      cases hstaged with
      | nothing hnone _ => exact .inl ⟨hnone, rfl⟩
      | create hkind hflag hposition =>
        refine .inr ⟨_, hposition, rfl, ?_⟩
        rw [hsuits.stored, caObject?, hflag, hkind]
        refine .create _ fun answer _ => ?_
        cases answer with
        | none => simp [caMade, Slot.status?, Slot.given?, ofStatus_notExecuted]
        | some answer =>
          by_cases hcommit : Decision.ofStatus .create answer.status = .commit <;>
            simp [caMade, Slot.status?, Slot.given?, CreateAnswer.key?, hcommit]
      | remove hkind hflag hposition =>
        refine .inr ⟨_, hposition, rfl, ?_⟩
        rw [hsuits.stored, caObject?, hflag, hkind]
        exact .remove (op.mapping.vnetId, op.mapping.overlayIp)
  endPass_cells _ := rfl
  endPass_stager _ := rfl
  commit_stager e op c t := by
    change (t.commit e op c).2.2.caToPaStager = _
    rw [commit_eq]
  commit_other {e op c t l} hne := by
    change (t.commit e op c).2.2.mappings.get? l = _
    rw [commit_eq]
    exact get?_stored_of_ne hne
  commit_view {e op c t} hsuits := by
    change ((t.commit e op c).2.2.mappings.get? e.key).bind caObject? = _
    rw [commit_eq, hsuits.stored, get?_stored_caObject]
    exact caObject?_settled t hsuits.asks

end MappingTable

end DashAgent
