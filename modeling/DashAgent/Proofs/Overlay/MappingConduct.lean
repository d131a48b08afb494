import DashAgent.Proofs.Overlay.Configuration
import DashAgent.Proofs.Overlay.MappingPass
import DashAgent.Proofs.Reconcile.Conduct
import DashAgent.Proofs.Switch.Flush

/-!
# Conduct of mappings

On a switch that grants everything a mapping gets both of its objects in one pass and loses both in
one pass, so between passes every stored mapping is complete. Mappings of one batch share a staged
create of their PA validation entry. Only one thing can hold a change up: a SET waits for the next
pass if a DEL before it has staged the removal of the entry that it would share.
-/
namespace DashAgent.MappingTable

open BulkStager

/-- Every stored mapping has both objects in place, and a key with a VNET name. -/
def Whole (ms : Table String MappingRecord) : Prop :=
  ∀ {key m}, ms.get? key = some m → m.isComplete = true ∧ (MappingKey.vnetOf? key).isSome = true

theorem whole_empty : Whole .empty := by
  intro key m hget
  cases hget

theorem Whole.stored {ms : Table String MappingRecord} (h : Whole ms) {key : String}
    {m : MappingRecord} (hm : m.isEmpty = false → m.isComplete = true)
    (hkey : (MappingKey.vnetOf? key).isSome = true) : Whole (stored ms key m) := by
  intro key' m' hget
  by_cases hne : key = key'
  · rw [← hne] at hget ⊢
    obtain ⟨rfl, hempty⟩ := eq_of_get?_stored hget
    exact ⟨hm hempty, hkey⟩
  · rw [get?_stored_of_ne hne] at hget
    exact h hget

/-! ## Staging -/

/-- The PA validation requests of a pass, so many of them to create entries at most. A create that
is shared is among them. -/
structure PaStaging (n : Nat) (t : MappingTable) : Prop where
  holds : t.paStager.HoldsEntries .paValidationEntry n
  shared : ∀ {pa position}, (t.passOf pa).creating = some position →
    t.paStager.Awaits .create false position

/-- One PA validation request is staged for an operation. -/
structure PaRequested (n : Nat) (t : MappingTable) (kind : RequestKind) (position : Nat)
    (t' : MappingTable) : Prop where
  staging : PaStaging (n + 1) t'
  caToPaStager : t'.caToPaStager = t.caToPaStager
  awaits : t'.paStager.Awaits kind false position
  kept : ∀ {kind allocates position}, t.paStager.Awaits kind allocates position →
    t'.paStager.Awaits kind allocates position

section Pa

variable {n : Nat} {t : MappingTable}

/-- A slot of its own for an operation. -/
theorem PaStaging.push (h : PaStaging n t) (slot : Slot) {kind : RequestKind}
    (hasks : slot.Asks kind false) (hslot : slot.Keyed) (pa : String) {p : PaPass}
    (hcreating : ∀ {position}, p.creating = some position →
      (t.passOf pa).creating = some position ∨
        position = t.paStager.slots.length ∧ kind = .create) :
    PaRequested n t kind t.paStager.slots.length
      (t.remembering (t.paStager.push slot).2 pa p) := by
  have hawaits : (t.paStager.push slot).2.Awaits kind false t.paStager.slots.length :=
    awaits_push hasks
  refine ⟨⟨h.holds.push hslot, ?_⟩, rfl, hawaits, fun hbefore => hbefore.push slot⟩
  intro pa' position hshared
  rw [passOf_remembering] at hshared
  split at hshared
  · next heq =>
    obtain hshared | ⟨rfl, rfl⟩ := hcreating hshared
    · exact (h.shared hshared).push slot
    · exact hawaits
  · exact (h.shared hshared).push slot

/-- A reference is taken with a request of its own or with one that the pass shares. -/
theorem stageAcquire_requested (h : PaStaging n t) (pa : String) (m : MappingRecord) :
    PaRequested n t .create (t.stageAcquire pa m).1 (t.stageAcquire pa m).2 := by
  have hspec := stageAcquire_spec t pa m
  generalize t.stageAcquire pa m = result at hspec ⊢
  cases hspec with
  | present => exact h.push (.settled .success) ⟨rfl, rfl⟩ Slot.keyed_settled pa .inl
  | shared position _ hcreating =>
    refine ⟨⟨h.holds.mono (Nat.le_succ n), ?_⟩, rfl, h.shared hcreating, id⟩
    intro pa' position' hshared
    rw [passOf_remembering] at hshared
    split at hshared <;> exact h.shared hshared
  | created =>
    refine h.push (.create _ none) ⟨rfl, by simp⟩ Slot.keyed_create pa ?_
    rintro position ⟨⟩
    exact .inr ⟨rfl, rfl⟩

/-- A reference is dropped with a request of its own. -/
theorem stageRelease_requested (h : PaStaging n t) (pa : String) (m : MappingRecord) :
    PaRequested n t .remove (t.stageRelease pa m).1.2 (t.stageRelease pa m).2 := by
  have hspec := stageRelease_spec t pa m
  generalize t.stageRelease pa m = result at hspec ⊢
  cases hspec with
  | shared => exact h.push (.settled .success) ⟨rfl, rfl⟩ Slot.keyed_settled pa .inl
  | last => exact h.push (.remove _ none) ⟨rfl, rfl⟩ Slot.keyed_remove pa .inl

end Pa

/-- The table while changes are staged, so many of them with requests. -/
structure WhileStaging (n : Nat) (t : MappingTable) : Prop where
  whole : Whole t.mappings
  caToPa : t.caToPaStager.HoldsEntries .outboundCaToPaEntry n
  pa : PaStaging n t

/-- The operation applies a change, and both of its requests stand as `P` says. -/
structure Applies (P : BulkStager → RequestKind → Nat → Prop) (t : MappingTable) (e : Entry)
    (op : MappingOp) : Prop where
  kind : op.kind = if e.op = .set then .create else .remove
  config : e.op = .set → MappingConfig.ofEntry e = .ok op.mapping.config
  keyed : (MappingKey.vnetOf? e.key).isSome = true
  caToPa : ∃ position, op.caToPa = some position ∧ P t.caToPaStager op.kind position
  pa : ∃ action position, op.pa = some (action, position) ∧ action.kind = op.kind ∧
    P t.paStager op.kind position

def Waits (s : BulkStager) (kind : RequestKind) (position : Nat) : Prop :=
  s.Awaits kind false position

def Granted (s : BulkStager) (kind : RequestKind) (position : Nat) : Prop :=
  s.Grants kind false position

theorem Applies.mono {P Q : BulkStager → RequestKind → Nat → Prop} {t t' : MappingTable} {e : Entry}
    {op : MappingOp} (h : Applies P t e op)
    (hca : ∀ {kind position}, P t.caToPaStager kind position → Q t'.caToPaStager kind position)
    (hpa : ∀ {kind position}, P t.paStager kind position → Q t'.paStager kind position) :
    Applies Q t' e op := by
  obtain ⟨position, hposition, hrequest⟩ := h.caToPa
  obtain ⟨action, position', haction, hkind, hrequest'⟩ := h.pa
  exact ⟨h.kind, h.config, h.keyed, ⟨position, hposition, hca hrequest⟩,
    ⟨action, position', haction, hkind, hpa hrequest'⟩⟩

section Stage

variable {n : Nat} {c : Context} {t : MappingTable} {e : Entry}

/-- A change of a mapping is valid if it can be read and its VNET is programmed. -/
def Valid (c : Context) (e : Entry) : Prop :=
  e.op = .set → ∃ key config vnetId, MappingKey.parse e.key = .ok key ∧
    MappingConfig.ofEntry e = .ok config ∧ c.vnetId? key.vnet = some vnetId

/-- A change is staged with both requests; what waited still waits. -/
structure Requested (n : Nat) (t : MappingTable) (e : Entry) (op : MappingOp) (t' : MappingTable) :
    Prop where
  mappings : t'.mappings = t.mappings
  staging : WhileStaging (n + 1) t'
  applies : Applies Waits t' e op
  kept : ∀ {e op}, Applies Waits t e op → Applies Waits t' e op

/-- Both requests of a change, one after the other. -/
theorem WhileStaging.request (h : WhileStaging n t) {op : MappingOp} (slot : Slot)
    {t' : MappingTable} {position : Nat}
    (hkind : op.kind = if e.op = .set then .create else .remove)
    (hconfig : e.op = .set → MappingConfig.ofEntry e = .ok op.mapping.config)
    (hkeyed : (MappingKey.vnetOf? e.key).isSome = true)
    (hca : op.caToPa = some t.caToPaStager.slots.length) (hasks : slot.Asks op.kind false)
    (hslot : slot.Keyed)
    (hpa : ∃ action, op.pa = some (action, position) ∧ action.kind = op.kind)
    (hmappings : t'.mappings = t.mappings)
    (hrequested : PaRequested n { t with caToPaStager := (t.caToPaStager.push slot).2 } op.kind
      position t') : Requested n t e op t' := by
  have hstager : t'.caToPaStager = (t.caToPaStager.push slot).2 := hrequested.caToPaStager
  obtain ⟨action, haction, hactionKind⟩ := hpa
  refine ⟨hmappings, ⟨?_, ?_, hrequested.staging⟩, ⟨hkind, hconfig, hkeyed, ⟨_, hca, ?_⟩,
    ⟨action, position, haction, hactionKind, hrequested.awaits⟩⟩, ?_⟩
  · rw [hmappings]
    exact h.whole
  · rw [hstager]
    exact h.caToPa.push hslot
  · rw [hstager]
    exact awaits_push hasks
  · intro e' op' happlies
    refine happlies.mono ?_ fun hwaits => hrequested.kept hwaits
    intro kind position hwaits
    rw [hstager]
    exact Awaits.push hwaits slot

/-- What a SET finds. -/
theorem stage_set (h : WhileStaging n t) (hvalid : Valid c e) (hop : e.op = .set) :
    t.stage e c = (.done, t) ∧ t.mappings.contains e.key = true ∨
      t.mappings.contains e.key = false ∧
        ((∃ dependency, t.stage e c = (.notReady dependency, t)) ∧
            (∃ pa, (t.passOf pa).removing = true) ∨
          ∃ op t', t.stage e c = (.staged op, t') ∧ Requested n t e op t' ∧
            ∀ pa, (t'.passOf pa).removing = (t.passOf pa).removing) := by
  obtain ⟨key, config, vnetId, hkey, hconfig, hvnet⟩ := hvalid hop
  rw [Table.contains_eq_isSome]
  cases hget : t.mappings.get? e.key with
  | some m =>
    exact .inl ⟨stage_unmapped hop hkey (mappingOf_complete hget (h.whole hget).1), rfl⟩
  | none =>
    refine .inr ⟨rfl, ?_⟩
    obtain ⟨m, hm, hmconfig, hca, hpa⟩ : ∃ m, t.mappingOf e key c = .ok m ∧ m.config = config ∧
        m.caToPa = false ∧ m.paValidation = false :=
      ⟨_, mappingOf_fresh hget hconfig hvnet, rfl, rfl, rfl⟩
    cases hremoving : (t.passOf (m.paKey key.vnet)).removing with
    | true => exact .inl ⟨⟨_, stage_conflict hop hkey hm hpa hremoving⟩, _, hremoving⟩
    | false =>
      right
      have hstaging : PaStaging n (t.stageCaToPaCreate m).2 := ⟨h.pa.holds, h.pa.shared⟩
      have hrequested := stageAcquire_requested hstaging (m.paKey key.vnet) m
      have hframe := (stageAcquire_frame (t.stageCaToPaCreate m).2 (m.paKey key.vnet) m).1
      refine ⟨_, _, stage_missing hop hkey hm hremoving, ?_, ?_⟩
      · rw [stageMissing_new t _ hca hpa]
        refine h.request (.create _ none) (by simp [hop]) ?_ ?_ rfl ⟨rfl, by simp⟩
          Slot.keyed_create ⟨.acquire, rfl, rfl⟩ hframe hrequested
        · intro _
          rw [hconfig, ← hmconfig]
        · rw [MappingKey.vnetOf?_of_parse hkey]
          rfl
      · intro pa
        rw [stageMissing_new t _ hca hpa]
        exact removing_stageAcquire (t.stageCaToPaCreate m).2 _ m pa

/-- What a DEL finds. -/
theorem stage_del (h : WhileStaging n t) (hop : e.op = .del) :
    t.stage e c = (.done, t) ∧ t.mappings.contains e.key = false ∨
      t.mappings.contains e.key = true ∧
        ∃ op t', t.stage e c = (.staged op, t') ∧ Requested n t e op t' := by
  rw [Table.contains_eq_isSome]
  cases hget : t.mappings.get? e.key with
  | none => exact .inl ⟨stage_gone hop hget, rfl⟩
  | some m =>
    obtain ⟨hcomplete, hkeyed⟩ := h.whole hget
    obtain ⟨vnet, hvnet⟩ := Option.isSome_iff_exists.1 hkeyed
    have hstaging : PaStaging n (t.stageCaToPaRemove m).2 := ⟨h.pa.holds, h.pa.shared⟩
    have hrequested := stageRelease_requested hstaging (m.paKey vnet) m
    have hframe := (stageRelease_frame (t.stageCaToPaRemove m).2 (m.paKey vnet) m).1
    have hkind := stageRelease_kind (t.stageCaToPaRemove m).2 (m.paKey vnet) m
    refine .inr ⟨rfl, _, _, stage_present hop hget hvnet, ?_⟩
    rw [stagePresent_complete t vnet hcomplete]
    exact h.request (.remove _ none) (by simp [hop])
      (fun hset => absurd (hop.symm.trans hset) (by decide)) hkeyed rfl ⟨rfl, rfl⟩
      Slot.keyed_remove ⟨_, rfl, hkind⟩ hframe hrequested

end Stage

/-! ## Flushing and committing -/

structure WhileCommitting (t : MappingTable) : Prop where
  whole : Whole t.mappings
  caToPa : t.caToPaStager.type = .outboundCaToPaEntry
  pa : t.paStager.type = .paValidationEntry

/-- The switch supplies so many objects of both types. -/
def Supplied (d : Simulator) (n : Nat) : Prop :=
  d.Supplies .outboundCaToPaEntry n ∧ d.Supplies .paValidationEntry n

/-- Both flushes grant what waits for them. -/
theorem WhileStaging.flush {n m : Nat} {t : MappingTable} {d : Simulator} (h : WhileStaging n t)
    (hsupplied : Supplied d (m + n)) :
    ∃ t' d', t.flush d = (.ok (), t', d') ∧ t'.mappings = t.mappings ∧ WhileCommitting t' ∧
      (∀ {e op}, Applies Waits t e op → Applies Granted t' e op) ∧ Supplied d' m := by
  obtain ⟨ca', d₁, hca, hcaType, hcaRest, hcaGrants, hcaOthers⟩ := h.caToPa.flush hsupplied.1
  have hpaRoom := hcaOthers (by decide) hsupplied.2
  obtain ⟨pa', d₂, hpa, hpaType, hpaRest, hpaGrants, hpaOthers⟩ := h.pa.holds.flush hpaRoom
  refine ⟨{ t with caToPaStager := ca', paStager := pa' }, d₂, ?_, rfl, ⟨h.whole, hcaType, hpaType⟩,
    ?_, hpaOthers (by decide) hcaRest, hpaRest⟩
  · simp only [MappingTable.flush, hca, hpa]
  · exact fun happlies => happlies.mono hcaGrants hpaGrants

section Commit

variable {t : MappingTable} {e : Entry} {op : MappingOp}

/-- With both requests granted a create leaves a complete mapping and a remove an empty one. -/
theorem Applies.settled (h : Applies Granted t e op) :
    t.settled op = { op.mapping with
      caToPa := decide (op.kind = .create), paValidation := decide (op.kind = .create) } := by
  obtain ⟨position, hca, hcaGrants, -⟩ := h.caToPa
  obtain ⟨action, position', hpa, hkind, hpaGrants, -⟩ := h.pa
  have hcaAccepted : t.caAccepted op = true := by simp [caAccepted, hca, hcaGrants]
  have hpaAccepted : t.paAccepted? op = some action := by
    simp [paAccepted?, hpa, hkind, hpaGrants]
  have haction : decide (action = .acquire) = decide (op.kind = .create) := by
    rw [← hkind]
    cases action <;> rfl
  simp only [MappingTable.settled, hcaAccepted, hpaAccepted, if_true, Option.elim_some, haction]

/-- The change is committed. -/
theorem Applies.decision (h : Applies Granted t e op) (c : Context) :
    (t.commit e op c).1 = .commit := by
  obtain ⟨position, hca, hcaGrants, -⟩ := h.caToPa
  obtain ⟨action, position', hpa, -, hpaGrants, -⟩ := h.pa
  simp [commit, statuses, hca, hpa, Decision.ofStatuses, hcaGrants, hpaGrants, Decision.worse]

/-- A commit moves counts, and no parents. -/
theorem vnetIds_commit (t : MappingTable) (e : Entry) (op : MappingOp) (c : Context) :
    (t.commit e op c).2.1.vnetIds = c.vnetIds := by
  have hca : (t.caCounted op c).vnetIds = c.vnetIds := by
    unfold caCounted caCount
    split
    · cases op.kind <;> rfl
    · rfl
  have hpa : ∀ {c : Context} {action : PaAction},
      (paCount t.paEntries (paOf e.key op) op.mapping c action).vnetIds = c.vnetIds := by
    intro c action
    unfold paCount
    split
    · split <;> rfl
    · rfl
    · split <;> rfl
  rw [commit_eq]
  cases t.paAccepted? op with
  | none => exact hca
  | some action => exact hpa.trans hca

/-- What a commit does to the mappings. -/
theorem Applies.mappings (h : Applies Granted t e op) (c : Context) :
    (t.commit e op c).2.2.mappings = stored t.mappings e.key { op.mapping with
      caToPa := decide (op.kind = .create), paValidation := decide (op.kind = .create) } := by
  rw [commit_eq, h.settled]

theorem WhileCommitting.commit (h : WhileCommitting t) (happlies : Applies Granted t e op)
    (c : Context) : WhileCommitting (t.commit e op c).2.2 := by
  refine ⟨?_, ?_, ?_⟩
  · rw [happlies.mappings]
    refine Whole.stored h.whole ?_ happlies.keyed
    simp [MappingRecord.isEmpty, MappingRecord.isComplete]
  · rw [commit_eq]
    exact h.caToPa
  · rw [commit_eq]
    exact h.pa

end Commit

/-! ## The conduct -/

def config? (t : MappingTable) (key : String) : Option OverlayConfig :=
  (t.mappings.get? key).map fun m => .mapping m.config

def read? (e : Entry) : Option OverlayConfig := (MappingConfig.ofEntry e).toOption.map .mapping

theorem isSome_config? (t : MappingTable) (key : String) :
    (t.config? key).isSome = t.mappings.contains key := by
  rw [config?, Option.isSome_map, Table.contains_eq_isSome]

theorem config?_congr {t t' : MappingTable} (h : t'.mappings = t.mappings) :
    t'.config? = t.config? := by
  funext key
  rw [config?, config?, h]

def conduct : Conduct (bulk (δ := Simulator)) OverlayConfig where
  config? := config?
  read? := read?
  Valid := Valid
  types := [.outboundCaToPaEntry, .paValidationEntry]
  Tidy t := WhileCommitting t ∧ t.caToPaStager.slots = [] ∧ t.paStager.slots = [] ∧
    t.pass = .empty
  Staging := WhileStaging
  Committing := WhileCommitting
  Awaits t e op := Applies Waits t e op
  Granted t e op := Applies Granted t e op
  Removing t := ∃ pa, (t.passOf pa).removing = true
  start := by
    rintro t ⟨h, hca, hpa, hpass⟩
    have hidle : ∀ pa, t.passOf pa = .idle := by
      intro pa
      rw [passOf, hpass]
      rfl
    refine ⟨⟨h.whole, holdsEntries_of_nil h.caToPa hca, holdsEntries_of_nil h.pa hpa, ?_⟩, ?_⟩
    · intro pa position hshared
      rw [hidle] at hshared
      cases hshared
    · rintro ⟨pa, hremoving⟩
      rw [hidle] at hremoving
      cases hremoving
  stage := by
    intro n c t e h hvalid
    simp only [isSome_config?, bulk]
    cases hop : e.op with
    | set =>
      obtain hdone | ⟨hmissing, hwaits | ⟨op, t', hstage, hrequested, hkept⟩⟩ :=
        stage_set h hvalid hop
      · exact .inl hdone
      · refine .inr (.inl ⟨hwaits.1, rfl, ?_, hwaits.2⟩)
        rw [← Option.not_isSome_iff_eq_none, isSome_config?, hmissing]
        exact Bool.false_ne_true
      · refine .inr (.inr ⟨op, t', hstage, hmissing, config?_congr hrequested.mappings,
          hrequested.staging, hrequested.applies, hrequested.kept, ?_⟩)
        rintro ⟨pa, hremoving⟩
        rw [hkept] at hremoving
        exact .inl ⟨pa, hremoving⟩
    | del =>
      obtain hdone | ⟨hpresent, op, t', hstage, hrequested⟩ := stage_del h hop (c := c)
      · exact .inl hdone
      · exact .inr (.inr ⟨op, t', hstage, hpresent, config?_congr hrequested.mappings,
          hrequested.staging, hrequested.applies, hrequested.kept, fun _ => .inr rfl⟩)
  idle h := ⟨h.whole, h.caToPa.type, h.pa.holds.type⟩
  flush := by
    intro n m t d h hsupplied
    obtain ⟨t', d', hflush, hmappings, hcommitting, hgranted, hca, hpa⟩ :=
      h.flush ⟨hsupplied _ (by simp), hsupplied _ (by simp)⟩
    refine ⟨t', d', hflush, config?_congr hmappings, hcommitting, hgranted, ?_⟩
    intro type htype
    simp only [List.mem_cons, List.not_mem_nil, or_false] at htype
    rcases htype with rfl | rfl
    · exact hca
    · exact hpa
  commit := by
    intro c t e op h hgranted
    simp only [bulk]
    refine ⟨hgranted.decision c, h.commit hgranted c, ?_, ?_, ?_, ?_⟩
    · rw [config?, hgranted.mappings, hgranted.kind, stored]
      cases hop : e.op with
      | set => simp [MappingRecord.isEmpty, read?, hgranted.config hop, Except.toOption]
      | del => simp [MappingRecord.isEmpty]
    · intro key hne
      rw [config?, hgranted.mappings, get?_stored_of_ne hne, config?]
    · intro e' op' hgranted'
      rw [commit_eq]
      exact hgranted'.mono id id
    · intro e' hvalid hop
      obtain ⟨key, config, vnetId, hkey, hconfig, hvnet⟩ := hvalid hop
      refine ⟨key, config, vnetId, hkey, hconfig, ?_⟩
      rw [Context.vnetId?, vnetIds_commit]
      exact hvnet
  finish h := ⟨⟨⟨h.whole, h.caToPa, h.pa⟩, rfl, rfl, rfl⟩, rfl⟩

end DashAgent.MappingTable
