import DashAgent.Context
import DashAgent.Overlay.Mapping
import DashAgent.Reconcile.Pass
import DashAgent.Switch.BulkStager

/-!
# The mapping table

The two objects of a mapping are staged, committed and retried on their own. A mapping with only
one of them in place stays in the table; the next SET stages the missing one, and a DEL only the
remaining one. The shared PA validation entry is created with its first reference and removed with
its last. During a pass, `PaPass` keeps what was already staged for an entry, so that changes of one
batch share a create, and no change takes a reference on an entry whose removal is staged.
-/
namespace DashAgent

/-- What a change does to the PA validation entry of its mapping. -/
inductive PaAction where
  /-- Takes a reference, creating the entry with the first one. -/
  | acquire
  /-- Drops a reference that is not the last. -/
  | release
  /-- Drops the last reference and removes the entry. -/
  | remove
  deriving DecidableEq, Repr

def PaAction.kind : PaAction → RequestKind
  | acquire => .create
  | release | remove => .remove

/-- What the current pass has staged for one PA validation entry. -/
structure PaPass where
  /-- The slot of the staged create. -/
  creating : Option Nat
  /-- A remove is staged. -/
  removing : Bool
  acquired : Nat
  released : Nat
  deriving DecidableEq, Repr

def PaPass.idle : PaPass := ⟨none, false, 0, 0⟩

/-- A staged mapping operation; positions are those of slots. -/
structure MappingOp where
  kind : RequestKind
  mapping : MappingRecord
  /-- The slot of the CA-to-PA request, where there is one. -/
  caToPa : Option Nat
  /-- The action on the PA validation entry and its slot, where there is one. -/
  pa : Option (PaAction × Nat)
  deriving DecidableEq, Repr

/-- The programmed mappings by key, the PA validation entries they share, and what the current
pass has staged. -/
structure MappingTable where
  caToPaStager : BulkStager
  paStager : BulkStager
  mappings : Table String MappingRecord
  paEntries : Table String PaRecord
  pass : Table String PaPass

namespace MappingTable

def name : String := "DASH_VNET_MAPPING_TABLE"

def new (maxBulkSize : Nat) : MappingTable where
  caToPaStager := .new .outboundCaToPaEntry maxBulkSize
  paStager := .new .paValidationEntry maxBulkSize
  mappings := .empty
  paEntries := .empty
  pass := .empty

def attributes (config : MappingConfig) : List Attribute :=
  [⟨"SAI_OUTBOUND_CA_TO_PA_ENTRY_ATTR_UNDERLAY_DIP", .ip config.underlayIp⟩,
    ⟨"SAI_OUTBOUND_CA_TO_PA_ENTRY_ATTR_OVERLAY_DMAC", .mac config.mac⟩,
    ⟨"SAI_OUTBOUND_CA_TO_PA_ENTRY_ATTR_USE_DST_VNET_VNI", .bool config.useDstVni⟩]

def passOf (t : MappingTable) (pa : String) : PaPass := (t.pass.get? pa).getD .idle

/-- The keys of the PA validation entries that mappings share, one for every mapping. -/
def paKeys (t : MappingTable) : List String :=
  t.mappings.entries.filterMap fun (key, m) => (MappingKey.vnetOf? key).map m.paKey

/-! ## Staging -/

def stageCaToPaCreate (t : MappingTable) (m : MappingRecord) : Nat × MappingTable :=
  let (position, caToPaStager) := t.caToPaStager.stageCreate
    ⟨some (caToPaEntryKey m.vnetId m.overlayIp), attributes m.config⟩
  (position, { t with caToPaStager })

def stageCaToPaRemove (t : MappingTable) (m : MappingRecord) : Nat × MappingTable :=
  let (position, caToPaStager) :=
    t.caToPaStager.stageRemove (.entry (caToPaEntryKey m.vnetId m.overlayIp))
  (position, { t with caToPaStager })

/-- Stages one more reference on a PA validation entry: an entry that is there is shared, and so is
a create that the pass has already staged. -/
def stageAcquire (t : MappingTable) (pa : String) (m : MappingRecord) : Nat × MappingTable :=
  let p := t.passOf pa
  let p := { p with acquired := p.acquired + 1 }
  if t.paEntries.contains pa then
    let (position, paStager) := t.paStager.settle .success
    (position, { t with paStager, pass := t.pass.insert pa p })
  else
    match p.creating with
    | some position => (position, { t with pass := t.pass.insert pa p })
    | none =>
      let (position, paStager) :=
        t.paStager.stageCreate ⟨some (paValidationEntryKey m.vnetId m.config.underlayIp), []⟩
      (position,
        { t with paStager, pass := t.pass.insert pa { p with creating := some position } })

/-- Stages one reference less on a PA validation entry, and its removal with the last one. -/
def stageRelease (t : MappingTable) (pa : String) (m : MappingRecord) :
    (PaAction × Nat) × MappingTable :=
  let held := (t.paEntries.references? pa).getD 0
  let p := t.passOf pa
  let remaining := held.toNat + p.acquired - p.released
  let p := { p with released := p.released + 1 }
  if 1 < remaining then
    let (position, paStager) := t.paStager.settle .success
    ((.release, position), { t with paStager, pass := t.pass.insert pa p })
  else
    let (position, paStager) :=
      t.paStager.stageRemove (.entry (paValidationEntryKey m.vnetId m.config.underlayIp))
    ((.remove, position), { t with paStager, pass := t.pass.insert pa { p with removing := true } })

/-- The mapping that a SET works on: the stored one while it is incomplete, else a new one. -/
def mappingOf (t : MappingTable) (e : Entry) (key : MappingKey) (c : Context) :
    Except (StageOutcome MappingOp) MappingRecord :=
  match t.mappings.get? e.key with
  | some m => if m.isComplete then .error .done else .ok m
  | none =>
    match MappingConfig.ofEntry e with
    | .error error => .error (.invalid error)
    | .ok config =>
      match c.vnetId? key.vnet with
      | none => .error (.notReady (.vnet key.vnet))
      | some vnetId => .ok ⟨vnetId, key.overlayIp, config, false, false⟩

def stageMissing (t : MappingTable) (pa : String) (m : MappingRecord) : MappingOp × MappingTable :=
  let (caToPa, t) :=
    if m.caToPa then (none, t)
    else
      let (position, t) := t.stageCaToPaCreate m
      (some position, t)
  let (paOp, t) :=
    if m.paValidation then (none, t)
    else
      let (position, t) := t.stageAcquire pa m
      (some (PaAction.acquire, position), t)
  (⟨.create, m, caToPa, paOp⟩, t)

def stageSet (t : MappingTable) (e : Entry) (c : Context) :
    StageOutcome MappingOp × MappingTable :=
  match MappingKey.parse e.key with
  | .error error => (.invalid error, t)
  | .ok key =>
    match t.mappingOf e key c with
    | .error outcome => (outcome, t)
    | .ok m =>
      let pa := m.paKey key.vnet
      if !m.paValidation && (t.passOf pa).removing then (.notReady (.paRemoval pa), t)
      else
        let (op, t) := t.stageMissing pa m
        (.staged op, t)

def stagePresent (t : MappingTable) (vnet : String) (m : MappingRecord) :
    MappingOp × MappingTable :=
  let (caToPa, t) :=
    if m.caToPa then
      let (position, t) := t.stageCaToPaRemove m
      (some position, t)
    else (none, t)
  let (paOp, t) :=
    if m.paValidation then
      let (op, t) := t.stageRelease (m.paKey vnet) m
      (some op, t)
    else (none, t)
  (⟨.remove, m, caToPa, paOp⟩, t)

def stageDel (t : MappingTable) (e : Entry) : StageOutcome MappingOp × MappingTable :=
  match t.mappings.get? e.key with
  | none => (.done, t)
  | some m =>
    match MappingKey.vnetOf? e.key with
    | none => (.invalid .mappingKeyShape, t)
    | some vnet =>
      let (op, t) := t.stagePresent vnet m
      (.staged op, t)

def stage (t : MappingTable) (e : Entry) (c : Context) : StageOutcome MappingOp × MappingTable :=
  match e.op with
  | .set => t.stageSet e c
  | .del => t.stageDel e

/-! ## Committing -/

def commitCaToPa (kind : RequestKind) (status : Status) (m : MappingRecord) (c : Context) :
    MappingRecord × Context :=
  if Decision.ofStatus kind status = .commit then
    let r := Resource.outboundCaToPa m.overlayIp.family
    match kind with
    | .create => ({ m with caToPa := true }, c.count r)
    | .remove => ({ m with caToPa := false }, c.uncount r)
  else (m, c)

/-- Takes a reference on a PA validation entry, recording it with the first one. -/
def acquirePa (t : MappingTable) (pa : String) (m : MappingRecord) (c : Context) :
    MappingTable × Context :=
  match t.paEntries.acquire pa with
  | .ok paEntries => ({ t with paEntries }, c)
  | .error _ =>
    ({ t with paEntries := t.paEntries.insert pa ⟨m.vnetId, m.config.underlayIp, 1⟩ },
      c.count (.paValidation m.config.underlayIp.family))

/-- Drops a reference on a PA validation entry; there is nothing to drop on a missing one. -/
def releasePa (t : MappingTable) (pa : String) : MappingTable :=
  match t.paEntries.release pa with
  | .ok paEntries => { t with paEntries }
  | .error _ => t

def removePa (t : MappingTable) (pa : String) (m : MappingRecord) (c : Context) :
    MappingTable × Context :=
  if t.paEntries.contains pa then
    ({ t with paEntries := t.paEntries.erase pa },
      c.uncount (.paValidation m.config.underlayIp.family))
  else (t, c)

/-- Applies the answer of a PA validation request to its mapping and its entry. -/
def commitPa (t : MappingTable) (pa : String) (action : PaAction) (status : Status)
    (m : MappingRecord) (c : Context) : MappingRecord × MappingTable × Context :=
  if Decision.ofStatus action.kind status = .commit then
    match action with
    | .acquire => ({ m with paValidation := true }, t.acquirePa pa m c)
    | .release => ({ m with paValidation := false }, t.releasePa pa, c)
    | .remove => ({ m with paValidation := false }, t.removePa pa m c)
  else (m, t, c)

/-- Records a mapping, or forgets it once neither of its objects is in place. -/
def store (t : MappingTable) (key : String) (m : MappingRecord) : MappingTable :=
  { t with mappings := if m.isEmpty then t.mappings.erase key else t.mappings.insert key m }

def statuses (t : MappingTable) (op : MappingOp) : List Status :=
  (op.caToPa.map t.caToPaStager.outcome).toList ++
    (op.pa.map fun (_, position) => t.paStager.outcome position).toList

def answerCaToPa (t : MappingTable) (op : MappingOp) (c : Context) : MappingRecord × Context :=
  match op.caToPa with
  | some position => commitCaToPa op.kind (t.caToPaStager.outcome position) op.mapping c
  | none => (op.mapping, c)

def answerPa (t : MappingTable) (key : String) (op : MappingOp) (m : MappingRecord) (c : Context) :
    MappingRecord × MappingTable × Context :=
  match op.pa with
  | some (action, position) =>
    let pa := m.paKey ((MappingKey.vnetOf? key).getD "")
    t.commitPa pa action (t.paStager.outcome position) m c
  | none => (m, t, c)

/-- Commits one change: each object by its own answer, the change by the worse of both. -/
def commit (t : MappingTable) (e : Entry) (op : MappingOp) (c : Context) :
    Decision × Context × MappingTable :=
  let decision := Decision.ofStatuses op.kind (t.statuses op)
  let (m, c) := t.answerCaToPa op c
  let (m, t, c) := t.answerPa e.key op m c
  (decision, c, t.store e.key m)

def flush {δ : Type} [Driver δ] (t : MappingTable) (d : δ) :
    Except DriverError Unit × MappingTable × δ :=
  match t.caToPaStager.flush d with
  | (.error e, caToPaStager, d) => (.error e, { t with caToPaStager }, d)
  | (.ok (), caToPaStager, d) =>
    let (answer, paStager, d) := t.paStager.flush d
    (answer, { t with caToPaStager, paStager }, d)

def bulk {δ : Type} [Driver δ] : BulkTable MappingTable MappingOp Context δ where
  stage e c t := t.stage e c
  flush t d := t.flush d
  commit e op c t := t.commit e op c
  endPass t :=
    { t with
      caToPaStager := t.caToPaStager.clear
      paStager := t.paStager.clear
      pass := .empty }

end MappingTable

end DashAgent
