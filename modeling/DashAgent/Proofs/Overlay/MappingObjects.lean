import DashAgent.Proofs.Overlay.PaTurnover

/-!
# Mappings and the switch

The CA-to-PA entries on the switch are those of the mappings that have theirs in place. A mapping
with PA validation shares an entry that is recorded under its VNET name and address and is on the
switch; as long as no VNET name has two identifiers this is the entry of the mapping itself.
-/
namespace DashAgent.MappingTable

open SoleRequests (Mirrors)

/-- The CA-to-PA entries of a type on the switch are those of the mappings. -/
def CaInStep (t : MappingTable) (s : Simulator) : Prop :=
  ∀ object, object ∈ s.objects .outboundCaToPaEntry ↔ ∃ key m, t.mappings.get? key = some m ∧
    m.caToPa = true ∧ .entry (caToPaEntryKey m.vnetId m.overlayIp) = object

/-- The PA validation entries on the switch are those of the mappings. -/
def PaInStep (t : MappingTable) (s : Simulator) : Prop :=
  ∀ object, object ∈ s.objects .paValidationEntry ↔ ∃ key m, t.mappings.get? key = some m ∧
    m.paValidation = true ∧ .entry (paValidationEntryKey m.vnetId m.config.underlayIp) = object

/-- Every mapping with PA validation shares an entry under its VNET name and its address, and this
entry is on the switch. -/
def PaShared (t : MappingTable) (s : Simulator) : Prop :=
  ∀ {key m}, t.mappings.get? key = some m → m.paValidation = true → ∃ vnet p,
    MappingKey.vnetOf? key = some vnet ∧ t.paEntries.get? (m.paKey vnet) = some p ∧
      .entry p.entryKey ∈ s.objects .paValidationEntry

/-! ## CA-to-PA entries -/

def caLook (t : MappingTable) (key : String) : Option (Oid .vnet × IpAddress) :=
  (t.mappings.get? key).bind caObject?

/-- The CA-to-PA entries of a table are those that the switch holds, one each. -/
def CaMirrors (t : MappingTable) (s : Simulator) : Prop :=
  Mirrors t.caLook (fun v => .entry (caToPaEntryKey v.1 v.2)) (s.objects .outboundCaToPaEntry)

theorem caLook_eq_some_iff {t : MappingTable} {key : String} {v : Oid .vnet × IpAddress} :
    t.caLook key = some v ↔ ∃ m, t.mappings.get? key = some m ∧ m.caToPa = true ∧
      (m.vnetId, m.overlayIp) = v := by
  rw [caLook, Option.bind_eq_some_iff]
  refine exists_congr fun m => and_congr_right fun _ => ?_
  unfold caObject?
  split
  · next h => simp [h]
  · next h => simp [h]

theorem CaMirrors.inStep {t : MappingTable} {s : Simulator} (h : CaMirrors t s) : CaInStep t s := by
  intro object
  rw [h.held]
  constructor
  · rintro ⟨key, v, hlook, rfl⟩
    obtain ⟨m, hget, hflag, rfl⟩ := caLook_eq_some_iff.1 hlook
    exact ⟨key, m, hget, hflag, rfl⟩
  · rintro ⟨key, m, hget, hflag, rfl⟩
    exact ⟨key, _, caLook_eq_some_iff.2 ⟨m, hget, hflag, rfl⟩, rfl⟩

section CaPass

variable {queued : Status → Prop} {admitted : String → Prop} {names : String → Oid .vnet → Prop}

/-- Keys that are what they print back, with identifiers of one name each, have different CA-to-PA
entries. -/
theorem distinct_of_named {t : MappingTable} (h : Named admitted names t.mappings t.paEntries)
    (hcanonical : ∀ {key k}, admitted key → MappingKey.parse key = .ok k → k.text = key)
    (hsole : ∀ {vnet vnet' id}, names vnet id → names vnet' id → vnet = vnet')
    {key key' : String} {v v' : Oid .vnet × IpAddress} (hlook : t.caLook key = some v)
    (hlook' : t.caLook key' = some v')
    (hsame : ObjectKey.entry (caToPaEntryKey v.1 v.2) = .entry (caToPaEntryKey v'.1 v'.2)) :
    key = key' := by
  obtain ⟨m, hget, -, rfl⟩ := caLook_eq_some_iff.1 hlook
  obtain ⟨m', hget', -, rfl⟩ := caLook_eq_some_iff.1 hlook'
  obtain ⟨hadmitted, k, hparse, hip, hname⟩ := h.mappings hget
  obtain ⟨hadmitted', k', hparse', hip', hname'⟩ := h.mappings hget'
  obtain ⟨hid, hoverlay⟩ := caToPaEntryKey_inj.1 (ObjectKey.entry.inj hsame)
  dsimp only at hid hoverlay
  rw [← hid] at hname'
  rw [← hcanonical hadmitted hparse, ← hcanonical hadmitted' hparse', MappingKey.text,
    MappingKey.text, hsole hname hname', hip, hip', hoverlay]

variable {p : Pass MappingTable Context FaultGate}

/-- A pass keeps the CA-to-PA entries of the table equal to what the switch holds, if those that it
ends with are different. -/
theorem caMirrors_reconcile (hgone : ¬queued .itemNotFound) (hthere : ¬queued .itemAlreadyExists)
    (hrests : (gateTable queued).Rests p.table) (hopen : p.switch.Open)
    (hsound : p.switch.Sound queued) (hcreates : (bulk.reconcile p).2.switch.creates < 2 ^ 48)
    (h : CaMirrors p.table p.switch.switch)
    (hdistinct : ∀ {key key' v v'}, (bulk.reconcile p).2.table.caLook key = some v →
      (bulk.reconcile p).2.table.caLook key' = some v' →
      ObjectKey.entry (caToPaEntryKey v.1 v.2) = .entry (caToPaEntryKey v'.1 v'.2) → key = key') :
    CaMirrors (bulk.reconcile p).2.table (bulk.reconcile p).2.switch.switch := by
  obtain ⟨outcomes, staged, answered, hreport, hend⟩ :=
    (caGateRequests hgone hthere).report_reconcile hrests hopen hsound hcreates
  have hlook : (bulk.reconcile p).2.table.caLook =
      (caGateRequests hgone hthere).ends outcomes answered := hend
  have hmirrors := hreport.mirrors h (by rw [← hlook]; exact hdistinct)
  rw [← hlook] at hmirrors
  exact hmirrors

end CaPass

/-! ## PA validation entries -/

/-- The recorded PA validation entries are on the switch. -/
def Backed (t : MappingTable) (s : Simulator) : Prop :=
  ∀ {pa v}, paObject? t.paEntries pa = some v → paObjectKey v ∈ s.objects .paValidationEntry

/-- The PA validation entries on the switch are recorded. -/
def Owned (t : MappingTable) (s : Simulator) : Prop :=
  ∀ object ∈ s.objects .paValidationEntry, ∃ pa v, paObject? t.paEntries pa = some v ∧
    paObjectKey v = object

section Shared

variable {admitted : String → Prop} {names : String → Oid .vnet → Prop} {t : MappingTable}
  {s : Simulator}

/-- What a table records stands under names, if the table does. -/
theorem Named.recorded (h : Named admitted names t.mappings t.paEntries) {pa : String}
    {v : Oid .vnet × IpAddress} (hget : paObject? t.paEntries pa = some v) :
    Recorded names pa v.1 v.2 := by
  obtain ⟨p, hp, rfl⟩ := Option.map_eq_some_iff.1 hget
  exact h.entries hp

/-- A mapping with PA validation holds the entry under its VNET name and its address. -/
theorem Exact.held (h : Exact t.mappings t.paEntries) {key vnet : String} {m : MappingRecord}
    (hget : t.mappings.get? key = some m) (hflag : m.paValidation = true)
    (hvnet : MappingKey.vnetOf? key = some vnet) :
    ∃ p, t.paEntries.get? (m.paKey vnet) = some p := by
  have hcontains := (h.present (m.paKey vnet)).2 (by
    rw [holders, Table.tally_eq_countP, List.countP_pos_iff]
    exact ⟨(key, m), Table.get?_eq_some_iff.1 hget, by simp [holds, hflag, hvnet]⟩)
  exact Option.isSome_iff_exists.1 (Table.contains_eq_isSome t.paEntries _ ▸ hcontains)

/-- A recorded entry is held by a mapping with PA validation. -/
theorem Exact.holder (h : Exact t.mappings t.paEntries) {pa : String} {p : PaRecord}
    (hget : t.paEntries.get? pa = some p) : ∃ key m vnet, t.mappings.get? key = some m ∧
      m.paValidation = true ∧ MappingKey.vnetOf? key = some vnet ∧ m.paKey vnet = pa := by
  have hpos := (h.present pa).1 (by rw [Table.contains_eq_isSome, hget]; rfl)
  rw [holders, Table.tally_eq_countP, List.countP_pos_iff] at hpos
  obtain ⟨⟨key, m⟩, hmem, hholds⟩ := hpos
  simp only [holds, Bool.and_eq_true, decide_eq_true_eq, Option.map_eq_some_iff] at hholds
  obtain ⟨hflag, vnet, hvnet, hpa⟩ := hholds
  exact ⟨key, m, vnet, Table.get?_eq_some_iff.2 hmem, hflag, hvnet, hpa⟩

theorem paShared_of_backed (h : Exact t.mappings t.paEntries) (hbacked : Backed t s) :
    PaShared t s := by
  intro key m hget hflag
  obtain ⟨vnet, hvnet⟩ := Option.isSome_iff_exists.1 (h.keyed hget)
  obtain ⟨p, hp⟩ := h.held hget hflag hvnet
  exact ⟨vnet, p, hvnet, hp, hbacked (v := (p.vnetId, p.underlayIp)) (by rw [paObject?, hp]; rfl)⟩

/-- The entry that a mapping shares is its own, if no name has two identifiers. -/
theorem paObjectKey_of_shared (h : Named admitted names t.mappings t.paEntries)
    (hsingle : ∀ {vnet id id'}, names vnet id → names vnet id' → id = id') {key vnet : String}
    {m : MappingRecord} {p : PaRecord} (hget : t.mappings.get? key = some m)
    (hvnet : MappingKey.vnetOf? key = some vnet)
    (hentry : t.paEntries.get? (m.paKey vnet) = some p) :
    paObjectKey (m.vnetId, m.config.underlayIp) = paObjectKey (p.vnetId, p.underlayIp) := by
  obtain ⟨vnet', hcolon', hpa, hname'⟩ := h.entries hentry
  obtain ⟨-, k, hparse, -, hname⟩ := h.mappings hget
  rw [MappingKey.vnetOf?_of_parse hparse] at hvnet
  cases hvnet
  have hcolon := colon_notMem_vnetOf? key
  rw [MappingKey.vnetOf?_of_parse hparse, Option.getD_some] at hcolon
  obtain ⟨rfl, hip⟩ := (paKey_inj hcolon' hcolon).1 hpa.symm
  rw [hsingle hname hname', hip]

theorem paInStep_of_owned (h : Exact t.mappings t.paEntries)
    (hnamed : Named admitted names t.mappings t.paEntries)
    (hsingle : ∀ {vnet id id'}, names vnet id → names vnet id' → id = id') (hbacked : Backed t s)
    (howned : Owned t s) : PaInStep t s := by
  intro object
  constructor
  · intro hobject
    obtain ⟨pa, v, hget, rfl⟩ := howned object hobject
    obtain ⟨p, hp, rfl⟩ := Option.map_eq_some_iff.1 hget
    obtain ⟨key, m, vnet, hm, hflag, hvnet, rfl⟩ := h.holder hp
    exact ⟨key, m, hm, hflag, paObjectKey_of_shared hnamed hsingle hm hvnet hp⟩
  · rintro ⟨key, m, hget, hflag, rfl⟩
    obtain ⟨vnet, hvnet⟩ := Option.isSome_iff_exists.1 (h.keyed hget)
    obtain ⟨p, hp⟩ := h.held hget hflag hvnet
    have hsame := paObjectKey_of_shared hnamed hsingle hget hvnet hp
    change paObjectKey (m.vnetId, m.config.underlayIp) ∈ _
    rw [hsame]
    exact hbacked (by rw [paObject?, hp]; rfl)

end Shared

end DashAgent.MappingTable
