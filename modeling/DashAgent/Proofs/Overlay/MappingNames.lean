import DashAgent.Proofs.EntryKeys
import DashAgent.Proofs.Overlay.PaReferences
import DashAgent.Proofs.Reconcile.Invariant

/-!
# Names in the mapping table

A mapping is stored under the name of its VNET and carries the identifier that the VNET had when the
mapping was first staged. A PA validation entry is recorded under the same name, with the identifier
of the mapping that came first. A pass looks identifiers up in the context and brings none of its
own, so what is named after a pass was named before it.
-/
namespace DashAgent

namespace MappingTable

/-! ## Named tables -/

section Named

variable {admitted : String → Prop} {names names' : String → Oid .vnet → Prop}
  {ms : Table String MappingRecord} {es : Table String PaRecord} {key pa : String}
  {m : MappingRecord}

/-- A mapping under an admitted key: its identifier is a name of the VNET in the key. -/
def Placed (admitted : String → Prop) (names : String → Oid .vnet → Prop) (key : String)
    (m : MappingRecord) : Prop :=
  admitted key ∧ ∃ k, MappingKey.parse key = .ok k ∧ k.overlayIp = m.overlayIp ∧
    names k.vnet m.vnetId

/-- A PA validation entry under the name of a VNET that its identifier is a name of. -/
def Recorded (names : String → Oid .vnet → Prop) (pa : String) (id : Oid .vnet)
    (underlayIp : IpAddress) : Prop :=
  ∃ vnet, ':' ∉ vnet.toList ∧ pa = DashAgent.paKey vnet underlayIp ∧ names vnet id

/-- Mappings and PA validation entries stand under names of their VNETs. -/
structure Named (admitted : String → Prop) (names : String → Oid .vnet → Prop)
    (ms : Table String MappingRecord) (es : Table String PaRecord) : Prop where
  mappings : ∀ {key m}, ms.get? key = some m → Placed admitted names key m
  entries : ∀ {pa p}, es.get? pa = some p → Recorded names pa p.vnetId p.underlayIp

/-- A mapping is placed as far as its key, its address and its identifier go. -/
theorem Placed.congr {m' : MappingRecord} (h : Placed admitted names key m)
    (hip : m'.overlayIp = m.overlayIp) (hid : m'.vnetId = m.vnetId) :
    Placed admitted names key m' := by
  rw [Placed, hip, hid]
  exact h

theorem Placed.recorded (h : Placed admitted names key m) :
    Recorded names (m.paKey ((MappingKey.vnetOf? key).getD "")) m.vnetId m.config.underlayIp := by
  obtain ⟨-, k, hparse, -, hname⟩ := h
  refine ⟨k.vnet, ?_, ?_, hname⟩
  · have hcolon := colon_notMem_vnetOf? key
    rwa [MappingKey.vnetOf?_of_parse hparse] at hcolon
  · rw [MappingKey.vnetOf?_of_parse hparse]
    rfl

/-- An accepted action leaves the entries under names. -/
theorem recorded_paStep
    (h : ∀ {pa p}, es.get? pa = some p → Recorded names pa p.vnetId p.underlayIp)
    (hm : Recorded names pa m.vnetId m.config.underlayIp) (action : PaAction) {pa' : String}
    {p : PaRecord} (hget : (paStep es pa m action).get? pa' = some p) :
    Recorded names pa' p.vnetId p.underlayIp := by
  by_cases hpa : pa = pa'
  case neg =>
    rw [get?_paStep_of_ne hpa] at hget
    exact h hget
  subst hpa
  -- References leave the identifier and the address of an entry.
  have hmodified : ∀ {f : PaRecord → PaRecord},
      (∀ p, (f p).vnetId = p.vnetId ∧ (f p).underlayIp = p.underlayIp) →
      (es.modify pa f).get? pa = some p → Recorded names pa p.vnetId p.underlayIp := by
    intro f hf hget
    rw [Table.get?_modify, if_pos rfl, Option.map_eq_some_iff] at hget
    obtain ⟨p', hget', rfl⟩ := hget
    rw [(hf p').1, (hf p').2]
    exact h hget'
  cases action with
  | acquire =>
    simp only [paStep] at hget
    split at hget
    · refine hmodified (fun p => ?_) hget
      simp only [Referenced.acquired]
      split <;> exact ⟨rfl, rfl⟩
    · rw [Table.get?_insert_self] at hget
      cases hget
      exact hm
  | release =>
    simp only [paStep, Table.release] at hget
    split at hget
    · exact h hget
    · next q hq =>
      split at hget
      · exact h hget
      · next q' hreleased =>
        simp only [Except.toOption, Option.getD_some] at hget
        rw [Table.get?_modify, if_pos rfl, hq, Option.map_some] at hget
        cases hget
        simp only [Referenced.released?] at hreleased
        split at hreleased
        · cases hreleased
        · cases hreleased
          have hrecorded := h hq
          exact hrecorded
  | remove =>
    simp only [paStep] at hget
    split at hget
    · simp at hget
    · exact h hget

/-- A commit leaves both tables under names, if its mapping is. -/
theorem Named.commit {t : MappingTable} (h : Named admitted names t.mappings t.paEntries)
    {e : Entry} {op : MappingOp} (hop : Placed admitted names e.key op.mapping) (c : Context) :
    Named admitted names (t.commit e op c).2.2.mappings (t.commit e op c).2.2.paEntries := by
  rw [commit_eq]
  constructor
  case mappings =>
    intro key m hget
    by_cases hkey : e.key = key
    · subst hkey
      rw [(eq_of_get?_stored hget).1]
      exact hop.congr rfl rfl
    · rw [get?_stored_of_ne hkey] at hget
      exact h.mappings hget
  case entries =>
    intro pa p hget
    cases haccepted : t.paAccepted? op with
    | none =>
      simp only [haccepted, Option.elim_none] at hget
      exact h.entries hget
    | some action =>
      simp only [haccepted, Option.elim_some] at hget
      exact recorded_paStep h.entries hop.recorded action hget

end Named

/-- The identifier stands under the name of the VNET in the context, in a mapping or in a PA
validation entry. -/
inductive VnetNames (c : Context) (t : MappingTable) (vnet : String) (id : Oid .vnet) : Prop where
  | programmed : c.vnetIds.get? vnet = some id → VnetNames c t vnet id
  | mapping (key : String) (m : MappingRecord) : t.mappings.get? key = some m →
    MappingKey.vnetOf? key = some vnet → m.vnetId = id → VnetNames c t vnet id
  | entry (pa : String) (p : PaRecord) : t.paEntries.get? pa = some p → ':' ∉ vnet.toList →
    pa = DashAgent.paKey vnet p.underlayIp → p.vnetId = id → VnetNames c t vnet id

section VnetNames

variable {admitted : String → Prop} {names : String → Oid .vnet → Prop} {t : MappingTable}
  {c : Context}

/-- Tables that stand under some names stand under their own. -/
theorem Named.own (h : Named admitted names t.mappings t.paEntries) (c : Context) :
    Named admitted (VnetNames c t) t.mappings t.paEntries where
  mappings {key m} hget := by
    obtain ⟨hadmitted, k, hparse, hip, -⟩ := h.mappings hget
    exact ⟨hadmitted, k, hparse, hip,
      .mapping key m hget (MappingKey.vnetOf?_of_parse hparse) rfl⟩
  entries {pa p} hget := by
    obtain ⟨vnet, hcolon, hpa, -⟩ := h.entries hget
    exact ⟨vnet, hcolon, hpa, .entry pa p hget hcolon hpa rfl⟩

/-- The names of tables are those that they stand under and those of the context. -/
theorem Named.name (h : Named admitted names t.mappings t.paEntries) {vnet : String}
    {id : Oid .vnet} (hname : VnetNames c t vnet id) :
    c.vnetIds.get? vnet = some id ∨ names vnet id := by
  cases hname with
  | programmed hget => exact .inl hget
  | mapping key m hget hvnet hid =>
    obtain ⟨-, k, hparse, -, hname⟩ := h.mappings hget
    rw [MappingKey.vnetOf?_of_parse hparse] at hvnet
    cases hvnet
    rw [← hid]
    exact .inr hname
  | entry pa p hget hcolon hpa hid =>
    obtain ⟨vnet', hcolon', hpa', hname⟩ := h.entries hget
    obtain ⟨rfl, -⟩ := (paKey_inj hcolon' hcolon).1 (hpa'.symm.trans hpa)
    rw [← hid]
    exact .inr hname

end VnetNames

/-! ## What is staged -/

/-- The mapping of a staged operation is the stored one, or a new one with the identifier that the
context has. -/
theorem origin_of_stage {t : MappingTable} {e : Entry} {c : Context} {op : MappingOp}
    (h : (t.stage e c).1 = .staged op) :
    t.mappings.get? e.key = some op.mapping ∨ ∃ k, MappingKey.parse e.key = .ok k ∧
      k.overlayIp = op.mapping.overlayIp ∧ c.vnetIds.get? k.vnet = some op.mapping.vnetId := by
  have hstages := stage_spec t e c
  generalize t.stage e c = result at hstages h
  cases hstages with
  | unreadable | conflict | gone | unnamed => cases h
  | unmapped _ outcome _ _ hm =>
    have hunstaged := mappingOf_error hm
    dsimp only at h
    rw [h] at hunstaged
    cases hunstaged
  | missing k m _ hparse hm =>
    cases h
    have hfound := mappingOf_spec t e k c
    rw [hm] at hfound
    cases hfound with
    | incomplete _ hget => exact .inl hget
    | fresh config vnetId _ _ hvnet => exact .inr ⟨k, hparse, rfl, hvnet⟩
  | present m vnet _ hget =>
    cases h
    exact .inl hget

variable {admitted : String → Prop} {names : String → Oid .vnet → Prop}

theorem Named.stage {t : MappingTable} (h : Named admitted names t.mappings t.paEntries)
    {e : Entry} {c : Context} {op : MappingOp} (hadmitted : admitted e.key)
    (hids : ∀ {vnet id}, c.vnetIds.get? vnet = some id → names vnet id)
    (hop : (t.stage e c).1 = .staged op) : Placed admitted names e.key op.mapping := by
  obtain hget | ⟨k, hparse, hip, hid⟩ := origin_of_stage hop
  · exact h.mappings hget
  · exact ⟨hadmitted, k, hparse, hip, hids hid⟩

/-! ## A pass -/

section Pass

variable {δ : Type} [Driver δ]

def nameInvariant (admitted : String → Prop) (names : String → Oid .vnet → Prop) :
    PassInvariant (bulk (δ := δ)) where
  staging outcomes rest c t _ := Named admitted names t.mappings t.paEntries ∧
    (∀ {vnet id}, c.vnetIds.get? vnet = some id → names vnet id) ∧
    (∀ e ∈ rest, admitted e.key) ∧
    ∀ {e op}, (e, .staged op) ∈ outcomes → Placed admitted names e.key op.mapping
  committing _ rest _ t _ := Named admitted names t.mappings t.paEntries ∧
    ∀ {e op}, (e, .staged op) ∈ rest → Placed admitted names e.key op.mapping
  answered _ _ t _ := Named admitted names t.mappings t.paEntries
  unanswered _ t _ := Named admitted names t.mappings t.paEntries
  stage {outcomes e rest c t d} h := by
    obtain ⟨hnamed, hids, hrest, hstaged⟩ := h
    obtain ⟨hmappings, hentries⟩ := (stage_result t e c).frame
    refine ⟨?_, hids, fun e' he' => hrest e' (List.mem_cons_of_mem _ he'), ?_⟩
    · change Named admitted names (t.stage e c).2.mappings (t.stage e c).2.paEntries
      rw [hmappings, hentries]
      exact hnamed
    · intro e' op hmem
      rcases List.mem_append.1 hmem with hmem | hmem
      · exact hstaged hmem
      · obtain ⟨rfl, hop⟩ := Prod.mk.inj (List.mem_singleton.1 hmem)
        exact hnamed.stage (hrest _ (List.mem_cons_self ..)) hids hop.symm
  idle h _ := ⟨h.1, h.2.2.2⟩
  flush h hflush := by
    obtain ⟨hmappings, hentries⟩ := frame_of_flush hflush
    rw [hmappings, hentries]
    exact ⟨h.1, h.2.2.2⟩
  failure h hflush := by
    obtain ⟨hmappings, hentries⟩ := frame_of_flush hflush
    have hnamed := h.1
    rw [← hmappings, ← hentries] at hnamed
    exact hnamed
  commit h := ⟨h.1.commit (h.2 (List.mem_cons_self ..)) _,
    fun hmem => h.2 (List.mem_cons_of_mem _ hmem)⟩
  skip _ h := ⟨h.1, fun hmem => h.2 (List.mem_cons_of_mem _ hmem)⟩
  finish h := h.1

/-- What is named after a pass was named before, in both tables or in the context. -/
theorem named_reconcile {p : Pass MappingTable Context δ}
    (h : Named admitted names p.table.mappings p.table.paEntries)
    (hids : ∀ {vnet id}, p.env.vnetIds.get? vnet = some id → names vnet id)
    (hchanges : ∀ e ∈ p.queue.entries, admitted e.key) :
    Named admitted names (bulk.reconcile p).2.table.mappings
      (bulk.reconcile p).2.table.paEntries :=
  (nameInvariant admitted names).keeps (B := fun _ t _ =>
      Named admitted names t.mappings t.paEntries) h
    ⟨h, hids, fun e he => hchanges e (List.mem_of_mem_take he), by simp⟩ id id

end Pass

end MappingTable

end DashAgent
