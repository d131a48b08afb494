import DashAgent.Proofs.EntryKeys
import DashAgent.Proofs.Overlay.MappingNames
import DashAgent.Proofs.Overlay.Uptakes
import DashAgent.Proofs.Reconcile.Intake

/-!
# Mappings taken in

A pass over new SETs of mappings puts both objects of every change that is ready in place. Changes
that share a PA validation entry are told by its key: the entry is there with the first of them, it
is counted once, and its reference count is the number of them.
-/
namespace DashAgent

open BulkStager

/-- The count of an entry on which so many references were taken, one after the other. -/
def PaRecord.referencesAfter : Nat → Option UInt32
  | 0 => none
  | n + 1 => some ((referencesAfter n).elim 1 fun r => if r = 0xffffffff then r else r + 1)

theorem PaRecord.isSome_referencesAfter (n : Nat) : (referencesAfter n).isSome = true ↔ 0 < n := by
  cases n <;> simp [referencesAfter]

namespace MappingTable

/-! ## Reading -/

/-- What a SET of a mapping asks for. -/
def ask (e : Entry) : Except EntryError (MappingKey × MappingConfig) := do
  let key ← MappingKey.parse e.key
  let config ← MappingConfig.ofEntry e
  .ok (key, config)

def reading : Reading (MappingKey × MappingConfig) (Oid .vnet) where
  ask := ask
  resolve asked c :=
    match c.vnetId? asked.1.vnet with
    | none => .error (.vnet asked.1.vnet)
    | some id => .ok id

/-- Objects of mappings are found under the identifiers of their VNETs. -/
def site (text : MappingKey × MappingConfig → String) : Site .vnet where
  ids := Context.vnetIds
  part? e := (ask e).toOption.map fun asked => (asked.1.vnet, text asked)
  key id text := .entry (id.text ++ ":" ++ text)
  grows h := h.vnets
  key_inj _ _ h := Oid.text_append_inj (ObjectKey.entry.inj h)

/-- CA-to-PA entries are told by their overlay addresses. -/
def caSite : Site .vnet := site fun asked => asked.1.overlayIp.text

/-- PA validation entries are told by their underlay addresses. -/
def paSite : Site .vnet := site fun asked => asked.2.underlayIp.text

/-- The PA validation entry of a mapping, and the family that it is counted in. -/
def paMark? (e : Entry) : Option (String × AddressFamily) :=
  (ask e).toOption.map fun asked =>
    (DashAgent.paKey asked.1.vnet asked.2.underlayIp, asked.2.underlayIp.family)

def pa? (e : Entry) : Option String := (paMark? e).map Prod.fst

section Reading

variable {c : Context} {e e' : Entry} {asked : MappingKey × MappingConfig} {id : Oid .vnet}

theorem of_ask (h : ask e = .ok asked) : MappingKey.parse e.key = .ok asked.1 ∧
    MappingConfig.ofEntry e = .ok asked.2 ∧ ':' ∉ asked.1.vnet.toList := by
  rw [ask] at h
  cases hkey : MappingKey.parse e.key with
  | error error =>
    rw [hkey] at h
    cases h
  | ok key =>
    cases hconfig : MappingConfig.ofEntry e with
    | error error =>
      rw [hkey, hconfig] at h
      cases h
    | ok config =>
      rw [hkey, hconfig] at h
      cases h
      have hcolon := colon_notMem_vnetOf? e.key
      rw [MappingKey.vnetOf?_of_parse hkey] at hcolon
      exact ⟨rfl, rfl, hcolon⟩

theorem resolve_ok_iff :
    reading.resolve asked c = .ok id ↔ c.vnetIds.get? asked.1.vnet = some id := by
  simp only [reading, Context.vnetId?]
  cases c.vnetIds.get? asked.1.vnet <;> simp

/-- Mappings wait for their VNETs. -/
theorem grows : reading.Grows Context.VnetsLe := by
  refine Reading.grows_of_resolve fun {asked found c c'} hle hresolve => ?_
  obtain ⟨id', hid'⟩ := hle.vnetId? (resolve_ok_iff.1 hresolve)
  exact ⟨id', resolve_ok_iff.2 hid'⟩

theorem key?_site (text : MappingKey × MappingConfig → String) (h : ask e = .ok asked)
    (hid : c.vnetIds.get? asked.1.vnet = some id) :
    (site text).key? c e = some (.entry (id.text ++ ":" ++ text asked)) :=
  Site.key?_eq_some_iff.2
    ⟨asked.1.vnet, text asked, id, by simp [site, h, Except.toOption], hid, rfl⟩

theorem exists_ask_of_pa? {pa : String} (h : pa? e = some pa) :
    ∃ asked, ask e = .ok asked ∧ pa = DashAgent.paKey asked.1.vnet asked.2.underlayIp := by
  rw [pa?, paMark?] at h
  cases hask : ask e with
  | error error => simp [hask, Except.toOption] at h
  | ok asked =>
    refine ⟨asked, rfl, ?_⟩
    simpa [hask, Except.toOption] using h.symm

/-- Mappings with the same key of a PA validation entry share the entry. -/
theorem key?_of_pa?_eq (h : ask e = .ok asked)
    (hpa : pa? e' = some (DashAgent.paKey asked.1.vnet asked.2.underlayIp)) :
    paMark? e' = paMark? e ∧ paSite.key? c e' = paSite.key? c e := by
  obtain ⟨asked', h', heq⟩ := exists_ask_of_pa? hpa
  obtain ⟨-, -, hcolon⟩ := of_ask h
  obtain ⟨-, -, hcolon'⟩ := of_ask h'
  obtain ⟨hvnet, hip⟩ := (paKey_inj hcolon hcolon').1 heq
  constructor
  · simp [paMark?, h, h', Except.toOption, hvnet, hip]
  · simp [Site.key?, paSite, site, h, h', Except.toOption, hvnet, hip]

end Reading

/-! ## The bill -/

/-- The resource that the CA-to-PA entry of a mapping is counted as. -/
def caTariff? (e : Entry) : Option Resource :=
  (ask e).toOption.map fun asked => .outboundCaToPa asked.1.overlayIp.family

/-- The CA-to-PA entries of mappings, and the PA validation entries that they share. -/
def bill (P : List Entry) : List Resource :=
  P.filterMap caTariff? ++ (P.filterMap paMark?).dedup.map fun mark => .paValidation mark.2

theorem bill_perm {P P' : List Entry} (h : P.Perm P') : (bill P).Perm (bill P') :=
  (h.filterMap _).append ((h.filterMap _).dedup.map _)

/-- One more mapping is counted, and its PA validation entry if it is the first that has it. -/
theorem bill_concat {P : List Entry} {e : Entry} {asked : MappingKey × MappingConfig}
    (h : ask e = .ok asked) {shared : Bool}
    (hshared : shared = true ↔ ∃ e' ∈ P, paMark? e' = paMark? e) :
    (bill (P ++ [e])).Perm (bill P ++ .outboundCaToPa asked.1.overlayIp.family ::
      if shared then [] else [.paValidation asked.2.underlayIp.family]) := by
  have hmark : paMark? e = some (DashAgent.paKey asked.1.vnet asked.2.underlayIp,
      asked.2.underlayIp.family) := by simp [paMark?, h, Except.toOption]
  have hmem : (DashAgent.paKey asked.1.vnet asked.2.underlayIp, asked.2.underlayIp.family) ∈
      P.filterMap paMark? ↔ shared = true := by
    rw [hshared, List.mem_filterMap, hmark]
  have hmarks : ((P ++ [e]).filterMap paMark?).dedup.Perm
      ((P.filterMap paMark?).dedup ++
        if shared then [] else [(DashAgent.paKey asked.1.vnet asked.2.underlayIp,
          asked.2.underlayIp.family)]) := by
    rw [List.filterMap_append, List.filterMap_cons, hmark, List.filterMap_nil]
    refine (List.perm_append_singleton _ _).dedup.trans ?_
    cases shared with
    | true =>
      rw [List.dedup_cons_of_mem (hmem.2 rfl), if_pos rfl, List.append_nil]
    | false =>
      rw [List.dedup_cons_of_notMem (mt hmem.1 Bool.false_ne_true), if_neg Bool.false_ne_true]
      exact (List.perm_append_singleton _ _).symm
  have hca : (P ++ [e]).filterMap caTariff? =
      P.filterMap caTariff? ++ [.outboundCaToPa asked.1.overlayIp.family] := by
    simp [caTariff?, h, Except.toOption]
  rw [bill, hca, bill, List.append_assoc, List.append_assoc]
  refine List.Perm.append_left _ ?_
  refine ((hmarks.map fun mark => Resource.paValidation mark.2).cons _).trans ?_
  rw [List.map_append]
  refine List.perm_middle.symm.trans ?_
  cases shared <;> exact .refl _

/-! ## Staging -/

/-- The mappings of the table are the programmed changes, and every PA validation entry is held by
so many of them as have its key. -/
structure Booked (P : List Entry) (t : MappingTable) : Prop where
  mappings : ∀ key, t.mappings.contains key = true ↔ key ∈ P.map Entry.key
  references : ∀ pa, t.paEntries.references? pa =
    PaRecord.referencesAfter (P.countP fun e => pa? e = some pa)

structure InPlace (P : List Entry) (c : Context) (s : Simulator) : Prop where
  ca : caSite.Fills .outboundCaToPaEntry P c s
  pa : paSite.Fills .paValidationEntry P c s

inductive Seeks (e : Entry) : MappingOp → Prop where
  | mk {key : MappingKey} {config : MappingConfig} (id : Oid .vnet) (caToPa pa : Nat) :
    ask e = .ok (key, config) →
    Seeks e ⟨.create, ⟨id, key.overlayIp, config, false, false⟩, some caToPa, some (.acquire, pa)⟩

/-- While changes are staged, both stagers order their objects, and a create that is shared is that
of one of them. -/
structure Staging (P : List Entry) (todo : List (Entry × MappingOp)) (c : Context)
    (t : MappingTable) (s : Simulator) : Prop where
  both : StagingBoth todo.length t
  free : ∀ pa, (t.passOf pa).removing = false
  shared : ∀ {pa position}, (t.passOf pa).creating = some position →
    ∃ e ∈ todo.map Prod.fst, pa? e = some pa
  booked : Booked P t
  inPlace : InPlace P c s
  caToPa : Ordered (caSite.key? c) P (todo.map Prod.fst) t.caToPaStager
  pa : Ordered (paSite.key? c) P (todo.map Prod.fst) t.paStager
  ops : ∀ x ∈ todo, Seeks x.1 x.2 ∧ Asked Waits t x.2

/-- While changes are committed, the objects of all of them are in place. -/
structure Paying (P : List Entry) (todo : List (Entry × MappingOp)) (c : Context)
    (t : MappingTable) (s : Simulator) : Prop where
  caToPa : t.caToPaStager.type = .outboundCaToPaEntry
  pa : t.paStager.type = .paValidationEntry
  booked : Booked P t
  inPlace : InPlace (P ++ todo.map Prod.fst) c s
  ops : ∀ x ∈ todo, Seeks x.1 x.2 ∧ Asked Granted t x.2

/-- Between passes the objects of the programmed changes are on the switch. -/
structure Stocked (P : List Entry) (c : Context) (t : MappingTable) (s : Simulator) : Prop where
  rests : t.BetweenPasses
  booked : Booked P t
  inPlace : InPlace P c s

theorem InPlace.frame {P : List Entry} {c c' : Context} {s s' : Simulator} (h : InPlace P c s)
    (hc : c.Extends c')
    (hca : s'.objects .outboundCaToPaEntry = s.objects .outboundCaToPaEntry)
    (hpa : s'.objects .paValidationEntry = s.objects .paValidationEntry) : InPlace P c' s' :=
  ⟨h.ca.extends hc hca, h.pa.extends hc hpa⟩

section Stage

variable {P : List Entry} {todo : List (Entry × MappingOp)} {c : Context} {t : MappingTable}
  {s : Simulator} {e : Entry} {asked : MappingKey × MappingConfig} {id : Oid .vnet}

/-- A PA validation entry that is held is that of a programmed change. -/
theorem Booked.holder (h : Booked P t) {pa : String} :
    t.paEntries.contains pa = true ↔ ∃ e ∈ P, pa? e = some pa := by
  have hsome := congrArg Option.isSome (h.references pa)
  rw [Table.references?, Option.isSome_map, ← Table.contains_eq_isSome] at hsome
  rw [hsome, PaRecord.isSome_referencesAfter, List.countP_pos_iff]
  simp

theorem Booked.absent (h : Booked P t) (hnew : e.key ∉ (P ++ todo.map Prod.fst).map Entry.key) :
    t.mappings.get? e.key = none := by
  rw [← Option.not_isSome_iff_eq_none, ← Table.contains_eq_isSome, h.mappings]
  intro hmem
  rw [List.map_append] at hnew
  exact hnew (List.mem_append_left _ hmem)

/-- A reference is taken with a create that names the entry, or it shares the entry. -/
theorem stageAcquire_ordered {site : Entry → Option ObjectKey} {staged : List Entry}
    (h : Ordered site P staged t.paStager) (pa : String) (m : MappingRecord)
    (hsite : site e = some (.entry (paValidationEntryKey m.vnetId m.config.underlayIp)))
    (hprogrammed : t.paEntries.contains pa = true → ∃ e' ∈ P, site e' = site e)
    (hcreating : ∀ {position}, (t.passOf pa).creating = some position →
      ∃ e' ∈ staged, site e' = site e) :
    Ordered site P (staged ++ [e]) (t.stageAcquire pa m).2.paStager := by
  have hspec := stageAcquire_spec t pa m
  generalize t.stageAcquire pa m = result at hspec ⊢
  cases hspec with
  | present hpresent =>
    obtain ⟨e', he', heq⟩ := hprogrammed hpresent
    exact h.settle.share hsite (.inr ⟨e', he', heq.trans hsite⟩)
  | shared position _ hshared =>
    obtain ⟨e', he', heq⟩ := hcreating hshared
    obtain ⟨k, hk, hcovered⟩ := h.covered e' he'
    cases (heq.symm.trans hk).symm.trans hsite
    exact h.share hsite hcovered
  | created => exact h.create hsite _

/-- The create that a pass shares is the old one, or that of the entry that was acquired. -/
theorem creating_stageAcquire {pa pa' : String} {m : MappingRecord} {position : Nat}
    (h : ((t.stageAcquire pa m).2.passOf pa').creating = some position) :
    pa' = pa ∨ (t.passOf pa').creating = some position := by
  by_cases heq : pa' = pa
  · exact .inl heq
  · rw [passOf_stageAcquire_of_ne (Ne.symm heq)] at h
    exact .inr h

/-- What is staged for a change that is ready. -/
theorem Staging.create (h : Staging P todo c t s) (hset : e.op = .set)
    (hnew : e.key ∉ (P ++ todo.map Prod.fst).map Entry.key) (hask : ask e = .ok asked)
    (hid : c.vnetIds.get? asked.1.vnet = some id) :
    ∃ op t', t.stage e c = (.staged op, t') ∧ Staging P (todo ++ [(e, op)]) c t' s := by
  obtain ⟨key, config⟩ := asked
  obtain ⟨hkey, hconfig, -⟩ := of_ask hask
  let m : MappingRecord := ⟨id, key.overlayIp, config, false, false⟩
  let pa := m.paKey key.vnet
  have hpa : pa? e = some pa := by simp [pa?, paMark?, hask, Except.toOption, pa, m,
    MappingRecord.paKey]
  have hstage : t.stage e c = (.staged ⟨.create, m, some t.caToPaStager.slots.length,
        some (.acquire, ((t.stageCaToPaCreate m).2.stageAcquire pa m).1)⟩,
      ((t.stageCaToPaCreate m).2.stageAcquire pa m).2) := by
    have hm : t.mappingOf e key c = .ok m :=
      mappingOf_fresh (h.booked.absent hnew) hconfig hid
    rw [stage_missing hset hkey hm (h.free pa), stageMissing_new t _ rfl rfl]
  have hreach := h.both.stage e c
  rw [hstage] at hreach
  obtain ⟨hunstaged, -⟩ | ⟨_, _, heq, hboth, hasked, hkept⟩ := hreach
  · cases hunstaged
  cases heq
  have hpaStaging : PaStaging todo.length (t.stageCaToPaCreate m).2 :=
    ⟨h.both.pa.holds, h.both.pa.shared⟩
  have hrequested := stageAcquire_requested hpaStaging pa m
  obtain ⟨hmappings, hentries⟩ := stageAcquire_frame (t.stageCaToPaCreate m).2 pa m
  have hpaSite := key?_site (c := c) (fun asked => asked.2.underlayIp.text) hask hid
  refine ⟨_, _, hstage, ⟨?_, ?_, ?_, ⟨?_, ?_⟩, h.inPlace, ?_, ?_, ?_⟩⟩
  · rw [List.length_append, List.length_singleton]
    exact hboth
  · intro pa'
    rw [removing_stageAcquire]
    exact h.free pa'
  · intro pa' position hshared
    rw [List.map_append]
    obtain rfl | hshared := creating_stageAcquire hshared
    · exact ⟨e, by simp, hpa⟩
    · obtain ⟨e', he', hpa'⟩ := h.shared hshared
      exact ⟨e', List.mem_append_left _ he', hpa'⟩
  · rw [hmappings]
    exact h.booked.mappings
  · rw [hentries]
    exact h.booked.references
  · rw [List.map_append, hrequested.caToPaStager]
    exact h.caToPa.create (key?_site (fun asked => asked.1.overlayIp.text) hask hid) _
  · rw [List.map_append]
    refine stageAcquire_ordered (t := (t.stageCaToPaCreate m).2) h.pa pa m hpaSite
      (fun hpresent => ?_) fun hshared => ?_
    · obtain ⟨e', he', hpa'⟩ := h.booked.holder.1 hpresent
      exact ⟨e', he', (key?_of_pa?_eq hask hpa').2⟩
    · obtain ⟨e', he', hpa'⟩ := h.shared hshared
      exact ⟨e', he', (key?_of_pa?_eq hask hpa').2⟩
  · intro x hx
    rcases List.mem_append.1 hx with hx | hx
    · obtain ⟨hseeks, hwaits⟩ := h.ops x hx
      exact ⟨hseeks, hkept hwaits⟩
    · cases List.mem_singleton.1 hx
      exact ⟨.mk id _ _ hask, hasked⟩

end Stage

/-! ## Flushing and committing -/

section Commit

variable {P : List Entry} {todo : List (Entry × MappingOp)} {c : Context} {t : MappingTable}
  {s s₁ s₂ : Simulator} {e : Entry} {op : MappingOp}

/-- After both flushes the objects of the staged changes are in place. -/
theorem Staging.placed (h : Staging P todo c t s) {ca pa : BulkStager}
    (hca : BulkStager.Placed t.caToPaStager s ca s₁)
    (hpa : BulkStager.Placed t.paStager s₁ pa s₂) :
    Paying P todo c { t with caToPaStager := ca, paStager := pa } s₂ where
  caToPa := hca.type.trans h.both.caToPa.type
  pa := hpa.type.trans h.both.pa.holds.type
  booked := ⟨h.booked.mappings, h.booked.references⟩
  inPlace := by
    have hbefore := h.inPlace.pa.extends (.refl c)
      (hca.gains.others _ (by rw [h.both.caToPa.type]; decide))
    have hcaFills := h.inPlace.ca.placed h.both.caToPa.type h.caToPa hca
    have hpaFills := hbefore.placed h.both.pa.holds.type h.pa hpa
    refine ⟨hcaFills.extends (.refl c) (hpa.gains.others _ ?_), hpaFills⟩
    rw [h.both.pa.holds.type]
    decide
  ops x hx := by
    obtain ⟨hseeks, hwaits⟩ := h.ops x hx
    exact ⟨hseeks, hwaits.mono hca.grants hpa.grants⟩

/-- A granted operation is committed with both objects. -/
theorem Seeks.commit (h : Seeks e op) (hgranted : Asked Granted t op) (c : Context) :
    t.commit e op c = (.commit,
      paCount t.paEntries (paOf e.key op) op.mapping
        (c.count (.outboundCaToPa op.mapping.overlayIp.family)) .acquire,
      { t with
        mappings :=
          t.mappings.insert e.key { op.mapping with caToPa := true, paValidation := true }
        paEntries := paStep t.paEntries (paOf e.key op) op.mapping .acquire }) := by
  refine Prod.ext (decision_of_asked hgranted e c) ?_
  have haccepted : t.caAccepted op = true ∧ t.paAccepted? op = some .acquire ∧
      op.kind = .create := by
    cases h with
    | mk id position position' hask =>
      have hca := (hgranted.caToPa rfl).1
      have hpa := (hgranted.pa rfl).2.1
      dsimp only at hca hpa
      simp [caAccepted, paAccepted?, PaAction.kind, hca, hpa]
  obtain ⟨hca, hpa, hkind⟩ := haccepted
  simp only [commit_eq, caCounted, settled, hca, hpa, hkind, caCount, stored, if_true,
    Option.elim_some, decide_true, MappingRecord.isEmpty, Bool.not_true, Bool.and_false,
    Bool.false_eq_true, if_false]

/-- Taking a reference raises the count of its entry, and starts it where there is none. -/
theorem references?_acquire (es : Table String PaRecord) (pa pa' : String) (m : MappingRecord) :
    (paStep es pa m .acquire).references? pa' =
      if pa = pa' then
        some ((es.references? pa).elim 1 fun r => if r = 0xffffffff then r else r + 1)
      else es.references? pa' := by
  by_cases heq : pa = pa'
  · subst heq
    rw [if_pos rfl]
    simp only [paStep, Table.contains_eq_isSome, Table.references?]
    cases hget : es.get? pa with
    | none => simp [Referenced.references]
    | some p =>
      simp only [Option.isSome_some, if_true, Table.get?_modify, hget, Option.map_some,
        Referenced.references, Referenced.acquired, Option.elim_some, Option.some.injEq]
      split <;> rfl
  · rw [if_neg heq, Table.references?, get?_paStep_of_ne heq, Table.references?]

/-- A commit books one more change. -/
theorem Booked.commit (h : Booked P t) {pa : String} (hpa : pa? e = some pa)
    (m m' : MappingRecord) :
    Booked (P ++ [e]) { t with
      mappings := t.mappings.insert e.key m
      paEntries := paStep t.paEntries pa m' .acquire } where
  mappings key := by
    rw [Table.contains_insert, h.mappings]
    simp [or_comm]
  references pa' := by
    rw [references?_acquire, List.countP_append, List.countP_singleton, hpa]
    split
    · next heq => simp [heq, h.references, PaRecord.referencesAfter]
    · next hne => simp [hne, h.references]

theorem Paying.commit (h : Paying P ((e, op) :: todo) c t s) :
    ∃ c' t', t.commit e op c = (.commit, c', t') ∧ Paying (P ++ [e]) todo c' t' s ∧
      c.Extends c' ∧ ∀ m : Monitor,
        c.monitor = m.countAll (bill P) → c'.monitor = m.countAll (bill (P ++ [e])) := by
  obtain ⟨⟨hseeks, hgranted⟩, hops⟩ := List.forall_mem_cons.1 h.ops
  refine ⟨_, _, hseeks.commit hgranted c, ?_⟩
  obtain @⟨key, config, vnetId, position, position', hask⟩ := hseeks
  obtain ⟨hkey, -, -⟩ := of_ask hask
  have hpa : pa? e = some (DashAgent.paKey key.vnet config.underlayIp) := by
    simp [pa?, paMark?, hask, Except.toOption]
  have hof : paOf e.key ⟨.create, ⟨vnetId, key.overlayIp, config, false, false⟩, some position,
      some (.acquire, position')⟩ = DashAgent.paKey key.vnet config.underlayIp := by
    simp [paOf, MappingRecord.paKey, MappingKey.vnetOf?_of_parse hkey]
  rw [hof]
  have hextends : c.Extends (paCount t.paEntries (DashAgent.paKey key.vnet config.underlayIp)
      ⟨vnetId, key.overlayIp, config, false, false⟩
      (c.count (.outboundCaToPa key.overlayIp.family)) .acquire) := by
    simp only [paCount]
    split <;> exact ⟨fun hid => hid, fun hid => hid⟩
  refine ⟨⟨h.caToPa, h.pa, h.booked.commit hpa _ _, ?_, fun x hx => ?_⟩, hextends, fun m hm => ?_⟩
  · have hinPlace := h.inPlace.frame hextends (Eq.refl (s.objects _)) (Eq.refl (s.objects _))
    rwa [List.map_cons, List.append_cons] at hinPlace
  · exact ⟨(hops x hx).1, (hops x hx).2.mono id id⟩
  · have hshared : t.paEntries.contains (DashAgent.paKey key.vnet config.underlayIp) = true ↔
        ∃ e' ∈ P, paMark? e' = paMark? e := by
      rw [h.booked.holder]
      constructor
      · rintro ⟨e', he', hpa'⟩
        exact ⟨e', he', (key?_of_pa?_eq (c := c) hask hpa').1⟩
      · rintro ⟨e', he', hmark⟩
        exact ⟨e', he', by rw [pa?, hmark, ← pa?, hpa]⟩
    rw [m.countAll_perm (bill_concat hask hshared), Monitor.countAll_append, ← hm]
    simp only [paCount]
    split <;> rfl

end Commit

/-! ## The intake -/

section Intake

variable {P : List Entry} {todo : List (Entry × MappingOp)} {c c' : Context} {t : MappingTable}
  {s s' : Simulator} {e : Entry} {asked : MappingKey × MappingConfig}

theorem Stocked.start (h : Stocked P c t s) : Staging P [] c t s := by
  have hidle : ∀ pa, t.passOf pa = .idle := by
    intro pa
    rw [passOf, h.rests.pass]
    rfl
  refine ⟨h.rests.staging, fun pa => ?_, fun hshared => ?_, h.booked, h.inPlace,
    .empty h.rests.caToPaSlots, .empty h.rests.paSlots, fun x hx => ?_⟩
  · rw [hidle]
    rfl
  · rw [hidle] at hshared
    cases hshared
  · cases hx

/-- A change that cannot be read stages nothing. -/
theorem Staging.invalid (h : Staging P todo c t s) (hset : e.op = .set)
    (hnew : e.key ∉ (P ++ todo.map Prod.fst).map Entry.key) {error : EntryError}
    (hask : ask e = .error error) : t.stage e c = (.invalid error, t) := by
  rw [ask] at hask
  cases hkey : MappingKey.parse e.key with
  | error error' =>
    rw [hkey] at hask
    cases hask
    exact stage_unreadable hset hkey
  | ok key =>
    cases hconfig : MappingConfig.ofEntry e with
    | error error' =>
      rw [hkey, hconfig] at hask
      cases hask
      exact stage_unmapped hset hkey (mappingOf_invalid (h.booked.absent hnew) hconfig)
    | ok config =>
      rw [hkey, hconfig] at hask
      cases hask

/-- A change without its VNET stages nothing. -/
theorem Staging.waits (h : Staging P todo c t s) (hset : e.op = .set)
    (hnew : e.key ∉ (P ++ todo.map Prod.fst).map Entry.key) {dependency : Dependency}
    (hask : ask e = .ok asked) (hresolve : reading.resolve asked c = .error dependency) :
    t.stage e c = (.notReady dependency, t) := by
  obtain ⟨hkey, hconfig, -⟩ := of_ask hask
  simp only [reading] at hresolve
  cases hvnet : c.vnetId? asked.1.vnet with
  | none =>
    rw [hvnet] at hresolve
    cases hresolve
    exact stage_unmapped hset hkey (mappingOf_orphan (h.booked.absent hnew) hconfig hvnet)
  | some id =>
    rw [hvnet] at hresolve
    cases hresolve

/-- Both flushes take no more than as many creates of either type. -/
theorem Staging.flush (h : Staging P todo c t s) {n : Nat} (hfaultless : s.Faultless)
    (hample : s.Ample (n + todo.length)) :
    ∃ t' s', t.flush s = (.ok (), t', s') ∧ Paying P todo c t' s' ∧
      Simulator.Gains (fun type => type = .outboundCaToPaEntry ∨ type = .paValidationEntry) s s' ∧
      s'.Ample n := by
  obtain ⟨ca, s₁, hca, hcaPlaced, hcaRest, hcaOthers⟩ := h.both.caToPa.flush_places
    h.caToPa.slotPlaces hfaultless (hample .outboundCaToPaEntry)
  obtain ⟨pa, s₂, hpa, hpaPlaced, hpaRest, hpaOthers⟩ := h.both.pa.holds.flush_places
    h.pa.slotPlaces hcaPlaced.gains.faultless
    (hcaOthers (by decide) (hample .paValidationEntry))
  refine ⟨{ t with caToPaStager := ca, paStager := pa }, s₂, ?_, h.placed hcaPlaced hpaPlaced,
    (hcaPlaced.gains.mono fun type htype => ?_).trans (hpaPlaced.gains.mono fun type htype => ?_),
    fun type => ?_⟩
  · simp only [MappingTable.flush, hca, hpa]
  · exact .inl (htype.trans h.both.caToPa.type)
  · exact .inr (htype.trans h.both.pa.holds.type)
  · by_cases hpaTable : .paValidationEntry = type
    · exact hpaTable ▸ hpaRest
    · refine hpaOthers hpaTable ?_
      by_cases hcaTable : .outboundCaToPaEntry = type
      · exact hcaTable ▸ hcaRest
      · exact hcaOthers hcaTable ((hample type).mono (Nat.le_add_right _ _))

theorem Paying.finish (h : Paying P [] c t s) :
    Stocked P c { t with
      caToPaStager := t.caToPaStager.clear
      paStager := t.paStager.clear
      pass := .empty } s := by
  have hinPlace := h.inPlace
  rw [List.map_nil, List.append_nil] at hinPlace
  exact ⟨⟨h.caToPa, h.pa, rfl, rfl, rfl⟩, ⟨h.booked.mappings, h.booked.references⟩, hinPlace⟩

def intake : Intake (bulk (δ := Simulator)) reading where
  touched type := type = .outboundCaToPaEntry ∨ type = .paValidationEntry
  bill := bill
  bill_perm := bill_perm
  grows := grows.mono Context.NamesLe.vnets
  Kept := Stocked
  Staged := Staging
  Paid := Paying
  start h := h.start
  stage_invalid h hset hnew hask := h.invalid hset hnew hask
  stage_waits h hset hnew hask hresolve := h.waits hset hnew hask hresolve
  stage_ready h hset hnew hask hresolve := h.create hset hnew hask (resolve_ok_iff.1 hresolve)
  idle {P c t s} h := by
    refine ⟨h.both.caToPa.type, h.both.pa.holds.type, h.booked, ?_, fun x hx => by cases hx⟩
    rw [List.map_nil, List.append_nil]
    exact h.inPlace
  flush h hfaultless hample := h.flush hfaultless hample
  commit h _ := h.commit
  finish h := h.finish

end Intake

namespace Stocked

variable {P : List Entry} {c c' : Context} {t : MappingTable} {s s' : Simulator}

/-- Passes over other tables may bring more parents. -/
theorem frame (h : Stocked P c t s) (hc : c.Extends c')
    (hca : s'.objects .outboundCaToPaEntry = s.objects .outboundCaToPaEntry)
    (hpa : s'.objects .paValidationEntry = s.objects .paValidationEntry) : Stocked P c' t s' :=
  ⟨h.rests, h.booked, h.inPlace.frame hc hca hpa⟩

theorem empty (hrests : t.BetweenPasses) (hmappings : t.mappings = .empty)
    (hentries : t.paEntries = .empty) (hca : s.objects .outboundCaToPaEntry = [])
    (hpa : s.objects .paValidationEntry = []) : Stocked [] c t s := by
  refine ⟨hrests, ⟨?_, ?_⟩, Site.fills_nil hca, Site.fills_nil hpa⟩
  · simp [hmappings, Table.contains_eq_isSome]
  · simp [hentries, Table.references?, PaRecord.referencesAfter]

end Stocked

end MappingTable

end DashAgent
