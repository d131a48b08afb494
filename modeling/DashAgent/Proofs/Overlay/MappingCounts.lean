import DashAgent.Proofs.Context
import DashAgent.Proofs.EntryKeys
import DashAgent.Proofs.Overlay.PaPass

/-!
# Counts of mappings and PA validation entries

A mapping counts as one CA-to-PA entry while that object is in place, and a PA validation entry
counts by itself. Both parts of a commit move a count together with what it counts, so a pass
keeps the counts equal to the census of both tables.
-/
namespace DashAgent.MappingTable

open Monitor

/-- A mapping counts once, while its CA-to-PA entry is in place. -/
def caWeight (r : Resource) (_ : String) (m : MappingRecord) : Nat :=
  if m.caToPa = true ∧ r = .outboundCaToPa m.overlayIp.family then 1 else 0

def caCensus (ms : Table String MappingRecord) (r : Resource) : Nat :=
  ms.tally (caWeight r)

def paResource (p : PaRecord) : Resource := .paValidation p.family

/-- The objects of both tables by resource, with those that other tables have. -/
def census (others : Resource → Nat) (t : MappingTable) (r : Resource) : Nat :=
  others r + caCensus t.mappings r + objectsOf paResource t.paEntries r

theorem census_congr {others : Resource → Nat} {t t' : MappingTable}
    (hmappings : t'.mappings = t.mappings) (hentries : t'.paEntries = t.paEntries) :
    census others t' = census others t := by
  funext r
  rw [census, census, hmappings, hentries]

/-- Every PA validation entry is found under its VNET name and its own address. -/
def Keyed (es : Table String PaRecord) : Prop :=
  ∀ pa p, es.get? pa = some p → ∃ vnet, ':' ∉ vnet.toList ∧ pa = DashAgent.paKey vnet p.underlayIp

theorem caToPa_overlay (f : AddressFamily) : Resource.outboundCaToPa f ∈ Resource.overlay := by
  cases f <;> decide

theorem paValidation_overlay (f : AddressFamily) : Resource.paValidation f ∈ Resource.overlay := by
  cases f <;> decide

theorem caToPa_ne_paValidation (f g : AddressFamily) :
    Resource.outboundCaToPa f ≠ Resource.paValidation g := by
  cases f <;> cases g <;> decide

theorem caCensus_le_size (ms : Table String MappingRecord) (r : Resource) :
    caCensus ms r ≤ ms.size := by
  rw [Table.size_eq_tally]
  apply Table.tally_le_tally
  intro key m _
  rw [caWeight]
  split <;> omega

theorem caCensus_paValidation (ms : Table String MappingRecord) (f : AddressFamily) :
    caCensus ms (.paValidation f) = 0 := by
  apply Table.tally_eq_zero
  intro key m
  apply if_neg
  rintro ⟨-, h⟩
  exact caToPa_ne_paValidation _ _ h.symm

theorem objectsOf_caToPa (es : Table String PaRecord) (f : AddressFamily) :
    objectsOf paResource es (.outboundCaToPa f) = 0 :=
  objectsOf_eq_zero fun p => caToPa_ne_paValidation f p.family

/-! ## The CA-to-PA entry of a mapping -/

section CaToPa

variable {others : Resource → Nat} {t : MappingTable} {key : String} {op : MappingOp}

/-- The committed mapping may differ from the stored one in its CA-to-PA entry. -/
theorem caCensus_commit {ms : Table String MappingRecord} (h : Agrees ms key op)
    (m : MappingRecord) (r : Resource) :
    caCensus (stored ms key m) r + caWeight r key op.mapping =
      caCensus ms r + caWeight r key m := by
  refine h.stored.tally ?_ m
  intro m hm
  simp only [MappingRecord.isEmpty, Bool.and_eq_true, Bool.not_eq_true'] at hm
  simp [caWeight, hm.1]

/-- The CA-to-PA part of a commit moves count and census together. -/
theorem balanced_caCounted (hothers : ∀ f, others (.outboundCaToPa f) = 0)
    (hagrees : Agrees t.mappings key op) {c : Context}
    (hc : c.Balanced (census others t)) (hroom : t.mappings.size + 1 < 2 ^ 32) :
    (t.caCounted op c).Balanced fun r =>
      others r + caCensus (stored t.mappings key (t.settled op)) r +
        objectsOf paResource t.paEntries r := by
  have hcensus := caCensus_commit hagrees (t.settled op)
  unfold caCounted
  split
  · next haccepted =>
    obtain ⟨position, hop⟩ : ∃ position, op.caToPa = some position := by
      simp only [caAccepted, Option.any_eq_true] at haccepted
      exact ⟨_, haccepted.choose_spec.1⟩
    have hflag := hagrees.caToPa hop
    simp only [caWeight, settled, haccepted, hflag, if_true] at hcensus ⊢
    cases hkind : op.kind with
    | create =>
      simp only [hkind, reduceCtorEq, decide_false, decide_true, Bool.false_eq_true, false_and,
        if_false, true_and, Nat.add_zero] at hcensus ⊢
      refine hc.count (caToPa_overlay _) ?_ ?_
      · have hle := caCensus_le_size t.mappings (.outboundCaToPa op.mapping.overlayIp.family)
        have hzero := hothers op.mapping.overlayIp.family
        have hpa := objectsOf_caToPa t.paEntries op.mapping.overlayIp.family
        simp only [census]
        omega
      · intro r
        have hr := hcensus r
        simp only [census]
        omega
    | remove =>
      simp only [hkind, reduceCtorEq, decide_false, decide_true, Bool.false_eq_true, false_and,
        if_false, true_and, Nat.add_zero] at hcensus ⊢
      refine hc.uncount (caToPa_overlay _) ?_
      intro r
      have hr := hcensus r
      simp only [census]
      omega
  · next hrefused =>
    refine hc.congr ?_
    intro r
    have hr := hcensus r
    simp only [caWeight, settled, hrefused, Bool.false_eq_true, if_false] at hr ⊢
    simp only [census]
    omega

end CaToPa

/-! ## The PA validation entries -/

/-- The PA validation entries are counted on top of a base, and each is under its key. -/
structure EntriesCounted (base : Resource → Nat) (es : Table String PaRecord) (c : Context) :
    Prop where
  balanced : c.Balanced fun r => base r + objectsOf paResource es r
  keyed : Keyed es

section Entries

variable {base : Resource → Nat} {es : Table String PaRecord} {c : Context} {vnet pa : String}

/-- A reference more or less on an entry is not counted. -/
theorem EntriesCounted.modify (h : EntriesCounted base es c) {f : PaRecord → PaRecord}
    (hf : ∀ p, es.get? pa = some p → (f p).underlayIp = p.underlayIp) :
    EntriesCounted base (es.modify pa f) c := by
  constructor
  · refine h.balanced.congr ?_
    intro r
    rw [objectsOf_modify]
    intro p hp
    rw [paResource, paResource, PaRecord.family, PaRecord.family, hf p hp]
  · intro pa' p hget
    rw [Table.get?_modify] at hget
    split at hget
    · next heq =>
      subst heq
      obtain ⟨p', hget', rfl⟩ := Option.map_eq_some_iff.1 hget
      obtain ⟨vnet, hvnet, hkey⟩ := h.keyed pa p' hget'
      rw [hf p' hget']
      exact ⟨vnet, hvnet, hkey⟩
    · exact h.keyed pa' p hget

/-- A new entry is counted. -/
theorem EntriesCounted.insert (h : EntriesCounted base es c) (p : PaRecord)
    (hbase : base (paResource p) = 0) (habsent : es.get? pa = none) (hroom : es.size + 1 < 2 ^ 32)
    (hvnet : ':' ∉ vnet.toList) (hpa : pa = DashAgent.paKey vnet p.underlayIp) :
    EntriesCounted base (es.insert pa p) (c.count (paResource p)) := by
  constructor
  · refine h.balanced.count (paValidation_overlay p.family) ?_ ?_
    · have hle := objectsOf_le_size paResource es (paResource p)
      rw [hbase]
      omega
    · intro r
      rw [objectsOf_insert p habsent, Nat.add_assoc]
  · intro pa' q hq
    by_cases heq : pa = pa'
    · subst heq
      rw [Table.get?_insert_self] at hq
      cases hq
      exact ⟨vnet, hvnet, hpa⟩
    · rw [Table.get?_insert_of_ne _ heq] at hq
      exact h.keyed pa' q hq

/-- An entry that is gone is no longer counted. -/
theorem EntriesCounted.erase (h : EntriesCounted base es c) {p : PaRecord}
    (hpresent : es.get? pa = some p) :
    EntriesCounted base (es.erase pa) (c.uncount (paResource p)) := by
  constructor
  · refine h.balanced.uncount (paValidation_overlay p.family) ?_
    intro r
    rw [objectsOf_erase hpresent, Nat.add_assoc]
  · intro pa' q hq
    by_cases heq : pa = pa'
    · subst heq
      simp at hq
    · rw [Table.get?_erase_of_ne heq] at hq
      exact h.keyed pa' q hq

/-- An accepted action counts a PA validation entry that appears or is gone. The entry of a key that
is removed is of the family of the mapping, as the key tells the underlay address. -/
theorem EntriesCounted.paStep (h : EntriesCounted base es c) {m : MappingRecord}
    (hbase : base (.paValidation m.config.underlayIp.family) = 0) (hroom : es.size + 1 < 2 ^ 32)
    (hvnet : ':' ∉ vnet.toList) (hpa : pa = m.paKey vnet) (action : PaAction) :
    EntriesCounted base (paStep es pa m action) (paCount es pa m c action) := by
  cases action with
  | acquire =>
    simp only [MappingTable.paStep, paCount]
    split
    · refine h.modify ?_
      intro p _
      simp only [Referenced.acquired]
      split <;> rfl
    · next habsent =>
      have hget : es.get? pa = none := by
        rw [Table.contains_eq_isSome] at habsent
        simpa using habsent
      exact h.insert ⟨m.vnetId, m.config.underlayIp, 1⟩ hbase hget hroom hvnet hpa
  | release =>
    simp only [MappingTable.paStep, paCount, Table.release]
    split
    · exact h
    · next p hget =>
      split
      · exact h
      · next p' hreleased =>
        simp only [Except.toOption, Option.getD_some]
        refine h.modify ?_
        intro q hq
        rw [hget] at hq
        cases hq
        simp only [Referenced.released?] at hreleased
        split at hreleased
        · cases hreleased
        · cases hreleased
          rfl
  | remove =>
    simp only [MappingTable.paStep, paCount]
    split
    · next hpresent =>
      obtain ⟨p, hget⟩ := Option.isSome_iff_exists.1 (Table.contains_eq_isSome es pa ▸ hpresent)
      have hfamily : paResource p = .paValidation m.config.underlayIp.family := by
        obtain ⟨vnet', hvnet', hkey⟩ := h.keyed pa p hget
        exact congrArg Resource.paValidation
          (congrArg IpAddress.family ((paKey_inj hvnet' hvnet).1 (hkey.symm.trans hpa)).2)
      rw [← hfamily]
      exact h.erase hget
    · exact h

/-- At most one entry appears. -/
theorem size_paStep_le (es : Table String PaRecord) (pa : String) (m : MappingRecord)
    (action : PaAction) : (MappingTable.paStep es pa m action).size ≤ es.size + 1 := by
  have herase := es.size_erase pa
  cases action with
  | acquire =>
    simp only [MappingTable.paStep]
    split
    · rw [Table.size_modify]
      omega
    · rw [Table.size_insert]
      omega
  | release =>
    simp only [MappingTable.paStep, Table.release]
    split
    · exact Nat.le_succ _
    · split
      · exact Nat.le_succ _
      · simp only [Except.toOption, Option.getD_some, Table.size_modify]
        omega
  | remove =>
    simp only [MappingTable.paStep]
    split <;> omega

end Entries

/-! ## A commit -/

/-- The counts are those of the census, and every PA validation entry is under its key. -/
structure Counted (others : Resource → Nat) (c : Context) (t : MappingTable) : Prop where
  balanced : c.Balanced (census others t)
  keyed : Keyed t.paEntries

section Commit

variable {others : Resource → Nat} {t t' : MappingTable} {e : Entry} {op : MappingOp} {c : Context}

theorem Counted.congr (h : Counted others c t) (hmappings : t'.mappings = t.mappings)
    (hentries : t'.paEntries = t.paEntries) : Counted others c t' := by
  constructor
  · rw [census_congr hmappings hentries]
    exact h.balanced
  · rw [hentries]
    exact h.keyed

/-- A commit moves the counts with the census of both tables. -/
theorem Counted.commit (h : Counted others c t) (hca : ∀ f, others (.outboundCaToPa f) = 0)
    (hpa : ∀ f, others (.paValidation f) = 0) (hagrees : Agrees t.mappings e.key op)
    (hmappings : t.mappings.size + 1 < 2 ^ 32) (hentries : t.paEntries.size + 1 < 2 ^ 32) :
    Counted others (t.commit e op c).2.1 (t.commit e op c).2.2 := by
  have hfirst : EntriesCounted
      (fun r => others r + caCensus (stored t.mappings e.key (t.settled op)) r) t.paEntries
      (t.caCounted op c) :=
    ⟨balanced_caCounted hca hagrees h.balanced hmappings, h.keyed⟩
  rw [commit_eq]
  cases t.paAccepted? op with
  | none => exact ⟨hfirst.balanced, hfirst.keyed⟩
  | some action =>
    have hend := hfirst.paStep (m := op.mapping) (by rw [hpa, caCensus_paValidation]) hentries
      (colon_notMem_vnetOf? e.key) rfl action
    exact ⟨hend.balanced, hend.keyed⟩

theorem size_paEntries_commit_le (t : MappingTable) (e : Entry) (op : MappingOp) (c : Context) :
    (t.commit e op c).2.2.paEntries.size ≤ t.paEntries.size + 1 := by
  rw [commit_eq]
  cases t.paAccepted? op with
  | none => exact Nat.le_succ _
  | some action => exact size_paStep_le ..

end Commit

/-! ## A pass -/

structure RoomFor (n : Nat) (t : MappingTable) : Prop where
  mappings : t.mappings.size + n < 2 ^ 32
  paEntries : t.paEntries.size + n < 2 ^ 32

theorem RoomFor.congr {n : Nat} {t t' : MappingTable} (h : RoomFor n t)
    (hmappings : t'.mappings = t.mappings) (hentries : t'.paEntries = t.paEntries) :
    RoomFor n t' := by
  constructor
  · rw [hmappings]
    exact h.mappings
  · rw [hentries]
    exact h.paEntries

/-- The assertion while changes are staged: what is staged agrees with the mappings, no key comes
twice, and both tables have room for all changes. -/
structure CountsStaging (others : Resource → Nat)
    (outcomes : List (Entry × StageOutcome MappingOp)) (rest : List Entry) (c : Context)
    (t : MappingTable) : Prop where
  counted : Counted others c t
  consistent : Consistent t.mappings outcomes
  keys : ((outcomes.map fun o => o.1.key) ++ rest.map Entry.key).Nodup
  room : RoomFor (outcomes.length + rest.length) t

structure CountsCommitting (others : Resource → Nat)
    (rest : List (Entry × StageOutcome MappingOp)) (c : Context) (t : MappingTable) : Prop where
  counted : Counted others c t
  consistent : Consistent t.mappings rest
  room : RoomFor rest.length t

section Pass

variable {others : Resource → Nat} {outcomes rest' : List (Entry × StageOutcome MappingOp)}
  {e : Entry} {rest : List Entry} {c : Context} {t t' : MappingTable}

theorem CountsStaging.stage (h : CountsStaging others outcomes (e :: rest) c t) :
    CountsStaging others (outcomes ++ [(e, (t.stage e c).1)]) rest c (t.stage e c).2 := by
  have hresult := stage_result t e c
  obtain ⟨hmappings, hentries⟩ := hresult.frame
  have hkeys : (((outcomes ++ [(e, (t.stage e c).1)]).map fun o => o.1.key) ++
      rest.map Entry.key).Nodup := by simpa using h.keys
  have hlength : (outcomes ++ [(e, (t.stage e c).1)]).length + rest.length =
      outcomes.length + (e :: rest).length := by
    rw [List.length_append, List.length_singleton, List.length_cons]
    omega
  refine ⟨h.counted.congr hmappings hentries, ?_, hkeys, ?_⟩
  · rw [hmappings]
    exact h.consistent.snoc hresult (List.nodup_append.1 hkeys).1
  · rw [hlength]
    exact h.room.congr hmappings hentries

/-- Between staging and committing both tables stay the same. -/
theorem CountsStaging.turn (h : CountsStaging others outcomes [] c t)
    (hmappings : t'.mappings = t.mappings) (hentries : t'.paEntries = t.paEntries) :
    CountsCommitting others outcomes c t' := by
  refine ⟨h.counted.congr hmappings hentries, ?_, h.room.congr hmappings hentries⟩
  rw [hmappings]
  exact h.consistent

theorem CountsCommitting.commit {op : MappingOp} (hca : ∀ f, others (.outboundCaToPa f) = 0)
    (hpa : ∀ f, others (.paValidation f) = 0)
    (h : CountsCommitting others ((e, .staged op) :: rest') c t) :
    CountsCommitting others rest' (t.commit e op c).2.1 (t.commit e op c).2.2 := by
  obtain ⟨hcounted, hconsistent, hmappings, hentries⟩ := h
  rw [List.length_cons] at hmappings hentries
  have hagrees := hconsistent.agrees _ (List.mem_cons_self ..) op rfl
  have hcounted' := hcounted.commit hca hpa hagrees (by omega) (by omega)
  have hsize := size_stored_le t.mappings e.key (t.settled op)
  have hsize' := size_paEntries_commit_le t e op c
  have htable : (t.commit e op c).2.2.mappings = stored t.mappings e.key (t.settled op) := by
    rw [commit_eq]
  refine ⟨hcounted', ?_, ?_, by omega⟩
  · rw [htable]
    exact hconsistent.commit _
  · rw [htable]
    omega

theorem CountsCommitting.skip {o : Entry × StageOutcome MappingOp}
    (h : CountsCommitting others (o :: rest') c t) : CountsCommitting others rest' c t := by
  obtain ⟨hcounted, hconsistent, hmappings, hentries⟩ := h
  rw [List.length_cons] at hmappings hentries
  exact ⟨hcounted, hconsistent.tail, by omega, by omega⟩

end Pass

def countInvariant {δ : Type} [Driver δ] {others : Resource → Nat}
    (hca : ∀ f, others (.outboundCaToPa f) = 0) (hpa : ∀ f, others (.paValidation f) = 0) :
    PassInvariant (bulk (δ := δ)) where
  staging outcomes rest c t _ := CountsStaging others outcomes rest c t
  committing _ rest c t _ := CountsCommitting others rest c t
  answered _ c t _ := Counted others c t
  unanswered c t _ := Counted others c t
  stage h := h.stage
  idle h _ := h.turn rfl rfl
  flush h hflush := h.turn (frame_of_flush hflush).1 (frame_of_flush hflush).2
  failure h hflush := h.counted.congr (frame_of_flush hflush).1 (frame_of_flush hflush).2
  commit h := h.commit hca hpa
  skip _ h := h.skip
  finish h := h.counted.congr rfl rfl

/-- A pass keeps the counts equal to the census, if both tables have room for its batch. -/
theorem balanced_reconcile {δ : Type} [Driver δ] {others : Resource → Nat}
    (hca : ∀ f, others (.outboundCaToPa f) = 0) (hpa : ∀ f, others (.paValidation f) = 0)
    {p : Pass MappingTable Context δ} (hc : p.env.Balanced (census others p.table))
    (hkeyed : Keyed p.table.paEntries)
    (hmappings : p.queue.FitsInto p.table.mappings)
    (hentries : p.queue.FitsInto p.table.paEntries) :
    (bulk.reconcile p).2.env.Balanced (census others (bulk.reconcile p).2.table) ∧
      Keyed (bulk.reconcile p).2.table.paEntries := by
  have hkeys := p.queue.nodup_batch
  rw [ChangeQueue.popBatch_fst] at hkeys
  have hend := (countInvariant hca hpa).keeps (B := fun c t _ => Counted others c t) ⟨hc, hkeyed⟩
    ⟨⟨hc, hkeyed⟩, ⟨by simp, by simp⟩, by simpa using hkeys,
      by simpa [ChangeQueue.FitsInto] using hmappings,
      by simpa [ChangeQueue.FitsInto] using hentries⟩ id id
  exact ⟨hend.balanced, hend.keyed⟩

end DashAgent.MappingTable
