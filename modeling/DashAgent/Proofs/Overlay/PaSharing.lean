import DashAgent.Proofs.Overlay.PaChanges
import DashAgent.Proofs.Overlay.PaRequests

/-!
# Sharing PA validation entries

What a batch asks of the driver for a PA validation entry. The SETs that acquire an entry which is
not there share one create. The last DEL that drops a reference requests the remove if no mapping is
left that holds the entry and no SET has acquired it meanwhile; all other DELs release it without a
request. Main theorem: `StagedBatch.sharedBy`.
-/
namespace DashAgent.MappingTable

open BulkTable

/-! ## Staging a batch -/

def Unshared (pa : String) (outcomes : List (Entry × StageOutcome MappingOp)) : Prop :=
  ∀ o ∈ outcomes, ∀ position, actionOn pa o ≠ some (.acquire, position)

def RemovalStaged (pa : String) (outcomes : List (Entry × StageOutcome MappingOp)) : Prop :=
  ∃ o ∈ outcomes, ∃ position, actionOn pa o = some (.remove, position)

/-- The table while the changes of a batch are staged; `t₀` is the table before the batch. -/
structure Sharing (t₀ : MappingTable) (c : Context)
    (outcomes : List (Entry × StageOutcome MappingOp)) (rest : List Entry) (t : MappingTable) :
    Prop where
  mappings : t.mappings = t₀.mappings
  paEntries : t.paEntries = t₀.paEntries
  planning : Planning outcomes rest t
  tasking : PaTasking outcomes t
  drops : ∀ pa, ∀ o ∈ outcomes, t₀.Drops pa o.1 ↔
    ∃ action position, actionOn pa o = some (action, position) ∧ action ≠ .acquire
  needs : ∀ pa, ∀ o ∈ outcomes, ∀ position, actionOn pa o = some (.acquire, position) →
    t₀.Needs c pa o.1
  removing : ∀ pa, (t.passOf pa).removing = true ↔ RemovalStaged pa outcomes

section Batch

variable {t₀ t : MappingTable} {c : Context} {outcomes : List (Entry × StageOutcome MappingOp)}
  {e : Entry} {rest : List Entry} {pa : String}

theorem sharing_start {es : List Entry} (h : Settled t) (hslots : t.paStager.slots = [])
    (hkeys : (es.map Entry.key).Nodup) (c : Context) : Sharing t c [] es t where
  mappings := rfl
  paEntries := rfl
  planning := h.planning hkeys
  tasking := paTasking_start hslots h.idle
  drops := by simp
  needs := by simp
  removing pa := by simp [RemovalStaged, passOf, h.idle, PaPass.idle]

theorem Sharing.stage (h : Sharing t₀ c outcomes (e :: rest) t) :
    Sharing t₀ c (outcomes ++ [(e, (t.stage e c).1)]) rest (t.stage e c).2 := by
  obtain ⟨hmappings, hentries⟩ := (stage_result t e c).frame
  refine ⟨hmappings.trans h.mappings, hentries.trans h.paEntries, h.planning.stage c,
    h.tasking.stage h.planning c, fun pa o ho => ?_, fun pa o ho position hacquire => ?_,
    fun pa => ?_⟩
  · rcases List.mem_append.1 ho with ho | ho
    · exact h.drops pa o ho
    · cases List.mem_singleton.1 ho
      exact (drops_congr h.mappings).symm.trans (t.stage_bears c pa e).drops_iff
  · rcases List.mem_append.1 ho with ho | ho
    · exact h.needs pa o ho position hacquire
    · cases List.mem_singleton.1 ho
      exact (needs_congr h.mappings).1 ((t.stage_bears c pa e).needs_of_acquire hacquire)
  · rw [(t.stage_bears c pa e).removing_iff, h.removing]
    simp only [RemovalStaged, List.mem_append, List.mem_singleton, or_and_right, exists_or,
      exists_eq_left]

/-- Every holder was dropped by the DEL of its key. -/
theorem Sharing.mem_dropKeys_iff {key : String} (h : Sharing t₀ c outcomes rest t) :
    key ∈ dropKeys pa outcomes ↔ ∃ o ∈ outcomes, o.1.key = key ∧ t₀.Drops pa o.1 := by
  rw [mem_dropKeys]
  constructor
  · rintro ⟨o, ho, hkey, hdrops⟩
    exact ⟨o, ho, hkey, (h.drops pa o ho).2 hdrops⟩
  · rintro ⟨o, ho, hkey, hdrops⟩
    exact ⟨o, ho, hkey, (h.drops pa o ho).1 hdrops⟩

/-- The drops are as many as the holders just if all holders are dropped. -/
theorem Sharing.length_dropKeys_iff (h : Sharing t₀ c outcomes rest t) :
    (dropKeys pa outcomes).length = holders t₀.mappings pa ↔
      ∀ key, t₀.HeldBy pa key → key ∈ dropKeys pa outcomes := by
  have hcount := Table.length_eq_tally_iff (t := t₀.mappings) (p := holds pa)
    (h.planning.consistent.nodup_dropKeys pa) fun key hkey => by
      obtain ⟨o, -, rfl, -, m, hm, hholds⟩ := h.mem_dropKeys_iff.1 hkey
      exact ⟨m, hm, hholds⟩
  refine hcount.trans ⟨fun hall key => ?_, fun hall key m hm hholds => hall key ⟨m, hm, hholds⟩⟩
  rintro ⟨m, hm, hholds⟩
  exact hall key m hm hholds

theorem unshared_iff_countP :
    Unshared pa outcomes ↔ (plan pa outcomes).countP (·.1 = .acquire) = 0 := by
  rw [List.countP_eq_zero]
  constructor
  · rintro h ⟨action, position⟩ ha hacquire
    obtain ⟨o, ho, haction⟩ := List.mem_filterMap.1 ha
    obtain rfl : action = .acquire := of_decide_eq_true hacquire
    exact h o ho position haction
  · intro h o ho position haction
    exact h _ (List.mem_filterMap.2 ⟨o, ho, haction⟩) (decide_eq_true rfl)

/-- A drop removes the entry if nothing before it acquired the entry and no mapping is left that
holds it, and otherwise releases the entry. -/
theorem Sharing.drop (h : Sharing t₀ c outcomes (e :: rest) t) (hdrops : t₀.Drops pa e) :
    ∃ op action position, (t.stage e c).1 = .staged op ∧
      t₀.mappings.get? e.key = some op.mapping ∧
      actionOn pa (e, (t.stage e c).1) = some (action, position) ∧
      (action ≠ .remove → action = .release) ∧
      (action = .remove ↔ Unshared pa outcomes ∧
        ∀ key, t₀.HeldBy pa key → key ∈ dropKeys pa (outcomes ++ [(e, (t.stage e c).1)])) := by
  obtain ⟨op, action, position, hop, hm, haction, hchoice⟩ :=
    (t.stage_bears c pa e).of_drops ((drops_congr h.mappings).2 hdrops)
  have hne : action ≠ .acquire := by
    rw [hchoice]
    split <;> simp
  refine ⟨op, action, position, hop, h.mappings ▸ hm, haction, ?_, ?_⟩
  · rw [hchoice]
    split <;> simp
  -- the DELs so far are as many as the pass remembers, and this one
  have hlength : (dropKeys pa (outcomes ++ [(e, (t.stage e c).1)])).length =
      (t.passOf pa).released + 1 := by
    rw [length_dropKeys, plan_snoc, haction, List.countP_append, (h.planning.plans pa).released]
    simp [hne]
  have hle := drops_le_holders h.stage.planning.consistent pa
  have hcounted := h.planning.exact.counted pa
  rw [← length_dropKeys, hlength, h.stage.mappings] at hle
  rw [h.mappings] at hcounted
  rw [← h.stage.length_dropKeys_iff, hlength, unshared_iff_countP,
    ← (h.planning.plans pa).acquired, hchoice, hcounted]
  split <;> simp <;> omega

/-- A SET that needs the entry acquires it, unless its removal is staged. -/
theorem Sharing.need (h : Sharing t₀ c outcomes (e :: rest) t) (hneeds : t₀.Needs c pa e) :
    ¬RemovalStaged pa outcomes ∧
        (∃ position, actionOn pa (e, (t.stage e c).1) = some (.acquire, position)) ∨
      RemovalStaged pa outcomes ∧ (t.stage e c).1 = .notReady (.paRemoval pa) := by
  rw [← h.removing, Bool.not_eq_true]
  exact (t.stage_bears c pa e).of_needs ((needs_congr h.mappings).2 hneeds)

end Batch

/-! ## Requests -/

theorem actionOn_eq_map (pa : String) (o : Entry × StageOutcome MappingOp) :
    actionOn pa o = (taskOn pa o).map fun task => (task.action, task.position) := by
  obtain ⟨e, outcome⟩ := o
  cases outcome with
  | staged op =>
    by_cases hpa : paOf e.key op = pa
    · subst hpa
      rw [actionOn_staged rfl, taskOn_staged, Option.map_map]
      exact (Option.map_id' ..).symm
    · rw [actionOn_of_ne hpa, taskOn_of_ne hpa, Option.map_none]
  | notReady dependency | done | invalid error => rfl

namespace Course

variable {slots : List Slot} {p : PaPass} {old : Option (Oid .vnet × IpAddress)}
  {tasks : List PaTask} {task : PaTask}

/-- What the slot of a task asks for. -/
theorem slot (h : Course slots p old tasks) (ht : task ∈ tasks) :
    task.action ≠ .remove ∧ old.isSome = true ∧ task.Firm slots ∨
      task.action = .remove ∧ old.isSome = true ∧
        slots[task.position]? = some (.remove (paObjectKey task.object) none) ∨
      task.action = .acquire ∧ old.isSome = false ∧
        ∃ first ∈ tasks, first.action = .acquire ∧ first.position = task.position ∧
          slots[task.position]? = some
            (.create ⟨some (paValidationEntryKey first.object.1 first.object.2), []⟩ none) := by
  cases h with
  | held v _ hfirm => exact .inl ⟨(hfirm task ht).2, rfl, (hfirm task ht).1⟩
  | removed v front last hfirm hlast _ hslot =>
    rcases List.mem_append.1 ht with ht | ht
    · exact .inl ⟨(hfirm task ht).2, rfl, (hfirm task ht).1⟩
    · rw [List.mem_singleton.1 ht]
      exact .inr (.inl ⟨hlast, rfl, hslot⟩)
  | absent => cases ht
  | created first rest hall _ hslot =>
    obtain ⟨haction, hposition⟩ := hall task ht
    have hfirst := List.mem_cons_self (a := first) (l := rest)
    rw [hposition]
    exact .inr (.inr ⟨haction, rfl, first, hfirst, (hall first hfirst).1, rfl, hslot⟩)

/-- All tasks whose slots wait for an answer have the same slot. -/
theorem sole (h : Course slots p old tasks) :
    ∃ position, ∀ task ∈ tasks, task.position = position ∨ task.Firm slots := by
  cases h with
  | held v _ hfirm => exact ⟨0, fun task ht => .inr (hfirm task ht).1⟩
  | removed v front last hfirm _ _ hslot =>
    refine ⟨last.position, fun task ht => ?_⟩
    rcases List.mem_append.1 ht with ht | ht
    · exact .inr (hfirm task ht).1
    · exact .inl (congrArg _ (List.mem_singleton.1 ht))
  | absent => exact ⟨0, fun _ ht => absurd ht List.not_mem_nil⟩
  | created first rest hall _ _ => exact ⟨first.position, fun task ht => .inl (hall task ht).2⟩

end Course

/-- The slot at a position waits for an answer that changes of the entry read. -/
structure Pending (s : BulkStager) (pa : String)
    (outcomes : List (Entry × StageOutcome MappingOp)) (position : Nat) (slot : Slot) : Prop where
  found : s.slots[position]? = some slot
  waits : slot.isOpen = true
  read : ∃ o ∈ outcomes, ∃ action, actionOn pa o = some (action, position)

/-- The DEL is the one that removes the entry: it drops a reference, and no later change of the
batch does, the batch deletes every mapping that holds the entry, and no change before the DEL
acquired the entry. -/
structure DropsLast (t : MappingTable) (pa : String)
    (front : List (Entry × StageOutcome MappingOp)) (o : Entry × StageOutcome MappingOp)
    (back : List (Entry × StageOutcome MappingOp)) : Prop where
  drops : t.Drops pa o.1
  last : ∀ o' ∈ back, ¬t.Drops pa o'.1
  all : ∀ key, t.HeldBy pa key → ∃ o' ∈ front ++ o :: back, o'.1.op = .del ∧ o'.1.key = key
  unshared : Unshared pa front

/-- What a batch makes of one PA validation entry. The batch found the table `t` and the given
outcomes, and left its requests in the stager `s`. -/
structure SharedBy (t : MappingTable) (c : Context) (pa : String)
    (outcomes : List (Entry × StageOutcome MappingOp)) (s : BulkStager) : Prop where
  /-- There is one request for the entry at most. -/
  single : ∀ {i j slot slot'}, Pending s pa outcomes i slot → Pending s pa outcomes j slot' →
    i = j ∧ slot = slot'
  /-- A remove is requested just if the batch drops all references and acquires none before. -/
  removed : (∃ i key, Pending s pa outcomes i (.remove key none)) ↔
    t.paEntries.contains pa = true ∧
      ∃ front o back, outcomes = front ++ o :: back ∧ t.DropsLast pa front o back
  /-- The last drop requests the remove, and no other drop requests anything. -/
  drops : ∀ {front o back}, outcomes = front ++ o :: back → t.Drops pa o.1 →
    (t.DropsLast pa front o back ∧ ∃ i m, actionOn pa o = some (.remove, i) ∧
      t.mappings.get? o.1.key = some m ∧ Pending s pa outcomes i
        (.remove (.entry (paValidationEntryKey m.vnetId m.config.underlayIp)) none)) ∨
    (¬t.DropsLast pa front o back ∧ ∃ i, actionOn pa o = some (.release, i) ∧
      s.slots[i]? = some (.settled .success))
  /-- A create is requested just if the entry is not there and some SET acquires it. -/
  created : (∃ i request, Pending s pa outcomes i (.create request none)) ↔
    t.paEntries.contains pa = false ∧
      ∃ o ∈ outcomes, o.1.op = .set ∧ ∃ i, actionOn pa o = some (.acquire, i)
  /-- The create is that of the mapping of a SET that acquires the entry. -/
  creates : ∀ {i request}, Pending s pa outcomes i (.create request none) →
    ∃ e op, (e, .staged op) ∈ outcomes ∧ actionOn pa (e, .staged op) = some (.acquire, i) ∧
      request = ⟨some (paValidationEntryKey op.mapping.vnetId op.mapping.config.underlayIp), []⟩
  /-- All SETs that acquire an entry which is not there share one create, with its answer. -/
  shared : t.paEntries.contains pa = false → ∀ {e e' op op' i j}, (e, .staged op) ∈ outcomes →
    (e', .staged op') ∈ outcomes → actionOn pa (e, .staged op) = some (.acquire, i) →
    actionOn pa (e', .staged op') = some (.acquire, j) →
    i = j ∧ (∃ request, Pending s pa outcomes i (.create request none)) ∧
      ∀ t' : MappingTable, t'.paAccepted? op = t'.paAccepted? op'
  /-- A SET that needs the entry acquires it, until the remove is staged. -/
  needs : ∀ {front o back}, outcomes = front ++ o :: back → t.Needs c pa o.1 →
    (¬RemovalStaged pa front ∧ ∃ i, actionOn pa o = some (.acquire, i)) ∨
    (RemovalStaged pa front ∧ o.2 = .notReady (.paRemoval pa))
  /-- Nothing else acquires the entry. -/
  acquires : ∀ {o i}, o ∈ outcomes → actionOn pa o = some (.acquire, i) → t.Needs c pa o.1

/-- A batch that was staged: what is known at its end, and at the moment of each change. -/
structure StagedBatch (t : MappingTable) (c : Context)
    (outcomes : List (Entry × StageOutcome MappingOp)) (t' : MappingTable) : Prop where
  whole : Sharing t c outcomes [] t'
  moment : ∀ {front o back}, outcomes = front ++ o :: back →
    ∃ rest t₁, Sharing t c front (o.1 :: rest) t₁ ∧ o.2 = (t₁.stage o.1 c).1

theorem stagedBatch {δ : Type} [Driver δ] {t : MappingTable} {es : List Entry} (h : Settled t)
    (hslots : t.paStager.slots = []) (hkeys : (es.map Entry.key).Nodup) (c : Context) :
    StagedBatch t c ((bulk (δ := δ)).stageAll c es t).1 ((bulk (δ := δ)).stageAll c es t).2 where
  whole := stageAll_keeps (P := Sharing t c) (fun hmoment => hmoment.stage)
    (sharing_start h hslots hkeys c)
  moment hsplit := stageAll_moment (P := Sharing t c) (fun hmoment => hmoment.stage)
    (sharing_start h hslots hkeys c) hsplit

theorem exists_task {pa : String} {outcomes : List (Entry × StageOutcome MappingOp)}
    {o : Entry × StageOutcome MappingOp} {action : PaAction} {position : Nat} (ho : o ∈ outcomes)
    (haction : actionOn pa o = some (action, position)) :
    ∃ task ∈ tasks pa outcomes, taskOn pa o = some task ∧ task.action = action ∧
      task.position = position := by
  rw [actionOn_eq_map, Option.map_eq_some_iff] at haction
  obtain ⟨task, htask, heq⟩ := haction
  cases heq
  exact ⟨task, List.mem_filterMap.2 ⟨o, ho, htask⟩, htask, rfl, rfl⟩

theorem isSome_paObject? (es : Table String PaRecord) (pa : String) :
    (paObject? es pa).isSome = es.contains pa := by
  rw [paObject?, Option.isSome_map, Table.contains_eq_isSome]

/-- A task is about the entry of the mapping of its operation. -/
theorem staged_of_taskOn {pa : String} {o : Entry × StageOutcome MappingOp} {task : PaTask}
    (h : taskOn pa o = some task) : ∃ op, o.2 = .staged op ∧
      task.object = (op.mapping.vnetId, op.mapping.config.underlayIp) := by
  obtain ⟨e, outcome⟩ := o
  cases outcome with
  | staged op =>
    refine ⟨op, rfl, ?_⟩
    simp only [taskOn, StageOutcome.op?, Option.bind_some] at h
    split at h
    · obtain ⟨_, -, rfl⟩ := Option.map_eq_some_iff.1 h
      rfl
    · cases h
  | notReady dependency | done | invalid error => cases h

theorem pa_of_actionOn {pa : String} {e : Entry} {op : MappingOp} {staged : PaAction × Nat}
    (h : actionOn pa (e, .staged op) = some staged) : op.pa = some staged := by
  simp only [actionOn] at h
  split at h
  · exact h
  · cases h

namespace StagedBatch

variable {t t' : MappingTable} {c : Context} {pa : String}
  {outcomes front back : List (Entry × StageOutcome MappingOp)}
  {o : Entry × StageOutcome MappingOp} (h : StagedBatch t c outcomes t')

include h

/-- A DEL is the last drop just if, up to it, every holder is dropped and nothing is acquired. -/
theorem dropsLast_iff (hsplit : outcomes = front ++ o :: back) (hdrops : t.Drops pa o.1) :
    t.DropsLast pa front o back ↔
      Unshared pa front ∧ ∀ key, t.HeldBy pa key → key ∈ dropKeys pa (front ++ [o]) := by
  obtain ⟨rest, t₁, hmoment, houtcome⟩ := h.moment hsplit
  have hnext := hmoment.stage
  rw [← houtcome] at hnext
  constructor
  · intro hlast
    refine ⟨hlast.unshared, fun key hheld => hnext.mem_dropKeys_iff.2 ?_⟩
    obtain ⟨o', ho', hdel, rfl⟩ := hlast.all key hheld
    refine ⟨o', ?_, rfl, hdel, hheld⟩
    rw [List.append_cons, List.mem_append] at ho'
    exact ho'.resolve_right fun hback => hlast.last o' hback ⟨hdel, hheld⟩
  · rintro ⟨hunshared, hall⟩
    -- no key is there twice, so a mapping that was dropped by now is not dropped again
    have hkeys := h.whole.planning.consistent.nodup
    rw [hsplit, List.append_cons, List.map_append, List.nodup_append] at hkeys
    refine ⟨hdrops, fun o' ho' hdrops' => ?_, fun key hheld => ?_, hunshared⟩
    · obtain ⟨o'', ho'', hkey, -⟩ := hnext.mem_dropKeys_iff.1 (hall _ hdrops'.2)
      exact hkeys.2.2 _ (List.mem_map_of_mem ho'') _ (List.mem_map_of_mem ho') hkey
    · obtain ⟨o', ho', hkey, hdrops'⟩ := hnext.mem_dropKeys_iff.1 (hall key hheld)
      refine ⟨o', ?_, hdrops'.1, hkey⟩
      rw [List.append_cons]
      exact List.mem_append_left _ ho'

/-- A drop is staged with the mapping that it deletes, and it removes the entry just if it is the
last one. -/
theorem drop (hsplit : outcomes = front ++ o :: back) (hdrops : t.Drops pa o.1) :
    ∃ op action position, o.2 = .staged op ∧ t.mappings.get? o.1.key = some op.mapping ∧
      actionOn pa o = some (action, position) ∧ (action ≠ .remove → action = .release) ∧
      (action = .remove ↔ t.DropsLast pa front o back) := by
  rw [h.dropsLast_iff hsplit hdrops]
  obtain ⟨rest, t₁, hmoment, houtcome⟩ := h.moment hsplit
  have hdrop := hmoment.drop hdrops
  rwa [← houtcome] at hdrop

/-- What the slot of a staged action asks for. -/
theorem slot {action : PaAction} {position : Nat} (ho : o ∈ outcomes)
    (haction : actionOn pa o = some (action, position)) :
    action ≠ .remove ∧ t.paEntries.contains pa = true ∧
        t'.paStager.slots[position]? = some (.settled .success) ∨
      action = .remove ∧ t.paEntries.contains pa = true ∧
        (∃ op, o.2 = .staged op ∧ t'.paStager.slots[position]? = some (.remove
          (.entry (paValidationEntryKey op.mapping.vnetId op.mapping.config.underlayIp)) none)) ∨
      action = .acquire ∧ t.paEntries.contains pa = false ∧
        ∃ e op, (e, .staged op) ∈ outcomes ∧
          actionOn pa (e, .staged op) = some (.acquire, position) ∧
          t'.paStager.slots[position]? = some (.create ⟨some (paValidationEntryKey
            op.mapping.vnetId op.mapping.config.underlayIp), []⟩ none) := by
  obtain ⟨task, htask, hon, rfl, rfl⟩ := exists_task ho haction
  rw [← h.whole.paEntries, ← isSome_paObject?]
  obtain hkept | ⟨hremove, hthere, hslot⟩ |
      ⟨hacquire, habsent, first, hfirst, haction', hposition, hslot⟩ :=
    (h.whole.tasking.courses pa).slot htask
  · exact .inl hkept
  · obtain ⟨op, hop, hobject⟩ := staged_of_taskOn hon
    rw [hobject] at hslot
    exact .inr (.inl ⟨hremove, hthere, op, hop, hslot⟩)
  · obtain ⟨⟨e, outcome⟩, ho', hon'⟩ := List.mem_filterMap.1 hfirst
    obtain ⟨op, rfl, hobject⟩ := staged_of_taskOn hon'
    rw [hobject] at hslot
    refine .inr (.inr ⟨hacquire, habsent, e, op, ho', ?_, hslot⟩)
    rw [actionOn_eq_map, hon', Option.map_some, haction', hposition]

/-- What waits for an answer is the one request for the entry. -/
theorem single {i j : Nat} {slot slot' : Slot} (hi : Pending t'.paStager pa outcomes i slot)
    (hj : Pending t'.paStager pa outcomes j slot') : i = j ∧ slot = slot' := by
  obtain ⟨position, hsole⟩ := (h.whole.tasking.courses pa).sole
  have hposition : ∀ {i slot}, Pending t'.paStager pa outcomes i slot → i = position := by
    intro i slot hpending
    obtain ⟨o, ho, action, haction⟩ := hpending.read
    obtain ⟨task, htask, -, -, rfl⟩ := exists_task ho haction
    refine (hsole task htask).resolve_right fun hfirm => ?_
    cases hpending.found.symm.trans hfirm
    cases hpending.waits
  obtain rfl : i = j := (hposition hi).trans (hposition hj).symm
  exact ⟨rfl, Option.some.inj (hi.found.symm.trans hj.found)⟩

/-- The DEL that removes the entry is the last drop. -/
theorem dropsLast_of_remove {position : Nat} (ho : o ∈ outcomes)
    (haction : actionOn pa o = some (.remove, position)) :
    ∃ front back, outcomes = front ++ o :: back ∧ t.DropsLast pa front o back := by
  have hdrops : t.Drops pa o.1 :=
    (h.whole.drops pa o ho).2 ⟨.remove, position, haction, by simp⟩
  obtain ⟨front, back, hsplit⟩ := List.append_of_mem ho
  obtain ⟨op, action, position', -, -, haction', -, hremove⟩ := h.drop hsplit hdrops
  cases haction.symm.trans haction'
  exact ⟨front, back, hsplit, hremove.1 rfl⟩

/-- The last drop requests the remove of the entry of its mapping. -/
theorem remove_of_dropsLast (hsplit : outcomes = front ++ o :: back)
    (hlast : t.DropsLast pa front o back) : t.paEntries.contains pa = true ∧
      ∃ position m, actionOn pa o = some (.remove, position) ∧
        t.mappings.get? o.1.key = some m ∧ Pending t'.paStager pa outcomes position
          (.remove (.entry (paValidationEntryKey m.vnetId m.config.underlayIp)) none) := by
  obtain ⟨op, action, position, hop, hm, haction, -, hremove⟩ := h.drop hsplit hlast.drops
  obtain rfl : action = .remove := hremove.2 hlast
  have ho : o ∈ outcomes := by simp [hsplit]
  obtain ⟨hne, -⟩ | ⟨-, hthere, op', hop', hslot⟩ | ⟨hacquire, -⟩ := h.slot ho haction
  · exact absurd rfl hne
  · obtain rfl := StageOutcome.staged.inj (hop.symm.trans hop')
    exact ⟨hthere, position, op.mapping, haction, hm, hslot, rfl, o, ho, .remove, haction⟩
  · cases hacquire

/-- A drop that is not the last one releases a reference without a request. -/
theorem release_of_not_dropsLast (hsplit : outcomes = front ++ o :: back)
    (hdrops : t.Drops pa o.1) (hlast : ¬t.DropsLast pa front o back) :
    ∃ position, actionOn pa o = some (.release, position) ∧
      t'.paStager.slots[position]? = some (.settled .success) := by
  obtain ⟨op, action, position, -, -, haction, hrelease, hremove⟩ := h.drop hsplit hdrops
  obtain rfl : action = .release := hrelease fun heq => hlast (hremove.1 heq)
  obtain ⟨-, -, hslot⟩ | ⟨hremove, -⟩ | ⟨hacquire, -⟩ := h.slot (by simp [hsplit]) haction
  · exact ⟨position, haction, hslot⟩
  · cases hremove
  · cases hacquire

/-- A SET that acquires an entry which is not there reads the answer to a create. -/
theorem create_of_acquire {position : Nat} (habsent : t.paEntries.contains pa = false)
    (ho : o ∈ outcomes) (haction : actionOn pa o = some (.acquire, position)) :
    ∃ request, Pending t'.paStager pa outcomes position (.create request none) := by
  obtain ⟨-, hthere, -⟩ | ⟨hremove, -⟩ | ⟨-, -, _, _, -, -, hslot⟩ := h.slot ho haction
  · rw [habsent] at hthere
    cases hthere
  · cases hremove
  · exact ⟨_, hslot, rfl, o, ho, .acquire, haction⟩

/-- A create is requested for an entry that is not there, by a SET that acquires it. -/
theorem acquire_of_create {position : Nat} {request : CreateRequest}
    (hpending : Pending t'.paStager pa outcomes position (.create request none)) :
    t.paEntries.contains pa = false ∧ ∃ e op, (e, .staged op) ∈ outcomes ∧
      actionOn pa (e, .staged op) = some (.acquire, position) ∧
      request =
        ⟨some (paValidationEntryKey op.mapping.vnetId op.mapping.config.underlayIp), []⟩ := by
  obtain ⟨o, ho, action, haction⟩ := hpending.read
  obtain ⟨-, -, hslot⟩ | ⟨-, -, op, -, hslot⟩ | ⟨-, habsent, e, op, ho', haction', hslot⟩ :=
    h.slot ho haction
  · cases hpending.found.symm.trans hslot
  · cases hpending.found.symm.trans hslot
  · cases hpending.found.symm.trans hslot
    exact ⟨habsent, e, op, ho', haction', rfl⟩

/-- Every request is for some entry. -/
theorem pending {position : Nat} {slot : Slot} (hslot : t'.paStager.slots[position]? = some slot)
    (hopen : slot.isOpen = true) : ∃ pa, Pending t'.paStager pa outcomes position slot := by
  obtain ⟨pa, task, htask, rfl⟩ := h.whole.tasking.owned hslot
  obtain ⟨o, ho, hon⟩ := List.mem_filterMap.1 htask
  exact ⟨pa, hslot, hopen, o, ho, task.action, by rw [actionOn_eq_map, hon, Option.map_some]⟩

theorem sharedBy (pa : String) : SharedBy t c pa outcomes t'.paStager where
  single := h.single
  removed := by
    constructor
    · rintro ⟨i, key, hpending⟩
      obtain ⟨o, ho, action, haction⟩ := hpending.read
      obtain ⟨-, -, hslot⟩ | ⟨rfl, hthere, -⟩ | ⟨-, -, e, op, -, -, hslot⟩ := h.slot ho haction
      · cases hpending.found.symm.trans hslot
      · obtain ⟨front, back, hsplit, hlast⟩ := h.dropsLast_of_remove ho haction
        exact ⟨hthere, front, o, back, hsplit, hlast⟩
      · cases hpending.found.symm.trans hslot
    · rintro ⟨-, front, o, back, hsplit, hlast⟩
      obtain ⟨-, i, m, -, -, hpending⟩ := h.remove_of_dropsLast hsplit hlast
      exact ⟨i, _, hpending⟩
  drops {front o back} hsplit hdrops := by
    by_cases hlast : t.DropsLast pa front o back
    · exact .inl ⟨hlast, (h.remove_of_dropsLast hsplit hlast).2⟩
    · exact .inr ⟨hlast, h.release_of_not_dropsLast hsplit hdrops hlast⟩
  created := by
    constructor
    · rintro ⟨i, request, hpending⟩
      obtain ⟨habsent, e, op, ho, haction, -⟩ := h.acquire_of_create hpending
      exact ⟨habsent, (e, .staged op), ho, (h.whole.needs pa _ ho i haction).1, i, haction⟩
    · rintro ⟨habsent, o, ho, -, i, haction⟩
      obtain ⟨request, hpending⟩ := h.create_of_acquire habsent ho haction
      exact ⟨i, request, hpending⟩
  creates hpending := (h.acquire_of_create hpending).2
  shared habsent _ _ op op' i j ho ho' haction haction' := by
    obtain ⟨request, hpending⟩ := h.create_of_acquire habsent ho haction
    obtain ⟨request', hpending'⟩ := h.create_of_acquire habsent ho' haction'
    obtain ⟨rfl, -⟩ := h.single hpending hpending'
    refine ⟨rfl, ⟨request, hpending⟩, fun t' => ?_⟩
    rw [paAccepted?, paAccepted?, pa_of_actionOn haction, pa_of_actionOn haction']
  needs hsplit hneeds := by
    obtain ⟨rest, t₁, hmoment, houtcome⟩ := h.moment hsplit
    have hneed := hmoment.need hneeds
    rwa [← houtcome] at hneed
  acquires ho haction := h.whole.needs pa _ ho _ haction

end StagedBatch

end DashAgent.MappingTable
