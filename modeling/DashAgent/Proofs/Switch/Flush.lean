import DashAgent.Proofs.Switch.Simulator
import DashAgent.Proofs.Switch.Stager

/-!
# A flush that grants everything

On a switch that supplies all creates of a stager, a flush answers every open slot with a status
that its change is committed on. The answers go to the slots in chunks: first to the removes, which
leaves the open creates as they are, and then to the creates.
-/
namespace DashAgent

/-- What a slot becomes when everything is granted; a settled slot stays. -/
def Slot.GrantedAs : Slot → Slot → Prop
  | create request none, after => ∃ answer : CreateAnswer,
      after = .create request (some answer) ∧ answer.Grants request
  | remove key none, after => ∃ status : Status,
      after = .remove key (some status) ∧ status.Grants key
  | before, after => after = before

namespace BulkStager

/-! ## Answers in their places -/

section Replace

variable {s : BulkStager} {updates : List (Nat × Slot)} {i : Nat} {slot : Slot}

theorem length_replace (s : BulkStager) (updates : List (Nat × Slot)) :
    (s.replace updates).slots.length = s.slots.length := by
  simp only [replace]
  generalize s.slots = slots
  induction updates generalizing slots with
  | nil => rfl
  | cons u rest ih => rw [List.foldl_cons, ih, List.length_set]

/-- A position that is updated once has its new slot. -/
theorem slots_replace_of_mem (hmem : (i, slot) ∈ updates) (hnodup : (updates.map Prod.fst).Nodup)
    (hrange : i < s.slots.length) : (s.replace updates).slots[i]? = some slot := by
  induction updates generalizing s with
  | nil => cases hmem
  | cons u rest ih =>
    rw [List.map_cons, List.nodup_cons] at hnodup
    have hstep : s.replace (u :: rest) = (s.replace [u]).replace rest := rfl
    rw [hstep]
    rcases List.mem_cons.1 hmem with rfl | hmem
    · rw [slots_replace hnodup.1]
      simp [replace, hrange]
    · apply ih hmem hnodup.2
      rw [length_replace]
      exact hrange

end Replace

/-- Answers that suit their requests stand at the positions of these. -/
theorem exists_update {δ α β : Type} (call : BulkCall δ α β) {R : α → β → Prop}
    {chunk : List (Nat × α)} {answers : List β}
    (h : List.Forall₂ R (chunk.map Prod.snd) answers) {i : Nat} {a : α} (hmem : (i, a) ∈ chunk) :
    ∃ b, (i, call.answered a b) ∈ call.updates chunk answers ∧ R a b := by
  obtain ⟨j, hj, hget⟩ := List.mem_iff_getElem.1 hmem
  obtain ⟨hlength, hall⟩ := List.forall₂_iff_get.1 h
  rw [List.length_map] at hlength
  have hj' : j < answers.length := by omega
  have hanswer := hall j (by simpa using hj) hj'
  simp only [List.get_eq_getElem, List.getElem_map, hget] at hanswer
  refine ⟨answers[j], List.mem_map.2 ⟨((i, a), j), ?_, ?_⟩, hanswer⟩
  · rw [List.mem_zipIdx_iff_getElem?, List.getElem?_eq_getElem hj, hget]
  · simp [List.getD_eq_getElem?_getD, List.getElem?_eq_getElem hj']

/-! ## Selected slots -/

/-- Every position is selected at most once. -/
theorem nodup_selected {α : Type} (s : BulkStager) (pick : Slot → Option α) :
    ((s.selected pick).map Prod.fst).Nodup := by
  have hsublist : ∀ l : List (Slot × Nat),
      ((l.filterMap fun u => (pick u.1).map (u.2, ·)).map Prod.fst).Sublist (l.map Prod.snd) := by
    intro l
    induction l with
    | nil => exact .refl _
    | cons x rest ih =>
      rw [List.filterMap_cons]
      cases hpick : pick x.1 with
      | none => simpa [hpick] using ih.cons x.2
      | some a => simpa [hpick] using ih.cons_cons x.2
  refine (hsublist s.slots.zipIdx).nodup ?_
  rw [List.zipIdx_map_snd]
  exact List.nodup_range'

/-- What is selected depends on what is picked from each slot. -/
theorem selected_congr {α : Type} {s s' : BulkStager} {pick : Slot → Option α}
    (h : s'.slots.map pick = s.slots.map pick) : s'.selected pick = s.selected pick := by
  have heq : ∀ s : BulkStager, s.selected pick =
      (s.slots.map pick).zipIdx.filterMap fun u => u.1.map (u.2, ·) := by
    intro s
    rw [selected, List.zipIdx_map, List.filterMap_map]
    rfl
  rw [heq, heq, h]

theorem lt_of_mem_selected {α : Type} {s : BulkStager} {pick : Slot → Option α}
    {u : Nat × α} (h : u ∈ s.selected pick) : u.1 < s.slots.length := by
  obtain ⟨slot, hslot, -⟩ := mem_selected.1 (show (u.1, u.2) ∈ s.selected pick from h)
  exact (List.getElem?_eq_some_iff.1 hslot).1

/-! ## Calls -/

/-- The parts of a stager that a flush leaves alone. -/
structure SameShape (s s' : BulkStager) : Prop where
  type : s'.type = s.type
  maxBulkSize : s'.maxBulkSize = s.maxBulkSize
  length : s'.slots.length = s.slots.length

theorem SameShape.trans {s s' s'' : BulkStager} (h : SameShape s s') (h' : SameShape s' s'') :
    SameShape s s'' :=
  ⟨h'.type.trans h.type, h'.maxBulkSize.trans h.maxBulkSize, h'.length.trans h.length⟩

theorem sameShape_replace (s : BulkStager) (updates : List (Nat × Slot)) :
    SameShape s (s.replace updates) := ⟨rfl, rfl, s.length_replace updates⟩

section Calls

variable {α β : Type} {call : BulkCall Simulator α β} {type : ObjectType} {R : α → β → Prop}
  {Q : α → Prop} {J : Nat → Simulator → Prop} {n : Nat}

/-- Calls for requests in `Q` are answered as `R` says, while a switch in `J` has something left for
each of them. -/
def Answers (call : BulkCall Simulator α β) (type : ObjectType) (R : α → β → Prop) (Q : α → Prop)
    (J : Nat → Simulator → Prop) : Prop :=
  ∀ n requests d, (∀ a ∈ requests, Q a) → J (n + requests.length) d →
    ∃ answers d', call.send type requests d = (.ok answers, d') ∧
      List.Forall₂ R requests answers ∧ J n d'

/-- The requests of all chunks are answered at their positions. -/
theorem sendChunks_granted (hcall : Answers call type R Q J) (parts : List (List (Nat × α)))
    {s : BulkStager} {d : Simulator} (htype : s.type = type)
    (hleft : J (n + parts.flatten.length) d) (hparts : ∀ u ∈ parts.flatten, Q u.2)
    (hnodup : (parts.flatten.map Prod.fst).Nodup)
    (hrange : ∀ u ∈ parts.flatten, u.1 < s.slots.length) :
    ∃ s' d', sendChunks call parts s d = (.ok (), s', d') ∧ SameShape s s' ∧ J n d' ∧
      ∀ i a, (i, a) ∈ parts.flatten → ∃ b, s'.slots[i]? = some (call.answered a b) ∧ R a b := by
  induction parts generalizing s d with
  | nil => exact ⟨s, d, rfl, ⟨rfl, rfl, rfl⟩, hleft, by simp⟩
  | cons chunk rest ih =>
    simp only [List.flatten_cons, List.map_append, List.nodup_append, List.length_append,
      List.forall_mem_append] at hleft hparts hnodup hrange
    obtain ⟨hchunk, hrest, hdisjoint⟩ := hnodup
    have hrequests : ∀ a ∈ chunk.map Prod.snd, Q a := by
      intro a ha
      obtain ⟨u, hu, rfl⟩ := List.mem_map.1 ha
      exact hparts.1 u hu
    have hleft' : J (n + rest.flatten.length + (chunk.map Prod.snd).length) d := by
      rw [List.length_map, Nat.add_assoc, Nat.add_comm rest.flatten.length]
      exact hleft
    obtain ⟨answers, d', hsend, hanswers, hnext⟩ := hcall _ _ _ hrequests hleft'
    have hshape := s.sameShape_replace (call.updates chunk answers)
    obtain ⟨s'', d'', hflush, hshape', hend, hslots⟩ := ih (hshape.type.trans htype) hnext hparts.2
      hrest (by rw [hshape.length]; exact hrange.2)
    refine ⟨s'', d'', ?_, hshape.trans hshape', hend, ?_⟩
    · unfold sendChunks
      rw [htype, hsend]
      exact hflush
    · intro i a hmem
      rw [List.flatten_cons, List.mem_append] at hmem
      rcases hmem with hmem | hmem
      · obtain ⟨b, hupdate, hb⟩ := exists_update call hanswers hmem
        have hnotin : i ∉ rest.flatten.map Prod.fst :=
          fun hi => hdisjoint i (List.mem_map.2 ⟨_, hmem, rfl⟩) i hi rfl
        have hkept := slots_sendChunks call hnotin
          (s.replace (call.updates chunk answers)) d'
        have hset : (s.replace (call.updates chunk answers)).slots[i]? =
            some (call.answered a b) := by
          apply slots_replace_of_mem hupdate
          · rw [fst_updates]
            exact hchunk
          · exact hrange.1 _ hmem
        rw [hflush] at hkept
        exact ⟨b, hkept.trans hset, hb⟩
      · exact hslots i a hmem

/-- The slots that wait for the calls are answered, and the others stay. -/
theorem sendAll_granted (hcall : Answers call type R Q J) {s : BulkStager} {d : Simulator}
    (htype : s.type = type) (hleft : J (n + (s.selected call.pick).length) d)
    (hselected : ∀ u ∈ s.selected call.pick, Q u.2) :
    ∃ s' d', sendAll call s d = (.ok (), s', d') ∧ SameShape s s' ∧ J n d' ∧
      (∀ {i : Nat} {slot : Slot}, s.slots[i]? = some slot → call.pick slot = none →
        s'.slots[i]? = some slot) ∧
      ∀ {i : Nat} {slot : Slot} {a : α}, s.slots[i]? = some slot → call.pick slot = some a →
        ∃ b, s'.slots[i]? = some (call.answered a b) ∧ R a b := by
  have hparts := chunks_flatten s.maxBulkSize_pos (s.selected call.pick)
  obtain ⟨s', d', hsend, hshape, hend, hslots⟩ :=
    sendChunks_granted hcall (chunks s.maxBulkSize (s.selected call.pick)) htype
      (by rw [hparts]; exact hleft) (by rw [hparts]; exact hselected)
      (by rw [hparts]; exact s.nodup_selected _)
      (by rw [hparts]; exact fun u hu => lt_of_mem_selected hu)
  rw [hparts] at hslots
  refine ⟨s', d', hsend, hshape, hend, ?_, ?_⟩
  · intro i slot hslot hpick
    have hkept := slots_sendAll call hslot hpick d
    rw [sendAll, hsend] at hkept
    exact hkept
  · intro i slot a hslot hpick
    exact hslots i a (mem_selected.2 ⟨slot, hslot, hpick⟩)

end Calls

/-! ## Flushes -/

section Flush

open Simulator

variable {type : ObjectType} {d₀ : Simulator} {n : Nat}

/-- What a switch supplied of other types it still supplies. -/
def KeepsOthers (type : ObjectType) (d d' : Simulator) : Prop :=
  ∀ other m, type ≠ other → d.Supplies other m → d'.Supplies other m

/-- Removes take nothing from the switch. -/
theorem removes_answered {Named : Prop} : Answers removes type Status.Grants (fun _ => True)
    (fun _ d => d.Supplies type n ∧ (Named → KeepsOthers type d₀ d)) := by
  rintro _ keys d - ⟨hsupplies, hothers⟩
  obtain ⟨answers, d', hsend, hgranted, hend⟩ := bulkRemove_granted keys hsupplies
  refine ⟨answers, d', hsend, hgranted, hend, ?_⟩
  intro hnamed other m hne hother
  have hnext := bulkRemove_other keys (hothers hnamed other m hne hother) hne
  rw [hsend] at hnext
  exact hnext

/-- Creates take one object each of their own type. Those that name their entries take nothing from
other types. -/
theorem creates_answered {Named : Prop} : Answers creates type CreateAnswer.Grants
    (fun request => Named → request.entry ≠ none)
    (fun n d => d.Supplies type n ∧ (Named → KeepsOthers type d₀ d)) := by
  rintro n requests d hentries ⟨hsupplies, hothers⟩
  obtain ⟨answers, d', hsend, hgranted, hend⟩ := bulkCreate_granted hsupplies
  refine ⟨answers, d', hsend, hgranted, hend, ?_⟩
  intro hnamed other m hne hother
  have hnext := bulkCreate_other (hothers hnamed other m hne hother) hne
    fun request hrequest => hentries request hrequest hnamed
  rw [hsend] at hnext
  exact hnext

def createCount (s : BulkStager) : Nat := (s.selected Slot.openCreate?).length

/-- The open creates of a stager name their entries. -/
def NamesEntries (s : BulkStager) : Prop :=
  ∀ u ∈ s.selected Slot.openCreate?, u.2.entry ≠ none

/-- Removes are not creates, so the open creates are the same after them. -/
theorem selected_of_removes {s s' : BulkStager} (hshape : SameShape s s')
    (hkept : ∀ {i : Nat} {slot : Slot}, s.slots[i]? = some slot → slot.openRemove? = none →
      s'.slots[i]? = some slot)
    (hslots : ∀ {i : Nat} {slot : Slot} {key : ObjectKey}, s.slots[i]? = some slot →
      slot.openRemove? = some key →
        ∃ status : Status, s'.slots[i]? = some (.remove key (some status)) ∧ status.Grants key) :
    s'.selected Slot.openCreate? = s.selected Slot.openCreate? := by
  apply selected_congr
  apply List.ext_getElem?
  intro i
  rw [List.getElem?_map, List.getElem?_map]
  cases hslot : s.slots[i]? with
  | none =>
    have hend := List.getElem?_eq_none_iff.1 hslot
    rw [← hshape.length, ← List.getElem?_eq_none_iff] at hend
    rw [hend]
  | some slot =>
    cases hpick : slot.openRemove? with
    | none => rw [hkept hslot hpick]
    | some key =>
      obtain ⟨status, hafter, -⟩ := hslots hslot hpick
      rw [hafter]
      cases slot with
      | remove key' answer => rfl
      | create request answer | settled status' => cases hpick

/-- A flush grants every open slot if the calls that it makes grant their requests. -/
theorem flush_answered {s : BulkStager} {d : Simulator} {Q : CreateRequest → Prop}
    {J : Nat → Simulator → Prop}
    (hremoves : Answers removes s.type Status.Grants (fun _ => True)
      fun _ d => J (n + s.createCount) d)
    (hcreates : Answers creates s.type CreateAnswer.Grants Q J) (h : J (n + s.createCount) d)
    (hrequests : ∀ u ∈ s.selected Slot.openCreate?, Q u.2) :
    ∃ s' d', s.flush d = (.ok (), s', d') ∧ SameShape s s' ∧ J n d' ∧
      ∀ (i : Nat) (slot : Slot), s.slots[i]? = some slot →
        ∃ after, s'.slots[i]? = some after ∧ slot.GrantedAs after := by
  obtain ⟨s₁, d₁, hremoved, hshape₁, hleft₁, hkept₁, hslots₁⟩ :=
    sendAll_granted (n := 0) hremoves rfl h fun _ _ => trivial
  have hselected := selected_of_removes hshape₁ hkept₁ hslots₁
  have hleft : J (n + (s₁.selected Slot.openCreate?).length) d₁ := by
    rw [hselected]
    exact hleft₁
  obtain ⟨s₂, d₂, hcreated, hshape₂, hleft₂, hkept₂, hslots₂⟩ :=
    sendAll_granted hcreates hshape₁.type hleft fun u hu => hrequests u (hselected ▸ hu)
  refine ⟨s₂, d₂, ?_, hshape₁.trans hshape₂, hleft₂, ?_⟩
  · simp only [flush, hremoved]
    exact hcreated
  · intro i slot hslot
    cases slot with
    | settled status => exact ⟨_, hkept₂ (hkept₁ hslot rfl) rfl, rfl⟩
    | create request answer =>
      have hkept := hkept₁ hslot rfl
      cases answer with
      | some answer => exact ⟨_, hkept₂ hkept rfl, rfl⟩
      | none =>
        obtain ⟨answer, hafter, hanswer⟩ := hslots₂ hkept rfl
        exact ⟨_, hafter, answer, rfl, hanswer⟩
    | remove key answer =>
      cases answer with
      | some status => exact ⟨_, hkept₂ (hkept₁ hslot rfl) rfl, rfl⟩
      | none =>
        obtain ⟨status, hafter, hstatus⟩ := hslots₁ hslot rfl
        exact ⟨_, hkept₂ hafter rfl, status, rfl, hstatus⟩

/-- A flush of creates that the switch has room for grants every open slot. -/
theorem flush_granted {s : BulkStager} {d : Simulator}
    (h : d.Supplies s.type (n + s.createCount)) :
    ∃ s' d', s.flush d = (.ok (), s', d') ∧ SameShape s s' ∧ d'.Supplies s.type n ∧
      (∀ (i : Nat) (slot : Slot), s.slots[i]? = some slot →
        ∃ after, s'.slots[i]? = some after ∧ slot.GrantedAs after) ∧
      (s.NamesEntries → KeepsOthers s.type d d') := by
  obtain ⟨s', d', hflush, hshape, ⟨hsupplies, hothers⟩, hslots⟩ :=
    flush_answered (J := fun n d' => d'.Supplies s.type n ∧
      (s.NamesEntries → KeepsOthers s.type d d')) removes_answered creates_answered
      ⟨h, fun _ _ _ _ => id⟩ fun u hu hnamed => hnamed u hu
  exact ⟨s', d', hflush, hshape, hsupplies, hslots, hothers⟩

end Flush

/-! ## Requests of an operation -/

end BulkStager

/-- The slot asks for what an operation of a kind needs: an open request of that kind, where the
switch is to allocate an identifier a create without an entry key, or a success from the start. -/
def Slot.Asks (kind : RequestKind) (allocates : Bool) : Slot → Prop
  | create request none => kind = .create ∧ (allocates = true → request.entry = none)
  | remove _ none => kind = .remove ∧ allocates = false
  | settled status => status = .success ∧ allocates = false
  | _ => False

/-- A create in the slot names its entry. -/
def Slot.Keyed (slot : Slot) : Prop :=
  ∀ request, slot.openCreate? = some request → request.entry ≠ none

theorem Slot.keyed_create {key : String} {attributes : List Attribute}
    {answer : Option CreateAnswer} : (create ⟨some key, attributes⟩ answer).Keyed := by
  intro request h
  cases answer with
  | none =>
    cases h
    exact Option.some_ne_none key
  | some answer => cases h

theorem Slot.keyed_remove {key : ObjectKey} {answer : Option Status} :
    (remove key answer).Keyed := by
  intro request h
  cases h

theorem Slot.keyed_settled {status : Status} : (settled status).Keyed := by
  intro request h
  cases h

namespace BulkStager

def Awaits (s : BulkStager) (kind : RequestKind) (allocates : Bool) (position : Nat) : Prop :=
  ∃ slot, s.slots[position]? = some slot ∧ slot.Asks kind allocates

/-- The request at a position is granted, with an identifier where one was to be allocated. -/
def Grants (s : BulkStager) (kind : RequestKind) (allocates : Bool) (position : Nat) : Prop :=
  Decision.ofStatus kind (s.outcome position) = .commit ∧
    (allocates = true → ∃ id, s.objectId? position = some id ∧ id ≠ 0)

section Requests

variable {s s' : BulkStager} {kind : RequestKind} {allocates : Bool} {position : Nat}

theorem Awaits.push (h : s.Awaits kind allocates position) (slot : Slot) :
    (s.push slot).2.Awaits kind allocates position := by
  obtain ⟨slot', hslot, hasks⟩ := h
  refine ⟨slot', ?_, hasks⟩
  have hlt := (List.getElem?_eq_some_iff.1 hslot).1
  simp only [BulkStager.push]
  rw [List.getElem?_append_left hlt, hslot]

theorem awaits_push {slot : Slot} (h : slot.Asks kind allocates) :
    (s.push slot).2.Awaits kind allocates s.slots.length :=
  ⟨slot, by simp [BulkStager.push], h⟩

theorem selected_push {α : Type} (s : BulkStager) (slot : Slot) (pick : Slot → Option α) :
    (s.push slot).2.selected pick =
      s.selected pick ++ ((pick slot).map (s.slots.length, ·)).toList := by
  simp only [selected, push, List.zipIdx_append, List.filterMap_append]
  cases hpick : pick slot <;> simp [hpick]

theorem createCount_push_le (s : BulkStager) (slot : Slot) :
    (s.push slot).2.createCount ≤ s.createCount + 1 := by
  rw [createCount, selected_push, List.length_append, createCount]
  cases slot.openCreate? <;> simp

/-- After a flush that grants everything the requests of an operation are granted. -/
theorem grants_of_awaits (h : s.Awaits kind allocates position)
    (hflush : ∀ (i : Nat) (slot : Slot), s.slots[i]? = some slot →
      ∃ after, s'.slots[i]? = some after ∧ slot.GrantedAs after) :
    s'.Grants kind allocates position := by
  obtain ⟨slot, hslot, hasks⟩ := h
  obtain ⟨after, hafter, hgranted⟩ := hflush position slot hslot
  have houtcome : s'.outcome position = after.status?.getD .notExecuted := by
    simp [outcome, status?, hafter]
  have hid : s'.objectId? position = after.objectId? := by simp [objectId?, hafter]
  rw [Grants, houtcome, hid]
  cases slot with
  | create request answer =>
    cases answer with
    | none =>
      obtain ⟨answer, rfl, hstatus, hallocated⟩ := hgranted
      obtain ⟨rfl, hentry⟩ := hasks
      exact ⟨hstatus, fun ha => hallocated (hentry ha)⟩
    | some answer => exact False.elim hasks
  | remove key answer =>
    cases answer with
    | none =>
      obtain ⟨status, rfl, hstatus⟩ := hgranted
      obtain ⟨rfl, hid⟩ := hasks
      exact ⟨hstatus, fun ha => absurd ha (by simp [hid])⟩
    | some status => exact False.elim hasks
  | settled status =>
    obtain ⟨rfl, hid⟩ := hasks
    rw [show after = .settled .success from hgranted]
    exact ⟨ofStatus_success kind, fun ha => absurd ha (by simp [hid])⟩

end Requests

/-! ## Stagers of keyed entries -/

/-- A stager of a type whose creates name the entries themselves, so many of them at most. -/
structure HoldsEntries (s : BulkStager) (type : ObjectType) (n : Nat) : Prop where
  type : s.type = type
  creates : s.createCount ≤ n
  keyed : s.NamesEntries

section Entries

variable {s : BulkStager} {type : ObjectType} {n : Nat}

theorem holdsEntries_of_nil (htype : s.type = type) (hslots : s.slots = []) :
    s.HoldsEntries type 0 := by
  have hnone : s.selected Slot.openCreate? = [] := by simp [selected, hslots]
  exact ⟨htype, by simp [createCount, hnone], by simp [NamesEntries, hnone]⟩

theorem HoldsEntries.mono (h : s.HoldsEntries type n) {m : Nat} (hm : n ≤ m) :
    s.HoldsEntries type m :=
  { h with creates := Nat.le_trans h.creates hm }

theorem HoldsEntries.push (h : s.HoldsEntries type n) {slot : Slot}
    (hslot : slot.Keyed) : (s.push slot).2.HoldsEntries type (n + 1) where
  type := h.type
  creates := Nat.le_trans (s.createCount_push_le slot) (Nat.add_le_add_right h.creates 1)
  keyed := by
    intro u hu
    rw [selected_push, List.mem_append] at hu
    rcases hu with hu | hu
    · exact h.keyed u hu
    · cases hpick : slot.openCreate? with
      | none => simp [hpick] at hu
      | some request =>
        simp only [hpick, Option.map_some, Option.toList_some, List.mem_singleton] at hu
        rw [hu]
        exact hslot request hpick

/-- A flush on a switch that supplies the creates grants every request and takes nothing from other
types. -/
theorem HoldsEntries.flush (h : s.HoldsEntries type n) {m : Nat} {d : Simulator}
    (hsupplied : d.Supplies type (m + n)) :
    ∃ s' d', s.flush d = (.ok (), s', d') ∧ s'.type = type ∧ d'.Supplies type m ∧
      (∀ {kind allocates position}, s.Awaits kind allocates position →
        s'.Grants kind allocates position) ∧
      ∀ {other k}, type ≠ other → d.Supplies other k → d'.Supplies other k := by
  obtain ⟨rfl, hcreates, hkeyed⟩ := h
  have hroom := hsupplied.mono (Nat.add_le_add_left hcreates m)
  obtain ⟨s', d', hflush, hshape, hrest, hslots, hothers⟩ := flush_granted hroom
  exact ⟨s', d', hflush, hshape.type, hrest, fun hawaits => grants_of_awaits hawaits hslots,
    fun hne => hothers hkeyed _ _ hne⟩

end Entries

end BulkStager

end DashAgent
