import DashAgent.Proofs.Switch.Flush

/-!
# Invariants of a flush

What holds of a stager and a simulated switch during a flush is shown one request at a time: either
the switch answers it, or the call stopped before it. A `FlushInvariant` is carried through the
calls of a flush by the theorems here. Requests reach the switch through a `Front`, a driver that
may stop a call early.
-/
namespace DashAgent

namespace Slot

theorem eq_of_openRemove? {slot : Slot} {key : ObjectKey} (h : slot.openRemove? = some key) :
    slot = .remove key none := by
  cases slot with
  | remove key' answer =>
    cases answer with
    | none => cases h; rfl
    | some status => cases h
  | create request answer | settled status => cases h

theorem eq_of_openCreate? {slot : Slot} {request : CreateRequest}
    (h : slot.openCreate? = some request) : slot = .create request none := by
  cases slot with
  | create request' answer =>
    cases answer with
    | none => cases h; rfl
    | some answer => cases h
  | remove key answer | settled status => cases h

end Slot

/-! ## Fronts -/

namespace Simulator

def called (s : Simulator) : Simulator := { s with bulkCalls := s.bulkCalls + 1 }

/-- Requests in order, each answered by the switch that the one before left. -/
def serve {α β : Type} (one : α → Simulator → β × Simulator) :
    List α → Simulator → List β × Simulator
  | [], s => ([], s)
  | a :: rest, s => ((one a s).1 :: (serve one rest (one a s).2).1, (serve one rest (one a s).2).2)

theorem createAll_eq_serve (type : ObjectType) (requests : List CreateRequest) (s : Simulator) :
    createAll type requests s = serve (fun request s => s.createOne type request) requests s := by
  induction requests generalizing s with
  | nil => rfl
  | cons request rest ih => simp only [createAll, serve, ih]

theorem removeAll_eq_serve (type : ObjectType) (keys : List ObjectKey) (s : Simulator) :
    removeAll type keys s = serve (fun key s => s.removeOne type key) keys s := by
  induction keys generalizing s with
  | nil => rfl
  | cons key rest ih => simp only [removeAll, serve, ih]

end Simulator

/-- A driver that hands its requests on to a simulated switch, in order, while it is ready for the
given number of creates. It may stop a call after some of the requests. -/
structure Front (δ : Type) [Driver δ] where
  switch : δ → Simulator
  ready : Nat → δ → Prop
  create : ∀ {n d} type requests, ready (n + requests.length) d → (switch d).channelLost = false →
    ∃ served d', Driver.bulkCreate type requests d =
        (.ok (Simulator.createAll type (requests.take served) (switch d).called).1, d') ∧
      switch d' = (Simulator.createAll type (requests.take served) (switch d).called).2 ∧
      ready n d'
  remove : ∀ {n d} type keys, ready n d → (switch d).channelLost = false →
    ∃ served d', Driver.bulkRemove type keys d =
        (.ok (Simulator.removeAll type (keys.take served) (switch d).called).1, d') ∧
      switch d' = (Simulator.removeAll type (keys.take served) (switch d).called).2 ∧ ready n d'

/-- The simulated switch itself is always ready and never stops early. -/
def Simulator.front : Front Simulator where
  switch := id
  ready _ _ := True
  create {_ d} type requests _ hup := by
    refine ⟨requests.length, _, ?_, rfl, trivial⟩
    rw [List.take_length]
    exact bulkCreate_eq hup requests
  remove {_ d} type keys _ hup := by
    refine ⟨keys.length, _, ?_, rfl, trivial⟩
    rw [List.take_length]
    exact bulkRemove_eq hup keys

namespace BulkStager

/-! ## One call after another -/

section Calls

variable {δ α β : Type} {call : BulkCall δ α β}

/-- The slots at the given positions wait for the given requests. -/
def Waits (call : BulkCall δ α β) (s : BulkStager) (chunk : List (Nat × α)) : Prop :=
  (∀ u ∈ chunk, ∃ slot, s.slots[u.1]? = some slot ∧ call.pick slot = some u.2) ∧
    (chunk.map Prod.fst).Nodup

/-- Slots at other positions do not matter. -/
theorem Waits.replace {s : BulkStager} {chunk : List (Nat × α)} (h : Waits call s chunk)
    {updates : List (Nat × Slot)} (hother : ∀ u ∈ chunk, u.1 ∉ updates.map Prod.fst) :
    Waits call (s.replace updates) chunk := by
  refine ⟨fun u hu => ?_, h.2⟩
  obtain ⟨slot, hslot, hpick⟩ := h.1 u hu
  exact ⟨slot, by rw [slots_replace (hother u hu), hslot], hpick⟩

theorem waits_selected (s : BulkStager) : Waits call s (s.selected call.pick) :=
  ⟨fun _ hu => mem_selected.1 hu, s.nodup_selected call.pick⟩

/-- What holds of stager and driver with so many requests to go, and is kept by every call, is kept
by all of them. -/
theorem sendChunks_keeps (call : BulkCall δ α β) {B : Nat → BulkStager → δ → Prop}
    (hcall : ∀ {n s d} chunk, Waits call s chunk → B (n + chunk.length) s d →
      ∃ answers d', call.send s.type (chunk.map Prod.snd) d = (.ok answers, d') ∧
        B n (s.replace (call.updates chunk answers)) d')
    (parts : List (List (Nat × α))) {n : Nat} {s : BulkStager} {d : δ}
    (hwaits : Waits call s parts.flatten) (h : B (n + parts.flatten.length) s d) :
    ∃ s' d', sendChunks call parts s d = (.ok (), s', d') ∧ B n s' d' := by
  induction parts generalizing s d with
  | nil => exact ⟨s, d, rfl, h⟩
  | cons chunk rest ih =>
    obtain ⟨hpick, hnodup⟩ := hwaits
    rw [List.flatten_cons, List.map_append, List.nodup_append] at hnodup
    obtain ⟨hchunk, hrest, hdisjoint⟩ := hnodup
    rw [List.flatten_cons] at hpick h
    rw [List.length_append, Nat.add_comm chunk.length, ← Nat.add_assoc] at h
    obtain ⟨answers, d', hsend, hnext⟩ := hcall chunk
      ⟨fun u hu => hpick u (List.mem_append_left _ hu), hchunk⟩ h
    have hother : ∀ u ∈ rest.flatten, u.1 ∉ (call.updates chunk answers).map Prod.fst := by
      intro u hu hmem
      rw [fst_updates] at hmem
      exact hdisjoint u.1 hmem u.1 (List.mem_map_of_mem hu) rfl
    have hwaits' : Waits call s rest.flatten :=
      ⟨fun u hu => hpick u (List.mem_append_right _ hu), hrest⟩
    obtain ⟨s', d'', hflush, hend⟩ := ih (hwaits'.replace hother) hnext
    exact ⟨s', d'', by simp only [sendChunks, hsend]; exact hflush, hend⟩

theorem sendAll_keeps (call : BulkCall δ α β) {B : Nat → BulkStager → δ → Prop}
    (hcall : ∀ {n s d} chunk, Waits call s chunk → B (n + chunk.length) s d →
      ∃ answers d', call.send s.type (chunk.map Prod.snd) d = (.ok answers, d') ∧
        B n (s.replace (call.updates chunk answers)) d')
    {n : Nat} {s : BulkStager} {d : δ} (h : B (n + (s.selected call.pick).length) s d) :
    ∃ s' d', sendAll call s d = (.ok (), s', d') ∧ B n s' d' := by
  have hparts := chunks_flatten s.maxBulkSize_pos (s.selected call.pick)
  apply sendChunks_keeps call hcall
  · rw [hparts]
    exact s.waits_selected
  · rw [hparts]
    exact h

/-- Calls leave the type of a stager alone, however they are answered. -/
theorem type_sendChunks (parts : List (List (Nat × α))) (s : BulkStager) (d : δ) :
    (sendChunks call parts s d).2.1.type = s.type := by
  induction parts generalizing s d with
  | nil => rfl
  | cons chunk rest ih =>
    unfold sendChunks
    split
    · rfl
    · exact ih ..

theorem updates_cons (i : Nat) (a : α) (rest : List (Nat × α)) (answers : List β) :
    call.updates ((i, a) :: rest) answers =
      (i, call.answered a (answers.headD call.missing)) :: call.updates rest answers.tail := by
  simp only [BulkCall.updates, List.zipIdx_cons, List.map_cons, List.getD_eq_getElem?_getD,
    List.headD_eq_head?_getD, List.head?_eq_getElem?, List.getElem?_tail]
  rw [List.zipIdx_succ, List.map_map]
  rfl

/-- What is kept by every request that is answered, and by every one that the call did not get to,
is kept by the answers of a call. -/
theorem updates_keep (call : BulkCall δ α β) {J : Nat → BulkStager → Simulator → Prop}
    {one : α → Simulator → β × Simulator}
    (hserved : ∀ {n s d i slot a}, s.slots[i]? = some slot → call.pick slot = some a →
      J (n + 1) s d → J n (s.replace [(i, call.answered a (one a d).1)]) (one a d).2)
    (hmissed : ∀ {n s d i slot a}, s.slots[i]? = some slot → call.pick slot = some a →
      J (n + 1) s d → J n (s.replace [(i, call.answered a call.missing)]) d)
    {chunk : List (Nat × α)} (served : Nat) {n : Nat} {s : BulkStager} {d : Simulator}
    (hwaits : Waits call s chunk) (h : J (n + chunk.length) s d) :
    J n (s.replace (call.updates chunk
        (Simulator.serve one ((chunk.map Prod.snd).take served) d).1))
      (Simulator.serve one ((chunk.map Prod.snd).take served) d).2 := by
  induction chunk generalizing s d served with
  | nil => simpa [Simulator.serve, BulkCall.updates, replace] using h
  | cons u rest ih =>
    obtain ⟨i, a⟩ := u
    obtain ⟨hpick, hnodup⟩ := hwaits
    obtain ⟨slot, hslot, ha⟩ := hpick _ (List.mem_cons_self ..)
    rw [List.map_cons, List.nodup_cons] at hnodup
    have hwaits' : ∀ slot, Waits call (s.replace [(i, slot)]) rest := by
      intro slot
      refine Waits.replace ⟨fun u hu => hpick u (List.mem_cons_of_mem _ hu), hnodup.2⟩ ?_
      rintro u hu hmem
      simp only [List.map_cons, List.map_nil, List.mem_singleton] at hmem
      exact hnodup.1 (List.mem_map.2 ⟨u, hu, hmem⟩)
    rw [List.length_cons, ← Nat.add_assoc] at h
    rw [updates_cons]
    cases served with
    | zero => exact ih 0 (hwaits' _) (hmissed hslot ha h)
    | succ served => exact ih served (hwaits' _) (hserved hslot ha h)

end Calls

theorem type_flush {δ : Type} [Driver δ] (s : BulkStager) (d : δ) :
    (s.flush d).2.1.type = s.type := by
  have hremoves : (sendAll removes s d).2.1.type = s.type := type_sendChunks ..
  unfold flush
  split
  · next heq =>
    rw [heq] at hremoves
    exact hremoves
  · next s' d' heq =>
    rw [heq] at hremoves
    exact (type_sendChunks ..).trans hremoves

/-! ## One request after another -/

section Replaced

variable {s : BulkStager} {i : Nat} {before : Slot}

theorem getElem?_replace_singleton (hslot : s.slots[i]? = some before) (after : Slot) (j : Nat) :
    (s.replace [(i, after)]).slots[j]? = if i = j then some after else s.slots[j]? := by
  have hlt := (List.getElem?_eq_some_iff.1 hslot).1
  simp only [replace, List.foldl_cons, List.foldl_nil, List.getElem?_set, hlt, if_true]

/-- A slot that waits for a remove may hold any answer to it without a trace in the creates. -/
theorem openCreates_replace_remove {key : ObjectKey}
    (hslot : s.slots[i]? = some (.remove key none)) (answer : Option Status) :
    (s.replace [(i, .remove key answer)]).slots.map Slot.openCreate? =
      s.slots.map Slot.openCreate? := by
  apply List.ext_getElem?
  intro j
  rw [List.getElem?_map, List.getElem?_map, getElem?_replace_singleton hslot]
  split
  · next heq => rw [← heq, hslot]; rfl
  · rfl

theorem createCount_replace_remove {key : ObjectKey}
    (hslot : s.slots[i]? = some (.remove key none)) (answer : Option Status) :
    (s.replace [(i, .remove key answer)]).createCount = s.createCount := by
  rw [createCount, selected_congr (openCreates_replace_remove hslot answer)]
  rfl

end Replaced

open Simulator

/-- Assertions about stager and switch during a flush, while removes are sent and while so many
creates are still to be sent, each kept by every request, answered or not. -/
structure FlushInvariant (type : ObjectType) (removing : BulkStager → Simulator → Prop)
    (creating : Nat → BulkStager → Simulator → Prop) : Prop where
  removing_up : ∀ {s d}, removing s d → s.type = type ∧ d.channelLost = false
  removing_called : ∀ {s d}, removing s d → removing s d.called
  remove : ∀ {s d i key}, removing s d → s.slots[i]? = some (.remove key none) →
    removing (s.replace [(i, .remove key (some (d.removeOne type key).1))]) (d.removeOne type key).2
  removeMissed : ∀ {s d i key}, removing s d → s.slots[i]? = some (.remove key none) →
    removing (s.replace [(i, .remove key (some .notExecuted))]) d
  turn : ∀ {s d}, removing s d → creating s.createCount s d
  creating_up : ∀ {n s d}, creating n s d → s.type = type ∧ d.channelLost = false
  creating_called : ∀ {n s d}, creating n s d → creating n s d.called
  create : ∀ {n s d i request}, creating (n + 1) s d →
    s.slots[i]? = some (.create request none) → creating n
      (s.replace [(i, .create request (some (d.createOne type request).1))])
      (d.createOne type request).2
  createMissed : ∀ {n s d i request}, creating (n + 1) s d →
    s.slots[i]? = some (.create request none) → creating n
      (s.replace [(i, .create request (some (.failed .notExecuted)))]) d

namespace FlushInvariant

variable {δ : Type} [Driver δ] {type : ObjectType} {removing : BulkStager → Simulator → Prop}
  {creating : Nat → BulkStager → Simulator → Prop} (I : FlushInvariant type removing creating)
  (F : Front δ) {s : BulkStager} {d : δ} {n : Nat}

include I

/-- The removes are answered and leave the open creates as they are. -/
theorem sendRemoves (hready : F.ready n d) (h : removing s (F.switch d)) :
    ∃ s' d', sendAll removes s d = (.ok (), s', d') ∧ F.ready n d' ∧
      removing s' (F.switch d') ∧ s'.createCount = s.createCount := by
  refine sendAll_keeps removes (n := 0) (B := fun _ s' d => F.ready n d ∧
    removing s' (F.switch d) ∧ s'.createCount = s.createCount) ?_ ⟨hready, h, rfl⟩
  intro _ s' d chunk hwaits ⟨hready, h, hcount⟩
  obtain ⟨htype, hup⟩ := I.removing_up h
  obtain ⟨served, d', hsend, hswitch, hready'⟩ :=
    F.remove s'.type (chunk.map Prod.snd) hready hup
  refine ⟨_, d', hsend, hready', ?_⟩
  rw [hswitch, removeAll_eq_serve, htype]
  refine updates_keep removes (n := 0) (J := fun _ s' d => removing s' d ∧
    s'.createCount = s.createCount) ?_ ?_ served hwaits ⟨I.removing_called h, hcount⟩
  · intro _ s' d i slot key hslot hpick ⟨h, hcount⟩
    rw [Slot.eq_of_openRemove? hpick] at hslot
    exact ⟨I.remove h hslot, (createCount_replace_remove hslot _).trans hcount⟩
  · intro _ s' d i slot key hslot hpick ⟨h, hcount⟩
    rw [Slot.eq_of_openRemove? hpick] at hslot
    exact ⟨I.removeMissed h hslot, (createCount_replace_remove hslot _).trans hcount⟩

/-- The creates are answered. -/
theorem sendCreates (hready : F.ready (n + s.createCount) d)
    (h : creating s.createCount s (F.switch d)) :
    ∃ s' d', sendAll creates s d = (.ok (), s', d') ∧ F.ready n d' ∧
      creating 0 s' (F.switch d') := by
  refine sendAll_keeps creates (n := 0)
    (B := fun k s d => F.ready (n + k) d ∧ creating k s (F.switch d)) ?_
    ⟨by rw [Nat.zero_add]; exact hready, by rw [Nat.zero_add]; exact h⟩
  intro k s d chunk hwaits ⟨hready, h⟩
  obtain ⟨htype, hup⟩ := I.creating_up h
  rw [← Nat.add_assoc, ← List.length_map (f := Prod.snd)] at hready
  obtain ⟨served, d', hsend, hswitch, hready'⟩ :=
    F.create s.type (chunk.map Prod.snd) hready hup
  refine ⟨_, d', hsend, hready', ?_⟩
  rw [hswitch, createAll_eq_serve, htype]
  refine updates_keep creates (n := k) (J := creating) ?_ ?_ served hwaits (I.creating_called h)
  · intro n s d i slot request hslot hpick h
    rw [Slot.eq_of_openCreate? hpick] at hslot
    exact I.create h hslot
  · intro n s d i slot request hslot hpick h
    rw [Slot.eq_of_openCreate? hpick] at hslot
    exact I.createMissed h hslot

/-- A flush through a front that is ready for the creates is answered. -/
theorem flush (hready : F.ready (n + s.createCount) d) (h : removing s (F.switch d)) :
    ∃ s' d', s.flush d = (.ok (), s', d') ∧ F.ready n d' ∧ creating 0 s' (F.switch d') := by
  obtain ⟨s₁, d₁, hremoves, hready₁, hremoved, hcount⟩ := I.sendRemoves F hready h
  rw [← hcount] at hready₁
  obtain ⟨s₂, d₂, hcreates, hready₂, hcreated⟩ := I.sendCreates F hready₁ (I.turn hremoved)
  exact ⟨s₂, d₂, by simp only [BulkStager.flush, hremoves]; exact hcreates, hready₂, hcreated⟩

end FlushInvariant

end BulkStager

end DashAgent
