import DashAgent.Proofs.Switch.Gate

/-!
# A switch whose removals are watched

A watched switch answers as the simulated one does and notes every call that removes objects, with
what the switch held when the call reached it. Every call touches objects of its own type only.
-/
namespace DashAgent

/-! ## What calls touch -/

namespace Simulator

/-- The channel stays as it is, and so do the objects of the types that are not touched. -/
structure Within (touched : ObjectType → Prop) (s s' : Simulator) : Prop where
  channelLost : s'.channelLost = s.channelLost
  objects : ∀ type, ¬touched type → s'.objects type = s.objects type

section Within

variable {touched touched' : ObjectType → Prop} {s s' s'' : Simulator} {type : ObjectType}

theorem Within.refl : s.Within touched s := ⟨rfl, fun _ _ => rfl⟩

theorem within_called : s.Within touched s.called := ⟨rfl, fun _ _ => rfl⟩

theorem Within.trans (h : s.Within touched s') (h' : s'.Within touched s'') :
    s.Within touched s'' :=
  ⟨h'.channelLost.trans h.channelLost, fun type hnot =>
    (h'.objects type hnot).trans (h.objects type hnot)⟩

theorem Within.mono (h : s.Within touched s') (hle : ∀ type, touched type → touched' type) :
    s.Within touched' s' :=
  ⟨h.channelLost, fun type hnot => h.objects type fun htouched => hnot (hle type htouched)⟩

theorem within_createOne (type : ObjectType) (request : CreateRequest) (s : Simulator) :
    s.Within (· = type) (s.createOne type request).2 := by
  refine ⟨channelLost_createOne type request s, fun other hne => ?_⟩
  have hne' : type ≠ other := fun heq => hne heq.symm
  unfold createOne
  repeat' split
  all_goals simp [objects, addKey, Roster.get_set_of_ne _ _ hne']

theorem within_removeOne (type : ObjectType) (key : ObjectKey) (s : Simulator) :
    s.Within (· = type) (s.removeOne type key).2 := by
  refine ⟨channelLost_removeOne type key s, fun other hne => ?_⟩
  have hne' : type ≠ other := fun heq => hne heq.symm
  unfold removeOne
  split <;> simp [objects, Roster.get_set_of_ne _ _ hne']

theorem within_createAll (type : ObjectType) (requests : List CreateRequest) (s : Simulator) :
    s.Within (· = type) (createAll type requests s).2 := by
  induction requests generalizing s with
  | nil => exact .refl
  | cons request rest ih => exact (within_createOne type request s).trans (ih _)

theorem within_removeAll (type : ObjectType) (keys : List ObjectKey) (s : Simulator) :
    s.Within (· = type) (removeAll type keys s).2 := by
  induction keys generalizing s with
  | nil => exact .refl
  | cons key rest ih => exact (within_removeOne type key s).trans (ih _)

end Within

end Simulator

/-! ## Watching -/

/-- A call that removes objects, and the switch as it was when the call reached it. -/
structure Removal where
  type : ObjectType
  keys : List ObjectKey
  held : Simulator

/-- A simulated switch with the removals that reached it, in order. -/
structure WatchedSwitch where
  switch : Simulator
  removals : List Removal

namespace WatchedSwitch

instance : Driver WatchedSwitch where
  switchId w := Driver.switchId w.switch
  bulkCreate type requests w :=
    let (answer, switch) := Driver.bulkCreate type requests w.switch
    (answer, { w with switch })
  bulkRemove type keys w :=
    let (answer, switch) := Driver.bulkRemove type keys w.switch
    (answer, ⟨switch, w.removals ++ [⟨type, keys, w.switch⟩]⟩)
  readAttribute id what w :=
    let (answer, switch) := Driver.readAttribute id what w.switch
    (answer, { w with switch })
  availability type qualifiers w :=
    let (answer, switch) := Driver.availability type qualifiers w.switch
    (answer, { w with switch })
  dump w :=
    let (answer, switch) := Driver.dump w.switch
    (answer, { w with switch })

/-- The removals noted on the way from one state to another, all of touched types, found the objects
of all other types as they were before the first of them. -/
structure Watches (touched : ObjectType → Prop) (w w' : WatchedSwitch) (noted : List Removal) :
    Prop where
  within : w.switch.Within touched w'.switch
  removals : w'.removals = w.removals ++ noted
  types : ∀ r ∈ noted, touched r.type
  held : ∀ r ∈ noted, w.switch.Within touched r.held

variable {touched touched' : ObjectType → Prop} {w w' w'' : WatchedSwitch}
  {noted noted' : List Removal}

theorem Watches.refl : Watches touched w w [] := ⟨.refl, by simp, nofun, nofun⟩

theorem Watches.trans (h : Watches touched w w' noted) (h' : Watches touched w' w'' noted') :
    Watches touched w w'' (noted ++ noted') where
  within := h.within.trans h'.within
  removals := by rw [h'.removals, h.removals, List.append_assoc]
  types r hr := (List.mem_append.1 hr).elim (h.types r) (h'.types r)
  held r hr := (List.mem_append.1 hr).elim (h.held r) fun hr' => h.within.trans (h'.held r hr')

theorem Watches.mono (h : Watches touched w w' noted) (hle : ∀ type, touched type → touched' type) :
    Watches touched' w w' noted where
  within := h.within.mono hle
  removals := h.removals
  types r hr := hle _ (h.types r hr)
  held r hr := (h.held r hr).mono hle

theorem Watches.up (h : Watches touched w w' noted) (hup : w.switch.channelLost = false) :
    w'.switch.channelLost = false := h.within.channelLost.trans hup

theorem bulkCreate_watches (hup : w.switch.channelLost = false) (type : ObjectType)
    (requests : List CreateRequest) :
    ∃ answers w', Driver.bulkCreate type requests w = (.ok answers, w') ∧
      Watches (· = type) w w' [] := by
  have hcall : Driver.bulkCreate type requests w.switch =
      (.ok (Simulator.createAll type requests w.switch.called).1,
        (Simulator.createAll type requests w.switch.called).2) :=
    Simulator.bulkCreate_eq hup requests
  refine ⟨(Simulator.createAll type requests w.switch.called).1,
    { w with switch := (Simulator.createAll type requests w.switch.called).2 }, ?_,
    ⟨Simulator.within_called.trans (Simulator.within_createAll ..), by simp, nofun, nofun⟩⟩
  change ((Driver.bulkCreate type requests w.switch).1,
    { w with switch := (Driver.bulkCreate type requests w.switch).2 }) = _
  rw [hcall]

theorem bulkRemove_watches (hup : w.switch.channelLost = false) (type : ObjectType)
    (keys : List ObjectKey) :
    ∃ answers w', Driver.bulkRemove type keys w = (.ok answers, w') ∧
      Watches (· = type) w w' [⟨type, keys, w.switch⟩] := by
  have hcall : Driver.bulkRemove type keys w.switch =
      (.ok (Simulator.removeAll type keys w.switch.called).1,
        (Simulator.removeAll type keys w.switch.called).2) :=
    Simulator.bulkRemove_eq hup keys
  refine ⟨(Simulator.removeAll type keys w.switch.called).1,
    ⟨(Simulator.removeAll type keys w.switch.called).2,
      w.removals ++ [⟨type, keys, w.switch⟩]⟩, ?_,
    ⟨Simulator.within_called.trans (Simulator.within_removeAll ..), rfl, ?_, ?_⟩⟩
  · change ((Driver.bulkRemove type keys w.switch).1,
      WatchedSwitch.mk (Driver.bulkRemove type keys w.switch).2 _) = _
    rw [hcall]
  · intro r hr
    rw [List.mem_singleton.1 hr]
  · intro r hr
    rw [List.mem_singleton.1 hr]
    exact .refl

end WatchedSwitch

/-! ## Flushes -/

namespace BulkStager

open WatchedSwitch

variable {w : WatchedSwitch}

/-- Calls that remove objects are all noted. -/
theorem sendChunks_removes (parts : List (List (Nat × ObjectKey))) (s : BulkStager)
    (hup : w.switch.channelLost = false) :
    ∃ s' w' noted, sendChunks removes parts s w = (.ok (), s', w') ∧ s'.type = s.type ∧
      Watches (· = s.type) w w' noted ∧
      ∀ u ∈ parts.flatten, ∃ r ∈ noted, r.type = s.type ∧ u.2 ∈ r.keys := by
  induction parts generalizing s w with
  | nil => exact ⟨s, w, [], rfl, rfl, .refl, nofun⟩
  | cons chunk rest ih =>
    obtain ⟨answers, w₁, hsend, hfirst⟩ := bulkRemove_watches hup s.type (chunk.map Prod.snd)
    obtain ⟨s', w', noted, hrest, htype, hwatches, hkeys⟩ :=
      ih (s.replace (removes (δ := WatchedSwitch).updates chunk answers)) (hfirst.up hup)
    refine ⟨s', w', ⟨s.type, chunk.map Prod.snd, w.switch⟩ :: noted, ?_, htype,
      hfirst.trans hwatches, ?_⟩
    · have hsent : removes.send s.type (chunk.map Prod.snd) w = (.ok answers, w₁) := hsend
      simp only [sendChunks, hsent]
      exact hrest
    · intro u hu
      rw [List.flatten_cons, List.mem_append] at hu
      rcases hu with hu | hu
      · exact ⟨_, List.mem_cons_self .., rfl, List.mem_map_of_mem hu⟩
      · obtain ⟨r, hr, hrtype, hkey⟩ := hkeys u hu
        exact ⟨r, List.mem_cons_of_mem _ hr, hrtype, hkey⟩

theorem sendChunks_creates (parts : List (List (Nat × CreateRequest))) (s : BulkStager)
    (hup : w.switch.channelLost = false) :
    ∃ s' w', sendChunks creates parts s w = (.ok (), s', w') ∧
      Watches (· = s.type) w w' [] := by
  induction parts generalizing s w with
  | nil => exact ⟨s, w, rfl, .refl⟩
  | cons chunk rest ih =>
    obtain ⟨answers, w₁, hsend, hfirst⟩ := bulkCreate_watches hup s.type (chunk.map Prod.snd)
    obtain ⟨s', w', hrest, hwatches⟩ :=
      ih (s.replace (creates (δ := WatchedSwitch).updates chunk answers)) (hfirst.up hup)
    refine ⟨s', w', ?_, hfirst.trans hwatches⟩
    have hsent : creates.send s.type (chunk.map Prod.snd) w = (.ok answers, w₁) := hsend
    simp only [sendChunks, hsent]
    exact hrest

/-- A flush sends a remove request for every slot that asks for one. -/
theorem flush_watches (s : BulkStager) (hup : w.switch.channelLost = false) :
    ∃ s' w' noted, s.flush w = (.ok (), s', w') ∧ Watches (· = s.type) w w' noted ∧
      ∀ key, .remove key none ∈ s.slots → ∃ r ∈ noted, r.type = s.type ∧ key ∈ r.keys := by
  obtain ⟨s₁, w₁, noted, hremoves, htype, hfirst, hkeys⟩ :=
    sendChunks_removes (chunks s.maxBulkSize (s.selected Slot.openRemove?)) s hup
  obtain ⟨s₂, w₂, hcreates, hsecond⟩ :=
    sendChunks_creates (chunks s₁.maxBulkSize (s₁.selected Slot.openCreate?)) s₁ (hfirst.up hup)
  rw [htype] at hsecond
  refine ⟨s₂, w₂, noted, ?_, by simpa using hfirst.trans hsecond, fun key hkey => ?_⟩
  · have hsent : sendAll removes s w = (.ok (), s₁, w₁) := hremoves
    rw [flush, hsent]
    exact hcreates
  · obtain ⟨i, hi⟩ := List.mem_iff_getElem?.1 hkey
    refine hkeys (i, key) ?_
    rw [chunks_flatten s.maxBulkSize_pos]
    exact mem_selected.2 ⟨_, hi, rfl⟩

end BulkStager

end DashAgent
