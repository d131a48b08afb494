import DashAgent.Proofs.Switch.Ledger
import DashAgent.Switch.FaultGate

/-!
# A switch behind a gate

A gate that neither cuts the channel nor hides identifiers hands its requests on, all of them or the
first ones of a call, and records every call. The record tells how many creates the switch was asked
for at most, and so how many identifiers it has issued.
-/
namespace DashAgent

def BulkCall.creates : BulkCall → Nat
  | create _ requests => requests.length
  | remove .. => 0

namespace FaultGate

def creates (g : FaultGate) : Nat := (g.calls.map BulkCall.creates).sum

/-- The gate lets calls through and their identifiers back. -/
structure Passing (g : FaultGate) : Prop where
  lasting : g.faults.lostAfter = none
  visible : g.faults.nullIds = false

def recorded (g : FaultGate) (call : BulkCall) : FaultGate := { g with calls := g.calls ++ [call] }

theorem creates_recorded (g : FaultGate) (call : BulkCall) :
    (g.recorded call).creates = g.creates + call.creates := by
  simp [creates, recorded]

theorem passedOn_eq_take {α : Type} (g : FaultGate) (requests : List α) :
    ∃ served, g.passedOn requests = requests.take served := by
  unfold passedOn
  split
  · exact ⟨requests.length, by rw [List.take_length]⟩
  · exact ⟨_, rfl⟩

section Calls

variable {g : FaultGate}

theorem receive_eq (h : g.Passing) (call : BulkCall) : g.receive call = g.recorded call := by
  simp only [receive, h.lasting]
  rfl

theorem bulkCreate_eq (h : g.Passing) (hup : g.switch.channelLost = false) (type : ObjectType)
    (requests : List CreateRequest) : ∃ served, Driver.bulkCreate type requests g =
      (.ok (Simulator.createAll type (requests.take served) g.switch.called).1,
        { g.recorded (.create type requests) with
          switch := (Simulator.createAll type (requests.take served) g.switch.called).2 }) := by
  have hcall : ∀ g', g.receive (.create type requests) = g' → Driver.bulkCreate type requests g =
      ((Driver.bulkCreate type (g'.passedOn requests) g'.switch).1.map fun answers =>
          if g'.faults.nullIds then answers.map withNullId else answers,
        { g' with switch := (Driver.bulkCreate type (g'.passedOn requests) g'.switch).2 }) := by
    rintro _ rfl
    rfl
  obtain ⟨served, hserved⟩ := passedOn_eq_take (g.recorded (.create type requests)) requests
  have hanswer : Driver.bulkCreate type _ g.switch = _ :=
    Simulator.bulkCreate_eq hup (requests.take served)
  have hvisible : (g.recorded (.create type requests)).faults.nullIds = false := h.visible
  refine ⟨served, ?_⟩
  rw [hcall _ (receive_eq h _), hserved,
    show (g.recorded (.create type requests)).switch = g.switch from rfl, hanswer]
  simp only [hvisible, Bool.false_eq_true, if_false]
  rfl

theorem bulkRemove_eq (h : g.Passing) (hup : g.switch.channelLost = false) (type : ObjectType)
    (keys : List ObjectKey) : ∃ served, Driver.bulkRemove type keys g =
      (.ok (Simulator.removeAll type (keys.take served) g.switch.called).1,
        { g.recorded (.remove type keys) with
          switch := (Simulator.removeAll type (keys.take served) g.switch.called).2 }) := by
  have hcall : ∀ g', g.receive (.remove type keys) = g' → Driver.bulkRemove type keys g =
      ((Driver.bulkRemove type (g'.passedOn keys) g'.switch).1,
        { g' with switch := (Driver.bulkRemove type (g'.passedOn keys) g'.switch).2 }) := by
    rintro _ rfl
    rfl
  obtain ⟨served, hserved⟩ := passedOn_eq_take (g.recorded (.remove type keys)) keys
  have hanswer : Driver.bulkRemove type _ g.switch = _ :=
    Simulator.bulkRemove_eq hup (keys.take served)
  refine ⟨served, ?_⟩
  rw [hcall _ (receive_eq h _), hserved,
    show (g.recorded (.remove type keys)).switch = g.switch from rfl, hanswer]
  rfl

end Calls

/-- A gate as a front of its switch, with so many creates in total. -/
def front (total : Nat) : Front FaultGate where
  switch g := g.switch
  ready n g := g.Passing ∧ g.creates + n = total
  create {n g} type requests hready hup := by
    obtain ⟨hpassing, htotal⟩ := hready
    obtain ⟨served, hcall⟩ := bulkCreate_eq hpassing hup type requests
    refine ⟨served, _, hcall, rfl, ⟨hpassing.lasting, hpassing.visible⟩, ?_⟩
    change (g.recorded (.create type requests)).creates + n = total
    rw [creates_recorded, BulkCall.creates]
    omega
  remove {n g} type keys hready hup := by
    obtain ⟨hpassing, htotal⟩ := hready
    obtain ⟨served, hcall⟩ := bulkRemove_eq hpassing hup type keys
    refine ⟨served, _, hcall, rfl, ⟨hpassing.lasting, hpassing.visible⟩, ?_⟩
    change (g.recorded (.remove type keys)).creates + n = total
    rw [creates_recorded, BulkCall.creates]
    omega

end FaultGate

namespace Simulator

theorem channelLost_createOne (type : ObjectType) (request : CreateRequest) (s : Simulator) :
    (s.createOne type request).2.channelLost = s.channelLost := by
  unfold createOne
  repeat' split
  all_goals rfl

theorem channelLost_removeOne (type : ObjectType) (key : ObjectKey) (s : Simulator) :
    (s.removeOne type key).2.channelLost = s.channelLost := by
  unfold removeOne
  split <;> rfl

end Simulator

/-! ## Flushes -/

namespace BulkStager

/-- Whatever is answered, the channel stays up during a flush. -/
theorem upkeep (type : ObjectType) :
    FlushInvariant type (fun s d => s.type = type ∧ d.channelLost = false)
      (fun _ s d => s.type = type ∧ d.channelLost = false) where
  removing_up h := h
  removing_called h := h
  remove h _ := ⟨h.1, (Simulator.channelLost_removeOne ..).trans h.2⟩
  removeMissed h _ := h
  turn h := h
  creating_up h := h
  creating_called h := h
  create h _ := ⟨h.1, (Simulator.channelLost_createOne ..).trans h.2⟩
  createMissed h _ := h

/-- What a flush keeps of a sound switch, whatever statuses are queued. -/
structure Carried (queued : Status → Prop) (type : ObjectType) (d₀ d : Simulator) : Prop where
  sound : d.Sound queued
  others : ∀ other, type ≠ other → d.objects other = d₀.objects other
  next : d₀.nextId.toNat ≤ d.nextId.toNat

theorem Carried.moved {queued : Status → Prop} {type : ObjectType} {d₀ d d' : Simulator}
    (h : Carried queued type d₀ d) (hmoved : Simulator.Moved queued type d d') :
    Carried queued type d₀ d' where
  sound := hmoved.sound
  others other hne := (hmoved.others other hne).trans (h.others other hne)
  next := Nat.le_trans h.next hmoved.next.1

theorem Carried.called {queued : Status → Prop} {type : ObjectType} {d₀ d : Simulator}
    (h : Carried queued type d₀ d) : Carried queued type d₀ d.called :=
  { h with sound := ⟨h.sound.up, h.sound.queued, h.sound.nodup, h.sound.issued⟩ }

/-- A flush keeps a switch sound, as long as there are numbers up to the given one. -/
theorem carrying (queued : Status → Prop) (type : ObjectType) (d₀ : Simulator) {last : Nat}
    (hlast : last < 2 ^ 64) : FlushInvariant type
      (fun s d => s.type = type ∧ Carried queued type d₀ d ∧
        d.nextId.toNat + s.createCount ≤ last)
      (fun n s d => s.type = type ∧ Carried queued type d₀ d ∧ d.nextId.toNat + n ≤ last) where
  removing_up h := ⟨h.1, h.2.1.sound.up⟩
  removing_called h := ⟨h.1, h.2.1.called, h.2.2⟩
  remove {s d i key} h hslot := by
    obtain ⟨hmoved, hnext⟩ := h.2.1.sound.moved_removeOne type key
    refine ⟨h.1, h.2.1.moved hmoved, ?_⟩
    rw [hnext, createCount_replace_remove hslot]
    exact h.2.2
  removeMissed h hslot := ⟨h.1, h.2.1, by rw [createCount_replace_remove hslot]; exact h.2.2⟩
  turn h := h
  creating_up h := ⟨h.1, h.2.1.sound.up⟩
  creating_called h := ⟨h.1, h.2.1.called, h.2.2⟩
  create {n s d i request} h _ := by
    obtain ⟨htype, hcarried, hnumbers⟩ := h
    have hmoved : Simulator.Moved queued type d (d.createOne type request).2 :=
      hcarried.sound.moved_createOne (by omega)
    have hnext := hmoved.next
    exact ⟨htype, hcarried.moved hmoved, by omega⟩
  createMissed h _ := ⟨h.1, h.2.1, by have := h.2.2; omega⟩

end BulkStager

namespace FaultGate

/-- Calls get through the gate and are answered. -/
structure Open (g : FaultGate) : Prop extends g.Passing where
  up : g.switch.channelLost = false

/-- The gate is open, its switch is sound, and no more identifiers were issued than the record of
calls asks for. -/
structure Sound (queued : Status → Prop) (g : FaultGate) : Prop where
  passing : g.Passing
  switch : g.switch.Sound queued
  numbers : g.switch.nextId.toNat ≤ g.creates + 1

/-- What requests about objects of some types may change: with fewer than `2 ^ 48` creates in all,
a sound gate stays so, and its switch holds the same objects of the other types. -/
structure Served (queued : Status → Prop) (touched : ObjectType → Prop) (g g' : FaultGate) :
    Prop where
  opened : g'.Open
  asked : g.creates ≤ g'.creates
  sound : g'.creates < 2 ^ 48 → g.Sound queued → g'.Sound queued
  others : g'.creates < 2 ^ 48 → g.Sound queued → ∀ type, ¬touched type →
    g'.switch.objects type = g.switch.objects type
  next : g'.creates < 2 ^ 48 → g.Sound queued →
    g.switch.nextId.toNat ≤ g'.switch.nextId.toNat

section Served

variable {queued : Status → Prop} {touched touched' : ObjectType → Prop} {g g' g'' : FaultGate}

theorem Served.refl (h : g.Open) : Served queued touched g g where
  opened := h
  asked := Nat.le_refl _
  sound _ hsound := hsound
  others _ _ _ _ := rfl
  next _ _ := Nat.le_refl _

theorem Served.trans (h : Served queued touched g g') (h' : Served queued touched' g' g'') :
    Served queued (fun type => touched type ∨ touched' type) g g'' := by
  have hasked := h'.asked
  constructor
  case opened => exact h'.opened
  case asked => exact Nat.le_trans h.asked hasked
  case sound =>
    intro hcreates hsound
    exact h'.sound hcreates (h.sound (by omega) hsound)
  case others =>
    intro hcreates hsound type htype
    rw [h'.others hcreates (h.sound (by omega) hsound) type fun ht => htype (.inr ht),
      h.others (by omega) hsound type fun ht => htype (.inl ht)]
  case next =>
    intro hcreates hsound
    exact Nat.le_trans (h.next (by omega) hsound) (h'.next hcreates (h.sound (by omega) hsound))

end Served

variable {queued : Status → Prop} {g : FaultGate} {s : BulkStager}

/-- A flush through an open gate is answered and asks for the creates of the stager. -/
theorem Open.flush (h : g.Open) (s : BulkStager) : ∃ s' g', s.flush g = (.ok (), s', g') ∧
    g'.Open ∧ g'.creates = g.creates + s.createCount := by
  obtain ⟨s', g', hflush, ⟨hpassing, htotal⟩, hup⟩ := (BulkStager.upkeep s.type).flush
    (front (g.creates + s.createCount)) (n := 0) ⟨h.toPassing, by omega⟩ ⟨rfl, h.up⟩
  exact ⟨s', g', hflush, ⟨hpassing, hup.2⟩, htotal⟩

/-- A flush through an open gate touches the objects of its type only. -/
theorem Open.served_flush (h : g.Open) (queued : Status → Prop) (s : BulkStager) :
    Served queued (· = s.type) g (s.flush g).2.2 := by
  obtain ⟨s', g', hflush, hopen, hasked⟩ := h.flush s
  rw [hflush]
  have hcarried : g'.creates < 2 ^ 48 → g.Sound queued →
      BulkStager.Carried queued s.type g.switch g'.switch ∧ g'.Sound queued := by
    intro hcreates hsound
    have hnumbers := hsound.numbers
    have hlast : g.switch.nextId.toNat + s.createCount < 2 ^ 64 := by omega
    obtain ⟨_, _, hflush', -, -, hcarried, hnext⟩ :=
      (BulkStager.carrying queued s.type g.switch hlast).flush
        (front (g.creates + s.createCount)) (n := 0) ⟨h.toPassing, by omega⟩
        ⟨rfl, ⟨hsound.switch, fun _ _ => rfl, Nat.le_refl _⟩, Nat.le_refl _⟩
    rw [hflush] at hflush'
    cases hflush'
    change g'.switch.nextId.toNat + 0 ≤ _ at hnext
    exact ⟨hcarried, hopen.toPassing, hcarried.sound, by omega⟩
  constructor
  case opened => exact hopen
  case asked => exact Nat.le.intro hasked.symm
  case sound => exact fun hcreates hsound => (hcarried hcreates hsound).2
  case others =>
    exact fun hcreates hsound type htype =>
      (hcarried hcreates hsound).1.others type fun heq => htype heq.symm
  case next => exact fun hcreates hsound => (hcarried hcreates hsound).1.next

/-- With fewer than `2 ^ 48` creates in all, the slots of a flush through a sound gate tell what the
switch holds. -/
theorem Open.books_flush (h : g.Open) (hsound : g.Sound queued) (hopen : s.Unanswered)
    (hcreates : (s.flush g).2.2.creates < 2 ^ 48) (hgone : ¬queued .itemNotFound)
    (hthere : ∀ request, .create request none ∈ s.slots → request.entry ≠ none →
      ¬queued .itemAlreadyExists) :
    BulkStager.Books queued s g.switch (s.flush g).2.1 (s.flush g).2.2.switch := by
  obtain ⟨_, _, hflush, -, hasked⟩ := h.flush s
  rw [hflush] at hcreates
  dsimp only at hcreates
  have hnumbers := hsound.numbers
  obtain ⟨s', g', hflush', -, hbooks, -⟩ := BulkStager.flush_books
    (front (g.creates + s.createCount)) (n := 0) ⟨h.toPassing, by omega⟩ hsound.switch hopen
      (by change g.switch.nextId.toNat + _ ≤ _; omega) hgone hthere
  rw [hflush']
  exact hbooks

end FaultGate

end DashAgent
