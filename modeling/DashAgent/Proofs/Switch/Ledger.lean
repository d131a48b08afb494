import DashAgent.Proofs.Switch.FlushInvariant
import DashAgent.Proofs.Switch.Requests

/-!
# What the switch holds after a flush

A flush may be answered in part and its requests may fail, but on a sound switch the answers tell
what the switch holds afterwards: what it held before, without the keys that a remove took away,
and with the keys that a create put in place. The identifiers among these are new and different.
-/
namespace DashAgent

namespace Slot

def question : Slot → Slot
  | create request _ => create request none
  | remove key _ => remove key none
  | settled status => settled status

/-- The key that an answered create put in place. -/
def given? : Slot → Option ObjectKey
  | create request (some answer) => answer.key? request
  | _ => none

/-- The key that an answered remove took away. -/
def taken? : Slot → Option ObjectKey
  | remove key (some status) => if status.IsGone then some key else none
  | _ => none

end Slot

namespace BulkStager

def given? (s : BulkStager) (i : Nat) : Option ObjectKey := s.slots[i]?.bind Slot.given?

def taken? (s : BulkStager) (i : Nat) : Option ObjectKey := s.slots[i]?.bind Slot.taken?

/-- Nothing was answered yet. -/
def Unanswered (s : BulkStager) : Prop := ∀ slot ∈ s.slots, slot.question = slot

theorem Unanswered.questions {s : BulkStager} (h : s.Unanswered) :
    s.slots.map Slot.question = s.slots :=
  (List.map_congr_left h).trans (List.map_id s.slots)

/-- A slot without an answer tells nothing. -/
theorem Unanswered.untold {s : BulkStager} (h : s.Unanswered) (i : Nat) :
    s.given? i = none ∧ s.taken? i = none := by
  rw [given?, taken?]
  cases hslot : s.slots[i]? with
  | none => exact ⟨rfl, rfl⟩
  | some slot =>
    rw [Option.bind_some, Option.bind_some, ← h slot (List.mem_of_getElem? hslot)]
    cases slot <;> exact ⟨rfl, rfl⟩

/-! ## The books of a flush -/

section Replaced

variable {s : BulkStager} {i : Nat} {before after : Slot}

theorem given?_replace_singleton (hslot : s.slots[i]? = some before) (after : Slot) (j : Nat) :
    (s.replace [(i, after)]).given? j = if i = j then after.given? else s.given? j := by
  rw [given?, getElem?_replace_singleton hslot]
  split <;> rfl

theorem taken?_replace_singleton (hslot : s.slots[i]? = some before) (after : Slot) (j : Nat) :
    (s.replace [(i, after)]).taken? j = if i = j then after.taken? else s.taken? j := by
  rw [taken?, getElem?_replace_singleton hslot]
  split <;> rfl

/-- Slots that wait for a remove are not given anything by its answer. -/
theorem given?_replace_remove {key : ObjectKey} (hslot : s.slots[i]? = some (.remove key none))
    (hnone : ∀ j, s.given? j = none) (answer : Option Status) (j : Nat) :
    (s.replace [(i, .remove key answer)]).given? j = none := by
  rw [given?_replace_singleton hslot]
  split
  · rfl
  · exact hnone j

theorem questions_replace_singleton (hslot : s.slots[i]? = some before)
    (hquestion : after.question = before.question) :
    (s.replace [(i, after)]).slots.map Slot.question = s.slots.map Slot.question := by
  apply List.ext_getElem?
  intro j
  rw [List.getElem?_map, List.getElem?_map, getElem?_replace_singleton hslot]
  split
  · next heq => rw [← heq, hslot, Option.map_some, Option.map_some, hquestion]
  · rfl

end Replaced

open Simulator

structure Told (s₀ : BulkStager) (d₀ : Simulator) (s : BulkStager) (d : Simulator) : Prop where
  questions : s.slots.map Slot.question = s₀.slots.map Slot.question
  objects : ∀ key, key ∈ d.objects s₀.type ↔
    (key ∈ d₀.objects s₀.type ∧ ∀ i, s.taken? i ≠ some key) ∨ ∃ i, s.given? i = some key
  fresh : ∀ i id, s.given? i = some (.oid id) → ∃ m : UInt64,
    d₀.nextId.toNat ≤ m.toNat ∧ m.toNat < d.nextId.toNat ∧ id = issuedId s₀.type m
  distinct : ∀ i j id, s.given? i = some (.oid id) → s.given? j = some (.oid id) → i = j

namespace Told

variable {s₀ s : BulkStager} {d₀ d : Simulator} {i : Nat}

theorem start {s : BulkStager} (hopen : s.Unanswered) (d : Simulator) : Told s d s d := by
  obtain ⟨hgiven, htaken⟩ : (∀ i, s.given? i = none) ∧ ∀ i, s.taken? i = none :=
    ⟨fun i => (hopen.untold i).1, fun i => (hopen.untold i).2⟩
  constructor
  case questions => rfl
  case objects => simp [hgiven, htaken]
  case fresh => simp [hgiven]
  case distinct => simp [hgiven]

/-- Slots keep what they ask for. -/
theorem slot (h : Told s₀ d₀ s d) {slot : Slot} (hslot : s₀.slots[i]? = some slot) :
    ∃ slot', s.slots[i]? = some slot' ∧ slot'.question = slot.question := by
  have hquestion := congrArg (·[i]?) h.questions
  simpa only [List.getElem?_map, hslot, Option.map_some, Option.map_eq_some_iff] using hquestion

theorem slot_create (h : Told s₀ d₀ s d) {request : CreateRequest}
    (hslot : s₀.slots[i]? = some (.create request none)) :
    ∃ answer, s.slots[i]? = some (.create request answer) := by
  obtain ⟨slot, hget, heq⟩ := h.slot hslot
  cases slot with
  | create request' answer =>
    cases heq
    exact ⟨answer, hget⟩
  | remove key answer | settled status => cases heq

theorem slot_remove (h : Told s₀ d₀ s d) {key : ObjectKey}
    (hslot : s₀.slots[i]? = some (.remove key none)) :
    ∃ answer, s.slots[i]? = some (.remove key answer) := by
  obtain ⟨slot, hget, heq⟩ := h.slot hslot
  cases slot with
  | remove key' answer =>
    cases heq
    exact ⟨answer, hget⟩
  | create request answer | settled status => cases heq

theorem slot_settled (h : Told s₀ d₀ s d) {status : Status}
    (hslot : s₀.slots[i]? = some (.settled status)) : s.slots[i]? = some (.settled status) := by
  obtain ⟨slot, hget, heq⟩ := h.slot hslot
  cases slot with
  | settled status' =>
    cases heq
    exact hget
  | create request answer | remove key answer => cases heq

/-- What is told stays true while the objects of the type stay the same. -/
theorem later (h : Told s₀ d₀ s d) {d' : Simulator}
    (hobjects : d'.objects s₀.type = d.objects s₀.type)
    (hnext : d.nextId.toNat ≤ d'.nextId.toNat) : Told s₀ d₀ s d' :=
  { h with
    objects := fun key => by rw [hobjects]; exact h.objects key
    fresh := fun i id hi => by
      obtain ⟨m, hlow, hhigh, heq⟩ := h.fresh i id hi
      exact ⟨m, hlow, by omega, heq⟩ }

/-- No slot is given the identifier of nothing. -/
theorem nonnull (h : Told s₀ d₀ s d) (hnext : d.nextId.toNat ≤ 2 ^ 48) (i : Nat) :
    s.given? i ≠ some (.oid 0) := by
  intro hi
  obtain ⟨m, -, hm, heq⟩ := h.fresh i 0 hi
  exact issuedId_ne_zero s₀.type (by omega) heq.symm

/-- There are no slots but those of the stager. -/
theorem lt_length (h : Told s₀ d₀ s d) {slot : Slot} (hslot : s.slots[i]? = some slot) :
    i < s₀.slots.length := by
  have hlength := congrArg List.length h.questions
  rw [List.length_map, List.length_map] at hlength
  rw [← hlength]
  exact (List.getElem?_eq_some_iff.1 hslot).1

/-- Only slots of the stager put anything in place. -/
theorem lt_of_given (h : Told s₀ d₀ s d) {key : ObjectKey} (hi : s.given? i = some key) :
    i < s₀.slots.length := by
  obtain ⟨slot, hslot, -⟩ := Option.bind_eq_some_iff.1 hi
  exact h.lt_length hslot

/-- Only slots of the stager take anything away. -/
theorem lt_of_taken (h : Told s₀ d₀ s d) {key : ObjectKey} (hi : s.taken? i = some key) :
    i < s₀.slots.length := by
  obtain ⟨slot, hslot, -⟩ := Option.bind_eq_some_iff.1 hi
  exact h.lt_length hslot

end Told

/-- What the switch holds while a stager is flushed, told by the slots answered so far. -/
structure Books (queued : Status → Prop) (s₀ : BulkStager) (d₀ : Simulator) (s : BulkStager)
    (d : Simulator) : Prop extends Told s₀ d₀ s d where
  type : s.type = s₀.type
  sound : d.Sound queued
  others : ∀ other, s₀.type ≠ other → d.objects other = d₀.objects other
  next : d₀.nextId.toNat ≤ d.nextId.toNat

namespace Books

variable {queued : Status → Prop} {s₀ s : BulkStager} {d₀ d : Simulator} {i : Nat}

theorem start {s : BulkStager} {d : Simulator} (hsound : d.Sound queued) (hopen : s.Unanswered) :
    Books queued s d s d where
  toTold := .start hopen d
  type := rfl
  sound := hsound
  others _ _ := rfl
  next := Nat.le_refl _

/-- An answer that puts nothing in place and takes nothing away. -/
theorem void (h : Books queued s₀ d₀ s d) {before after : Slot} (hslot : s.slots[i]? = some before)
    (hquestion : after.question = before.question) (hgiven : after.given? = before.given?)
    (htaken : after.taken? = before.taken?) :
    Books queued s₀ d₀ (s.replace [(i, after)]) d := by
  have hg : ∀ j, (s.replace [(i, after)]).given? j = s.given? j := by
    intro j
    rw [given?_replace_singleton hslot]
    split
    · next heq => rw [hgiven, ← heq, given?, hslot, Option.bind_some]
    · rfl
  have ht : ∀ j, (s.replace [(i, after)]).taken? j = s.taken? j := by
    intro j
    rw [taken?_replace_singleton hslot]
    split
    · next heq => rw [htaken, ← heq, taken?, hslot, Option.bind_some]
    · rfl
  constructor
  case toTold =>
    constructor
    case questions => rw [questions_replace_singleton hslot hquestion, h.questions]
    case objects => simpa only [hg, ht] using h.objects
    case fresh => simpa only [hg] using h.fresh
    case distinct => simpa only [hg] using h.distinct
  case type => exact h.type
  case sound => exact h.sound
  case others => exact h.others
  case next => exact h.next

/-- A remove that was answered, while no create was. -/
theorem remove (h : Books queued s₀ d₀ s d) {key : ObjectKey}
    (hslot : s.slots[i]? = some (.remove key none)) (hnone : ∀ j, s.given? j = none)
    (honest : ¬queued .itemNotFound) :
    Books queued s₀ d₀ (s.replace [(i, .remove key (some (d.removeOne s₀.type key).1))])
      (d.removeOne s₀.type key).2 := by
  have hdone : Removed queued s₀.type key d _ _ := h.sound.removeOne honest key
  generalize d.removeOne s₀.type key = answer at hdone ⊢
  obtain ⟨status, d'⟩ := answer
  have hgiven := given?_replace_remove hslot hnone (some status)
  have htaken := taken?_replace_singleton hslot (.remove key (some status))
  have hquestions : (s.replace [(i, .remove key (some status))]).slots.map Slot.question = _ :=
    questions_replace_singleton hslot rfl
  constructor
  case toTold =>
    constructor
    case questions => exact hquestions.trans h.questions
    case objects =>
      intro key'
      rw [hdone.objects, h.objects]
      simp only [hgiven, hnone, reduceCtorEq, exists_false, or_false]
      have hopen : s.taken? i = none := by rw [taken?, hslot]; rfl
      constructor
      · rintro ⟨⟨hmem, hkept⟩, hnot⟩
        refine ⟨hmem, fun j => ?_⟩
        rw [htaken]
        split
        · simpa [Slot.taken?, eq_comm] using hnot
        · exact hkept j
      · rintro ⟨hmem, hkept⟩
        refine ⟨⟨hmem, fun j => ?_⟩, ?_⟩
        · have hj := hkept j
          rw [htaken] at hj
          split at hj
          · next heq => simp [← heq, hopen]
          · exact hj
        · have hi := hkept i
          rw [htaken, if_pos rfl] at hi
          simpa [Slot.taken?, eq_comm] using hi
    case fresh => simp [hgiven]
    case distinct => simp [hgiven]
  case type => exact h.type
  case sound => exact hdone.sound
  case others => exact fun other hne => (hdone.others other hne).trans (h.others other hne)
  case next => rw [hdone.unchanged]; exact h.next

/-- A create that was answered, while there are numbers left. -/
theorem create (h : Books queued s₀ d₀ s d) {request : CreateRequest}
    (hslot : s.slots[i]? = some (.create request none)) (hnumbers : d.nextId.toNat < 2 ^ 48)
    (honest : request.entry ≠ none → ¬queued .itemAlreadyExists) :
    Books queued s₀ d₀ (s.replace [(i, .create request (some (d.createOne s₀.type request).1))])
      (d.createOne s₀.type request).2 := by
  have hdone : Created queued s₀.type request d _ _ := h.sound.createOne (by omega) honest
  generalize d.createOne s₀.type request = answer at hdone ⊢
  obtain ⟨answer, d'⟩ := answer
  have hgiven := given?_replace_singleton hslot (.create request (some answer))
  have hquestions : (s.replace [(i, .create request (some answer))]).slots.map Slot.question = _ :=
    questions_replace_singleton hslot rfl
  have hopen : s.given? i = none := by rw [given?, hslot]; rfl
  have htaken : ∀ j, (s.replace [(i, .create request (some answer))]).taken? j = s.taken? j := by
    intro j
    rw [taken?_replace_singleton hslot]
    split
    · next heq => rw [← heq, taken?, hslot]; rfl
    · rfl
  have hnew : ∀ id, answer.key? request = some (.oid id) → ∀ j, s.given? j ≠ some (.oid id) := by
    intro id hid j hj
    obtain ⟨m, -, hm, heq⟩ := h.fresh j id hj
    have hinj := issuedId_inj (n := d.nextId) (by omega) hnumbers
      (heq.symm.trans (hdone.issued id hid).1)
    omega
  have hnext := hdone.next
  have hstart := h.next
  constructor
  case toTold =>
    constructor
    case questions => exact hquestions.trans h.questions
    case objects =>
      intro key
      rw [hdone.objects, h.objects, or_assoc]
      simp only [htaken, hgiven]
      refine or_congr_right ⟨?_, ?_⟩
      · rintro (⟨j, hj⟩ | hkey)
        · refine ⟨j, ?_⟩
          rw [if_neg ?_]
          · exact hj
          · rintro rfl
            simp [hopen] at hj
        · exact ⟨i, by simpa [Slot.given?] using hkey⟩
      · rintro ⟨j, hj⟩
        split at hj
        · exact .inr hj
        · exact .inl ⟨j, hj⟩
    case fresh =>
      intro j id hj
      rw [hgiven] at hj
      split at hj
      · obtain ⟨hid, hlt⟩ := hdone.issued id hj
        exact ⟨d.nextId, hstart, hlt, hid⟩
      · obtain ⟨m, hlow, hhigh, hid⟩ := h.fresh j id hj
        exact ⟨m, hlow, by omega, hid⟩
    case distinct =>
      intro j k id hj hk
      rw [hgiven] at hj hk
      split at hj <;> split at hk
      · next hij hik => exact hij.symm.trans hik
      · exact absurd hk (hnew id hj k)
      · exact absurd hj (hnew id hk j)
      · exact h.distinct j k id hj hk
  case type => exact h.type
  case sound => exact hdone.sound
  case others => exact fun other hne => (hdone.others other hne).trans (h.others other hne)
  case next => omega

theorem called (h : Books queued s₀ d₀ s d) : Books queued s₀ d₀ s d.called :=
  { h with sound := ⟨h.sound.up, h.sound.queued, h.sound.nodup, h.sound.issued⟩ }

end Books

/-! ## Flushes -/

section Flush

variable {queued : Status → Prop} {s₀ : BulkStager} {d₀ : Simulator}

/-- While removes are sent, no create was answered yet and no identifier issued. -/
structure WhileRemoving (queued : Status → Prop) (s₀ : BulkStager) (d₀ : Simulator)
    (s : BulkStager) (d : Simulator) : Prop where
  books : Books queued s₀ d₀ s d
  given : ∀ j, s.given? j = none
  next : d.nextId = d₀.nextId
  creates : s.createCount = s₀.createCount

/-- While creates are sent, every create so far used up one number at most. -/
structure WhileCreating (queued : Status → Prop) (s₀ : BulkStager) (d₀ : Simulator) (n : Nat)
    (s : BulkStager) (d : Simulator) : Prop where
  books : Books queued s₀ d₀ s d
  numbers : d.nextId.toNat + n ≤ d₀.nextId.toNat + s₀.createCount

/-- A flush keeps the books, if there are numbers for its creates and no queued status pretends that
an object is gone, or that an entry is there. -/
theorem ledger (hgone : ¬queued .itemNotFound)
    (hthere : ∀ request, .create request none ∈ s₀.slots.map Slot.question →
      request.entry ≠ none → ¬queued .itemAlreadyExists)
    (hnumbers : d₀.nextId.toNat + s₀.createCount ≤ 2 ^ 48) :
    FlushInvariant s₀.type (WhileRemoving queued s₀ d₀) (WhileCreating queued s₀ d₀) where
  removing_up h := ⟨h.books.type, h.books.sound.up⟩
  removing_called h := ⟨h.books.called, h.given, h.next, h.creates⟩
  remove {s d i key} h hslot := by
    have hdone : Removed queued s₀.type key d _ _ := h.books.sound.removeOne hgone key
    exact ⟨h.books.remove hslot h.given hgone, given?_replace_remove hslot h.given _,
      hdone.unchanged.trans h.next, (createCount_replace_remove hslot _).trans h.creates⟩
  removeMissed h hslot :=
    ⟨h.books.void hslot rfl rfl rfl, given?_replace_remove hslot h.given _, h.next,
      (createCount_replace_remove hslot _).trans h.creates⟩
  turn h := ⟨h.books, Nat.le_of_eq (by rw [h.next, h.creates])⟩
  creating_up h := ⟨h.books.type, h.books.sound.up⟩
  creating_called h := ⟨h.books.called, h.numbers⟩
  create {n s d i request} h hslot := by
    have hasked : .create request none ∈ s₀.slots.map Slot.question := by
      rw [← h.books.questions]
      exact List.mem_map.2 ⟨_, List.mem_of_getElem? hslot, rfl⟩
    have hleft := h.numbers
    have hdone : Created queued s₀.type request d _ _ :=
      h.books.sound.createOne (by omega) (hthere request hasked)
    have hnext := hdone.next
    exact ⟨h.books.create hslot (by omega) (hthere request hasked), by omega⟩
  createMissed {n s d i request} h hslot := by
    have hleft := h.numbers
    have hretry : Decision.ofStatus .create .notExecuted ≠ .commit := by decide
    have hgiven : Slot.given? (.create request (some (.failed .notExecuted))) = none := by
      simp [Slot.given?, CreateAnswer.key?, CreateAnswer.failed, hretry]
    exact ⟨h.books.void hslot rfl hgiven rfl, by omega⟩

/-- A flush through a front is answered, and the slots tell what the switch holds. -/
theorem flush_books {δ : Type} [Driver δ] (F : Front δ) {s : BulkStager} {d : δ} {n : Nat}
    (hready : F.ready (n + s.createCount) d) (hsound : (F.switch d).Sound queued)
    (hopen : s.Unanswered) (hnumbers : (F.switch d).nextId.toNat + s.createCount ≤ 2 ^ 48)
    (hgone : ¬queued .itemNotFound)
    (hthere : ∀ request, .create request none ∈ s.slots → request.entry ≠ none →
      ¬queued .itemAlreadyExists) :
    ∃ s' d', s.flush d = (.ok (), s', d') ∧ F.ready n d' ∧
      Books queued s (F.switch d) s' (F.switch d') ∧
      (F.switch d').nextId.toNat ≤ (F.switch d).nextId.toNat + s.createCount := by
  rw [← hopen.questions] at hthere
  have hstart : WhileRemoving queued s (F.switch d) s (F.switch d) :=
    ⟨Books.start hsound hopen, fun j => (hopen.untold j).1, rfl, rfl⟩
  obtain ⟨s', d', hflush, hready', hend⟩ :=
    (ledger hgone hthere hnumbers).flush F hready hstart
  exact ⟨s', d', hflush, hready', hend.books, hend.numbers⟩

end Flush

end BulkStager

end DashAgent
