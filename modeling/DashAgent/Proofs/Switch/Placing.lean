import DashAgent.Change.Entry
import DashAgent.Proofs.Switch.Ample
import DashAgent.Proofs.Switch.Ledger
import DashAgent.Proofs.Switch.Settings

/-!
# Creates without removes

A flush of creates takes nothing away: afterwards the switch holds what it held before and what the
creates put in place, each granted create the object that it asked for. Objects of other types and
all settings stay. Main theorems: `BulkStager.flush_places`, `BulkStager.Ordered.placed`.
-/
namespace DashAgent

namespace Simulator

/-- The switch answers, its objects are in order, and no statuses are queued. -/
def Faultless (s : Simulator) : Prop := s.Sound fun _ => False

/-- What requests for objects of some types leave of a switch without faults. -/
structure Gains (touched : ObjectType → Prop) (s s' : Simulator) : Prop where
  faultless : s'.Faultless
  settings : s'.settings = s.settings
  others : ∀ type, ¬touched type → s'.objects type = s.objects type

namespace Gains

variable {touched touched' : ObjectType → Prop} {s s' s'' : Simulator}

theorem refl (h : s.Faultless) : Gains touched s s := ⟨h, rfl, fun _ _ => rfl⟩

theorem trans (h : Gains touched s s') (h' : Gains touched s' s'') : Gains touched s s'' :=
  ⟨h'.faultless, h'.settings.trans h.settings,
    fun type hnot => (h'.others type hnot).trans (h.others type hnot)⟩

theorem mono (h : Gains touched s s') (hle : ∀ type, touched type → touched' type) :
    Gains touched' s s' :=
  ⟨h.faultless, h.settings, fun type hnot => h.others type fun htouched => hnot (hle type htouched)⟩

end Gains

/-- An ample switch without objects is without faults. -/
theorem faultless_of_empty {s : Simulator} {n : Nat} (hempty : ∀ type, s.objects type = [])
    (h : s.Ample n) : s.Faultless where
  up := (h .vnet).up
  queued type status hstatus := by
    rw [(h type).unforced] at hstatus
    cases hstatus
  nodup type := by
    rw [hempty type]
    exact List.nodup_nil
  issued type id hid := by
    rw [hempty type] at hid
    cases hid

end Simulator

/-- The slot is a create that waits, or was settled from the start. -/
def Slot.Places : Slot → Prop
  | create _ none | settled _ => True
  | create _ (some _) | remove .. => False

namespace BulkStager

open Simulator

section Flush

variable {s s' : BulkStager} {d d' : Simulator}

theorem unanswered_of_places (h : ∀ slot ∈ s.slots, slot.Places) : s.Unanswered := by
  intro slot hslot
  have hplaces := h slot hslot
  cases slot with
  | create request answer =>
    cases answer with
    | none => rfl
    | some answer => cases hplaces
  | remove key answer => cases hplaces
  | settled status => rfl

/-- Slots come from slots that ask for the same. -/
theorem Told.asked (h : Told s d s' d') {i : Nat} {slot' : Slot}
    (hslot : s'.slots[i]? = some slot') :
    ∃ slot, s.slots[i]? = some slot ∧ slot.question = slot'.question := by
  have hquestion := congrArg (·[i]?) h.questions.symm
  simpa only [List.getElem?_map, hslot, Option.map_some, Option.map_eq_some_iff] using hquestion

/-- Where nothing was to be removed, nothing is taken away. -/
theorem Told.untaken (h : Told s d s' d') (hplaces : ∀ slot ∈ s.slots, slot.Places) (i : Nat) :
    s'.taken? i = none := by
  rw [taken?]
  cases hslot' : s'.slots[i]? with
  | none => rfl
  | some slot' =>
    obtain ⟨slot, hslot, hquestion⟩ := h.asked hslot'
    have hplace := hplaces slot (List.mem_of_getElem? hslot)
    cases slot' with
    | create request answer | settled status => rfl
    | remove key answer =>
      cases slot with
      | create request answer | settled status => cases hquestion
      | remove key answer => cases hplace

/-- A flush of creates, each of which is granted. -/
structure Placed (s : BulkStager) (d : Simulator) (s' : BulkStager) (d' : Simulator) : Prop where
  told : Told s d s' d'
  untaken : ∀ i, s'.taken? i = none
  grants : ∀ {kind allocates position}, s.Awaits kind allocates position →
    s'.Grants kind allocates position
  gains : Gains (· = s.type) d d'
  numbers : d'.nextId.toNat ≤ 2 ^ 48
  type : s'.type = s.type

theorem Placed.objects (h : Placed s d s' d') (k : ObjectKey) :
    k ∈ d'.objects s.type ↔ k ∈ d.objects s.type ∨ ∃ i, s'.given? i = some k := by
  rw [h.told.objects]
  simp [h.untaken]

/-- A flush of creates puts objects of one type in place. -/
theorem flush_places {k n : Nat} (hplaces : ∀ slot ∈ s.slots, slot.Places) (h : d.Faultless)
    (hcount : s.createCount ≤ k) (hsupplied : d.Supplies s.type (n + k)) :
    ∃ s' d', s.flush d = (.ok (), s', d') ∧ Placed s d s' d' := by
  have hnumbers := hsupplied.numbers
  obtain ⟨s', d', hflush, -, hbooks, hissued⟩ := flush_books front (s := s) (d := d) (n := 0)
    trivial h (unanswered_of_places hplaces) (by change d.nextId.toNat + _ ≤ _; omega) id
    fun _ _ _ => id
  obtain ⟨t', e', hgranted, hshape, -, hslots, -⟩ :=
    flush_granted (hsupplied.mono (Nat.add_le_add_left hcount n))
  obtain ⟨-, hrest⟩ := Prod.mk.inj (hflush.symm.trans hgranted)
  obtain ⟨rfl, rfl⟩ := Prod.mk.inj hrest
  have hsettings := settings_flush s h.up
  rw [hflush] at hsettings
  refine ⟨s', d', hflush, hbooks.toTold, hbooks.toTold.untaken hplaces,
    fun hawaits => grants_of_awaits hawaits hslots, ⟨hbooks.sound, hsettings, fun type hne => ?_⟩,
    ?_, hshape.type⟩
  · exact hbooks.others type fun heq => hne heq.symm
  · change d'.nextId.toNat ≤ d.nextId.toNat + _ at hissued
    omega

/-- On an ample switch the creates take as much as they are. -/
theorem flush_places_ample {k n : Nat} (hplaces : ∀ slot ∈ s.slots, slot.Places) (h : d.Faultless)
    (hcount : s.createCount ≤ k) (hample : d.Ample (n + k)) :
    ∃ s' d', s.flush d = (.ok (), s', d') ∧ Placed s d s' d' ∧ d'.Ample n := by
  obtain ⟨s', d', hflush, hplaced⟩ := flush_places hplaces h hcount (hample s.type)
  obtain ⟨t', e', hflush', -, hleft, -⟩ :=
    flush_ample (hample.mono (Nat.add_le_add_left hcount n))
  obtain ⟨-, hsame⟩ := Prod.mk.inj (hflush.symm.trans hflush')
  obtain ⟨rfl, rfl⟩ := Prod.mk.inj hsame
  exact ⟨s', d', hflush, hplaced, hleft⟩

/-- Creates that name their entries take nothing from other types. -/
theorem HoldsEntries.flush_places {type : ObjectType} {k n : Nat} (hholds : s.HoldsEntries type k)
    (hplaces : ∀ slot ∈ s.slots, slot.Places) (h : d.Faultless)
    (hsupplied : d.Supplies type (n + k)) :
    ∃ s' d', s.flush d = (.ok (), s', d') ∧ Placed s d s' d' ∧ d'.Supplies type n ∧
      ∀ {other m}, type ≠ other → d.Supplies other m → d'.Supplies other m := by
  obtain ⟨s', d', hflush, hplaced⟩ :=
    BulkStager.flush_places hplaces h hholds.creates (hholds.type ▸ hsupplied)
  obtain ⟨t', e', hflush', -, hleft, -, hothers⟩ := hholds.flush hsupplied
  obtain ⟨-, hsame⟩ := Prod.mk.inj (hflush.symm.trans hflush')
  obtain ⟨rfl, rfl⟩ := Prod.mk.inj hsame
  exact ⟨s', d', hflush, hplaced, hleft, hothers⟩

end Flush

section Granted

variable {s s' : BulkStager} {d d' : Simulator} {i : Nat} {request : CreateRequest}

/-- A granted create was answered. -/
theorem Told.granted {allocates : Bool} (h : Told s d s' d')
    (hslot : s.slots[i]? = some (.create request none))
    (hgrants : s'.Grants .create allocates i) :
    ∃ answer : CreateAnswer, s'.slots[i]? = some (.create request (some answer)) ∧
      Decision.ofStatus .create answer.status = .commit := by
  obtain ⟨answer, hslot'⟩ := h.slot_create hslot
  have hcommit := hgrants.1
  cases answer with
  | none =>
    have hopen : s'.outcome i = .notExecuted := by simp [outcome, status?, hslot', Slot.status?]
    rw [hopen] at hcommit
    exact absurd hcommit (by decide)
  | some answer =>
    have houtcome : s'.outcome i = answer.status := by
      simp [outcome, status?, hslot', Slot.status?]
    exact ⟨answer, hslot', houtcome ▸ hcommit⟩

/-- A granted create of an entry puts it in place. -/
theorem Placed.given_entry (h : Placed s d s' d')
    (hslot : s.slots[i]? = some (.create request none)) {key : String}
    (hentry : request.entry = some key) : s'.given? i = some (.entry key) := by
  have hawaits : s.Awaits .create false i := ⟨_, hslot, rfl, by simp⟩
  obtain ⟨answer, hslot', hcommit⟩ := h.told.granted hslot (h.grants hawaits)
  simp [given?, hslot', Slot.given?, CreateAnswer.key?, hcommit, hentry]

/-- A granted create without an entry puts the object of a new identifier in place. -/
theorem Placed.given_oid (h : Placed s d s' d') (hissued : d.Issuing)
    (hslot : s.slots[i]? = some (.create request none)) (hentry : request.entry = none) :
    ∃ id, s'.objectId? i = some id ∧ id ≠ 0 ∧ s'.given? i = some (.oid id) ∧
      .oid id ∉ d.objects s.type := by
  have hawaits : s.Awaits .create true i := ⟨_, hslot, rfl, fun _ => hentry⟩
  have hgrants := h.grants hawaits
  have hnumbers := h.numbers
  obtain ⟨answer, hslot', hcommit⟩ := h.told.granted hslot hgrants
  obtain ⟨id, hid, hne⟩ := hgrants.2 rfl
  have hgiven : s'.given? i = some (.oid id) := by
    simp only [objectId?, hslot', Option.bind_some, Slot.objectId?] at hid
    simp [given?, hslot', Slot.given?, CreateAnswer.key?, hcommit, hentry, hid]
  refine ⟨id, hid, hne, hgiven, fun hmem => ?_⟩
  obtain ⟨m, hlow, hhigh, rfl⟩ := h.told.fresh i id hgiven
  obtain ⟨m', hold, heq⟩ := hissued s.type _ hmem
  have hinj := issuedId_inj (by omega) (by omega) heq
  omega

end Granted

/-! ## Creates of entries -/

/-- A create that waits asks for the key. -/
def Orders (s : BulkStager) (k : ObjectKey) : Prop :=
  ∃ request key, .create request none ∈ s.slots ∧ request.entry = some key ∧ k = .entry key

theorem Orders.push {s : BulkStager} {k : ObjectKey} (h : s.Orders k) (slot : Slot) :
    (s.push slot).2.Orders k := by
  obtain ⟨request, key, hmem, hentry, hk⟩ := h
  exact ⟨request, key, List.mem_append_left _ hmem, hentry, hk⟩

/-- The slots of a stager are for the entries of some changes, as far as these are not those of
changes that are programmed. -/
structure Ordered (site : Entry → Option ObjectKey) (programmed staged : List Entry)
    (s : BulkStager) : Prop where
  places : ∀ slot ∈ s.slots, slot = .settled .success ∨
    ∃ key attributes, slot = .create ⟨some key, attributes⟩ none
  asked : ∀ k, s.Orders k → ∃ e ∈ staged, site e = some k
  covered : ∀ e ∈ staged, ∃ k, site e = some k ∧ (s.Orders k ∨ ∃ e' ∈ programmed, site e' = some k)

namespace Ordered

variable {site : Entry → Option ObjectKey} {programmed staged : List Entry} {s : BulkStager}
  {e : Entry} {k : ObjectKey}

theorem empty (h : s.slots = []) : Ordered site programmed [] s where
  places slot hslot := by
    rw [h] at hslot
    cases hslot
  asked k hk := by
    obtain ⟨request, key, hmem, -⟩ := hk
    rw [h] at hmem
    cases hmem
  covered := nofun

theorem slotPlaces (h : Ordered site programmed staged s) : ∀ slot ∈ s.slots, slot.Places := by
  intro slot hslot
  obtain rfl | ⟨key, attributes, rfl⟩ := h.places slot hslot <;> trivial

/-- One more change with a create of its own. -/
theorem create (h : Ordered site programmed staged s) {key : String}
    (hsite : site e = some (.entry key)) (attributes : List Attribute) :
    Ordered site programmed (staged ++ [e]) (s.stageCreate ⟨some key, attributes⟩).2 where
  places slot hslot := by
    rcases List.mem_append.1 hslot with hslot | hslot
    · exact h.places slot hslot
    · exact .inr ⟨key, attributes, List.mem_singleton.1 hslot⟩
  asked k hk := by
    obtain ⟨request, key', hmem, hentry, rfl⟩ := hk
    rcases List.mem_append.1 hmem with hmem | hmem
    · obtain ⟨e', he', hsite'⟩ := h.asked _ ⟨request, key', hmem, hentry, rfl⟩
      exact ⟨e', List.mem_append_left _ he', hsite'⟩
    · cases List.mem_singleton.1 hmem
      cases hentry
      exact ⟨e, by simp, hsite⟩
  covered e' he' := by
    rcases List.mem_append.1 he' with he' | he'
    · obtain ⟨k, hk, hcovered⟩ := h.covered e' he'
      exact ⟨k, hk, hcovered.imp_left fun horders => horders.push _⟩
    · cases List.mem_singleton.1 he'
      exact ⟨_, hsite, .inl ⟨_, key, List.mem_append_right _ (List.mem_singleton_self _), rfl, rfl⟩⟩

/-- One more change that shares an entry. -/
theorem share (h : Ordered site programmed staged s) (hsite : site e = some k)
    (hshared : s.Orders k ∨ ∃ e' ∈ programmed, site e' = some k) :
    Ordered site programmed (staged ++ [e]) s where
  places := h.places
  asked k hk := by
    obtain ⟨e', he', hsite'⟩ := h.asked k hk
    exact ⟨e', List.mem_append_left _ he', hsite'⟩
  covered e' he' := by
    rcases List.mem_append.1 he' with he' | he'
    · exact h.covered e' he'
    · cases List.mem_singleton.1 he'
      exact ⟨k, hsite, hshared⟩

/-- A settled slot orders nothing. -/
theorem settle (h : Ordered site programmed staged s) :
    Ordered site programmed staged (s.settle .success).2 where
  places slot hslot := by
    rcases List.mem_append.1 hslot with hslot | hslot
    · exact h.places slot hslot
    · exact .inl (List.mem_singleton.1 hslot)
  asked k hk := by
    obtain ⟨request, key, hmem, hentry, hkey⟩ := hk
    rcases List.mem_append.1 hmem with hmem | hmem
    · exact h.asked k ⟨request, key, hmem, hentry, hkey⟩
    · cases List.mem_singleton.1 hmem
  covered e' he' := by
    obtain ⟨k, hk, hcovered⟩ := h.covered e' he'
    exact ⟨k, hk, hcovered.imp_left fun horders => horders.push _⟩

variable {s' : BulkStager} {d d' : Simulator}

/-- After a flush that grants every create, the switch holds the entries of the programmed and of
the staged changes. -/
theorem placed (h : Ordered site programmed staged s) (hplaced : Placed s d s' d')
    (hobjects : ∀ k, k ∈ d.objects s.type ↔ ∃ e ∈ programmed, site e = some k) (k : ObjectKey) :
    k ∈ d'.objects s.type ↔ ∃ e ∈ programmed ++ staged, site e = some k := by
  have hgiven : (∃ i, s'.given? i = some k) ↔ s.Orders k := by
    constructor
    · rintro ⟨i, hi⟩
      rw [given?] at hi
      cases hslot' : s'.slots[i]? with
      | none => simp [hslot'] at hi
      | some slot' =>
        obtain ⟨slot, hslot, hquestion⟩ := hplaced.told.asked hslot'
        rw [hslot', Option.bind_some] at hi
        obtain rfl | ⟨key, attributes, rfl⟩ := h.places slot (List.mem_of_getElem? hslot)
        · cases slot' <;> cases hquestion
          cases hi
        · cases slot' with
          | remove key' answer | settled status => cases hquestion
          | create request answer =>
            cases hquestion
            refine ⟨_, key, List.mem_of_getElem? hslot, rfl, ?_⟩
            cases answer with
            | none => cases hi
            | some answer =>
              simp only [Slot.given?, CreateAnswer.key?] at hi
              split at hi
              · exact (Option.some.inj hi).symm
              · cases hi
    · rintro ⟨request, key, hmem, hentry, rfl⟩
      obtain ⟨i, hi, hslot⟩ := List.mem_iff_getElem.1 hmem
      have hslot : s.slots[i]? = some (.create request none) := by
        rw [List.getElem?_eq_getElem hi, hslot]
      exact ⟨i, hplaced.given_entry hslot hentry⟩
  rw [hplaced.objects, hgiven, hobjects]
  constructor
  · rintro (⟨e, he, hsite⟩ | horders)
    · exact ⟨e, List.mem_append_left _ he, hsite⟩
    · obtain ⟨e, he, hsite⟩ := h.asked k horders
      exact ⟨e, List.mem_append_right _ he, hsite⟩
  · rintro ⟨e, he, hsite⟩
    rcases List.mem_append.1 he with he | he
    · exact .inl ⟨e, he, hsite⟩
    · obtain ⟨k', hsite', hcovered⟩ := h.covered e he
      cases hsite.symm.trans hsite'
      exact hcovered.symm

end Ordered

end BulkStager

end DashAgent
