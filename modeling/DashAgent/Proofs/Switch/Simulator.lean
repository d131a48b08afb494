import DashAgent.Reconcile.Decision
import DashAgent.Switch.Simulator
import Mathlib.Algebra.GroupWithZero.Nat
import Mathlib.Data.List.Forall2

/-!
# A switch that grants requests

A simulated switch with its channel up, no status queued and enough room answers every request so
that it is committed. `Supplies` says for how many more creates of a type that is so. A create
uses up one of them, a remove none, and a type is not touched by requests of another type.
-/
namespace DashAgent

/-- The answer lets a create be committed: the object is there, and where the switch chooses its
identifier, the identifier is given. -/
def CreateAnswer.Grants (request : CreateRequest) (answer : CreateAnswer) : Prop :=
  Decision.ofStatus .create answer.status = .commit ∧
    (request.entry = none → ∃ id, answer.objectId = some id ∧ id ≠ 0)

/-- The status lets the remove of a key be committed: the object is gone. -/
def Status.Grants (_ : ObjectKey) (status : Status) : Prop :=
  Decision.ofStatus .remove status = .commit

theorem ofStatus_success (kind : RequestKind) : Decision.ofStatus kind .success = .commit := by
  simp [Decision.ofStatus, Status.isSuccess]

theorem ofStatus_itemAlreadyExists :
    Decision.ofStatus .create .itemAlreadyExists = .commit := by decide

theorem ofStatus_itemNotFound : Decision.ofStatus .remove .itemNotFound = .commit := by decide

namespace Simulator

def issuedId (type : ObjectType) (n : UInt64) : ObjectId :=
  n ||| (UInt64.ofNat (type.number + 1) <<< 48)

theorem number_lt (type : ObjectType) : type.number + 1 < 2 ^ 16 := by
  cases type <;> decide

/-- The number is the lower part of the identifier. -/
theorem toNat_issuedId (type : ObjectType) {n : UInt64} (h : n.toNat < 2 ^ 48) :
    (issuedId type n).toNat = (type.number + 1) * 2 ^ 48 + n.toNat := by
  have hnumber := number_lt type
  have hshift : (UInt64.ofNat (type.number + 1) <<< 48).toNat = (type.number + 1) <<< 48 := by
    rw [UInt64.toNat_shiftLeft, UInt64.toNat_ofNat']
    have hsmall : (type.number + 1) % 2 ^ 64 = type.number + 1 := Nat.mod_eq_of_lt (by omega)
    rw [hsmall]
    change (type.number + 1) <<< 48 % 2 ^ 64 = _
    rw [Nat.shiftLeft_eq]
    omega
  rw [issuedId, UInt64.toNat_or, hshift, Nat.or_comm, ← Nat.shiftLeft_add_eq_or_of_lt h,
    Nat.shiftLeft_eq]

theorem issuedId_ne_zero (type : ObjectType) {n : UInt64} (h : n.toNat < 2 ^ 48) :
    issuedId type n ≠ 0 := by
  intro hzero
  have hnat := toNat_issuedId type h
  rw [hzero, UInt64.toNat_zero] at hnat
  omega

/-- Different numbers make different identifiers, whatever the types are. -/
theorem issuedId_inj {type type' : ObjectType} {m n : UInt64} (hm : m.toNat < 2 ^ 48)
    (hn : n.toNat < 2 ^ 48) (h : issuedId type m = issuedId type' n) : m.toNat = n.toNat := by
  have hnat := toNat_issuedId type hm
  rw [h, toNat_issuedId type' hn] at hnat
  omega

/-- The switch grants `n` more creates of a type: nothing fails by itself, there is room for their
objects, and there are numbers left for identifiers that no object of the type has. -/
structure Supplies (type : ObjectType) (n : Nat) (s : Simulator) : Prop where
  up : s.channelLost = false
  unforced : (s.pools.get type).forced = []
  room : s.objectCount type + n ≤ s.capacityOf type
  numbers : s.nextId.toNat + n ≤ 2 ^ 48
  issued : ∀ id, .oid id ∈ s.objects type →
    ∃ m : UInt64, m.toNat < s.nextId.toNat ∧ id = issuedId type m

variable {type : ObjectType} {n : Nat} {s : Simulator}

theorem Supplies.mono (h : s.Supplies type n) {m : Nat} (hm : m ≤ n) : s.Supplies type m :=
  { h with
    room := Nat.le_trans (Nat.add_le_add_left hm _) h.room
    numbers := Nat.le_trans (Nat.add_le_add_left hm _) h.numbers }

/-- A counted call changes nothing else. -/
theorem Supplies.called (h : s.Supplies type n) :
    ({ s with bulkCalls := s.bulkCalls + 1 } : Simulator).Supplies type n :=
  ⟨h.up, h.unforced, h.room, h.numbers, h.issued⟩

theorem takeForced_of_nil {p : Pool} (h : p.forced = []) : p.takeForced = (none, p) := by
  unfold Pool.takeForced
  rw [h]

/-- Setting what is there changes nothing. -/
@[simp] theorem set_get (pools : Roster ObjectType Pool) (type : ObjectType) :
    pools.set type (pools.get type) = pools := by
  simp [Roster.set, Roster.get]

/-! ## Creates -/

/-- A key is put into a table that has room, or is there already. -/
theorem add_cases {p : Pool} {size : Nat} (key : ObjectKey) (h : p.objects.length + 1 ≤ size) :
    p.add size key = (.itemAlreadyExists, p) ∧ key ∈ p.objects ∨
      p.add size key = (.success, { p with objects := key :: p.objects }) := by
  unfold Pool.add
  split
  · next hmem => exact .inl ⟨rfl, hmem⟩
  · right
    rw [if_neg (by omega)]

theorem Supplies.toNat_nextId_succ (h : s.Supplies type (n + 1)) :
    (s.nextId + 1).toNat = s.nextId.toNat + 1 := by
  have hnumbers := h.numbers
  rw [UInt64.toNat_add, UInt64.toNat_one]
  omega

/-- The next identifier is not in use. -/
theorem Supplies.freshId_notMem (h : s.Supplies type (n + 1)) :
    .oid (s.freshId type) ∉ s.objects type := by
  intro hmem
  have hnumbers := h.numbers
  obtain ⟨m, hm, heq⟩ := h.issued _ hmem
  have hinj := issuedId_inj (n := s.nextId) (by omega) (by omega) heq.symm
  omega

/-- A table with a new object of the switch's own, and the number of its identifier used up. -/
theorem Supplies.add (h : s.Supplies type (n + 1)) {key : ObjectKey} {nextId : UInt64}
    (hnext : s.nextId.toNat ≤ nextId.toNat ∧ nextId.toNat ≤ s.nextId.toNat + 1)
    (hkey : ∀ id, key = .oid id → ∃ m : UInt64, m.toNat < nextId.toNat ∧ id = issuedId type m) :
    ({ s with
      nextId
      pools := s.pools.set type { s.pools.get type with
        objects := key :: (s.pools.get type).objects } } : Simulator).Supplies type n := by
  have hroom := h.room
  have hnumbers := h.numbers
  refine ⟨h.up, by simpa using h.unforced, ?_, by dsimp only; omega, ?_⟩
  · simp only [objectCount, objects, capacityOf, Roster.get_set_self, List.length_cons] at hroom ⊢
    omega
  · intro id hid
    simp only [objects, Roster.get_set_self, List.mem_cons] at hid
    rcases hid with hid | hid
    · exact hkey id hid.symm
    · obtain ⟨m, hm, heq⟩ := h.issued id hid
      exact ⟨m, by dsimp only; omega, heq⟩

theorem createOne_granted (h : s.Supplies type (n + 1)) (request : CreateRequest) :
    (s.createOne type request).1.Grants request ∧
      (s.createOne type request).2.Supplies type n := by
  have hroom : (s.pools.get type).objects.length + 1 ≤ s.capacityOf type := by
    have hroom := h.room
    simp only [objectCount, objects] at hroom
    omega
  simp only [createOne, takeForced_of_nil h.unforced, set_get]
  cases hentry : request.entry with
  | some key =>
    simp only [addKey]
    obtain ⟨hadd, -⟩ | hadd := add_cases (.entry key) hroom
    · rw [hadd]
      simp only [set_get]
      exact ⟨⟨ofStatus_itemAlreadyExists, by simp [hentry]⟩, h.mono (by omega)⟩
    · rw [hadd]
      exact ⟨⟨ofStatus_success _, by simp [hentry]⟩, h.add (by omega) (by simp)⟩
  | none =>
    have hfresh : s.freshId type = issuedId type s.nextId := rfl
    have hsucc := h.toNat_nextId_succ
    have hnumbers := h.numbers
    simp only [addKey]
    obtain ⟨-, hmem⟩ | hadd := add_cases (.oid (s.freshId type)) hroom
    · exact absurd hmem h.freshId_notMem
    · have hadd' : (s.pools.get type).add ({ s with nextId := s.nextId + 1 }.capacityOf type)
          (.oid (s.freshId type)) = (.success, { s.pools.get type with
            objects := .oid (s.freshId type) :: (s.pools.get type).objects }) := hadd
      simp only [hadd', Status.isSuccess, decide_true, if_true]
      refine ⟨⟨ofStatus_success _, fun _ => ⟨_, rfl, ?_⟩⟩, h.add (by omega) ?_⟩
      · rw [hfresh]
        exact issuedId_ne_zero type (by omega)
      · intro id hid
        cases hid
        exact ⟨s.nextId, by omega, hfresh⟩

/-- Creates that the switch has room for are granted. -/
theorem createAll_granted {requests : List CreateRequest}
    (h : s.Supplies type (n + requests.length)) :
    List.Forall₂ CreateAnswer.Grants requests (createAll type requests s).1 ∧
      (createAll type requests s).2.Supplies type n := by
  induction requests generalizing s with
  | nil => exact ⟨.nil, h⟩
  | cons request rest ih =>
    rw [List.length_cons, ← Nat.add_assoc] at h
    obtain ⟨hfirst, hnext⟩ := createOne_granted h request
    obtain ⟨hrest, hend⟩ := ih hnext
    exact ⟨.cons hfirst hrest, hend⟩

/-! ## Removes -/

theorem removeOne_granted (h : s.Supplies type n) (key : ObjectKey) :
    (s.removeOne type key).1.Grants key ∧ (s.removeOne type key).2.Supplies type n := by
  simp only [removeOne, takeForced_of_nil h.unforced, Pool.take]
  split
  · refine ⟨ofStatus_success _, h.up, by simpa using h.unforced, ?_, h.numbers, ?_⟩
    · have hroom := h.room
      have hle := List.length_erase_le (a := key) (l := (s.pools.get type).objects)
      simp only [objectCount, objects, capacityOf, Roster.get_set_self] at hroom ⊢
      omega
    · intro id hid
      simp only [objects, Roster.get_set_self] at hid
      exact h.issued id (List.mem_of_mem_erase hid)
  · simp only [set_get]
    exact ⟨ofStatus_itemNotFound, h⟩

/-- Every remove is granted. -/
theorem removeAll_granted {keys : List ObjectKey} (h : s.Supplies type n) :
    List.Forall₂ Status.Grants keys (removeAll type keys s).1 ∧
      (removeAll type keys s).2.Supplies type n := by
  induction keys generalizing s with
  | nil => exact ⟨.nil, h⟩
  | cons key rest ih =>
    obtain ⟨hfirst, hnext⟩ := removeOne_granted h key
    obtain ⟨hrest, hend⟩ := ih hnext
    exact ⟨.cons hfirst hrest, hend⟩

/-! ## Other types -/

section Others

variable {other : ObjectType}

/-- A pool of another type does not matter. -/
theorem Supplies.set (h : s.Supplies other n) (hne : type ≠ other) (p : Pool) :
    ({ s with pools := s.pools.set type p } : Simulator).Supplies other n := by
  refine ⟨h.up, ?_, ?_, h.numbers, ?_⟩
  · rw [Roster.get_set_of_ne _ _ hne]
    exact h.unforced
  · have hroom := h.room
    simp only [objectCount, objects, capacityOf, Roster.get_set_of_ne _ _ hne] at hroom ⊢
    exact hroom
  · intro id hid
    simp only [objects, Roster.get_set_of_ne _ _ hne] at hid
    exact h.issued id hid

theorem createOne_other (h : s.Supplies other n) (hne : type ≠ other) {request : CreateRequest}
    (hentry : request.entry ≠ none) : (s.createOne type request).2.Supplies other n := by
  unfold createOne
  split
  · exact h.set hne _
  · split
    · exact (h.set hne _).set hne _
    · next hnone => exact absurd hnone hentry

theorem createAll_other {requests : List CreateRequest} (h : s.Supplies other n)
    (hne : type ≠ other) (hentries : ∀ request ∈ requests, request.entry ≠ none) :
    (createAll type requests s).2.Supplies other n := by
  induction requests generalizing s with
  | nil => exact h
  | cons request rest ih =>
    refine ih (createOne_other h hne (hentries request (List.mem_cons_self ..))) ?_
    intro request' hrequest'
    exact hentries request' (List.mem_cons_of_mem _ hrequest')

theorem removeOne_other (h : s.Supplies other n) (hne : type ≠ other) (key : ObjectKey) :
    (s.removeOne type key).2.Supplies other n := by
  unfold removeOne
  split <;> exact h.set hne _

theorem removeAll_other {keys : List ObjectKey} (h : s.Supplies other n) (hne : type ≠ other) :
    (removeAll type keys s).2.Supplies other n := by
  induction keys generalizing s with
  | nil => exact h
  | cons key rest ih =>
    exact ih (removeOne_other h hne key)

end Others

/-! ## Calls -/

section Calls

theorem bulkCreate_eq (h : s.channelLost = false) (requests : List CreateRequest) :
    Driver.bulkCreate type requests s =
      (.ok (createAll type requests { s with bulkCalls := s.bulkCalls + 1 }).1,
        (createAll type requests { s with bulkCalls := s.bulkCalls + 1 }).2) := by
  simp only [Driver.bulkCreate, h]
  rfl

theorem bulkRemove_eq (h : s.channelLost = false) (keys : List ObjectKey) :
    Driver.bulkRemove type keys s =
      (.ok (removeAll type keys { s with bulkCalls := s.bulkCalls + 1 }).1,
        (removeAll type keys { s with bulkCalls := s.bulkCalls + 1 }).2) := by
  simp only [Driver.bulkRemove, h]
  rfl

/-- A bulk create within the room is answered, and every answer grants its request. -/
theorem bulkCreate_granted {requests : List CreateRequest}
    (h : s.Supplies type (n + requests.length)) :
    ∃ answers s', Driver.bulkCreate type requests s = (.ok answers, s') ∧
      List.Forall₂ CreateAnswer.Grants requests answers ∧ s'.Supplies type n := by
  obtain ⟨hgranted, hend⟩ := createAll_granted h.called
  exact ⟨_, _, bulkCreate_eq h.up requests, hgranted, hend⟩

/-- A bulk remove is answered, and every status grants it. -/
theorem bulkRemove_granted (keys : List ObjectKey) (h : s.Supplies type n) :
    ∃ statuses s', Driver.bulkRemove type keys s = (.ok statuses, s') ∧
      List.Forall₂ Status.Grants keys statuses ∧ s'.Supplies type n := by
  obtain ⟨hgranted, hend⟩ := removeAll_granted h.called
  exact ⟨_, _, bulkRemove_eq h.up keys, hgranted, hend⟩

variable {other : ObjectType}

theorem bulkCreate_other {requests : List CreateRequest} (h : s.Supplies other n)
    (hne : type ≠ other) (hentries : ∀ request ∈ requests, request.entry ≠ none) :
    (Driver.bulkCreate type requests s).2.Supplies other n := by
  rw [bulkCreate_eq h.up]
  exact createAll_other h.called hne hentries

theorem bulkRemove_other (keys : List ObjectKey) (h : s.Supplies other n) (hne : type ≠ other) :
    (Driver.bulkRemove type keys s).2.Supplies other n := by
  rw [bulkRemove_eq h.up]
  exact removeAll_other h.called hne

end Calls

/-! ## Issued identifiers -/

/-- Every identifier in use was made of a number that was given out. -/
def Issuing (s : Simulator) : Prop :=
  ∀ type id, .oid id ∈ s.objects type →
    ∃ m : UInt64, m.toNat < s.nextId.toNat ∧ id = issuedId type m

section Issuing

theorem issuing_new (capacity : Nat) : (new capacity).Issuing := by
  intro type id hid
  simp [new, objects, Pool.unused] at hid

/-- A pool may hold what it held, and identifiers that were issued. -/
theorem Issuing.set (h : s.Issuing) {p : Pool} {nextId : UInt64}
    (hnext : s.nextId.toNat ≤ nextId.toNat)
    (hp : ∀ id, .oid id ∈ p.objects → .oid id ∈ s.objects type ∨
      ∃ m : UInt64, m.toNat < nextId.toNat ∧ id = issuedId type m) :
    ({ s with nextId, pools := s.pools.set type p } : Simulator).Issuing := by
  have hold : ∀ {type id}, .oid id ∈ s.objects type →
      ∃ m : UInt64, m.toNat < nextId.toNat ∧ id = issuedId type m := by
    intro type id hid
    obtain ⟨m, hm, heq⟩ := h type id hid
    exact ⟨m, by omega, heq⟩
  intro other id hid
  by_cases hne : type = other
  · subst hne
    simp only [objects, Roster.get_set_self] at hid
    obtain hid | hid := hp id hid
    · exact hold hid
    · exact hid
  · simp only [objects, Roster.get_set_of_ne _ _ hne] at hid
    exact hold hid

end Issuing

end Simulator

end DashAgent
