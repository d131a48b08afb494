import DashAgent.Switch.Simulator
import Mathlib.Data.List.Basic

/-!
# The history of a switch

Calls to a simulated switch leave a history, request by request with the answers. A history tells
which keys are held, what is queued, how large the tables are and which identifiers were given, and
from these how the next request must be answered. A queued failure answers it and changes nothing;
else a create has success if its key is new and there is room, and a remove if its key is held.
-/
namespace DashAgent

namespace Simulator

/-! ## Calls and exchanges -/

inductive Call where
  | create (type : ObjectType) (requests : List CreateRequest)
  | remove (type : ObjectType) (keys : List ObjectKey)
  | resize (type : ObjectType) (size : Nat)
  | queue (type : ObjectType) (status : Status)
  | cut (lost : Bool)
  deriving DecidableEq, Repr

inductive Exchange where
  | create (type : ObjectType) (request : CreateRequest) (answer : CreateAnswer)
  | remove (type : ObjectType) (key : ObjectKey) (status : Status)
  | resize (type : ObjectType) (size : Nat)
  | queue (type : ObjectType) (status : Status)
  deriving DecidableEq, Repr

/-- Makes a call and tells its exchanges. A bulk call that fails has none. -/
def perform (s : Simulator) : Call → List Exchange × Simulator
  | .create type requests =>
    match Driver.bulkCreate type requests s with
    | (.ok answers, s) => (List.zipWith (.create type) requests answers, s)
    | (.error _, s) => ([], s)
  | .remove type keys =>
    match Driver.bulkRemove type keys s with
    | (.ok statuses, s) => (List.zipWith (.remove type) keys statuses, s)
    | (.error _, s) => ([], s)
  | .resize type size => ([.resize type size], s.setCapacity type size)
  | .queue type status => ([.queue type status], s.pushStatus type status)
  | .cut lost => ([], s.setChannelLost lost)

def performAll : List Call → Simulator → List Exchange × Simulator
  | [], s => ([], s)
  | call :: rest, s =>
    let (exchanges, s) := s.perform call
    let (later, s) := performAll rest s
    (exchanges ++ later, s)

def Call.cut? : Call → Option Bool
  | cut lost => some lost
  | _ => none

def lostAfter (calls : List Call) : Bool := (calls.filterMap Call.cut?).getLastD false

namespace Exchange

def type : Exchange → ObjectType
  | create type .. | remove type .. | resize type _ | queue type _ => type

def made? : Exchange → Option ObjectKey
  | create _ request answer =>
    if answer.status = .success then
      match request.entry with
      | some key => some (.entry key)
      | none => answer.objectId.map .oid
    else none
  | _ => none

def unmade? : Exchange → Option ObjectKey
  | remove _ key status => if status = .success then some key else none
  | _ => none

def id? : Exchange → Option ObjectId
  | create _ _ answer => answer.objectId
  | _ => none

def isCreate : Exchange → Bool
  | create .. => true
  | _ => false

def size? : Exchange → Option Nat
  | resize _ size => some size
  | _ => none

/-- The queued statuses after an exchange of their type: every request takes the first. -/
def queued (statuses : List Status) : Exchange → List Status
  | queue _ status => statuses ++ [status]
  | create .. | remove .. => statuses.tail
  | resize .. => statuses

end Exchange

/-! ## What a history tells -/

section History

variable (size : Nat) (type : ObjectType) (log : List Exchange) (key : ObjectKey)

/-- The key was created with success and not removed with success since. -/
def Held : Prop :=
  ∃ before x after, log = before ++ x :: after ∧ (x.type = type ∧ x.made? = some key) ∧
    ∀ y ∈ after, ¬(y.type = type ∧ y.unmade? = some key)

/-- Fewer than `n` keys of the type are held. -/
def HeldBelow (n : Nat) : Prop :=
  ∃ keys : List ObjectKey, keys.Nodup ∧ (∀ key, key ∈ keys ↔ Held type log key) ∧ keys.length < n

def given : List ObjectId := log.filterMap Exchange.id?

def creates : Nat := log.countP Exchange.isCreate

def about : List Exchange := log.filter (·.type = type)

/-- The size of the table of a type, if that of the others is `size`. -/
def sizeIn : Nat := ((about type log).filterMap Exchange.size?).getLastD size

/-- The statuses queued for a type. -/
def queueIn : List Status := (about type log).foldl Exchange.queued []

/-- The failure that the next request of a type is answered with. -/
def failureIn : Option Status := (queueIn type log).head?.filter fun status => !status.isSuccess

end History

/-- An exchange changes nothing of what is held. -/
def Idle (before : List Exchange) (x : Exchange) : Prop :=
  ∀ type key, Held type (before ++ [x]) key ↔ Held type before key

/-- How a create request is answered after the exchanges `before`. -/
structure CreateLaw (size : Nat) (before : List Exchange) (type : ObjectType)
    (request : CreateRequest) (answer : CreateAnswer) : Prop where
  /-- An identifier is given exactly with a success that leaves it to the switch. -/
  gives : answer.objectId ≠ none ↔ request.entry = none ∧ answer.status = .success
  /-- It is none that was given before. -/
  fresh : ∀ id, answer.objectId = some id → id ≠ 0 ∧ id ∉ given before
  /-- A success had room. -/
  room : answer.status = .success → HeldBelow type before (sizeIn size type before)
  refused : ∀ status, failureIn type before = some status →
    answer = .failed status ∧ Idle before (.create type request answer)
  decided : failureIn type before = none →
    (answer.status = .success ↔
      (∀ key, request.entry = some key → ¬Held type before (.entry key)) ∧
        HeldBelow type before (sizeIn size type before))

/-- How a remove request is answered after the exchanges `before`. -/
structure RemoveLaw (before : List Exchange) (type : ObjectType) (key : ObjectKey)
    (answer : Status) : Prop where
  refused : ∀ status, failureIn type before = some status →
    answer = status ∧ Idle before (.remove type key answer)
  decided : failureIn type before = none → (answer = .success ↔ Held type before key)

/-- What holds of an exchange after the exchanges `before`. -/
def Law (size : Nat) (before : List Exchange) : Exchange → Prop
  | .create type request answer => CreateLaw size before type request answer
  | .remove type key status => RemoveLaw before type key status
  | .resize .. | .queue .. => True

/-! ## Longer histories -/

section Concat

variable {size : Nat} {type : ObjectType} {log : List Exchange} {x : Exchange} {key : ObjectKey}

/-- A split of a longer history is one before its last exchange, or ends with it. -/
theorem split_concat {before after : List Exchange} {y : Exchange}
    (heq : log ++ [x] = before ++ y :: after) :
    (before = log ∧ y = x ∧ after = []) ∨
      ∃ rest, after = rest ++ [x] ∧ log = before ++ y :: rest := by
  rcases List.eq_nil_or_concat after with rfl | ⟨rest, z, rfl⟩
  · obtain ⟨rfl, hx⟩ := List.append_inj' heq rfl
    cases hx
    exact .inl ⟨rfl, rfl, rfl⟩
  · rw [List.concat_eq_append, ← List.cons_append, ← List.append_assoc] at heq
    obtain ⟨hlog, hx⟩ := List.append_inj' heq rfl
    cases hx
    exact .inr ⟨rest, List.concat_eq_append .., hlog⟩

theorem not_held_nil : ¬Held type [] key := by
  rintro ⟨before, x, after, heq, -⟩
  simp at heq

/-- A key is held after an exchange that made it, or if it was held and is not unmade. -/
theorem held_concat_iff : Held type (log ++ [x]) key ↔
    (x.type = type ∧ x.made? = some key) ∨
      Held type log key ∧ ¬(x.type = type ∧ x.unmade? = some key) := by
  constructor
  · rintro ⟨before, y, after, heq, hmakes, hkept⟩
    obtain ⟨-, rfl, -⟩ | ⟨rest, rfl, rfl⟩ := split_concat heq
    · exact .inl hmakes
    · exact .inr ⟨⟨before, y, rest, rfl, hmakes, fun w hw => hkept w (by simp [hw])⟩,
        hkept x (by simp)⟩
  · rintro (hmakes | ⟨⟨before, y, after, rfl, hmakes, hkept⟩, hx⟩)
    · exact ⟨log, x, [], rfl, hmakes, by simp⟩
    · refine ⟨before, y, after ++ [x], by simp, hmakes, fun w hw => ?_⟩
      rcases List.mem_append.1 hw with hw | hw
      · exact hkept w hw
      · rw [List.mem_singleton.1 hw]
        exact hx

/-- An exchange that makes and unmakes nothing is idle. -/
theorem idle_of_none (hmade : x.made? = none) (hunmade : x.unmade? = none) : Idle log x := by
  intro type key
  simp [held_concat_iff, hmade, hunmade]

theorem about_concat_self : about x.type (log ++ [x]) = about x.type log ++ [x] := by
  simp [about]

theorem about_concat_of_ne (hne : x.type ≠ type) : about type (log ++ [x]) = about type log := by
  simp [about, hne]

theorem sizeIn_concat_self :
    sizeIn size x.type (log ++ [x]) = x.size?.getD (sizeIn size x.type log) := by
  rw [sizeIn, about_concat_self, List.filterMap_append]
  cases hsize : x.size? <;> simp [hsize, sizeIn]

theorem queueIn_concat_self : queueIn x.type (log ++ [x]) = x.queued (queueIn x.type log) := by
  rw [queueIn, about_concat_self, List.foldl_append]
  rfl

theorem mem_given_concat_iff {id : ObjectId} :
    id ∈ given (log ++ [x]) ↔ id ∈ given log ∨ x.id? = some id := by
  simp [given]

theorem creates_concat : creates (log ++ [x]) = creates log + if x.isCreate then 1 else 0 := by
  simp [creates, List.countP_append, List.countP_cons]

/-- An identifier that is held was given. -/
theorem mem_given_of_held {id : ObjectId} (h : Held type log (.oid id)) : id ∈ given log := by
  obtain ⟨before, x, after, rfl, ⟨-, hmade⟩, -⟩ := h
  have hid : x.id? = some id := by
    cases x with
    | create type request answer =>
      simp only [Exchange.made?] at hmade
      split at hmade
      · split at hmade
        · cases hmade
        · simpa [Exchange.id?] using hmade
      · cases hmade
    | remove | resize | queue => cases hmade
  exact List.mem_filterMap.2 ⟨x, by simp, hid⟩

theorem lawful_concat (h : ∀ before x after, log = before ++ x :: after → Law size before x)
    (hx : Law size log x) (before : List Exchange) (y : Exchange) (after : List Exchange)
    (heq : log ++ [x] = before ++ y :: after) : Law size before y := by
  obtain ⟨rfl, rfl, -⟩ | ⟨rest, -, hlog⟩ := split_concat heq
  · exact hx
  · exact h before y rest hlog

end Concat

end Simulator

end DashAgent
