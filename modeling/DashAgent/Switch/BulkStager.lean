import DashAgent.Switch.Driver

/-!
# Bulk staging

A stager collects the create and remove requests of one object type and sends them in as few
driver calls as the bulk size allows. Every request owns a slot, addressed by its position, and a
flush settles each open slot once: first the removes in slot order, then the creates in slot order.
-/
namespace DashAgent

/-- A staged request and, once the driver was asked, its answer. -/
inductive Slot where
  | create (request : CreateRequest) (answer : Option CreateAnswer)
  | remove (key : ObjectKey) (answer : Option Status)
  /-- Settled from the start; the driver is never asked. -/
  | settled (status : Status)
  deriving DecidableEq, Repr

namespace Slot

def status? : Slot → Option Status
  | create _ answer => answer.map CreateAnswer.status
  | remove _ answer => answer
  | settled status => some status

def objectId? : Slot → Option ObjectId
  | create _ answer => answer.bind CreateAnswer.objectId
  | remove .. | settled _ => none

/-- The driver has not answered yet. -/
def isOpen (s : Slot) : Bool := s.status?.isNone

def openRemove? : Slot → Option ObjectKey
  | remove key none => some key
  | _ => none

def openCreate? : Slot → Option CreateRequest
  | create request none => some request
  | _ => none

end Slot

/-- The list cut into parts of at most `size` elements, given a bound on their number. -/
def chunksWithin {α : Type} (size : Nat) : Nat → List α → List (List α)
  | 0, _ => []
  | _, [] => []
  | bound + 1, xs => xs.take size :: chunksWithin size bound (xs.drop size)

/-- The list cut into parts of `size` elements, the last of which may be shorter. -/
def chunks {α : Type} (size : Nat) (xs : List α) : List (List α) :=
  chunksWithin size xs.length xs

/-- Requests of one object type waiting for the driver. -/
structure BulkStager where
  type : ObjectType
  maxBulkSize : Nat
  slots : List Slot
  maxBulkSize_pos : 0 < maxBulkSize
  deriving Repr

namespace BulkStager

def defaultBulkSize : Nat := 1000

theorem max_one_pos (size : Nat) : 0 < max size 1 := by omega

/-- A stager without slots. A bulk size of zero counts as one. -/
def new (type : ObjectType) (maxBulkSize : Nat) : BulkStager :=
  ⟨type, max maxBulkSize 1, [], max_one_pos maxBulkSize⟩

/-- Adds a slot at the end and tells its position. -/
def push (s : BulkStager) (slot : Slot) : Nat × BulkStager :=
  (s.slots.length, { s with slots := s.slots ++ [slot] })

def stageCreate (s : BulkStager) (request : CreateRequest) : Nat × BulkStager :=
  s.push (.create request none)

def stageRemove (s : BulkStager) (key : ObjectKey) : Nat × BulkStager :=
  s.push (.remove key none)

/-- Adds a slot that the driver is never asked about: the object it stands for is shared and
already there, or stays for others. -/
def settle (s : BulkStager) (status : Status) : Nat × BulkStager := s.push (.settled status)

def openCount (s : BulkStager) : Nat := s.slots.countP Slot.isOpen

/-- Nothing was staged since the slots were last forgotten. -/
def isEmpty (s : BulkStager) : Bool := s.slots.isEmpty

/-- The status at a position, `none` while the slot is open and where there is none. -/
def status? (s : BulkStager) (position : Nat) : Option Status :=
  s.slots[position]?.bind Slot.status?

def objectId? (s : BulkStager) (position : Nat) : Option ObjectId :=
  s.slots[position]?.bind Slot.objectId?

/-- The status that a commit decides on: an open slot was not executed. -/
def outcome (s : BulkStager) (position : Nat) : Status :=
  (s.status? position).getD .notExecuted

def clear (s : BulkStager) : BulkStager := { s with slots := [] }

/-- The positions and contents of the slots that `pick` selects. -/
def selected {α : Type} (s : BulkStager) (pick : Slot → Option α) : List (Nat × α) :=
  s.slots.zipIdx.filterMap fun (slot, position) => (pick slot).map (position, ·)

def replace (s : BulkStager) (updates : List (Nat × Slot)) : BulkStager :=
  { s with slots := updates.foldl (fun slots u => slots.set u.1 u.2) s.slots }

structure BulkCall (δ α β : Type) where
  /-- The request of a slot that waits for this call. -/
  pick : Slot → Option α
  send : ObjectType → List α → δ → Except DriverError (List β) × δ
  /-- A request with its answer. -/
  answered : α → β → Slot
  /-- Stands for an answer that is missing. -/
  missing : β

section Flush

variable {δ α β : Type}

def BulkCall.updates (call : BulkCall δ α β) (chunk : List (Nat × α)) (answers : List β) :
    List (Nat × Slot) :=
  chunk.zipIdx.map fun ((position, a), i) =>
    (position, call.answered a (answers.getD i call.missing))

/-- Makes one call per chunk, up to the first call that fails. -/
def sendChunks (call : BulkCall δ α β) : List (List (Nat × α)) → BulkStager → δ →
    Except DriverError Unit × BulkStager × δ
  | [], s, d => (.ok (), s, d)
  | chunk :: rest, s, d =>
    match call.send s.type (chunk.map Prod.snd) d with
    | (.error e, d) => (.error e, s, d)
    | (.ok answers, d) => sendChunks call rest (s.replace (call.updates chunk answers)) d

def sendAll (call : BulkCall δ α β) (s : BulkStager) (d : δ) :
    Except DriverError Unit × BulkStager × δ :=
  sendChunks call (chunks s.maxBulkSize (s.selected call.pick)) s d

variable [Driver δ]

def removes : BulkCall δ ObjectKey Status where
  pick := Slot.openRemove?
  send := Driver.bulkRemove
  answered key status := .remove key (some status)
  missing := .notExecuted

def creates : BulkCall δ CreateRequest CreateAnswer where
  pick := Slot.openCreate?
  send := Driver.bulkCreate
  answered request answer := .create request (some answer)
  missing := .failed .notExecuted

/-- Settles every open slot: removes first, then creates. After a failing call the slots of that
call and of the later ones stay open. -/
def flush (s : BulkStager) (d : δ) : Except DriverError Unit × BulkStager × δ :=
  match sendAll removes s d with
  | (.error e, s, d) => (.error e, s, d)
  | (.ok (), s, d) => sendAll creates s d

end Flush

end BulkStager

end DashAgent
