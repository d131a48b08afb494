import DashAgent.Switch.Simulator

/-!
# A simulated switch behind a fault gate

The gate stands between the agent and a simulated switch and records every bulk call. It can cut
the channel after a number of calls, pass on only the first requests of a call, answer with null
identifiers, and fail dumps and queries.
-/
namespace DashAgent

/-- A bulk call as it reached the gate. -/
inductive BulkCall where
  | create (type : ObjectType) (requests : List CreateRequest)
  | remove (type : ObjectType) (keys : List ObjectKey)
  deriving DecidableEq, Repr

structure Faults where
  /-- Bulk calls that still pass before the channel is cut. -/
  lostAfter : Option Nat
  /-- How many requests of a bulk call are passed on. -/
  truncate : Option Nat
  nullIds : Bool
  failingDump : Bool
  /-- Statuses of availability queries, by object type. -/
  availability : Roster ObjectType (Option Status)
  /-- Statuses of attribute queries, the latest setting first. -/
  attributes : List (AttributeId × Option Status)

def Faults.inactive : Faults where
  lostAfter := none
  truncate := none
  nullIds := false
  failingDump := false
  availability := Roster.tabulate fun _ => none
  attributes := []

namespace Faults

/-- Fails the availability queries of an object type, or lets them through again. -/
def failAvailability (f : Faults) (type : ObjectType) (status : Option Status) : Faults :=
  { f with availability := f.availability.set type status }

/-- Fails the queries of an attribute, or lets them through again. -/
def failAttribute (f : Faults) (what : AttributeId) (status : Option Status) : Faults :=
  { f with attributes := (what, status) :: f.attributes }

end Faults

/-- A simulated switch with faults and the record of its bulk calls. -/
structure FaultGate where
  switch : Simulator
  faults : Faults
  /-- The bulk calls made, in order. -/
  calls : List BulkCall

namespace FaultGate

def new (defaultCapacity : Nat) : FaultGate := ⟨.new defaultCapacity, .inactive, []⟩

/-- Counts a bulk call against the remaining life of the channel and records it. -/
def receive (g : FaultGate) (call : BulkCall) : FaultGate :=
  let g := { g with calls := g.calls ++ [call] }
  match g.faults.lostAfter with
  | none => g
  | some 0 =>
    { g with
      faults := { g.faults with lostAfter := none }
      switch := g.switch.setChannelLost true }
  | some (n + 1) => { g with faults := { g.faults with lostAfter := some n } }

def passedOn {α : Type} (g : FaultGate) (requests : List α) : List α :=
  match g.faults.truncate with
  | none => requests
  | some n => requests.take n

/-- The answer with its identifier, where there is one, replaced by null. -/
def withNullId (answer : CreateAnswer) : CreateAnswer :=
  { answer with objectId := answer.objectId.map fun _ => 0 }

/-- The status that queries of an attribute are failed with. -/
def failedAttribute? (g : FaultGate) (what : AttributeId) : Option Status :=
  (g.faults.attributes.find? (·.1 = what)).bind Prod.snd

instance : Driver FaultGate where
  switchId g := Driver.switchId g.switch
  bulkCreate type requests g :=
    let g := g.receive (.create type requests)
    let (answer, switch) := Driver.bulkCreate type (g.passedOn requests) g.switch
    (answer.map fun answers => if g.faults.nullIds then answers.map withNullId else answers,
      { g with switch })
  bulkRemove type keys g :=
    let g := g.receive (.remove type keys)
    let (answer, switch) := Driver.bulkRemove type (g.passedOn keys) g.switch
    (answer, { g with switch })
  readAttribute id what g :=
    match g.failedAttribute? what with
    | some status => (.error status, g)
    | none =>
      let (answer, switch) := Driver.readAttribute id what g.switch
      (answer, { g with switch })
  availability type qualifiers g :=
    match g.faults.availability.get type with
    | some status => (.error status, g)
    | none =>
      let (answer, switch) := Driver.availability type qualifiers g.switch
      (answer, { g with switch })
  dump g :=
    if g.faults.failingDump then (.error (.ofStatus .failure), g)
    else
      let (answer, switch) := Driver.dump g.switch
      (answer, { g with switch })

end FaultGate

end DashAgent
