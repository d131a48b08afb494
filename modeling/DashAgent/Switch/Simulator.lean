import DashAgent.Switch.Driver
import DashAgent.Table

/-!
# A simulated switch

A switch with a table of bounded size per object type. A create of a key that is present and a
create into a full table fail, as does a remove of a key that is absent. Statuses can be queued to
be answered in place of the next requests, availability can be withheld or overridden, and the
channel can be cut: while it is down nothing changes, except that dumps are still counted.
-/
namespace DashAgent

/-- What the switch holds for one object type and how it answers for it. -/
structure Pool where
  /-- The keys of the programmed objects, each once. -/
  objects : List ObjectKey
  /-- The size of the table, where it differs from that of the switch. -/
  capacity : Option Nat
  /-- Statuses for the next requests; a queued success lets its request through. -/
  forced : List Status
  /-- Availability queries are answered. -/
  supported : Bool
  /-- The availability reported in place of the free space. -/
  availability : Option Nat
  deriving DecidableEq, Repr

def Pool.unused : Pool := ⟨[], none, [], true, none⟩

namespace Pool

/-- The status queued for the next request, if it is a failure, and the pool without it. -/
def takeForced (p : Pool) : Option Status × Pool :=
  match p.forced with
  | [] => (none, p)
  | status :: rest => (if status.isSuccess then none else some status, { p with forced := rest })

/-- Adds a key to a table of the given size. -/
def add (p : Pool) (size : Nat) (key : ObjectKey) : Status × Pool :=
  if key ∈ p.objects then (.itemAlreadyExists, p)
  else if size ≤ p.objects.length then (.tableFull, p)
  else (.success, { p with objects := key :: p.objects })

def take (p : Pool) (key : ObjectKey) : Status × Pool :=
  if key ∈ p.objects then (.success, { p with objects := p.objects.erase key })
  else (.itemNotFound, p)

end Pool

structure Simulator where
  /-- The size of every table that has none of its own. -/
  defaultCapacity : Nat
  /-- The part of the next identifier that tells it from the earlier ones. -/
  nextId : ObjectId
  pools : Roster ObjectType Pool
  namedAvailability : Table String Nat
  /-- Attribute values, the latest setting first. -/
  attributes : List ((ObjectId × AttributeId) × AttributeValue)
  channelLost : Bool
  bulkCalls : Nat
  dumps : Nat

namespace Simulator

def defaultTableSize : Nat := 4096

def switchId : ObjectId := 0x21000000000000

def new (defaultCapacity : Nat) : Simulator where
  defaultCapacity
  nextId := 1
  pools := Roster.tabulate fun _ => .unused
  namedAvailability := .empty
  attributes := []
  channelLost := false
  bulkCalls := 0
  dumps := 0

variable (s : Simulator)

/-! ## Setting up -/

/-- Changes what is held for one object type. -/
def modifyPool (type : ObjectType) (f : Pool → Pool) : Simulator :=
  { s with pools := s.pools.modify type f }

def setCapacity (type : ObjectType) (capacity : Nat) : Simulator :=
  s.modifyPool type fun p => { p with capacity := some capacity }

def pushStatus (type : ObjectType) (status : Status) : Simulator :=
  s.modifyPool type fun p => { p with forced := p.forced ++ [status] }

/-- Leaves the availability queries of a type unanswered from now on. -/
def setUnsupported (type : ObjectType) : Simulator :=
  s.modifyPool type fun p => { p with supported := false }

/-- Sets the availability that is reported for a type in place of the free space. -/
def setAvailability (type : ObjectType) (available : Nat) : Simulator :=
  s.modifyPool type fun p => { p with availability := some available }

/-- Sets the availability of the extension table with a name. -/
def setNamedAvailability (name : String) (available : Nat) : Simulator :=
  { s with namedAvailability := s.namedAvailability.insert name available }

def setAttribute (id : ObjectId) (what : AttributeId) (value : AttributeValue) : Simulator :=
  { s with attributes := ((id, what), value) :: s.attributes }

/-- Cuts or restores the channel. -/
def setChannelLost (lost : Bool) : Simulator := { s with channelLost := lost }

/-! ## Looking -/

def objects (type : ObjectType) : List ObjectKey := (s.pools.get type).objects

def objectCount (type : ObjectType) : Nat := (s.objects type).length

def holds (type : ObjectType) (key : ObjectKey) : Bool := key ∈ s.objects type

def capacityOf (type : ObjectType) : Nat :=
  (s.pools.get type).capacity.getD s.defaultCapacity

/-! ## Answering -/

/-- Why nothing is answered while the channel is down. -/
def channelDown : DriverError := .channelLost "simulated driver channel is down"

/-- The identifier that the next create of a type is given. -/
def freshId (type : ObjectType) : ObjectId :=
  s.nextId ||| (UInt64.ofNat (type.number + 1) <<< 48)

def addKey (type : ObjectType) (key : ObjectKey) : Status × Simulator :=
  let (status, pool) := (s.pools.get type).add (s.capacityOf type) key
  (status, { s with pools := s.pools.set type pool })

/-- Answers one create request. An identifier is used up also by a create that fails for lack of
space, but not by one that is answered with a queued status. -/
def createOne (type : ObjectType) (request : CreateRequest) : CreateAnswer × Simulator :=
  match (s.pools.get type).takeForced with
  | (some status, pool) => (.failed status, { s with pools := s.pools.set type pool })
  | (none, pool) =>
    let s := { s with pools := s.pools.set type pool }
    match request.entry with
    | some key =>
      let (status, s) := s.addKey type (.entry key)
      (⟨status, none⟩, s)
    | none =>
      let id := s.freshId type
      let (status, s) := { s with nextId := s.nextId + 1 }.addKey type (.oid id)
      (⟨status, if status.isSuccess then some id else none⟩, s)

def removeOne (type : ObjectType) (key : ObjectKey) : Status × Simulator :=
  match (s.pools.get type).takeForced with
  | (some status, pool) => (status, { s with pools := s.pools.set type pool })
  | (none, pool) =>
    let (status, pool) := pool.take key
    (status, { s with pools := s.pools.set type pool })

def createAll (type : ObjectType) : List CreateRequest → Simulator → List CreateAnswer × Simulator
  | [], s => ([], s)
  | request :: rest, s =>
    let (answer, s) := s.createOne type request
    let (answers, s) := createAll type rest s
    (answer :: answers, s)

def removeAll (type : ObjectType) : List ObjectKey → Simulator → List Status × Simulator
  | [], s => ([], s)
  | key :: rest, s =>
    let (status, s) := s.removeOne type key
    let (statuses, s) := removeAll type rest s
    (status :: statuses, s)

def attribute? (id : ObjectId) (what : AttributeId) : Option AttributeValue :=
  (s.attributes.find? (·.1 = (id, what))).map Prod.snd

/-- The first name among the qualifiers. -/
def namedBy? (qualifiers : List Qualifier) : Option String :=
  qualifiers.findSome? fun
    | .objectName name => some name
    | _ => none

/-- The remaining capacity of a type: of the named extension table where a name is given, else as
overridden, else the free space. -/
def available (type : ObjectType) (qualifiers : List Qualifier) : Except Status Nat :=
  let pool := s.pools.get type
  if s.channelLost then .error .failure
  else if !pool.supported then .error .notSupported
  else match namedBy? qualifiers with
    | some name =>
      match s.namedAvailability.get? name with
      | some available => .ok available
      | none => .error .notSupported
    | none => .ok (pool.availability.getD (s.capacityOf type - pool.objects.length))

instance : Driver Simulator where
  switchId _ := switchId
  bulkCreate type requests s :=
    if s.channelLost then (.error channelDown, s)
    else
      let (answers, s) := createAll type requests { s with bulkCalls := s.bulkCalls + 1 }
      (.ok answers, s)
  bulkRemove type keys s :=
    if s.channelLost then (.error channelDown, s)
    else
      let (statuses, s) := removeAll type keys { s with bulkCalls := s.bulkCalls + 1 }
      (.ok statuses, s)
  readAttribute id what s :=
    (if s.channelLost then .error .failure
      else match s.attribute? id what with
        | some value => .ok value
        | none => .error .notSupported, s)
  availability type qualifiers s := (s.available type qualifiers, s)
  dump s := (.ok (), { s with dumps := s.dumps + 1 })

end Simulator

end DashAgent
