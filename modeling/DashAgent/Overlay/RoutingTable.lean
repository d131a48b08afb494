import DashAgent.Context
import DashAgent.Reconcile.Pass
import DashAgent.Switch.BulkStager

/-!
# Routing tables

Outbound routes and inbound rules are programmed alike. Both are entries of the switch, under a key
that is made of the identifier of an ENI; the ENI, and the VNET where one is named, must be
programmed before them. The kind of a table says how its records are read, requested and counted.
-/
namespace DashAgent

/-- The identifier of a VNET that may be named, or what is waited for. -/
def namedVnet (c : Context) : Option String → Except Dependency (Option (Oid .vnet))
  | none => .ok none
  | some name =>
    match c.vnetId? name with
    | some id => .ok (some id)
    | none => .error (.vnet name)

def namedEni (c : Context) (name : String) : Except Dependency (Oid .eni) :=
  match c.eniId? name with
  | some id => .ok id
  | none => .error (.eni name)

/-- A kind of routing entries: `α` is what a SET asks for, and `ρ` a programmed record. -/
structure RoutingKind (α ρ : Type) where
  type : ObjectType
  read : Entry → Except EntryError α
  resolve : α → Context → Except Dependency ρ
  entryKey : ρ → String
  attributes : ρ → List Attribute
  resource : ρ → Resource

/-- A staged operation on a routing entry; the position is that of its slot. -/
inductive RouteOp (ρ : Type) where
  | create (position : Nat) (record : ρ)
  | remove (position : Nat)
  deriving DecidableEq, Repr

structure RoutingTable (ρ : Type) where
  stager : BulkStager
  records : Table String ρ

namespace RoutingTable

variable {α ρ : Type} (K : RoutingKind α ρ)

def new (maxBulkSize : Nat) : RoutingTable ρ := ⟨.new K.type maxBulkSize, .empty⟩

def stageSet (t : RoutingTable ρ) (e : Entry) (c : Context) :
    StageOutcome (RouteOp ρ) × RoutingTable ρ :=
  if t.records.contains e.key then (.done, t)
  else
    match K.read e with
    | .error error => (.invalid error, t)
    | .ok asked =>
      match K.resolve asked c with
      | .error dependency => (.notReady dependency, t)
      | .ok r =>
        let (position, stager) := t.stager.stageCreate ⟨some (K.entryKey r), K.attributes r⟩
        (.staged (.create position r), { t with stager })

def stage (t : RoutingTable ρ) (e : Entry) (c : Context) :
    StageOutcome (RouteOp ρ) × RoutingTable ρ :=
  match e.op with
  | .set => stageSet K t e c
  | .del =>
    match t.records.get? e.key with
    | none => (.done, t)
    | some r =>
      let (position, stager) := t.stager.stageRemove (.entry (K.entryKey r))
      (.staged (.remove position), { t with stager })

def commit (t : RoutingTable ρ) (e : Entry) (op : RouteOp ρ) (c : Context) :
    Decision × Context × RoutingTable ρ :=
  match op with
  | .create position r =>
    match Decision.ofStatus .create (t.stager.outcome position) with
    | .commit =>
      (.commit, c.count (K.resource r), { t with records := t.records.insert e.key r })
    | decision => (decision, c, t)
  | .remove position =>
    match Decision.ofStatus .remove (t.stager.outcome position) with
    | .commit =>
      match t.records.get? e.key with
      | none => (.commit, c, t)
      | some r =>
        (.commit, c.uncount (K.resource r), { t with records := t.records.erase e.key })
    | decision => (decision, c, t)

def bulk {δ : Type} [Driver δ] : BulkTable (RoutingTable ρ) (RouteOp ρ) Context δ where
  stage e c t := stage K t e c
  flush t d :=
    let (answer, stager, d) := t.stager.flush d
    (answer, { t with stager }, d)
  commit e op c t := commit K t e op c
  endPass t := { t with stager := t.stager.clear }

end RoutingTable

end DashAgent
