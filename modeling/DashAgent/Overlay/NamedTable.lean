import DashAgent.Context
import DashAgent.Reconcile.Pass
import DashAgent.Switch.BulkStager

/-!
# Named objects

VNETs and ENIs are programmed alike. Both are objects that the driver allocates: the first SET of a
name creates one and a DEL removes it, and a SET of a programmed name changes nothing. The context
holds the identifiers of the programmed objects by name, for what belongs to them. The kind of a
table says how its objects are read, requested, recorded and counted.
-/
namespace DashAgent

/-- A kind of named objects: `α` is what a SET asks for, `β` the same with the identifiers of its
parents, and `ρ` a programmed record. -/
structure NamedKind (kind : OidKind) (α β ρ : Type) where
  type : ObjectType
  read : Entry → Except EntryError α
  resolve : α → Context → Except Dependency β
  attributes : β → List Attribute
  record : Oid kind → β → ρ
  id : ρ → Oid kind
  /-- Makes an identifier known by its name. -/
  enter : String → Oid kind → Context → Context
  /-- Forgets the identifier of a name. -/
  leave : String → Context → Context
  resource : Resource
  enter_accounts : ∀ name id c, (enter name id c).accounts = c.accounts
  leave_accounts : ∀ name c, (leave name c).accounts = c.accounts

/-- A staged operation on a named object; the position is that of its slot. -/
inductive NamedOp (β : Type) where
  | create (position : Nat) (asked : β)
  | remove (position : Nat)
  deriving DecidableEq, Repr

/-- The programmed records by name, and the requests of the current pass. -/
structure NamedTable (ρ : Type) where
  stager : BulkStager
  records : Table String ρ

namespace NamedTable

variable {kind : OidKind} {α β ρ : Type} (K : NamedKind kind α β ρ)

def new (maxBulkSize : Nat) : NamedTable ρ := ⟨.new K.type maxBulkSize, .empty⟩

def stage (t : NamedTable ρ) (e : Entry) (c : Context) :
    StageOutcome (NamedOp β) × NamedTable ρ :=
  match e.op with
  | .set =>
    if t.records.contains e.key then (.done, t)
    else
      match K.read e with
      | .error error => (.invalid error, t)
      | .ok asked =>
        match K.resolve asked c with
        | .error dependency => (.notReady dependency, t)
        | .ok asked =>
          let (position, stager) := t.stager.stageCreate ⟨none, K.attributes asked⟩
          (.staged (.create position asked), { t with stager })
  | .del =>
    match t.records.get? e.key with
    | none => (.done, t)
    | some r =>
      let (position, stager) := t.stager.stageRemove (.oid (K.id r).raw)
      (.staged (.remove position), { t with stager })

/-- Commits one change. A create that succeeded without an identifier is dropped: there is nothing
to record. -/
def commit (t : NamedTable ρ) (e : Entry) (op : NamedOp β) (c : Context) :
    Decision × Context × NamedTable ρ :=
  match op with
  | .create position asked =>
    match Decision.ofStatus .create (t.stager.outcome position) with
    | .commit =>
      match (t.stager.objectId? position).bind Oid.ofRaw? with
      | none => (.drop, c, t)
      | some id =>
        (.commit, (K.enter e.key id c).count K.resource,
          { t with records := t.records.insert e.key (K.record id asked) })
    | decision => (decision, c, t)
  | .remove position =>
    match Decision.ofStatus .remove (t.stager.outcome position) with
    | .commit =>
      (.commit, (K.leave e.key c).uncount K.resource,
        { t with records := t.records.erase e.key })
    | decision => (decision, c, t)

def bulk {δ : Type} [Driver δ] : BulkTable (NamedTable ρ) (NamedOp β) Context δ where
  stage e c t := stage K t e c
  flush t d :=
    let (answer, stager, d) := t.stager.flush d
    (answer, { t with stager }, d)
  commit e op c t := commit K t e op c
  endPass t := { t with stager := t.stager.clear }

end NamedTable

end DashAgent
