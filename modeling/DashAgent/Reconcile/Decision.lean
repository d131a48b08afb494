import DashAgent.Switch.Status

/-!
# Commit decisions

What becomes of a change once the driver answered its requests. A create of what exists and a
remove of what is gone reach the requested state like a success; a full table and a request that
was not executed may succeed later; every other status is final. Of several answers the worst
decides.
-/
namespace DashAgent

inductive RequestKind where
  | create
  | remove
  deriving DecidableEq, Repr

def RequestKind.text : RequestKind → String
  | create => "create"
  | remove => "remove"

instance : ToString RequestKind := ⟨RequestKind.text⟩

/-- What to do with a change after its requests were answered. -/
inductive Decision where
  /-- The requested state holds: it is recorded and accounted. -/
  | commit
  /-- The change stays queued and nothing is touched. -/
  | retry
  /-- The change is consumed and nothing is touched. -/
  | drop
  deriving DecidableEq, Repr

namespace Decision

def text : Decision → String
  | commit => "Commit"
  | retry => "Retry"
  | drop => "Drop"

instance : ToString Decision := ⟨text⟩

def alreadyHolds : RequestKind → Status → Bool
  | .create, .itemAlreadyExists => true
  | .remove, .itemNotFound => true
  | _, _ => false

def ofStatus (kind : RequestKind) (status : Status) : Decision :=
  if status.isSuccess || alreadyHolds kind status then commit
  else if status.isTableFull || status = .notExecuted then retry
  else drop

/-- The worse of two decisions: any drop wins, then any retry. -/
def worse : Decision → Decision → Decision
  | drop, _ => drop
  | _, drop => drop
  | retry, _ => retry
  | _, retry => retry
  | commit, commit => commit

/-- The decision on the answers of one change; without answers the state holds. -/
def ofStatuses (kind : RequestKind) (statuses : List Status) : Decision :=
  statuses.foldl (fun decision status => decision.worse (ofStatus kind status)) commit

end Decision

end DashAgent
