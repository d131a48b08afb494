import DashAgent.Resource.Threshold
import DashAgent.Switch.Object

/-!
# Counters

The used and available entries of one sub-pool, with the hysteresis of its threshold check: an
excursion begins with the first check at or above the high threshold and ends with the first check
at or below the low one. While an excursion lasts, only so many checks report it.
-/
namespace DashAgent

/-- The pool of a resource that a counter stands for. Sub-pools are ordered by kind, then by what
they belong to. -/
inductive SubPool where
  /-- The whole switch. -/
  | global
  /-- An ACL stage and bind point. -/
  | acl (stage : AclStage) (bindPoint : AclBindPoint)
  | aclTable (id : ObjectId)
  | extTable (name : String)
  | dashAclGroup (id : ObjectId)
  deriving DecidableEq, Repr, Ord

namespace SubPool

def objectId? : SubPool → Option ObjectId
  | aclTable id | dashAclGroup id => some id
  | global | acl .. | extTable _ => none

def row : SubPool → String
  | global => "STATS"
  | acl stage bindPoint => "ACL_STATS:" ++ stage.text ++ ":" ++ bindPoint.text
  | aclTable id => "ACL_TABLE_STATS:" ++ id.text
  | extTable name => "EXT_TABLE_STATS:" ++ name
  | dashAclGroup id => "DASH_ACL_GROUP_STATS:" ++ id.text

instance : ToString SubPool := ⟨row⟩

end SubPool

inductive ThresholdCheck where
  /-- Inside the band, already reported, or already cleared. -/
  | normal
  /-- At or above the high threshold; `crossing` on the first check of an excursion. -/
  | exceeded (utilization : Nat) (percent : Nat) (crossing : Bool)
  /-- Back at or below the low threshold after an excursion. -/
  | cleared (utilization : Nat) (percent : Nat)
  deriving DecidableEq, Repr

structure Counter where
  /-- The object that the sub-pool belongs to, or zero. -/
  id : ObjectId
  available : UInt32
  used : UInt32
  /-- How many checks have reported the current excursion. -/
  exceededCount : Nat
  deriving DecidableEq, Repr

namespace Counter

def new (id : ObjectId) : Counter := ⟨id, 0, 0, 0⟩

/-- Used entries in percent of all entries, rounded down; nothing used is zero percent. -/
def percent (c : Counter) : Nat :=
  if c.used = 0 then 0 else c.used.toNat * 100 / (c.used.toNat + c.available.toNat)

/-- One used entry more, up to the largest count. -/
def increment (c : Counter) : Counter :=
  if c.used = 0xffffffff then c else { c with used := c.used + 1 }

/-- One used entry less, unless there is none. -/
def decrement? (c : Counter) : Option Counter :=
  if c.used = 0 then none else some { c with used := c.used - 1 }

/-- Reports per excursion. -/
def maxReports : Nat := 10

/-- What a threshold of the given type is compared with. -/
def utilization (c : Counter) : ThresholdType → Nat
  | .percentage => c.percent
  | .used => c.used.toNat
  | .free => c.available.toNat

def check (c : Counter) (t : Thresholds) : ThresholdCheck × Counter :=
  let utilization := c.utilization t.type
  if t.high.toNat ≤ utilization ∧ c.exceededCount < maxReports then
    (.exceeded utilization c.percent (c.exceededCount = 0),
      { c with exceededCount := c.exceededCount + 1 })
  else if utilization ≤ t.low.toNat ∧ 0 < c.exceededCount ∧ t.high ≠ t.low then
    (.cleared utilization c.percent, { c with exceededCount := 0 })
  else (.normal, c)

end Counter

end DashAgent
