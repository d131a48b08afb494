import DashAgent.Change.NumberedQueue
import DashAgent.Text.Quoted

/-!
# Change queues

The pending changes of one table. At most one change per key is pending: a newer change replaces
an older one whatever their operations, and takes its own, later place. Changes that are handed
back go in front of everything pending, in their order, except where a newer change of the same
key arrived in the meantime. A numbered queue keeps the order; `entries` is that queue as one list.
-/
namespace DashAgent

/-- Pending changes of a table in order of their turn. -/
structure ChangeQueue where
  table : String
  /-- Lower runs earlier. -/
  priority : Int
  /-- The most changes that one pass takes. -/
  batchSize : Nat
  numbered : NumberedQueue
  batchSize_pos : 0 < batchSize
  consistent : numbered.Consistent

namespace ChangeQueue

def defaultBatchSize : Nat := 128

/-- An empty queue. A batch size of zero counts as one. -/
def new (table : String) (priority : Int) (batchSize : Nat) : ChangeQueue where
  table
  priority
  batchSize := max batchSize 1
  numbered := .new
  batchSize_pos := by omega
  consistent := NumberedQueue.consistent_new

def entries (q : ChangeQueue) : List Entry := q.numbered.entries

def hasPending (q : ChangeQueue) : Bool := q.numbered.hasPending

def pendingCount (q : ChangeQueue) : Nat := q.numbered.pendingCount

def contains (q : ChangeQueue) (key : String) : Bool := q.numbered.index.contains key

def add (q : ChangeQueue) (e : Entry) : ChangeQueue :=
  { q with numbered := q.numbered.add e, consistent := q.consistent.add e }

def addAll (q : ChangeQueue) (es : List Entry) : ChangeQueue :=
  { q with numbered := q.numbered.addAll es, consistent := q.consistent.addAll es }

/-- Hands unfinished changes back to the head of the queue, keeping their order. -/
def requeue (q : ChangeQueue) (es : List Entry) : ChangeQueue :=
  { q with numbered := q.numbered.requeue es, consistent := q.consistent.requeue es }

def popBatch (q : ChangeQueue) : List Entry × ChangeQueue :=
  let popped := q.numbered.popUpTo q.batchSize
  (popped.1, { q with numbered := popped.2, consistent := q.consistent.popUpTo q.batchSize })

def clear (q : ChangeQueue) : ChangeQueue :=
  { q with numbered := q.numbered.clear, consistent := q.consistent.clear }

def drain (q : ChangeQueue) : List Entry × ChangeQueue := (q.entries, q.clear)

def dump (q : ChangeQueue) : List String :=
  q.entries.map fun e =>
    q.table ++ "|" ++ e.key ++ ": " ++ e.op.text ++ " " ++ Text.quotedFields e.fields

end ChangeQueue

end DashAgent
