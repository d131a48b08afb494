import DashAgent.Daemon.Worker

/-!
# Recorders

A recorder is a worker that programs nothing: it collects the keys it is given and counts its turns
and timer ticks. It accepts everything, or fails every turn with one error and keeps its keys. It
shows what the daemon and its event loop hand to a worker, and when.
-/
namespace DashAgent

/-- A worker that records what reaches it. -/
structure Recorder where
  name : String
  priority : Int
  table : String
  /-- What every turn fails with. -/
  failure : Option DriverError
  /-- The keys given and not yet accepted. -/
  keys : List String
  turns : Nat
  ticks : Nat
  deriving DecidableEq, Repr

namespace Recorder

def new (name : String) (priority : Int) (table : String) (failure : Option DriverError) :
    Recorder :=
  ⟨name, priority, table, failure, [], 0, 0⟩

instance : Worker Recorder where
  name := Recorder.name
  priority := Recorder.priority
  consumes r table := table = r.table
  enqueue r _ es := { r with keys := r.keys ++ es.map Entry.key }
  work r c d :=
    let r := { r with turns := r.turns + 1 }
    match r.failure with
    | some error => (.error error, r, c, d)
    | none =>
      (.ok { Summary.empty with committed := r.keys.length }, { r with keys := [] }, c, d)
  hasPending r := !r.keys.isEmpty
  pending := Recorder.keys
  onTimer r := { r with ticks := r.ticks + 1 }

end Recorder

end DashAgent
