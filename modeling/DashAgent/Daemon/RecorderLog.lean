import DashAgent.Daemon.EventLoop
import DashAgent.Daemon.Recorder

/-!
# Logs of recorders

When a recorder took its turns and its timer ticks, read off the history of an event loop: the times
after which its counts have gone up.
-/
namespace DashAgent

inductive RecorderCall where
  | turn
  | tick
  deriving DecidableEq, Repr

namespace Recorder

def count (r : Recorder) : RecorderCall → Nat
  | .turn => r.turns
  | .tick => r.ticks

def callsBetween (before after : Recorder) : List RecorderCall :=
  [RecorderCall.turn, .tick].filter fun call => before.count call < after.count call

variable {α δ : Type}

/-- The state of the recorder of a name among the workers of a daemon. -/
def find? (name : String) (d : Daemon (α ⊕ Recorder) δ) : Option Recorder :=
  (d.workers.filterMap Sum.getRight?).find? fun r => r.name = name

/-- The calls of a recorder in the history of an event loop, with their times. -/
def log (r : Recorder) : List (EventLoop (α ⊕ Recorder) δ) → List (RecorderCall × Nat)
  | [] => []
  | l :: rest =>
    let after := (find? r.name l.daemon).getD r
    (r.callsBetween after).map (·, l.now) ++ log after rest

end Recorder

end DashAgent
