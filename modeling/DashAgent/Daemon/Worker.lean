import DashAgent.Context
import DashAgent.Reconcile.Pass
import DashAgent.Switch.Driver

/-!
# Workers

A worker owns the queues of the tables it consumes and works them off when its turn comes. Workers
run one after another on one thread and share a context and a driver, so a turn takes both and hands
both on, also when it fails.
-/
namespace DashAgent

/-- What the daemon asks of a worker of type `ω`. -/
class Worker (ω : Type) where
  name : ω → String
  /-- Lower runs earlier. -/
  priority : ω → Int
  consumes : ω → String → Bool
  enqueue : ω → String → List Entry → ω
  /-- Works off pending changes; only an error of the whole driver call is handed out. -/
  work : {δ : Type} → [Driver δ] → ω → Context → δ →
    Except DriverError Summary × ω × Context × δ
  hasPending : ω → Bool
  pending : ω → List String
  onTimer : ω → ω

instance {α β : Type} [Worker α] [Worker β] : Worker (α ⊕ β) where
  name
    | .inl a => Worker.name a
    | .inr b => Worker.name b
  priority
    | .inl a => Worker.priority a
    | .inr b => Worker.priority b
  consumes
    | .inl a => Worker.consumes a
    | .inr b => Worker.consumes b
  enqueue
    | .inl a, table, es => .inl (Worker.enqueue a table es)
    | .inr b, table, es => .inr (Worker.enqueue b table es)
  work
    | .inl a, c, d =>
      let (answer, a, c, d) := Worker.work a c d
      (answer, .inl a, c, d)
    | .inr b, c, d =>
      let (answer, b, c, d) := Worker.work b c d
      (answer, .inr b, c, d)
  hasPending
    | .inl a => Worker.hasPending a
    | .inr b => Worker.hasPending b
  pending
    | .inl a => Worker.pending a
    | .inr b => Worker.pending b
  onTimer
    | .inl a => .inl (Worker.onTimer a)
    | .inr b => .inr (Worker.onTimer b)

end DashAgent
