import DashAgent.Daemon

/-!
# The event loop

The loop waits for whichever comes first: something from outside, the heartbeat, the monitor's
timer, or the end. A change is routed when it arrives, the heartbeat runs a round, the timer ticks
the monitor. Turns take no time, so a loop is a sequence of turns at times in milliseconds. A new
polling interval restarts the timer at the turn after which it is in force. The loop ends when it is
told to, or at once when the driver is lost; then the daemon still counts as running.
-/
namespace DashAgent

/-- Something that happens outside at a time. -/
structure Occurrence (δ : Type) where
  time : Nat
  /-- What happens to the switch. -/
  act : δ → δ
  /-- Changes that arrive, unless the channel they come through is closed. -/
  change : Option TableChange
  closes : Bool

structure EventLoop (ω δ : Type) where
  daemon : Daemon ω δ
  now : Nat
  nextBeat : Nat
  nextTick : Nat
  /-- The period that the timer was started with. -/
  period : Nat
  /-- Changes still come. -/
  isOpen : Bool
  /-- What still happens outside, in order of time. -/
  outside : List (Occurrence δ)
  /-- When the loop is told to end, if ever. -/
  stopAt : Option Nat
  outcome : Option (Except DriverError Unit)

namespace EventLoop

variable {ω δ : Type}

/-- The period of the monitor's timer: the polling interval, but at least one millisecond. -/
def periodOf (d : Daemon ω δ) : Nat := max d.context.monitor.pollingMs 1

def beatPeriod (l : EventLoop ω δ) : Nat := max l.daemon.config.heartbeatMs 1

/-- A loop at time zero: the heartbeat is due at once, the timer after one period. -/
def start (daemon : Daemon ω δ) (outside : List (Occurrence δ)) (stopAt : Option Nat) :
    EventLoop ω δ where
  daemon := { daemon with running := true }
  now := 0
  nextBeat := 0
  nextTick := periodOf daemon
  period := periodOf daemon
  isOpen := true
  outside
  stopAt
  outcome := none

inductive Turn (δ : Type) where
  | outside (occurrence : Occurrence δ) (rest : List (Occurrence δ))
  | heartbeat
  | timer
  | shutdown (time : Nat)

def timeOf (l : EventLoop ω δ) : Turn δ → Nat
  | .outside occurrence _ => occurrence.time
  | .heartbeat => l.nextBeat
  | .timer => l.nextTick
  | .shutdown time => time

/-- The earlier of two turns; the first one if they are due together. -/
def earlier (l : EventLoop ω δ) (a b : Turn δ) : Turn δ :=
  if l.timeOf b < l.timeOf a then b else a

def nextTurn (l : EventLoop ω δ) : Turn δ :=
  let turn := l.earlier .heartbeat .timer
  let turn := match l.outside with
    | occurrence :: rest => l.earlier (.outside occurrence rest) turn
    | [] => turn
  match l.stopAt with
  | some time => l.earlier turn (.shutdown time)
  | none => turn

/-- Restarts the timer if its period has changed, and ends the loop of a stopped daemon. -/
def settle (l : EventLoop ω δ) : EventLoop ω δ :=
  let period := periodOf l.daemon
  let l := if period = l.period then l else { l with period, nextTick := l.now + period }
  if l.daemon.running then l else { l with outcome := some (.ok ()) }

def meet [Worker ω] (l : EventLoop ω δ) (o : Occurrence δ) : EventLoop ω δ :=
  let d := { l.daemon with switch := o.act l.daemon.switch }
  let d := match o.change with
    | some change => if l.isOpen then d.routeChange change else d
    | none => d
  { l with daemon := d, isOpen := l.isOpen && !o.closes }

/-- One turn of a loop that has not ended. -/
def step [Worker ω] [Driver δ] (l : EventLoop ω δ) : EventLoop ω δ :=
  let turn := l.nextTurn
  let l := { l with now := l.timeOf turn }
  match turn with
  | .outside occurrence rest => settle ({ l with outside := rest }.meet occurrence)
  | .heartbeat =>
    match l.daemon.processOnce with
    | (.ok _, daemon) => settle { l with daemon, nextBeat := l.now + l.beatPeriod }
    | (.error e, daemon) => { l with daemon, outcome := some (.error e) }
  | .timer =>
    settle { l with daemon := l.daemon.onMonitorTimer, nextTick := l.now + l.period }
  | .shutdown _ => settle { l with daemon := l.daemon.stop }

/-- The loop after each of its turns, up to the given number of them. -/
def history [Worker ω] [Driver δ] : Nat → EventLoop ω δ → List (EventLoop ω δ)
  | 0, _ => []
  | turns + 1, l =>
    if l.outcome.isSome then []
    else
      let l := l.step
      l :: history turns l

/-- More turns than a loop that ends at a time can take: in every millisecond the heartbeat and the
timer are due once at most. -/
def turnBound (l : EventLoop ω δ) (stopAt : Nat) : Nat := 2 * (stopAt + 1) + l.outside.length + 1

/-- The loop after each of its turns until it has ended at a time. -/
def historyUntil [Worker ω] [Driver δ] (daemon : Daemon ω δ) (outside : List (Occurrence δ))
    (stopAt : Nat) : List (EventLoop ω δ) :=
  let l := start daemon outside (some stopAt)
  history (l.turnBound stopAt) l

end EventLoop

end DashAgent
