import DashAgent.Daemon.Worker
import DashAgent.Resource.Monitor.Polling
import DashAgent.Text.Duration

/-!
# The daemon

The daemon hands changes to the workers that consume their table, lets the workers with pending
changes take their turns in order of priority, and drives the polls of the resource monitor. A turn
that fails is passed over, unless the connection to the driver is gone: then the driver is asked for
a dump and the round ends.
-/
namespace DashAgent

structure DaemonConfig where
  heartbeatMs : Nat
  batchSize : Nat
  /-- End the process when the connection to the driver is gone. -/
  abortOnFailure : Bool
  deriving DecidableEq, Repr

/-- Workers with what they share, in the order of their turns. -/
structure Daemon (ω δ : Type) where
  config : DaemonConfig
  workers : List ω
  context : Context
  switch : δ
  running : Bool

namespace Daemon

variable {ω δ : Type}

def new (config : DaemonConfig) (context : Context) (switch : δ) : Daemon ω δ :=
  ⟨config, [], context, switch, false⟩

def stop (d : Daemon ω δ) : Daemon ω δ := { d with running := false }

section Workers

variable [Worker ω]

/-- The workers with one more behind those of the same or an earlier priority. -/
def enroll (w : ω) : List ω → List ω
  | [] => [w]
  | v :: rest =>
    if Worker.priority v ≤ Worker.priority w then v :: enroll w rest else w :: v :: rest

def register (d : Daemon ω δ) (w : ω) : Daemon ω δ := { d with workers := enroll w d.workers }

def isConsumed (d : Daemon ω δ) (table : String) : Bool :=
  d.workers.any fun w => Worker.consumes w table

/-- Hands changes to every worker that consumes their table; otherwise they are lost. -/
def routeChange (d : Daemon ω δ) (change : TableChange) : Daemon ω δ :=
  { d with
    workers := d.workers.map fun w =>
      if Worker.consumes w change.table then Worker.enqueue w change.table change.entries else w }

def hasPending (d : Daemon ω δ) : Bool := d.workers.any Worker.hasPending

def pendingCount (d : Daemon ω δ) : Nat :=
  d.workers.foldl (fun n w => n + (Worker.pending w).length) 0

/-- The number of different priorities. -/
def groupCount (d : Daemon ω δ) : Nat := (d.workers.map Worker.priority).eraseDups.length

end Workers

section Driven

variable [Worker ω] [Driver δ]

/-- Reacts to the loss of the driver: a dump is asked for, whether or not it can be taken. -/
def reportFailure (d : Daemon ω δ) : Daemon ω δ := { d with switch := (Driver.dump d.switch).2 }

/-- The turns of the given workers, up to the first one that loses the driver. -/
def takeTurns : List ω → Context → δ → Except DriverError Summary × List ω × Context × δ
  | [], c, s => (.ok .empty, [], c, s)
  | w :: rest, c, s =>
    if Worker.hasPending w then
      match Worker.work w c s with
      | (.ok first, w, c, s) =>
        let (answer, rest, c, s) := takeTurns rest c s
        (answer.map first.merge, w :: rest, c, s)
      | (.error e, w, c, s) =>
        if e.isFatal then (.error e, w :: rest, c, s)
        else
          let (answer, rest, c, s) := takeTurns rest c s
          (answer, w :: rest, c, s)
    else
      let (answer, rest, c, s) := takeTurns rest c s
      (answer, w :: rest, c, s)

/-- One round: every worker with pending changes takes a turn. -/
def processOnce (d : Daemon ω δ) : Except DriverError Summary × Daemon ω δ :=
  let (answer, workers, context, switch) := takeTurns d.workers d.context d.switch
  let d := { d with workers, context, switch }
  match answer with
  | .ok summary => (.ok summary, d)
  | .error e => (.error e, d.reportFailure)

/-- Rounds until nothing is pending, a round consumes nothing, or the given number is reached. -/
def processUntilIdle : Nat → Daemon ω δ → Except DriverError Summary × Daemon ω δ
  | 0, d => (.ok .empty, d)
  | rounds + 1, d =>
    if d.hasPending then
      match d.processOnce with
      | (.error e, d) => (.error e, d)
      | (.ok first, d) =>
        if first.consumed = 0 then (.ok first, d)
        else
          let (answer, d) := processUntilIdle rounds d
          (answer.map first.merge, d)
    else (.ok .empty, d)

def onMonitorTimer (d : Daemon ω δ) : Daemon ω δ :=
  let (monitor, switch) := d.context.monitor.onTimer d.switch
  { d with
    context := { d.context with monitor }
    switch
    workers := d.workers.map Worker.onTimer }

end Driven

/-! ## Dumps -/

/-- A number right-aligned in three columns. -/
def threeColumns (n : Int) : String :=
  let digits := toString n
  String.ofList (List.replicate (3 - digits.length) ' ') ++ digits

def dump [Worker ω] (d : Daemon ω δ) : List String :=
  ("OrchDaemon running: " ++ toString d.running) ::
    d.workers.map fun w =>
      "  [" ++ threeColumns (Worker.priority w) ++ "] " ++ Worker.name w ++ " - " ++
        toString (Worker.pending w).length ++ " pending"

def dumpRecord (name : String) (fields : List (String × String)) : String :=
  name ++ " \x7b " ++
    String.intercalate ", " (fields.map fun (field, value) => field ++ ": " ++ value) ++ " \x7d"

def dumpConfig (config : DaemonConfig) : String :=
  dumpRecord "OrchDaemonConfig"
    [("heartbeat_interval_ms", toString config.heartbeatMs),
      ("batch_size", toString config.batchSize),
      ("abort_on_sai_failure", toString config.abortOnFailure)]

def dumpDaemon [Worker ω] (d : Daemon ω δ) : String :=
  dumpRecord "OrchDaemon"
    [("config", dumpConfig d.config), ("orch_groups", toString d.groupCount),
      ("running", toString d.running)]

def dumpMonitor (m : Monitor) : String :=
  dumpRecord "CrmOrch"
    [("config", dumpRecord "CrmOrchConfig" [("polling_interval", Text.duration m.pollingMs)]),
      ("resources_count", toString Resource.all.length),
      ("stats", dumpRecord "CrmOrchStats"
        [("timer_expirations", toString m.stats.timerExpirations),
          ("threshold_events", toString m.stats.thresholdEvents),
          ("config_updates", toString m.stats.configUpdates),
          ("increments", toString m.stats.increments),
          ("decrements", toString m.stats.decrements)])]

def dumpContext (c : Context) : String :=
  dumpRecord "OrchContext"
    [("crm", dumpMonitor c.monitor), ("vnets", toString c.vnetIds.size),
      ("enis", toString c.eniIds.size)]

end Daemon

end DashAgent
