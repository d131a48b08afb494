import DashAgent.Change.Fields
import DashAgent.Daemon.AgentWorker
import DashAgent.Daemon.Replay
import DashAgent.FileAccess
import DashAgent.Switch.Simulator

/-!
# The command line

Arguments are read from left to right, and the first one that is wrong, or that asks for the version
or the usage, decides. An option is given at most once, with its value attached or in the next
argument, which must not look like an option. Writing the counters needs a replay to take them from.
-/
namespace DashAgent

structure Arguments where
  batchSize : Option Nat
  logLevel : Option String
  heartbeatMs : Option Nat
  replay : Option String
  countersOut : Option String
  simCapacity : Option Nat
  noAbort : Bool
  deriving DecidableEq, Repr

inductive Command where
  | run (arguments : Arguments)
  | version
  | usage
  /-- The command line is not understood. -/
  | refused
  deriving DecidableEq, Repr

namespace Arguments

def nothing : Arguments := ⟨none, none, none, none, none, none, false⟩

def takesValue (name : String) : Bool :=
  name ∈ ["batch-size", "log-level", "heartbeat-interval", "replay", "counters-out",
    "sim-capacity"]

/-- The value of an option that was not given before. -/
def once {α : Type} (given : Option α) (value : Option α) : Option (Option α) :=
  match given, value with
  | none, some a => some (some a)
  | _, _ => none

def path? (value : String) : Option String := if value = "" then none else some value

def set? (a : Arguments) (name value : String) : Option Arguments :=
  if name = "batch-size" then
    (once a.batchSize (readUInt64? value)).map fun v => { a with batchSize := v }
  else if name = "log-level" then
    (once a.logLevel (some value)).map fun v => { a with logLevel := v }
  else if name = "heartbeat-interval" then
    (once a.heartbeatMs (readUInt64? value)).map fun v => { a with heartbeatMs := v }
  else if name = "replay" then
    (once a.replay (path? value)).map fun v => { a with replay := v }
  else if name = "counters-out" then
    (once a.countersOut (path? value)).map fun v => { a with countersOut := v }
  else if name = "sim-capacity" then
    (once a.simCapacity (readUInt64? value)).map fun v => { a with simCapacity := v }
  else none

def longName? : Char → Option String
  | 'b' => some "batch-size"
  | 'l' => some "log-level"
  | _ => none

end Arguments

inductive Word where
  /-- An option by its long name, with the value attached to it, where there is one. -/
  | long (name : String) (attached : Option String)
  /-- A short option with what follows its letter. -/
  | short (letter : Char) (attached : Option String)
  /-- The mark behind which there are no options. -/
  | separator
  | plain (text : String)
  deriving DecidableEq, Repr

def Word.of (argument : String) : Word :=
  match argument.toList with
  | ['-', '-'] => separator
  | '-' :: '-' :: text =>
    match Text.splitOnce '=' text with
    | some (name, value) => long (String.ofList name) (some (String.ofList value))
    | none => long (String.ofList text) none
  | ['-', letter] => short letter none
  | '-' :: letter :: '=' :: value => short letter (some (String.ofList value))
  | '-' :: letter :: value => short letter (some (String.ofList value))
  | _ => plain argument

namespace Command

def finish (a : Arguments) : Command :=
  if a.countersOut.isSome && a.replay.isNone then refused else run a

/-- Reads arguments after those already given; `pending` is an option that waits for its value. -/
def read (a : Arguments) (pending : Option String) : List String → Command
  | [] => if pending.isSome then refused else finish a
  | argument :: rest =>
    match pending, Word.of argument with
    | some name, .plain value =>
      match a.set? name value with
      | some a => read a none rest
      | none => refused
    | some _, _ => refused
    | none, .plain _ => refused
    | none, .separator => if rest.isEmpty then finish a else refused
    | none, .long name attached =>
      if Arguments.takesValue name then
        match attached with
        | none => read a (some name) rest
        | some value =>
          match a.set? name value with
          | some a => read a none rest
          | none => refused
      else
        match name, attached with
        | "no-abort-on-sai-failure", none =>
          if a.noAbort then refused else read { a with noAbort := true } none rest
        | "version", none => version
        | "help", none => usage
        | _, _ => refused
    | none, .short letter attached =>
      match Arguments.longName? letter, attached with
      | some name, none => read a (some name) rest
      | some name, some value =>
        match a.set? name value with
        | some a => read a none rest
        | none => refused
      | none, _ =>
        if letter = 'V' then version else if letter = 'h' then usage else refused

def parse (arguments : List String) : Command := read .nothing none arguments

end Command

/-! ## Running -/

/-- How a command ended. -/
structure Report where
  exit : UInt32
  stdout : String
  /-- The threshold events of the run, as log lines. -/
  log : List String
  deriving DecidableEq, Repr

namespace Report

def silent (exit : UInt32) : Report := ⟨exit, "", []⟩

end Report

namespace CommandLine

def versionText : String := "orchagent 0.1.0\n"

def usageText : String :=
  String.intercalate "\n"
    ["SONiC DASH orchagent - bulk reconciliation with critical resource monitoring",
      "",
      "Usage: orchagent [OPTIONS]",
      "",
      "Options:",
      "  -b, --batch-size <BATCH_SIZE>",
      "          Batch size for consumer table operations [default: 128]",
      "  -l, --log-level <LOG_LEVEL>",
      "          Log level (trace, debug, info, warn, error) [default: info]",
      "      --heartbeat-interval <HEARTBEAT_INTERVAL>",
      "          Heartbeat interval in milliseconds [default: 1000]",
      "      --replay <REPLAY>",
      "          Apply the table changes recorded in this JSON file and exit",
      "      --counters-out <COUNTERS_OUT>",
      "          Write the CRM counters table to this JSON file after a replay",
      "      --sim-capacity <SIM_CAPACITY>",
      "          Table size of every object type in the simulated switch [default: 4096]",
      "      --no-abort-on-sai-failure",
      "          Keep running after a fatal driver failure instead of aborting",
      "  -h, --help",
      "          Print help",
      "  -V, --version",
      "          Print version",
      ""]

def configOf (a : Arguments) : DaemonConfig where
  heartbeatMs := a.heartbeatMs.getD 1000
  batchSize := a.batchSize.getD ChangeQueue.defaultBatchSize
  abortOnFailure := !a.noAbort

/-- The agent that arguments ask for, before its first change. -/
def agent (a : Arguments) : Daemon AgentWorker Simulator :=
  let config := configOf a
  let monitor := Monitor.new Monitor.defaultPollingMs .empty
  let switch := Simulator.new (a.simCapacity.getD Simulator.defaultTableSize)
  (AgentWorker.all config.batchSize).foldl Daemon.register
    (Daemon.new config (.new monitor) switch)

/-- The agent after a recorded replay, or `none` where the record is malformed or the driver was
lost. -/
def replayed? (a : Arguments) (record : String) : Option (Daemon AgentWorker Simulator) :=
  match Replay.parse? record with
  | none => none
  | some changes =>
    match (agent a).replay changes with
    | (.ok _, daemon) => some daemon
    | (.error _, _) => none

/-- Replays a record and writes the counters where that is asked for. -/
def runReplay {m : Type → Type} [Monad m] (files : FileAccess m) (a : Arguments) (path : String) :
    m Report := do
  let record ← files.read path
  match record.bind (replayed? a) with
  | none => pure (.silent 1)
  | some daemon =>
    let monitor := daemon.context.monitor
    let log := monitor.events.map ThresholdEvent.logLine
    match a.countersOut with
    | none => pure ⟨0, "", log⟩
    | some out =>
      let written ← files.write out monitor.telemetry.json
      pure ⟨if written then 0 else 1, "", log⟩

/-- Runs a command that ends by itself. -/
def run {m : Type → Type} [Monad m] (files : FileAccess m) : Command → m (Option Report)
  | .version => pure (some ⟨0, versionText, []⟩)
  | .usage => pure (some ⟨0, usageText, []⟩)
  | .refused => pure (some (.silent 2))
  | .run a =>
    match a.replay with
    | some path => some <$> runReplay files a path
    | none => pure none

end CommandLine

end DashAgent
