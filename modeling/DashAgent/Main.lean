import DashAgent.CommandLine
import DashAgent.Daemon.EventLoop

/-!
# The command

Reads the command line, gives it access to the file system, and runs the event loop in real time
where no replay is asked for.
-/
namespace DashAgent

/-- The file system. A file that cannot be read or written is an answer and not an exception. -/
def fileSystem : FileAccess IO where
  read path := do
    try
      let text ← IO.FS.readFile path
      pure (some text)
    catch _ => pure none
  write path text := do
    try
      IO.FS.writeFile path text
      pure true
    catch _ => pure false

/-- Runs the turns of a loop at their times until it ends. -/
partial def serve (l : EventLoop AgentWorker Simulator) : IO UInt32 := do
  match l.outcome with
  | some (.ok ()) => pure 0
  | some (.error _) => pure 1
  | none =>
    let next := l.step
    IO.sleep (UInt32.ofNat (min (next.now - l.now) 0xffffffff))
    serve next

end DashAgent

def main (arguments : List String) : IO UInt32 := do
  let command := DashAgent.Command.parse arguments
  let report ← DashAgent.CommandLine.run DashAgent.fileSystem command
  match report, command with
  | some report, _ =>
    report.log.forM fun line => IO.eprintln line
    IO.print report.stdout
    pure report.exit
  | none, .run a => DashAgent.serve (.start (DashAgent.CommandLine.agent a) [] none)
  | none, _ => pure 2
