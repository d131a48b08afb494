import DashAgent.Daemon
import DashAgent.Text.Json

/-!
# Replays

A replay applies recorded changes in order, working the workers idle after each one, and ends with
one tick of the monitor's timer. The record is a JSON array of changes. A record structure is
written as an object, whose unknown members are skipped, or as the array of its members in order;
an operation is written by its name, or as an object that gives its name the null value.
-/
namespace DashAgent

open Text (Json)

namespace Replay

/-! ## Reading a record -/

def text? : Json → Option String
  | .string text => text
  | _ => none

def list? {α : Type} (decode? : Json → Option α) : Json → Option (List α)
  | .array elements => elements.mapM decode?
  | _ => none

def field? : Json → Option (String × String)
  | .array [name, value] => do
    let name ← text? name
    let value ← text? value
    some (name, value)
  | _ => none

def operation? : Json → Option Operation
  | .string text => text.bind Operation.parse?
  | .object [(name, .null)] => name.bind Operation.parse?
  | _ => none

/-- The value of a member that may be given once at most: `none` where it is repeated,
`some none` where it is absent. -/
def member? (members : List (Option String × Json)) (name : String) : Option (Option Json) :=
  match members.filter fun m => m.1 = some name with
  | [] => some none
  | [m] => some (some m.2)
  | _ => none

def required? (members : List (Option String × Json)) (name : String) : Option Json :=
  (member? members name).bind id

/-- The names of all members hold text. -/
def named (members : List (Option String × Json)) : Bool := members.all fun m => m.1.isSome

/-- An entry from its parts; fields may be left out. -/
def entryOf? (key op : Json) (fields : Option Json) : Option Entry := do
  let key ← text? key
  let op ← operation? op
  let fields ← match fields with
    | some fields => list? field? fields
    | none => some []
  some ⟨key, op, fields⟩

def entry? : Json → Option Entry
  | .array [key, op] => entryOf? key op none
  | .array [key, op, fields] => entryOf? key op (some fields)
  | .object members =>
    if named members then do
      let key ← required? members "key"
      let op ← required? members "op"
      let fields ← member? members "fvs"
      entryOf? key op fields
    else none
  | _ => none

def changeOf? (table entries : Json) : Option TableChange := do
  let table ← text? table
  let entries ← list? entry? entries
  some ⟨table, entries⟩

def change? : Json → Option TableChange
  | .array [table, entries] => changeOf? table entries
  | .object members =>
    if named members then do
      let table ← required? members "table"
      let entries ← required? members "entries"
      changeOf? table entries
    else none
  | _ => none

def parse? (record : String) : Option (List TableChange) :=
  (Json.parse? record).bind (list? change?)

end Replay

namespace Daemon

variable {ω δ : Type} [Worker ω] [Driver δ]

/-- Rounds run after each replayed change before the next one. -/
def maxReplayRounds : Nat := 64

/-- Applies changes one after another, up to the first that loses the driver. -/
def replayChanges : List TableChange → Daemon ω δ → Except DriverError Summary × Daemon ω δ
  | [], d => (.ok .empty, d)
  | change :: rest, d =>
    match (d.routeChange change).processUntilIdle maxReplayRounds with
    | (.error e, d) => (.error e, d)
    | (.ok first, d) =>
      let (answer, d) := replayChanges rest d
      (answer.map first.merge, d)

/-- Applies changes and, if the driver is still there, ticks the monitor's timer once. -/
def replay (d : Daemon ω δ) (changes : List TableChange) :
    Except DriverError Summary × Daemon ω δ :=
  match replayChanges changes d with
  | (.error e, d) => (.error e, d)
  | (.ok summary, d) => (.ok summary, d.onMonitorTimer)

end Daemon

end DashAgent
