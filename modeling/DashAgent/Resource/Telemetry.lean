import DashAgent.Table
import DashAgent.Text.JsonString

/-!
# Telemetry rows

The published counters: rows of fields, both in the order of their names. A row appears when it is
set, even without fields, and disappears when it is deleted or loses its last field.
-/
namespace DashAgent

/-- Published rows by key. -/
structure Telemetry where
  rows : Table String (Table String String)
  deriving DecidableEq

namespace Telemetry

def empty : Telemetry := ⟨.empty⟩

variable (t : Telemetry)

def row? (key : String) : Option (Table String String) := t.rows.get? key

def field? (key field : String) : Option String := (t.row? key).bind fun row => row.get? field

def contains (key : String) : Bool := t.rows.contains key

def keys : List String := t.rows.keys

/-- Every field with the key of its row, its name and its value. -/
def fields : List (String × String × String) :=
  t.rows.entries.flatMap fun (key, row) => row.entries.map fun (name, value) => (key, name, value)

def set (key : String) (fields : List (String × String)) : Telemetry :=
  ⟨t.rows.insert key (((t.row? key).getD .empty).insertAll fields)⟩

def delete (key : String) : Telemetry := ⟨t.rows.erase key⟩

/-- Deletes fields of a row, and the row with its last field. -/
def deleteFields (key : String) (fields : List String) : Telemetry :=
  match t.row? key with
  | none => t
  | some row =>
    let row := fields.foldl (fun row field => row.erase field) row
    if row.isEmpty then ⟨t.rows.erase key⟩ else ⟨t.rows.insert key row⟩

/-- Members of a JSON object, one to a line, each after `indent`. -/
def jsonObject (indent : String) (members : List (String × String)) : String :=
  if members.isEmpty then "\x7b\x7d"
  else
    let line := fun (name, value) => indent ++ "  " ++ Text.jsonQuoted name ++ ": " ++ value
    let lines := members.map line
    "\x7b\n" ++ String.intercalate ",\n" lines ++ "\n" ++ indent ++ "\x7d"

/-- All rows as a JSON object of objects, indented by two spaces a level. -/
def json : String :=
  jsonObject "" (t.rows.entries.map fun (key, row) =>
    (key, jsonObject "  " (row.entries.map fun (field, value) => (field, Text.jsonQuoted value))))

end Telemetry

end DashAgent
