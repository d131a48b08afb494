import DashAgent.Change.EntryError

/-!
# Change entries

One desired-state change: a key, whether its object is set or deleted, and field-value pairs in
the order given. A field is looked up by its first occurrence; an empty value counts as absent
for mandatory and optional fields, but not for a boolean that is read directly.
-/
namespace DashAgent

inductive Operation where
  | set
  | del
  deriving DecidableEq, Repr

namespace Operation

def isSet : Operation → Bool
  | set => true
  | del => false

def isDel : Operation → Bool
  | set => false
  | del => true

def text : Operation → String
  | set => "SET"
  | del => "DEL"

instance : ToString Operation := ⟨text⟩

/-- Reads an operation, in capitals only. -/
def parse? (s : String) : Option Operation :=
  if s = "SET" then some set else if s = "DEL" then some del else none

end Operation

structure Entry where
  key : String
  op : Operation
  fields : List (String × String)
  deriving DecidableEq, Repr

/-- Changes of one table that arrived together. -/
structure TableChange where
  table : String
  entries : List Entry
  deriving DecidableEq, Repr

namespace Entry

/-- The value of the first occurrence of a field. -/
def field? (e : Entry) (name : String) : Option String :=
  (e.fields.find? (·.1 = name)).map (·.2)

/-- A field of this name is given, empty or not. -/
def hasField (e : Entry) (name : String) : Bool := e.fields.any (·.1 = name)

def nonempty? (e : Entry) (name : String) : Option String :=
  (e.field? name).filter (· ≠ "")

def required (e : Entry) (name : String) : Except EntryError String :=
  match e.nonempty? name with
  | some value => .ok value
  | none => .error (.missingField name)

/-- An optional field read by `read?`; absent and empty give `none`. -/
def optional {α : Type} (e : Entry) (name : String) (read? : String → Option α) :
    Except EntryError (Option α) :=
  match e.nonempty? name with
  | none => .ok none
  | some value =>
    match read? value with
    | some a => .ok (some a)
    | none => .error (.badField name value)

/-- A field that is read whenever it is present, even when empty. -/
def withDefault {α : Type} (e : Entry) (name : String) (default : α)
    (read : String → Except EntryError α) : Except EntryError α :=
  match e.field? name with
  | none => .ok default
  | some value => read value

end Entry

end DashAgent
