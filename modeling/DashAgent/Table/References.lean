import DashAgent.Table

/-!
# Reference counts in tables

A shared object is kept alive by counting the references held on it. Taking or dropping a
reference needs an existing entry: the count of a missing key is never started at zero, and a count
of zero is never lowered.
-/
namespace DashAgent

/-- Values that carry a count of the references held on them. -/
class Referenced (ν : Type) where
  references : ν → UInt32
  /-- One reference more. -/
  acquired : ν → ν
  /-- One reference less, unless there is none. -/
  released? : ν → Option ν

inductive ReferenceError where
  | keyNotFound (key : String)
  | underflow (key : String)
  deriving DecidableEq, Repr

def ReferenceError.message : ReferenceError → String
  | keyNotFound key => "Key not found: " ++ key
  | underflow key => "Reference count underflow: " ++ key

instance : ToString ReferenceError := ⟨ReferenceError.message⟩

namespace Table

variable {ν : Type} [Referenced ν]

def references? (t : Table String ν) (key : String) : Option UInt32 :=
  (t.get? key).map Referenced.references

def acquire (t : Table String ν) (key : String) : Except ReferenceError (Table String ν) :=
  if t.contains key then .ok (t.modify key Referenced.acquired) else .error (.keyNotFound key)

def release (t : Table String ν) (key : String) : Except ReferenceError (Table String ν) :=
  match t.get? key with
  | none => .error (.keyNotFound key)
  | some v =>
    match Referenced.released? v with
    | none => .error (.underflow key)
    | some v => .ok (t.modify key fun _ => v)

end Table

end DashAgent
