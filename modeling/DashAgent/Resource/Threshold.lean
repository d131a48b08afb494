import DashAgent.Resource.UnknownName
import DashAgent.Text.Split

/-!
# Thresholds

A resource is watched against a low and a high threshold. Both are percentages of the capacity, or
numbers of used entries, or numbers of free entries. The low one must lie below the high one, and a
percentage must not exceed one hundred.
-/
namespace DashAgent

inductive ThresholdType where
  | percentage
  | used
  | free
  deriving DecidableEq, Repr

namespace ThresholdType

def text : ThresholdType → String
  | percentage => "percentage"
  | used => "used"
  | free => "free"

instance : ToString ThresholdType := ⟨text⟩

def logTag : ThresholdType → String
  | percentage => "TH_PERCENTAGE"
  | used => "TH_USED"
  | free => "TH_FREE"

def parse (s : String) : Except UnknownName ThresholdType :=
  let word := Text.lowered s
  if word = "percentage" then .ok percentage
  else if word = "used" then .ok used
  else if word = "free" then .ok free
  else .error (.thresholdType s)

end ThresholdType

inductive ThresholdError where
  | notBelow (low high : UInt32)
  | overHundred (high : UInt32)
  deriving DecidableEq, Repr

def ThresholdError.message : ThresholdError → String
  | notBelow low high =>
    "low threshold " ++ toString low.toNat ++ " must be below high threshold " ++
      toString high.toNat
  | overHundred high => "percentage threshold " ++ toString high.toNat ++ " exceeds 100"

instance : ToString ThresholdError := ⟨ThresholdError.message⟩

structure Thresholds where
  type : ThresholdType
  low : UInt32
  high : UInt32
  deriving DecidableEq, Repr

namespace Thresholds

/-- The thresholds of a resource that was never configured. -/
def default : Thresholds := ⟨.percentage, 70, 85⟩

def validate (t : Thresholds) : Except ThresholdError Unit :=
  if t.high ≤ t.low then .error (.notBelow t.low t.high)
  else if t.type = .percentage ∧ 100 < t.high then .error (.overHundred t.high)
  else .ok ()

end Thresholds

end DashAgent
