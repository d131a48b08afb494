import DashAgent.Resource.Counter
import DashAgent.Resource.Kind
import DashAgent.Text.Quoted

/-!
# Threshold events

What is published when an excursion of a sub-pool begins or ends.
-/
namespace DashAgent

inductive ThresholdEventKind where
  | exceeded
  | clear
  deriving DecidableEq, Repr

def ThresholdEventKind.text : ThresholdEventKind → String
  | exceeded => "THRESHOLD_EXCEEDED"
  | clear => "THRESHOLD_CLEAR"

instance : ToString ThresholdEventKind := ⟨ThresholdEventKind.text⟩

/-- The beginning or the end of an excursion. -/
structure ThresholdEvent where
  resource : Resource
  subPool : SubPool
  kind : ThresholdEventKind
  type : ThresholdType
  percent : Nat
  used : UInt32
  free : UInt32
  deriving DecidableEq, Repr

namespace ThresholdEvent

def params (e : ThresholdEvent) : List (String × String) :=
  [("percent", toString e.percent), ("used_cnt", toString e.used.toNat),
    ("free_cnt", toString e.free.toNat)]

def logLine (e : ThresholdEvent) : String :=
  "chk_crm_threshold " ++ e.kind.text ++ ": " ++ e.resource.logName ++ " " ++ e.subPool.row ++
    " " ++ e.type.logTag ++ " " ++ Text.quotedFields e.params

end ThresholdEvent

end DashAgent
