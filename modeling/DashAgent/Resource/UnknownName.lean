/-!
# Unknown names

Resources and threshold types are given by name; these are the names that nothing has.
-/
namespace DashAgent

inductive UnknownName where
  | resource (text : String)
  | thresholdType (text : String)
  deriving DecidableEq, Repr

def UnknownName.message : UnknownName → String
  | resource text => "Unknown CRM resource type: " ++ text
  | thresholdType text => "Unknown threshold type: " ++ text

instance : ToString UnknownName := ⟨UnknownName.message⟩

end DashAgent
