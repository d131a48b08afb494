/-!
# Entry errors

Why the text of a change entry cannot be understood. Each cause carries the text at fault, and
`message` is the only place that words it.
-/
namespace DashAgent

inductive EntryError where
  | missingField (field : String)
  /-- An optional field holds text its type does not read. -/
  | badField (field value : String)
  | badBoolean (value : String)
  | badMac (value : String)
  | badNetwork (text : String)
  | badNetworkLength (text : String)
  | badVni
  | badUnderlayIp
  | badRulePriority
  | unknownRoutingType (text : String)
  | unknownAction (text : String)
  /-- A mapping key without a VNET name in front of a colon. -/
  | badMappingKey (text : String)
  | badOverlayIp (text : String)
  /-- A stored mapping whose key has no colon. -/
  | mappingKeyShape
  | badRouteKey (text : String)
  | badRuleKey (text : String)
  | badVniInKey (text : String)
  /-- The route action needs the name of a VNET. -/
  | actionNeedsVnet
  /-- The route action needs the name of a VNET and an overlay address. -/
  | actionNeedsVnetAndOverlay
  /-- Source validation needs the name of a VNET. -/
  | validationNeedsVnet
  deriving DecidableEq, Repr

def EntryError.message : EntryError → String
  | missingField field => "missing field " ++ field
  | badField field value => "invalid " ++ field ++ ": " ++ value
  | badBoolean value => "invalid boolean: " ++ value
  | badMac value => "invalid MAC address: " ++ value
  | badNetwork text => "invalid prefix: " ++ text
  | badNetworkLength text => "invalid prefix length: " ++ text
  | badVni => "invalid vni"
  | badUnderlayIp => "invalid underlay_ip"
  | badRulePriority => "invalid priority"
  | unknownRoutingType text => "unknown routing type: " ++ text
  | unknownAction text => "unknown action_type: " ++ text
  | badMappingKey text => "invalid VNET mapping key: " ++ text
  | badOverlayIp text => "invalid overlay IP in key: " ++ text
  | mappingKeyShape => "invalid VNET mapping key"
  | badRouteKey text => "invalid route key: " ++ text
  | badRuleKey text => "invalid route rule key: " ++ text
  | badVniInKey text => "invalid vni in key: " ++ text
  | actionNeedsVnet => "action vnet requires vnet"
  | actionNeedsVnetAndOverlay => "action vnet_direct requires vnet and overlay_ip"
  | validationNeedsVnet => "pa_validation requires vnet"

instance : ToString EntryError := ⟨EntryError.message⟩

def orError {α ε : Type} (error : ε) : Option α → Except ε α
  | some a => .ok a
  | none => .error error

@[simp] theorem orError_eq_ok_iff {α ε : Type} {error : ε} {a? : Option α} {a : α} :
    orError error a? = .ok a ↔ a? = some a := by
  cases a? <;> simp [orError]

/-- What is read in steps is read in each of them. -/
theorem exists_of_bind_ok {ε α β : Type} {x : Except ε α} {f : α → Except ε β} {b : β}
    (h : x >>= f = .ok b) : ∃ a, x = .ok a ∧ f a = .ok b := by
  cases x with
  | error => cases h
  | ok a => exact ⟨a, rfl, h⟩

end DashAgent
