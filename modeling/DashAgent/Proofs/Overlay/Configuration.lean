import DashAgent.Overlay.Eni
import DashAgent.Overlay.Mapping
import DashAgent.Overlay.RouteRule
import DashAgent.Overlay.Vnet

/-!
# Tables of the overlay

The five tables under one name, and the configurations of their objects as one type.
-/
namespace DashAgent

inductive OverlayTable where
  | vnet
  | mapping
  | eni
  | route
  | rule
  deriving DecidableEq, Repr

namespace OverlayTable

def all : List OverlayTable := [vnet, mapping, eni, route, rule]

theorem mem_all (table : OverlayTable) : table ∈ all := by
  cases table <;> decide

theorem nodup_all : all.Nodup := by decide

end OverlayTable

inductive OverlayConfig where
  | vnet (config : VnetConfig)
  | mapping (config : MappingConfig)
  | eni (config : EniConfig)
  | route (config : RouteConfig)
  | rule (config : RuleConfig)
  deriving DecidableEq, Repr

end DashAgent
