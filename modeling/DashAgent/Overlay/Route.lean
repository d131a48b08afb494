import DashAgent.Change.Fields
import DashAgent.Net.IpPrefix
import DashAgent.Overlay.RoutingTable

/-!
# Outbound routes

A route tells an ENI what to do with packets to a prefix. Its entry key on the switch is made of the
identifier of the ENI and the prefix; the ENI, and the VNET where one is named, must be programmed
before it.
-/
namespace DashAgent

inductive RouteAction where
  | vnet
  /-- Routes into a VNET, to the given overlay address. -/
  | vnetDirect
  | direct
  | drop
  deriving DecidableEq, Repr

namespace RouteAction

def parse? (s : String) : Option RouteAction :=
  if s = "vnet" then some vnet
  else if s = "vnet_direct" then some vnetDirect
  else if s = "direct" then some direct
  else if s = "drop" then some drop
  else none

def parse (s : String) : Except EntryError RouteAction := orError (.unknownAction s) (parse? s)

def attributeText : RouteAction → String
  | vnet => "SAI_OUTBOUND_ROUTING_ENTRY_ACTION_ROUTE_VNET"
  | vnetDirect => "SAI_OUTBOUND_ROUTING_ENTRY_ACTION_ROUTE_VNET_DIRECT"
  | direct => "SAI_OUTBOUND_ROUTING_ENTRY_ACTION_ROUTE_DIRECT"
  | drop => "SAI_OUTBOUND_ROUTING_ENTRY_ACTION_DROP"

end RouteAction

structure RouteKey where
  eni : String
  net : IpPrefix
  deriving DecidableEq, Repr

namespace RouteKey

def text (k : RouteKey) : String := k.eni ++ ":" ++ k.net.text

/-- Reads a key at its first colon; the name must not be empty. -/
def parse (s : String) : Except EntryError RouteKey :=
  match Text.splitOnce ':' s.toList with
  | none | some ([], _) => .error (.badRouteKey s)
  | some (eni, net) => do
    let net ← IpPrefix.parse (String.ofList net)
    .ok ⟨String.ofList eni, net⟩

end RouteKey

structure RouteConfig where
  action : RouteAction
  vnet : Option String
  overlayIp : Option IpAddress
  deriving DecidableEq, Repr

namespace RouteConfig

/-- The attributes that the action needs are given. -/
def check (config : RouteConfig) : Except EntryError RouteConfig :=
  match config.action with
  | .vnet => if config.vnet.isNone then .error .actionNeedsVnet else .ok config
  | .vnetDirect =>
    if config.vnet.isNone || config.overlayIp.isNone then .error .actionNeedsVnetAndOverlay
    else .ok config
  | .direct | .drop => .ok config

def ofEntry (e : Entry) : Except EntryError RouteConfig := do
  let actionText ← e.required "action_type"
  let action ← RouteAction.parse actionText
  let vnet ← e.optional "vnet" some
  let overlayIp ← e.optional "overlay_ip" IpAddress.parse?
  check ⟨action, vnet, overlayIp⟩

end RouteConfig

def outboundEntryKey (eniId : Oid .eni) (net : IpPrefix) : String := eniId.text ++ ":" ++ net.text

structure RouteRecord where
  eniId : Oid .eni
  vnetId : Option (Oid .vnet)
  net : IpPrefix
  config : RouteConfig
  entryKey : String
  deriving DecidableEq, Repr

abbrev RouteTable := RoutingTable RouteRecord

namespace RouteTable

def name : String := "DASH_ROUTE_TABLE"

/-- Reads a route; the key is looked at before the attributes. -/
def read (e : Entry) : Except EntryError (RouteKey × RouteConfig) := do
  let key ← RouteKey.parse e.key
  let config ← RouteConfig.ofEntry e
  .ok (key, config)

def resolve (key : RouteKey) (config : RouteConfig) (c : Context) :
    Except Dependency RouteRecord := do
  let eniId ← namedEni c key.eni
  let vnetId ← namedVnet c config.vnet
  .ok ⟨eniId, vnetId, key.net, config, outboundEntryKey eniId key.net⟩

def attributes (r : RouteRecord) : List Attribute :=
  [⟨"SAI_OUTBOUND_ROUTING_ENTRY_ATTR_ACTION", .str r.config.action.attributeText⟩] ++
  (r.vnetId.map fun id =>
    Attribute.mk "SAI_OUTBOUND_ROUTING_ENTRY_ATTR_DST_VNET_ID" (.oid id.raw)).toList ++
  (r.config.overlayIp.map fun ip =>
    Attribute.mk "SAI_OUTBOUND_ROUTING_ENTRY_ATTR_OVERLAY_IP" (.ip ip)).toList

/-- Routes are counted by the family of their prefix. -/
def kind : RoutingKind (RouteKey × RouteConfig) RouteRecord where
  type := .outboundRoutingEntry
  read := read
  resolve asked c := resolve asked.1 asked.2 c
  entryKey r := r.entryKey
  attributes := attributes
  resource r := .outboundRouting r.net.family

abbrev routes (t : RouteTable) : Table String RouteRecord := t.records

abbrev new (maxBulkSize : Nat) : RouteTable := RoutingTable.new kind maxBulkSize

abbrev bulk {δ : Type} [Driver δ] : BulkTable RouteTable (RouteOp RouteRecord) Context δ :=
  RoutingTable.bulk kind

end RouteTable

end DashAgent
