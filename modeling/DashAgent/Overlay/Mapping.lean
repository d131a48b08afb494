import DashAgent.Change.Fields
import DashAgent.Net.IpAddress
import DashAgent.Switch.Object
import DashAgent.Table.References

/-!
# VNET mappings

A mapping places an overlay address of a VNET behind an underlay address. On the switch it is two
objects: a CA-to-PA entry of its own, and a PA validation entry that it shares with every mapping of
its VNET behind the same underlay address. A mapping records which of the two are in place.
-/
namespace DashAgent

/-- How packets to a mapped address are sent over the underlay. -/
inductive MappingRoutingType where
  | vnetEncap
  | privateLink
  deriving DecidableEq, Repr

namespace MappingRoutingType

def text : MappingRoutingType → String
  | vnetEncap => "vnet_encap"
  | privateLink => "privatelink"

instance : ToString MappingRoutingType := ⟨text⟩

def parse? (s : String) : Option MappingRoutingType :=
  if s = "vnet_encap" then some vnetEncap
  else if s = "privatelink" then some privateLink
  else none

def parse (s : String) : Except EntryError MappingRoutingType :=
  orError (.unknownRoutingType s) (parse? s)

end MappingRoutingType

structure MappingKey where
  vnet : String
  overlayIp : IpAddress
  deriving DecidableEq, Repr

namespace MappingKey

def text (k : MappingKey) : String := k.vnet ++ ":" ++ k.overlayIp.text

/-- Reads a key at its first colon; the name must not be empty. -/
def parse (s : String) : Except EntryError MappingKey :=
  match Text.splitOnce ':' s.toList with
  | none | some ([], _) => .error (.badMappingKey s)
  | some (vnet, ip) => do
    let overlayIp ← orError (.badOverlayIp s) (IpAddress.ofChars? ip)
    .ok ⟨String.ofList vnet, overlayIp⟩

def vnetOf? (s : String) : Option String :=
  (Text.splitOnce ':' s.toList).map fun (vnet, _) => String.ofList vnet

end MappingKey

structure MappingConfig where
  routingType : MappingRoutingType
  underlayIp : IpAddress
  mac : MacAddress
  useDstVni : Bool
  deriving DecidableEq, Repr

def MappingConfig.ofEntry (e : Entry) : Except EntryError MappingConfig := do
  let routingType ← e.optional "routing_type" MappingRoutingType.parse?
  let ipText ← e.required "underlay_ip"
  let underlayIp ← orError .badUnderlayIp (IpAddress.parse? ipText)
  let macText ← e.required "mac_address"
  let mac ← readMac macText
  let useDstVni ← e.withDefault "use_dst_vni" false readBoolean
  .ok ⟨routingType.getD .vnetEncap, underlayIp, mac, useDstVni⟩

/-- The key of a PA validation entry: VNET name and underlay address. -/
def paKey (vnet : String) (underlayIp : IpAddress) : String := vnet ++ ":" ++ underlayIp.text

def caToPaEntryKey (vnetId : Oid .vnet) (overlayIp : IpAddress) : String :=
  vnetId.text ++ ":" ++ overlayIp.text

def paValidationEntryKey (vnetId : Oid .vnet) (underlayIp : IpAddress) : String :=
  vnetId.text ++ ":" ++ underlayIp.text

/-- A mapping and which of its two objects are in place. -/
structure MappingRecord where
  vnetId : Oid .vnet
  overlayIp : IpAddress
  config : MappingConfig
  caToPa : Bool
  paValidation : Bool
  deriving DecidableEq, Repr

namespace MappingRecord

def isComplete (m : MappingRecord) : Bool := m.caToPa && m.paValidation

def isEmpty (m : MappingRecord) : Bool := !m.caToPa && !m.paValidation

def paKey (m : MappingRecord) (vnet : String) : String :=
  DashAgent.paKey vnet m.config.underlayIp

end MappingRecord

/-- A PA validation entry and the number of mappings that hold it. -/
structure PaRecord where
  vnetId : Oid .vnet
  underlayIp : IpAddress
  references : UInt32
  deriving DecidableEq, Repr

namespace PaRecord

def family (p : PaRecord) : AddressFamily := p.underlayIp.family

def entryKey (p : PaRecord) : String := paValidationEntryKey p.vnetId p.underlayIp

/-- The count stops at its largest value and is never lowered below zero. -/
instance : Referenced PaRecord where
  references := PaRecord.references
  acquired p :=
    if p.references = 0xffffffff then p else { p with references := p.references + 1 }
  released? p :=
    if p.references = 0 then none else some { p with references := p.references - 1 }

end PaRecord

end DashAgent
