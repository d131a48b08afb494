import DashAgent.Net.IpAddress
import DashAgent.Net.MacAddress
import DashAgent.Roster

/-!
# Switch objects

What a driver holds: objects of nineteen types, addressed either by an identifier that the driver
allocates or by an entry key that the caller composes, and the attributes that requests carry and
that queries read back.
-/
namespace DashAgent

/-- An untyped object identifier; zero means no object. -/
abbrev ObjectId := UInt64

inductive OidKind where
  | switch
  | aclTable
  | vnet
  | eni
  | dashAclGroup
  deriving DecidableEq, Repr

def OidKind.name : OidKind → String
  | switch => "Switch"
  | aclTable => "AclTable"
  | vnet => "Vnet"
  | eni => "Eni"
  | dashAclGroup => "DashAclGroup"

instance : ToString OidKind := ⟨OidKind.name⟩

/-- An object identifier that belongs to one kind. -/
structure Oid (kind : OidKind) where
  raw : ObjectId
  deriving DecidableEq, Repr

namespace Oid

variable {kind : OidKind}

/-- The identifier of no object. -/
def null : Oid kind := ⟨0⟩

/-- The identifier of no object. -/
def isNull (o : Oid kind) : Bool := o.raw = 0

/-- A typed identifier for every raw one but zero. -/
def ofRaw? (raw : ObjectId) : Option (Oid kind) := if raw = 0 then none else some ⟨raw⟩

/-- Sixteen hexadecimal digits. -/
def text (o : Oid kind) : String :=
  String.ofList ('0' :: 'x' :: Numeral.hexPadded 16 o.raw.toNat)

instance : ToString (Oid kind) := ⟨text⟩

def dump (o : Oid kind) : String := kind.name ++ "(" ++ o.text ++ ")"

end Oid

/-- A raw identifier without padding. -/
def ObjectId.text (id : ObjectId) : String := String.ofList ('0' :: 'x' :: Numeral.hex id.toNat)

inductive ObjectType where
  | routeEntry
  | neighborEntry
  | nextHop
  | nextHopGroup
  | nextHopGroupMap
  | fdbEntry
  | insegEntry
  | mySidEntry
  | genericProgrammable
  | aclTable
  | vnet
  | eni
  | eniEtherAddressMapEntry
  | inboundRoutingEntry
  | outboundRoutingEntry
  | paValidationEntry
  | outboundCaToPaEntry
  | dashAclGroup
  | dashAclRule
  deriving DecidableEq, Repr

namespace ObjectType

def all : List ObjectType :=
  [routeEntry, neighborEntry, nextHop, nextHopGroup, nextHopGroupMap, fdbEntry, insegEntry,
    mySidEntry, genericProgrammable, aclTable, vnet, eni, eniEtherAddressMapEntry,
    inboundRoutingEntry, outboundRoutingEntry, paValidationEntry, outboundCaToPaEntry,
    dashAclGroup, dashAclRule]

/-- The number of an object type, which is part of the identifiers allocated for it. -/
def number : ObjectType → Nat
  | routeEntry => 0
  | neighborEntry => 1
  | nextHop => 2
  | nextHopGroup => 3
  | nextHopGroupMap => 4
  | fdbEntry => 5
  | insegEntry => 6
  | mySidEntry => 7
  | genericProgrammable => 8
  | aclTable => 9
  | vnet => 10
  | eni => 11
  | eniEtherAddressMapEntry => 12
  | inboundRoutingEntry => 13
  | outboundRoutingEntry => 14
  | paValidationEntry => 15
  | outboundCaToPaEntry => 16
  | dashAclGroup => 17
  | dashAclRule => 18

instance : Enumerated ObjectType where
  count := all.length
  number t := ⟨t.number, by cases t <;> decide⟩
  member n := all[n]
  member_number t := by cases t <;> rfl

/-- Objects of this type are addressed by an entry key and not by an allocated identifier. -/
def isEntry : ObjectType → Bool
  | routeEntry | neighborEntry | fdbEntry | insegEntry | mySidEntry | eniEtherAddressMapEntry
  | inboundRoutingEntry | outboundRoutingEntry | paValidationEntry | outboundCaToPaEntry => true
  | nextHop | nextHopGroup | nextHopGroupMap | genericProgrammable | aclTable | vnet | eni
  | dashAclGroup | dashAclRule => false

def name : ObjectType → String
  | routeEntry => "SAI_OBJECT_TYPE_ROUTE_ENTRY"
  | neighborEntry => "SAI_OBJECT_TYPE_NEIGHBOR_ENTRY"
  | nextHop => "SAI_OBJECT_TYPE_NEXT_HOP"
  | nextHopGroup => "SAI_OBJECT_TYPE_NEXT_HOP_GROUP"
  | nextHopGroupMap => "SAI_OBJECT_TYPE_NEXT_HOP_GROUP_MAP"
  | fdbEntry => "SAI_OBJECT_TYPE_FDB_ENTRY"
  | insegEntry => "SAI_OBJECT_TYPE_INSEG_ENTRY"
  | mySidEntry => "SAI_OBJECT_TYPE_MY_SID_ENTRY"
  | genericProgrammable => "SAI_OBJECT_TYPE_GENERIC_PROGRAMMABLE"
  | aclTable => "SAI_OBJECT_TYPE_ACL_TABLE"
  | vnet => "SAI_OBJECT_TYPE_VNET"
  | eni => "SAI_OBJECT_TYPE_ENI"
  | eniEtherAddressMapEntry => "SAI_OBJECT_TYPE_ENI_ETHER_ADDRESS_MAP_ENTRY"
  | inboundRoutingEntry => "SAI_OBJECT_TYPE_INBOUND_ROUTING_ENTRY"
  | outboundRoutingEntry => "SAI_OBJECT_TYPE_OUTBOUND_ROUTING_ENTRY"
  | paValidationEntry => "SAI_OBJECT_TYPE_PA_VALIDATION_ENTRY"
  | outboundCaToPaEntry => "SAI_OBJECT_TYPE_OUTBOUND_CA_TO_PA_ENTRY"
  | dashAclGroup => "SAI_OBJECT_TYPE_DASH_ACL_GROUP"
  | dashAclRule => "SAI_OBJECT_TYPE_DASH_ACL_RULE"

instance : ToString ObjectType := ⟨name⟩

end ObjectType

/-- What addresses an object: an allocated identifier or an entry key. -/
inductive ObjectKey where
  | oid (id : ObjectId)
  | entry (key : String)
  deriving DecidableEq, Repr

/-- An identifier without padding, or the entry key itself. -/
def ObjectKey.text : ObjectKey → String
  | oid id => id.text
  | entry key => key

instance : ToString ObjectKey := ⟨ObjectKey.text⟩

inductive AclStage where
  | ingress
  | egress
  deriving DecidableEq, Repr, Ord

def AclStage.text : AclStage → String
  | ingress => "INGRESS"
  | egress => "EGRESS"

instance : ToString AclStage := ⟨AclStage.text⟩

inductive AclBindPoint where
  | port
  | lag
  | vlan
  | rif
  | switch
  deriving DecidableEq, Repr, Ord

def AclBindPoint.text : AclBindPoint → String
  | port => "PORT"
  | lag => "LAG"
  | vlan => "VLAN"
  | rif => "RIF"
  | switch => "SWITCH"

instance : ToString AclBindPoint := ⟨AclBindPoint.text⟩

structure AclResource where
  stage : AclStage
  bindPoint : AclBindPoint
  available : UInt32
  deriving DecidableEq, Repr

/-- Scalar switch attributes that report free capacity. -/
inductive CapacityAttribute where
  | ipv4RouteEntry
  | ipv6RouteEntry
  | ipv4NexthopEntry
  | ipv6NexthopEntry
  | ipv4NeighborEntry
  | ipv6NeighborEntry
  | nextHopGroupMemberEntry
  | nextHopGroupEntry
  | fdbEntry
  | ipmcEntry
  | snatEntry
  | dnatEntry
  | twampSession
  deriving DecidableEq, Repr

namespace CapacityAttribute

def all : List CapacityAttribute :=
  [ipv4RouteEntry, ipv6RouteEntry, ipv4NexthopEntry, ipv6NexthopEntry, ipv4NeighborEntry,
    ipv6NeighborEntry, nextHopGroupMemberEntry, nextHopGroupEntry, fdbEntry, ipmcEntry, snatEntry,
    dnatEntry, twampSession]

def name : CapacityAttribute → String
  | ipv4RouteEntry => "Ipv4RouteEntry"
  | ipv6RouteEntry => "Ipv6RouteEntry"
  | ipv4NexthopEntry => "Ipv4NexthopEntry"
  | ipv6NexthopEntry => "Ipv6NexthopEntry"
  | ipv4NeighborEntry => "Ipv4NeighborEntry"
  | ipv6NeighborEntry => "Ipv6NeighborEntry"
  | nextHopGroupMemberEntry => "NextHopGroupMemberEntry"
  | nextHopGroupEntry => "NextHopGroupEntry"
  | fdbEntry => "FdbEntry"
  | ipmcEntry => "IpmcEntry"
  | snatEntry => "SnatEntry"
  | dnatEntry => "DnatEntry"
  | twampSession => "TwampSession"

end CapacityAttribute

inductive AttributeId where
  /-- Free capacity of the switch, as a number. -/
  | capacity (what : CapacityAttribute)
  /-- Free ACL tables of the switch, per stage and bind point. -/
  | aclTables
  /-- Free ACL table groups of the switch, per stage and bind point. -/
  | aclTableGroups
  /-- Free entries of one ACL table. -/
  | aclTableEntries
  /-- Free counters of one ACL table. -/
  | aclTableCounters
  deriving DecidableEq, Repr

namespace AttributeId

def all : List AttributeId :=
  CapacityAttribute.all.map capacity ++
    [aclTables, aclTableGroups, aclTableEntries, aclTableCounters]

def name : AttributeId → String
  | capacity what => what.name
  | aclTables => "AclTable"
  | aclTableGroups => "AclTableGroup"
  | aclTableEntries => "AclEntry"
  | aclTableCounters => "AclCounter"

instance : ToString AttributeId := ⟨name⟩

end AttributeId

inductive AttributeValue where
  | bool (value : Bool)
  | u32 (value : UInt32)
  | u64 (value : UInt64)
  | oid (id : ObjectId)
  | ip (address : IpAddress)
  | mac (address : MacAddress)
  | str (text : String)
  | aclResources (resources : List AclResource)
  deriving DecidableEq, Repr

def AttributeValue.count? : AttributeValue → Option Nat
  | u32 value => some value.toNat
  | u64 value => some value.toNat
  | _ => none

structure Attribute where
  name : String
  value : AttributeValue
  deriving DecidableEq, Repr

inductive NextHopKind where
  | mpls
  | srv6
  deriving DecidableEq, Repr

def NextHopKind.text : NextHopKind → String
  | mpls => "mpls"
  | srv6 => "srv6"

instance : ToString NextHopKind := ⟨NextHopKind.text⟩

/-- What narrows an availability query to one sub-pool. -/
inductive Qualifier where
  | family (family : AddressFamily)
  | nextHop (kind : NextHopKind)
  | objectName (name : String)
  | dashAclGroup (id : ObjectId)
  deriving DecidableEq, Repr

end DashAgent
