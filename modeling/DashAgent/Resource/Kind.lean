import DashAgent.Resource.UnknownName
import DashAgent.Switch.Object
import DashAgent.Text.Split

/-!
# Capacity resources

One resource per finite hardware table whose use is accounted: routing, ACL, forwarding, NAT, MPLS,
SRv6, extension tables and the overlay tables of a DPU. Each resource says how the driver is asked
for what is left of it.
-/
namespace DashAgent

inductive Resource where
  | ipv4Route
  | ipv6Route
  | ipv4Nexthop
  | ipv6Nexthop
  | ipv4Neighbor
  | ipv6Neighbor
  | nexthopGroupMember
  | nexthopGroup
  | aclTable
  | aclGroup
  | aclEntry
  | aclCounter
  | fdbEntry
  | ipmcEntry
  | snatEntry
  | dnatEntry
  | mplsInseg
  | mplsNexthop
  | srv6MySidEntry
  | srv6Nexthop
  | nexthopGroupMap
  | extTable
  | dashVnet
  | dashEni
  | dashEniEtherAddressMap
  | dashIpv4InboundRouting
  | dashIpv6InboundRouting
  | dashIpv4OutboundRouting
  | dashIpv6OutboundRouting
  | dashIpv4PaValidation
  | dashIpv6PaValidation
  | dashIpv4OutboundCaToPa
  | dashIpv6OutboundCaToPa
  | dashIpv4AclGroup
  | dashIpv6AclGroup
  | dashIpv4AclRule
  | dashIpv6AclRule
  | twampEntry
  deriving DecidableEq, Repr

namespace Resource

/-- Every resource, in polling order. -/
def all : List Resource :=
  [ipv4Route, ipv6Route, ipv4Nexthop, ipv6Nexthop, ipv4Neighbor, ipv6Neighbor,
    nexthopGroupMember, nexthopGroup, aclTable, aclGroup, aclEntry, aclCounter, fdbEntry,
    ipmcEntry, snatEntry, dnatEntry, mplsInseg, mplsNexthop, srv6MySidEntry, srv6Nexthop,
    nexthopGroupMap, extTable, dashVnet, dashEni, dashEniEtherAddressMap, dashIpv4InboundRouting,
    dashIpv6InboundRouting, dashIpv4OutboundRouting, dashIpv6OutboundRouting,
    dashIpv4PaValidation, dashIpv6PaValidation, dashIpv4OutboundCaToPa, dashIpv6OutboundCaToPa,
    dashIpv4AclGroup, dashIpv6AclGroup, dashIpv4AclRule, dashIpv6AclRule, twampEntry]

def number : Resource → Nat
  | ipv4Route => 0
  | ipv6Route => 1
  | ipv4Nexthop => 2
  | ipv6Nexthop => 3
  | ipv4Neighbor => 4
  | ipv6Neighbor => 5
  | nexthopGroupMember => 6
  | nexthopGroup => 7
  | aclTable => 8
  | aclGroup => 9
  | aclEntry => 10
  | aclCounter => 11
  | fdbEntry => 12
  | ipmcEntry => 13
  | snatEntry => 14
  | dnatEntry => 15
  | mplsInseg => 16
  | mplsNexthop => 17
  | srv6MySidEntry => 18
  | srv6Nexthop => 19
  | nexthopGroupMap => 20
  | extTable => 21
  | dashVnet => 22
  | dashEni => 23
  | dashEniEtherAddressMap => 24
  | dashIpv4InboundRouting => 25
  | dashIpv6InboundRouting => 26
  | dashIpv4OutboundRouting => 27
  | dashIpv6OutboundRouting => 28
  | dashIpv4PaValidation => 29
  | dashIpv6PaValidation => 30
  | dashIpv4OutboundCaToPa => 31
  | dashIpv6OutboundCaToPa => 32
  | dashIpv4AclGroup => 33
  | dashIpv6AclGroup => 34
  | dashIpv4AclRule => 35
  | dashIpv6AclRule => 36
  | twampEntry => 37

instance : Enumerated Resource where
  count := all.length
  number r := ⟨r.number, by cases r <;> decide⟩
  member n := all[n]
  member_number r := by cases r <;> rfl

def name : Resource → String
  | ipv4Route => "ipv4_route"
  | ipv6Route => "ipv6_route"
  | ipv4Nexthop => "ipv4_nexthop"
  | ipv6Nexthop => "ipv6_nexthop"
  | ipv4Neighbor => "ipv4_neighbor"
  | ipv6Neighbor => "ipv6_neighbor"
  | nexthopGroupMember => "nexthop_group_member"
  | nexthopGroup => "nexthop_group"
  | aclTable => "acl_table"
  | aclGroup => "acl_group"
  | aclEntry => "acl_entry"
  | aclCounter => "acl_counter"
  | fdbEntry => "fdb_entry"
  | ipmcEntry => "ipmc_entry"
  | snatEntry => "snat_entry"
  | dnatEntry => "dnat_entry"
  | mplsInseg => "mpls_inseg"
  | mplsNexthop => "mpls_nexthop"
  | srv6MySidEntry => "srv6_my_sid_entry"
  | srv6Nexthop => "srv6_nexthop"
  | nexthopGroupMap => "nexthop_group_map"
  | extTable => "extension_table"
  | dashVnet => "dash_vnet"
  | dashEni => "dash_eni"
  | dashEniEtherAddressMap => "dash_eni_ether_address_map"
  | dashIpv4InboundRouting => "dash_ipv4_inbound_routing"
  | dashIpv6InboundRouting => "dash_ipv6_inbound_routing"
  | dashIpv4OutboundRouting => "dash_ipv4_outbound_routing"
  | dashIpv6OutboundRouting => "dash_ipv6_outbound_routing"
  | dashIpv4PaValidation => "dash_ipv4_pa_validation"
  | dashIpv6PaValidation => "dash_ipv6_pa_validation"
  | dashIpv4OutboundCaToPa => "dash_ipv4_outbound_ca_to_pa"
  | dashIpv6OutboundCaToPa => "dash_ipv6_outbound_ca_to_pa"
  | dashIpv4AclGroup => "dash_ipv4_acl_group"
  | dashIpv6AclGroup => "dash_ipv6_acl_group"
  | dashIpv4AclRule => "dash_ipv4_acl_rule"
  | dashIpv6AclRule => "dash_ipv6_acl_rule"
  | twampEntry => "twamp_entry"

instance : ToString Resource := ⟨name⟩

def logName (r : Resource) : String := Text.raised r.name

/-- The resource of a name in any case. -/
def parse? (text : String) : Option Resource :=
  all.find? fun r => r.name = Text.lowered text

def parse (text : String) : Except UnknownName Resource :=
  match parse? text with
  | some r => .ok r
  | none => .error (.resource text)

def usedField (r : Resource) : String := "crm_stats_" ++ r.name ++ "_used"

def availableField (r : Resource) : String := "crm_stats_" ++ r.name ++ "_available"

end Resource

inductive CapacityQuery where
  /-- By object type, and by a switch attribute where that fails. -/
  | object (type : ObjectType) (qualifiers : List Qualifier) (fallback : Option CapacityAttribute)
  /-- By a switch attribute alone. -/
  | switch (what : CapacityAttribute)
  /-- By a switch attribute that lists stages and bind points, one sub-pool each. -/
  | aclList (what : AttributeId)
  /-- By an attribute of every tracked ACL table, one sub-pool each. -/
  | aclTable (what : AttributeId)
  /-- By name, one sub-pool per extension table. -/
  | extensionTable
  /-- By group, one sub-pool per tracked DASH ACL group. -/
  | dashAclRule
  deriving DecidableEq, Repr

namespace Resource

def query : Resource → CapacityQuery
  | ipv4Route => .object .routeEntry [.family .ipv4] (some .ipv4RouteEntry)
  | ipv6Route => .object .routeEntry [.family .ipv6] (some .ipv6RouteEntry)
  | ipv4Nexthop => .switch .ipv4NexthopEntry
  | ipv6Nexthop => .switch .ipv6NexthopEntry
  | ipv4Neighbor => .object .neighborEntry [.family .ipv4] (some .ipv4NeighborEntry)
  | ipv6Neighbor => .object .neighborEntry [.family .ipv6] (some .ipv6NeighborEntry)
  | nexthopGroupMember => .switch .nextHopGroupMemberEntry
  | nexthopGroup => .object .nextHopGroup [] (some .nextHopGroupEntry)
  | aclTable => .aclList .aclTables
  | aclGroup => .aclList .aclTableGroups
  | aclEntry => .aclTable .aclTableEntries
  | aclCounter => .aclTable .aclTableCounters
  | fdbEntry => .object .fdbEntry [] (some .fdbEntry)
  | ipmcEntry => .switch .ipmcEntry
  | snatEntry => .switch .snatEntry
  | dnatEntry => .switch .dnatEntry
  | mplsInseg => .object .insegEntry [] none
  | mplsNexthop => .object .nextHop [.nextHop .mpls] none
  | srv6MySidEntry => .object .mySidEntry [] none
  | srv6Nexthop => .object .nextHop [.nextHop .srv6] none
  | nexthopGroupMap => .object .nextHopGroupMap [] none
  | extTable => .extensionTable
  | dashVnet => .object .vnet [] none
  | dashEni => .object .eni [] none
  | dashEniEtherAddressMap => .object .eniEtherAddressMapEntry [] none
  | dashIpv4InboundRouting | dashIpv6InboundRouting => .object .inboundRoutingEntry [] none
  | dashIpv4OutboundRouting | dashIpv6OutboundRouting => .object .outboundRoutingEntry [] none
  | dashIpv4PaValidation | dashIpv6PaValidation => .object .paValidationEntry [] none
  | dashIpv4OutboundCaToPa | dashIpv6OutboundCaToPa => .object .outboundCaToPaEntry [] none
  | dashIpv4AclGroup => .object .dashAclGroup [.family .ipv4] none
  | dashIpv6AclGroup => .object .dashAclGroup [.family .ipv6] none
  | dashIpv4AclRule | dashIpv6AclRule => .dashAclRule
  | twampEntry => .switch .twampSession

def isGlobal (r : Resource) : Bool :=
  match r.query with
  | .object .. | .switch _ => true
  | .aclList _ | .aclTable _ | .extensionTable | .dashAclRule => false

def isDash : Resource → Bool
  | dashVnet | dashEni | dashEniEtherAddressMap | dashIpv4InboundRouting | dashIpv6InboundRouting
  | dashIpv4OutboundRouting | dashIpv6OutboundRouting | dashIpv4PaValidation
  | dashIpv6PaValidation | dashIpv4OutboundCaToPa | dashIpv6OutboundCaToPa | dashIpv4AclGroup
  | dashIpv6AclGroup | dashIpv4AclRule | dashIpv6AclRule => true
  | _ => false

/-- ACL tables and groups, counted per stage and bind point. -/
def isAcl : Resource → Bool
  | aclTable | aclGroup => true
  | _ => false

def isPerAclTable : Resource → Bool
  | aclEntry | aclCounter => true
  | _ => false

/-- DASH ACL groups, under each of which rules are counted. -/
def isDashAclGroup : Resource → Bool
  | dashIpv4AclGroup | dashIpv6AclGroup => true
  | _ => false

/-- DASH ACL rules, counted per group. -/
def isDashAclRule : Resource → Bool
  | dashIpv4AclRule | dashIpv6AclRule => true
  | _ => false

/-- The rules that are counted under the groups of a DASH ACL group resource. -/
def ruleOf? : Resource → Option Resource
  | dashIpv4AclGroup => some dashIpv4AclRule
  | dashIpv6AclGroup => some dashIpv6AclRule
  | _ => none

/-! ## Resources by address family -/

/-- What an outbound route counts as. -/
def outboundRouting : AddressFamily → Resource
  | .ipv4 => dashIpv4OutboundRouting
  | .ipv6 => dashIpv6OutboundRouting

def inboundRouting : AddressFamily → Resource
  | .ipv4 => dashIpv4InboundRouting
  | .ipv6 => dashIpv6InboundRouting

def paValidation : AddressFamily → Resource
  | .ipv4 => dashIpv4PaValidation
  | .ipv6 => dashIpv6PaValidation

def outboundCaToPa : AddressFamily → Resource
  | .ipv4 => dashIpv4OutboundCaToPa
  | .ipv6 => dashIpv6OutboundCaToPa

end Resource

end DashAgent
