import DashAgent.Overlay.Route

/-!
# Inbound route rules

A rule tells an ENI how to treat packets from a prefix that carry a VNI. Its entry key on the switch
is made of the identifier of the ENI, the VNI and the prefix; the ENI, and the VNET where one is
named, must be programmed before it.
-/
namespace DashAgent

inductive RuleAction where
  | decap
  /-- Decapsulates and checks the underlay source against the PA validation entries. -/
  | decapPaValidate
  deriving DecidableEq, Repr

namespace RuleAction

def parse? (s : String) : Option RuleAction :=
  if s = "decap" then some decap
  else if s = "decap_pa_validate" then some decapPaValidate
  else none

def parse (s : String) : Except EntryError RuleAction := orError (.unknownAction s) (parse? s)

def attributeText : RuleAction → String
  | decap => "SAI_INBOUND_ROUTING_ENTRY_ACTION_VXLAN_DECAP"
  | decapPaValidate => "SAI_INBOUND_ROUTING_ENTRY_ACTION_VXLAN_DECAP_PA_VALIDATE"

end RuleAction

/-- An ENI name, a VNI and a prefix, with colons between them. -/
structure RuleKey where
  eni : String
  vni : UInt32
  net : IpPrefix
  deriving DecidableEq, Repr

namespace RuleKey

def text (k : RuleKey) : String :=
  k.eni ++ ":" ++ toString k.vni.toNat ++ ":" ++ k.net.text

/-- The three parts of a key at its first two colons; the name must not be empty. -/
def split? (s : String) : Option (List Char × List Char × List Char) :=
  match Text.splitOnce ':' s.toList with
  | none | some ([], _) => none
  | some (eni, rest) => (Text.splitOnce ':' rest).map fun (vni, net) => (eni, vni, net)

/-- Reads a key; the VNI is looked at before the prefix. -/
def parse (s : String) : Except EntryError RuleKey := do
  let (eni, vni, net) ← orError (.badRuleKey s) (split? s)
  let vni ← orError (.badVniInKey s) (Numeral.readDecimal? 4294967295 vni)
  let net ← IpPrefix.parse (String.ofList net)
  .ok ⟨String.ofList eni, UInt32.ofNat vni, net⟩

end RuleKey

structure RuleConfig where
  action : RuleAction
  priority : UInt32
  vnet : Option String
  paValidation : Bool
  deriving DecidableEq, Repr

/-- Reads the attributes of a rule. Without an action, packets are validated if and only if the
rule asks for PA validation. -/
def RuleConfig.ofEntry (e : Entry) : Except EntryError RuleConfig := do
  let paValidation ← e.withDefault "pa_validation" false readBoolean
  let action? ← e.optional "action_type" RuleAction.parse?
  let action := action?.getD (if paValidation then .decapPaValidate else .decap)
  let priorityText ← e.required "priority"
  let priority ← orError .badRulePriority (readUInt32? priorityText)
  let vnet ← e.optional "vnet" some
  if paValidation && vnet.isNone then .error .validationNeedsVnet
  else .ok ⟨action, priority, vnet, paValidation⟩

def inboundEntryKey (eniId : Oid .eni) (vni : UInt32) (net : IpPrefix) : String :=
  eniId.text ++ ":" ++ toString vni.toNat ++ ":" ++ net.text

structure RuleRecord where
  eniId : Oid .eni
  vnetId : Option (Oid .vnet)
  vni : UInt32
  net : IpPrefix
  config : RuleConfig
  entryKey : String
  deriving DecidableEq, Repr

abbrev RuleTable := RoutingTable RuleRecord

namespace RuleTable

def name : String := "DASH_ROUTE_RULE_TABLE"

def read (e : Entry) : Except EntryError (RuleKey × RuleConfig) := do
  let key ← RuleKey.parse e.key
  let config ← RuleConfig.ofEntry e
  .ok (key, config)

def resolve (key : RuleKey) (config : RuleConfig) (c : Context) :
    Except Dependency RuleRecord := do
  let eniId ← namedEni c key.eni
  let vnetId ← namedVnet c config.vnet
  .ok ⟨eniId, vnetId, key.vni, key.net, config, inboundEntryKey eniId key.vni key.net⟩

def attributes (r : RuleRecord) : List Attribute :=
  [⟨"SAI_INBOUND_ROUTING_ENTRY_ATTR_ACTION", .str r.config.action.attributeText⟩,
    ⟨"SAI_INBOUND_ROUTING_ENTRY_ATTR_PRIORITY", .u32 r.config.priority⟩] ++
  (r.vnetId.map fun id =>
    Attribute.mk "SAI_INBOUND_ROUTING_ENTRY_ATTR_SRC_VNET_ID" (.oid id.raw)).toList

def kind : RoutingKind (RuleKey × RuleConfig) RuleRecord where
  type := .inboundRoutingEntry
  read := read
  resolve asked c := resolve asked.1 asked.2 c
  entryKey r := r.entryKey
  attributes := attributes
  resource r := .inboundRouting r.net.family

abbrev rules (t : RuleTable) : Table String RuleRecord := t.records

abbrev new (maxBulkSize : Nat) : RuleTable := RoutingTable.new kind maxBulkSize

abbrev bulk {δ : Type} [Driver δ] : BulkTable RuleTable (RouteOp RuleRecord) Context δ :=
  RoutingTable.bulk kind

end RuleTable

end DashAgent
