import DashAgent.Change.Fields
import DashAgent.Net.IpAddress
import DashAgent.Overlay.NamedTable

/-!
# ENIs

An ENI is a named object inside a VNET, which must be programmed before it.
-/
namespace DashAgent

structure EniConfig where
  vnet : String
  mac : MacAddress
  underlayIp : IpAddress
  adminState : Bool
  vmVni : Option UInt32
  qos : Option String
  deriving DecidableEq, Repr

/-- Reads the attributes of an ENI; it is up unless said otherwise. -/
def EniConfig.ofEntry (e : Entry) : Except EntryError EniConfig := do
  let vnet ← e.required "vnet"
  let macText ← e.required "mac_address"
  let mac ← readMac macText
  let ipText ← e.required "underlay_ip"
  let underlayIp ← orError .badUnderlayIp (IpAddress.parse? ipText)
  let adminState ← e.withDefault "admin_state" true readBoolean
  let vmVni ← e.optional "vm_vni" readUInt32?
  let qos ← e.optional "qos" some
  .ok ⟨vnet, mac, underlayIp, adminState, vmVni, qos⟩

structure EniRecord where
  id : Oid .eni
  vnetId : Oid .vnet
  config : EniConfig
  deriving DecidableEq, Repr

abbrev EniTable := NamedTable EniRecord

namespace EniTable

def name : String := "DASH_ENI_TABLE"

def resolve (config : EniConfig) (c : Context) : Except Dependency (Oid .vnet × EniConfig) :=
  match c.vnetId? config.vnet with
  | none => .error (.vnet config.vnet)
  | some vnetId => .ok (vnetId, config)

def attributes (vnetId : Oid .vnet) (config : EniConfig) : List Attribute :=
  [⟨"SAI_ENI_ATTR_VNET_ID", .oid vnetId.raw⟩,
    ⟨"SAI_ENI_ATTR_UNDERLAY_IP", .ip config.underlayIp⟩,
    ⟨"SAI_ENI_ATTR_ADMIN_STATE", .bool config.adminState⟩] ++
  (config.vmVni.map fun vni => Attribute.mk "SAI_ENI_ATTR_VM_VNI" (.u32 vni)).toList

/-- ENIs are counted together. -/
def kind : NamedKind .eni EniConfig (Oid .vnet × EniConfig) EniRecord where
  type := .eni
  read := EniConfig.ofEntry
  resolve := resolve
  attributes asked := attributes asked.1 asked.2
  record id asked := ⟨id, asked.1, asked.2⟩
  id eni := eni.id
  enter name id c := c.addEni name id
  leave name c := c.removeEni name
  resource := .dashEni
  enter_accounts _ _ _ := rfl
  leave_accounts _ _ := rfl

abbrev enis (t : EniTable) : Table String EniRecord := t.records

abbrev new (maxBulkSize : Nat) : EniTable := NamedTable.new kind maxBulkSize

abbrev bulk {δ : Type} [Driver δ] :
    BulkTable EniTable (NamedOp (Oid .vnet × EniConfig)) Context δ :=
  NamedTable.bulk kind

end EniTable

end DashAgent
