import DashAgent.Change.Fields
import DashAgent.Overlay.NamedTable

/-!
# VNETs

A VNET is a named object with a network identifier. It belongs to no other object.
-/
namespace DashAgent

structure VnetConfig where
  vni : UInt32
  guid : Option String
  deriving DecidableEq, Repr

def VnetConfig.ofEntry (e : Entry) : Except EntryError VnetConfig := do
  let text ← e.required "vni"
  let vni ← orError .badVni (readUInt32? text)
  let guid ← e.optional "guid" some
  .ok ⟨vni, guid⟩

structure VnetRecord where
  id : Oid .vnet
  config : VnetConfig
  deriving DecidableEq, Repr

abbrev VnetTable := NamedTable VnetRecord

namespace VnetTable

def name : String := "DASH_VNET_TABLE"

def attributes (config : VnetConfig) : List Attribute :=
  [⟨"SAI_VNET_ATTR_VNI", .u32 config.vni⟩]

def kind : NamedKind .vnet VnetConfig VnetConfig VnetRecord where
  type := .vnet
  read := VnetConfig.ofEntry
  resolve config _ := .ok config
  attributes := attributes
  record := .mk
  id vnet := vnet.id
  enter name id c := c.addVnet name id
  leave name c := c.removeVnet name
  resource := .dashVnet
  enter_accounts _ _ _ := rfl
  leave_accounts _ _ := rfl

abbrev vnets (t : VnetTable) : Table String VnetRecord := t.records

abbrev new (maxBulkSize : Nat) : VnetTable := NamedTable.new kind maxBulkSize

abbrev bulk {δ : Type} [Driver δ] : BulkTable VnetTable (NamedOp VnetConfig) Context δ :=
  NamedTable.bulk kind

end VnetTable

end DashAgent
