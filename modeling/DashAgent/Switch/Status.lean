/-!
# Driver statuses

The statuses a switch driver answers with. A status travels as a signed 32-bit code: the single
codes lie between -23 and 0, and two ranges of 65536 codes carry the index of the attribute that is
not implemented or not supported. Codes outside both mean a general failure.
-/
namespace DashAgent

inductive Status where
  | success
  | failure
  | notSupported
  | noMemory
  | insufficientResources
  | invalidParameter
  | itemAlreadyExists
  | itemNotFound
  | bufferOverflow
  | invalidPortNumber
  | invalidPortMember
  | invalidVlanId
  | uninitialized
  | tableFull
  | mandatoryAttributeMissing
  | notImplemented
  | addrNotFound
  | objectInUse
  | invalidObjectType
  | invalidObjectId
  | invalidNifId
  | nifTableFull
  | hwTableFull
  | notExecuted
  | attrNotImplemented (index : UInt16)
  | attrNotSupported (index : UInt16)
  deriving DecidableEq, Repr

namespace Status

/-- Code of attribute index 0 in the not-implemented range. -/
def notImplementedBase : Int := -0x50000

/-- Code of attribute index 0 in the not-supported range. -/
def notSupportedBase : Int := -0x60000

/-- Number of codes in each attribute range. -/
def rangeWidth : Int := 0x10000

/-- The statuses with a single code, from code 0 downwards. -/
def singles : List Status :=
  [success, failure, notSupported, noMemory, insufficientResources, invalidParameter,
    itemAlreadyExists, itemNotFound, bufferOverflow, invalidPortNumber, invalidPortMember,
    invalidVlanId, uninitialized, tableFull, mandatoryAttributeMissing, notImplemented,
    addrNotFound, objectInUse, invalidObjectType, invalidObjectId, invalidNifId, nifTableFull,
    hwTableFull, notExecuted]

def ofCode (code : Int) : Status :=
  if notImplementedBase - rangeWidth < code ∧ code ≤ notImplementedBase then
    attrNotImplemented (UInt16.ofNat (notImplementedBase - code).toNat)
  else if notSupportedBase - rangeWidth < code ∧ code ≤ notSupportedBase then
    attrNotSupported (UInt16.ofNat (notSupportedBase - code).toNat)
  else if code ≤ 0 then singles.getD (-code).toNat failure
  else failure

def code : Status → Int
  | success => 0
  | failure => -1
  | notSupported => -2
  | noMemory => -3
  | insufficientResources => -4
  | invalidParameter => -5
  | itemAlreadyExists => -6
  | itemNotFound => -7
  | bufferOverflow => -8
  | invalidPortNumber => -9
  | invalidPortMember => -10
  | invalidVlanId => -11
  | uninitialized => -12
  | tableFull => -13
  | mandatoryAttributeMissing => -14
  | notImplemented => -15
  | addrNotFound => -16
  | objectInUse => -17
  | invalidObjectType => -18
  | invalidObjectId => -19
  | invalidNifId => -20
  | nifTableFull => -21
  | hwTableFull => -22
  | notExecuted => -23
  | attrNotImplemented index => notImplementedBase - index.toNat
  | attrNotSupported index => notSupportedBase - index.toNat

def isSuccess (s : Status) : Bool := s = success

/-- The driver does not know the object type or the attribute. -/
def isNotSupported : Status → Bool
  | notSupported | notImplemented | attrNotImplemented _ | attrNotSupported _ => true
  | _ => false

/-- A hardware table is exhausted. -/
def isTableFull : Status → Bool
  | tableFull | hwTableFull | nifTableFull => true
  | _ => false

def name : Status → String
  | success => "SAI_STATUS_SUCCESS"
  | failure => "SAI_STATUS_FAILURE"
  | notSupported => "SAI_STATUS_NOT_SUPPORTED"
  | noMemory => "SAI_STATUS_NO_MEMORY"
  | insufficientResources => "SAI_STATUS_INSUFFICIENT_RESOURCES"
  | invalidParameter => "SAI_STATUS_INVALID_PARAMETER"
  | itemAlreadyExists => "SAI_STATUS_ITEM_ALREADY_EXISTS"
  | itemNotFound => "SAI_STATUS_ITEM_NOT_FOUND"
  | bufferOverflow => "SAI_STATUS_BUFFER_OVERFLOW"
  | invalidPortNumber => "SAI_STATUS_INVALID_PORT_NUMBER"
  | invalidPortMember => "SAI_STATUS_INVALID_PORT_MEMBER"
  | invalidVlanId => "SAI_STATUS_INVALID_VLAN_ID"
  | uninitialized => "SAI_STATUS_UNINITIALIZED"
  | tableFull => "SAI_STATUS_TABLE_FULL"
  | mandatoryAttributeMissing => "SAI_STATUS_MANDATORY_ATTRIBUTE_MISSING"
  | notImplemented => "SAI_STATUS_NOT_IMPLEMENTED"
  | addrNotFound => "SAI_STATUS_ADDR_NOT_FOUND"
  | objectInUse => "SAI_STATUS_OBJECT_IN_USE"
  | invalidObjectType => "SAI_STATUS_INVALID_OBJECT_TYPE"
  | invalidObjectId => "SAI_STATUS_INVALID_OBJECT_ID"
  | invalidNifId => "SAI_STATUS_INVALID_NIF_ID"
  | nifTableFull => "SAI_STATUS_NIF_TABLE_FULL"
  | hwTableFull => "SAI_STATUS_HW_TABLE_FULL"
  | notExecuted => "SAI_STATUS_NOT_EXECUTED"
  | attrNotImplemented index => "SAI_STATUS_ATTR_NOT_IMPLEMENTED_" ++ toString index.toNat
  | attrNotSupported index => "SAI_STATUS_ATTR_NOT_SUPPORTED_" ++ toString index.toNat

instance : ToString Status := ⟨name⟩

end Status

/-- Why a whole driver call, or the use of its answer, failed. -/
inductive DriverError where
  /-- The driver answered with an error status. -/
  | status (status : Status)
  /-- The driver does not support the named feature. -/
  | notSupported (feature : String)
  | invalidParameter (detail : String)
  /-- The named hardware table is full. -/
  | tableFull (table : String)
  /-- The connection to the driver is gone and nothing more can be programmed. -/
  | channelLost (reason : String)
  deriving DecidableEq, Repr

namespace DriverError

def ofStatus (s : Status) : DriverError :=
  if s.isNotSupported then .notSupported s.name
  else if s.isTableFull then .tableFull s.name
  else match s with
    | .invalidParameter | .invalidObjectType | .invalidObjectId =>
      .invalidParameter ("SAI returned " ++ s.name)
    | s => .status s

/-- Nothing further can be programmed after this error. -/
def isFatal : DriverError → Bool
  | channelLost _ => true
  | _ => false

def message : DriverError → String
  | status s => "SAI operation failed: " ++ s.name
  | notSupported feature => "Feature not supported: " ++ feature
  | invalidParameter detail => "Invalid parameter: " ++ detail
  | tableFull table => "Table full: " ++ table
  | channelLost reason => "SAI channel lost: " ++ reason

instance : ToString DriverError := ⟨message⟩

end DriverError

/-- Success as a value, every other status as the error it stands for. -/
def Status.toExcept (s : Status) : Except DriverError Unit :=
  if s.isSuccess then .ok () else .error (.ofStatus s)

end DashAgent
