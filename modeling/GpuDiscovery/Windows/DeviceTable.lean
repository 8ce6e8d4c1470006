import GpuDiscovery.Windows.DeviceSet

/-!
# Tables of installed devices

A system whose devices stand in a table: each with its identifier and, for each property, a type
and bytes; any of the calls about a device can be made to fail.
-/

namespace GpuDiscovery.Windows

/-- A property in a table. -/
structure TableProperty where
  type : UInt32
  bytes : List UInt8
  sizeError : Option UInt32
  readError : Option UInt32
  deriving DecidableEq, Repr

/-- A device in a table. -/
structure TableDevice where
  takeError : Option UInt32
  /-- The units of the identifier, without a terminator. -/
  id : List UInt16
  idSizeError : Option UInt32
  idError : Option UInt32
  /-- Properties by the names of their keys. -/
  properties : SortedMap String TableProperty

/-- A table of devices. -/
structure DeviceTable where
  openError : Option UInt32
  devices : List TableDevice
  /-- The error code behind the last device. -/
  endError : UInt32
  destroyError : Option UInt32

/-- Success, unless there is an error code. -/
def succeedUnless {α : Type} (value : α) : Option UInt32 → Except UInt32 α
  | none => .ok value
  | some code => .error code

namespace TableDevice

/-- The size call of the identifier fails by design: it is given no buffer. -/
def idSize (device : TableDevice) : IdSize :=
  match device.idSizeError with
  | some code => ⟨some code, 0⟩
  | none => ⟨some insufficientBuffer, UInt32.ofNat (device.id.length + 1)⟩

/-- The identifier with its terminator, if it fits. -/
def readId (device : TableDevice) (capacity : UInt32) : Except UInt32 (List UInt16) :=
  match device.idError with
  | some code => .error code
  | none =>
    if capacity.toNat < device.id.length + 1 then .error insufficientBuffer
    else .ok (device.id ++ [0])

end TableDevice

namespace TableProperty

/-- The size call of a property fails by design unless the property has no bytes. When it is made to
fail it writes nothing. -/
def size (property : TableProperty) : PropertySize :=
  match property.sizeError with
  | some code => ⟨some code, 0, 0⟩
  | none =>
    if property.bytes.isEmpty then ⟨none, property.type, 0⟩
    else ⟨some insufficientBuffer, property.type, UInt32.ofNat property.bytes.length⟩

/-- The bytes of a property, if they fit. The type was told with the size. -/
def read (property : TableProperty) (capacity : UInt32) : Except UInt32 PropertyAnswer :=
  match property.readError with
  | some code => .error code
  | none =>
    if capacity.toNat < property.bytes.length then .error insufficientBuffer
    else .ok ⟨none, property.bytes⟩

end TableProperty

namespace DeviceTable

/-- The property of a device in the table. -/
def property? (table : DeviceTable) (index : Nat) (key : PropertyKey) : Option TableProperty :=
  (table.devices[index]?).bind fun device => device.properties.get? key.name

/-- The answers of a system with these devices. -/
def respond (table : DeviceTable) (_ : List DeviceSetCall) :
    (call : DeviceSetCall) → call.Answer
  | .openSet _ _ => succeedUnless () table.openError
  | .takeDevice index =>
    match table.devices[index]? with
    | some device => succeedUnless () device.takeError
    | none => .error table.endError
  | .idSize index =>
    match table.devices[index]? with
    | some device => device.idSize
    | none => ⟨some notFound, 0⟩
  | .readId index capacity =>
    match table.devices[index]? with
    | some device => device.readId capacity
    | none => .error notFound
  | .propertySize index key =>
    match table.property? index key with
    | some property => property.size
    | none => ⟨some notFound, 0, 0⟩
  | .readProperty index key capacity =>
    match table.property? index key with
    | some property => property.read capacity
    | none => .error notFound
  | .destroySet => succeedUnless () table.destroyError

end DeviceTable

end GpuDiscovery.Windows
