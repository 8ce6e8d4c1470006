import GpuDiscovery.Property.DeviceQuery
import GpuDiscovery.Windows.Buffer
import GpuDiscovery.Windows.PropertyData
import GpuDiscovery.Windows.Status

/-!
# Sets of installed devices

The system lists installed devices in a set that has to be opened and destroyed. Devices are taken
from the set by index until there are no more. Texts and properties are read in two calls, the
first of which only reports the size and, of a property, the type; and of these two the first is the
one whose failures have meanings: a buffer that is too small is what it is called for, and a
property that does not exist is no failure either.

Only the devices whose identifier matches the query have their properties read.
-/

namespace GpuDiscovery.Windows

open Text Procedure

/-- What the size call of an identifier reports: whether it failed, and the size in units with the
terminator. -/
structure IdSize where
  error : Option UInt32
  size : UInt32
  deriving DecidableEq, Repr

/-- What the size call of a property reports: whether it failed, the type, which is zero if nothing
was written, and the size in bytes. -/
structure PropertySize where
  error : Option UInt32
  type : UInt32
  size : UInt32
  deriving DecidableEq, Repr

/-- What reading a property yields: the type, if it is told once more, and the bytes. -/
structure PropertyAnswer where
  type : Option UInt32
  bytes : List UInt8
  deriving DecidableEq, Repr

/-- The calls that deal with a set of devices. -/
inductive DeviceSetCall where
  /-- Open the set of the devices below an enumerator. -/
  | openSet (enumerator : String) (flags : UInt32)
  /-- Take a device from the set. -/
  | takeDevice (index : Nat)
  /-- Ask for the size of a device's identifier. -/
  | idSize (index : Nat)
  /-- Read a device's identifier into a buffer of so many units. -/
  | readId (index : Nat) (capacity : UInt32)
  /-- Ask for the size of a property. -/
  | propertySize (index : Nat) (key : PropertyKey)
  /-- Read a property into a buffer of so many bytes. -/
  | readProperty (index : Nat) (key : PropertyKey) (capacity : UInt32)
  /-- Destroy the set. -/
  | destroySet
  deriving DecidableEq

/-- The answers to the calls; a failing call has an error code. -/
@[reducible] def DeviceSetCall.Answer : DeviceSetCall → Type
  | openSet _ _ | takeDevice _ | destroySet => Except UInt32 Unit
  | idSize _ => IdSize
  | readId _ _ => Except UInt32 (List UInt16)
  | propertySize _ _ => PropertySize
  | readProperty _ _ _ => Except UInt32 PropertyAnswer

/-- The system, as far as sets of devices are concerned. -/
@[reducible] def deviceSetSystem : System where
  Call := DeviceSetCall
  Answer := DeviceSetCall.Answer

/-- Makes a call. -/
def callDeviceSet (call : DeviceSetCall) : Procedure deviceSetSystem call.Answer :=
  perform (S := deviceSetSystem) call

namespace DeviceSet

/-- The enumerator of the devices that adapters can have. -/
def pciEnumerator : String := "PCI"

/-- The flag for devices of all classes. -/
def allClasses : UInt32 := 4

/-- The flag for present devices only. -/
def present : UInt32 := 2

/-- The flags with which a set is opened. -/
def openFlags (presentOnly : Bool) : UInt32 :=
  if presentOnly then allClasses ||| present else allClasses

/-- The error for an identifier that is no text. -/
def malformedId : DiscoveryError :=
  .message "device instance ID is not valid UTF-16"

/-- Goes on after a size call that succeeded, or that failed only for want of a buffer. -/
def acceptSize (operation : String) : Option UInt32 → Procedure deviceSetSystem Unit
  | none => return ()
  | some code => if code = insufficientBuffer then return () else fail (.win32 operation code)

/-- Reads the identifier of a device. -/
def readInstanceId (index : Nat) : Procedure deviceSetSystem String := do
  let reported ← callDeviceSet (.idSize index)
  acceptSize "SetupDiGetDeviceInstanceIdW" reported.error
  -- Where no size is reported there is still room for a terminator.
  let buffer := Buffer.zeroed (max reported.size 1).toNat
  let answer ← callDeviceSet (.readId index (max reported.size 1))
  let units ← check "SetupDiGetDeviceInstanceIdW" answer
  match Utf16.decode? (Utf16.beforeZero (buffer.write units).cells) with
  | some id => return id
  | none => fail malformedId

/-- The operation whose failure is reported when a property cannot be read. -/
def propertyOperation (key : PropertyKey) : String :=
  "SetupDiGetDevicePropertyW(" ++ key.name ++ ")"

/-- Reads the bytes of a property whose type and size are reported. The type that was told last
counts. -/
def readSizedProperty (index : Nat) (key : PropertyKey) (reported : PropertySize) :
    Procedure deviceSetSystem PropertyValue := do
  let answer ← callDeviceSet (.readProperty index key reported.size)
  let property ← check (propertyOperation key) answer
  ofExcept (decodeProperty (property.type.getD reported.type)
    ((Buffer.zeroed reported.size.toNat).write property.bytes).cells)

/-- Reads a property, if the device has it. -/
def readProperty (index : Nat) (key : PropertyKey) :
    Procedure deviceSetSystem (Option PropertyValue) := do
  let reported ← callDeviceSet (.propertySize index key)
  if reported.error = some notFound then
    return none
  acceptSize (propertyOperation key) reported.error
  let value ← readSizedProperty index key reported
  return some value

/-- The properties that are read of a device, with the keys that the system has for them. -/
def propertyKeys : List (String × PropertyKey) :=
  [(PropertyName.description, .ofDevice 2),
   (PropertyName.driver, .ofDevice 11),
   (PropertyName.manufacturer, .ofDevice 13),
   (PropertyName.locationPaths, .ofDevice 37),
   (PropertyName.adapterLuid, .adapterLuid)]

/-- Reads some properties of a device, onto those read before. -/
def readProperties (index : Nat) :
    List (String × PropertyKey) → PropertyMap → Procedure deviceSetSystem PropertyMap
  | [], properties => return properties
  | (name, key) :: rest, properties => do
    match ← readProperty index key with
    | some value => readProperties index rest (properties.insert name value)
    | none => readProperties index rest properties

/-- Reads the properties of a device whose identifier is known. -/
def readDevice (index : Nat) (id : String) : Procedure deviceSetSystem PropertyMap :=
  (readProperties index propertyKeys
      (SortedMap.empty.insert PropertyName.deviceId (.string id))).context
    ("reading properties of device " ++ id)

/-- Reads the matching devices from `index` on. An index has 32 bits, so there is a crash if the
set does not end before they are used up. -/
def readDevices (query : DeviceQuery) :
    (indicesLeft index : Nat) → Procedure deviceSetSystem (List PropertyMap)
  | 0, _ => ofOutcome .crashed
  | indicesLeft + 1, index => do
    match ← callDeviceSet (.takeDevice index) with
    | .error code =>
      if code = noMoreItems then
        return []
      fail (.win32 "SetupDiEnumDeviceInfo" code)
    | .ok () =>
      let id ← readInstanceId index
      -- Devices that do not match cost no property calls, so they cannot fail the query either.
      if query.matchesId id then
        let device ← readDevice index id
        let others ← readDevices query indicesLeft (index + 1)
        return device :: others
      else
        readDevices query indicesLeft (index + 1)

/-- The number of indices of 32 bits. -/
def indexCount : Nat := 0x100000000

/-- Destroys the set. -/
def destroy : Procedure deviceSetSystem Unit := do
  let answer ← callDeviceSet .destroySet
  noteRelease "SetupDiDestroyDeviceInfoList" answer

/-- Finds the devices of a query: the set is opened, read, and destroyed however the reading
ends. -/
def queryDevices (query : DeviceQuery) : Procedure deviceSetSystem (List PropertyMap) := do
  let answer ← callDeviceSet (.openSet pciEnumerator (openFlags query.presentOnly))
  check "SetupDiGetClassDevsW" answer
  ensuring (readDevices query indexCount 0) destroy

end DeviceSet

end GpuDiscovery.Windows
