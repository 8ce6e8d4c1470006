import GpuDiscovery.Registry.MultiString
import GpuDiscovery.Registry.Path
import GpuDiscovery.Windows.Buffer
import GpuDiscovery.Windows.Bytes
import GpuDiscovery.Windows.Status

/-!
# Opened registry keys

A registry key is opened, asked for the number of its values and the sizes of the longest name and
the longest data, read value by value into two buffers of these sizes, and closed. The buffers are
used again for every value. Every value has to be a list of strings.
-/

namespace GpuDiscovery.Windows

open Text Procedure

/-- What a key tells about its values. -/
structure KeyInfo where
  valueCount : UInt32
  /-- The length of the longest name in units, without a terminator. -/
  maxNameLength : UInt32
  /-- The length of the longest data in bytes. -/
  maxDataLength : UInt32
  deriving DecidableEq, Repr

/-- A value as the system writes it into the buffers. -/
structure KeyValue where
  /-- The units of the name, without a terminator. -/
  name : List UInt16
  type : UInt32
  data : List UInt8
  deriving DecidableEq, Repr

/-- The calls that deal with a registry key. -/
inductive RegistryCall where
  /-- Open the key at a path, given with its terminator, below a predefined key. -/
  | openKey (root : UInt32) (subkey : List UInt16)
  /-- Ask about the values. -/
  | queryInfo
  /-- Read a value into buffers of so many units and so many bytes. -/
  | enumValue (index : Nat) (nameLength dataLength : UInt32)
  /-- Close the key. -/
  | closeKey
  deriving DecidableEq

/-- The answers to the calls: a status, and what was written besides, which only means something
after a success. -/
@[reducible] def RegistryCall.Answer : RegistryCall → Type
  | openKey _ _ | closeKey => UInt32
  | queryInfo => UInt32 × KeyInfo
  | enumValue _ _ _ => UInt32 × KeyValue

/-- The system, as far as registry keys are concerned. -/
@[reducible] def registrySystem : System where
  Call := RegistryCall
  Answer := RegistryCall.Answer

/-- Makes a call. -/
def callRegistry (call : RegistryCall) : Procedure registrySystem call.Answer :=
  perform (S := registrySystem) call

/-- The handle of a predefined key. -/
def predefinedKey : RegistryRoot → UInt32
  | .classesRoot => 0x80000000
  | .currentUser => 0x80000001
  | .localMachine => 0x80000002
  | .users => 0x80000003
  | .performanceData => 0x80000004
  | .currentConfig => 0x80000005

namespace RegistryKey

/-- The type of values that are lists of strings. -/
def multiStringType : UInt32 := 7

/-- The error for a value of another type. -/
def wrongType (name : String) (type : UInt32) : DiscoveryError :=
  .message ("registry value " ++ name ++ " has type " ++ decimal type.toNat ++
    ", expected REG_MULTI_SZ")

/-- The buffers that values are read into: one for names, in units, and one for data, in bytes. -/
structure Buffers where
  name : Buffer UInt16
  data : Buffer UInt8
  deriving DecidableEq, Repr

namespace Buffers

/-- Buffers for the longest name with its terminator, and for the longest data, rounded up to whole
units, and one more unit. -/
def ofInfo (info : KeyInfo) : Buffers where
  name := .zeroed (info.maxNameLength.toNat + 1)
  data := .zeroed (2 * ((info.maxDataLength.toNat + 1) / 2 + 1))

/-- The length of the name buffer as the system is told it. -/
def announcedName (buffers : Buffers) : UInt32 :=
  UInt32.ofNat buffers.name.capacity

/-- The length of the data buffer as the system is told it. -/
def announcedData (buffers : Buffers) : UInt32 :=
  UInt32.ofNat buffers.data.capacity

/-- The buffers after the system wrote a value into them. -/
def receive (buffers : Buffers) (value : KeyValue) : Buffers where
  name := buffers.name.write value.name
  data := buffers.data.write value.data

end Buffers

/-- Takes a value out of the buffers it was just written to: its name, and its strings without a
byte left over at the end. -/
def readValue (buffers : Buffers) (value : KeyValue) : Outcome (String × List String) := do
  let units ← buffers.name.slice value.name.length
  let name := Utf16.decodeLossy units
  if value.type ≠ multiStringType then
    .failed (wrongType name value.type)
  else
    let bytes ← buffers.data.slice (2 * (value.data.length / 2))
    return (name, MultiString.decode (unitsOfBytes bytes))

/-- Reads so many values from `index` on, onto those read before. -/
def readValues (buffers : Buffers) :
    (valuesLeft index : Nat) → RegistryValues → Procedure registrySystem RegistryValues
  | 0, _, values => return values
  | valuesLeft + 1, index, values => do
    let (status, value) ←
      callRegistry (.enumValue index buffers.announcedName buffers.announcedData)
    -- The key may have lost values since it was asked for their number.
    if status = noMoreItems then
      return values
    checkStatus "RegEnumValueW" status
    let buffers := buffers.receive value
    let (name, strings) ← ofOutcome (readValue buffers value)
    readValues buffers valuesLeft (index + 1) (values.insert name strings)

/-- Reads the values of the opened key. -/
def multiStringValues : Procedure registrySystem RegistryValues := do
  let (status, info) ← callRegistry .queryInfo
  checkStatus "RegQueryInfoKeyW" status
  readValues (.ofInfo info) info.valueCount.toNat 0 .empty

/-- Opens a key. -/
def openPath (path : RegistryPath) : Procedure registrySystem Unit := do
  let status ← callRegistry (.openKey (predefinedKey path.root) (Utf16.encode path.subkey ++ [0]))
  checkStatus "RegOpenKeyExW" status

/-- Closes the key. -/
def close : Procedure registrySystem Unit := do
  let status ← callRegistry .closeKey
  noteStatus "RegCloseKey" status

/-- Reads the values of the key at a path: it is opened, read, and closed however the reading
ends. -/
def readPath (path : RegistryPath) : Procedure registrySystem RegistryValues := do
  openPath path
  ensuring multiStringValues close

end RegistryKey

end GpuDiscovery.Windows
