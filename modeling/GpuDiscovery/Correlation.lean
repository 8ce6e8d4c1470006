import GpuDiscovery.Device.Record
import GpuDiscovery.Platform

/-!
# Devices of adapters

The plug-and-play devices of a set of adapters. The platform is asked for the devices whose
identifiers match the hardware of some adapter; which adapter a device belongs to is then decided
by the adapter identifier among its properties alone. A device without one, or with that of an
adapter outside the set, is dropped; a device whose properties cannot be read is an error even if
it would have been dropped.
-/

namespace GpuDiscovery

open Text Procedure

/-- The properties that discovery reads of a device. -/
structure DeviceProperties where
  id : String
  driverRegistryKey : String
  locationPath : String
  adapterLuid : Option Luid
  description : String
  vendor : String
  deriving DecidableEq, Repr

/-- The key below which the registry keeps the drivers of all device classes. -/
def driverClassKey : String :=
  "HKEY_LOCAL_MACHINE\\SYSTEM\\CurrentControlSet\\Control\\Class\\"

namespace PropertyBag

/-- A property in the type that `read` gives it, if it is there. -/
def readOptional {α : Type} (bag : PropertyBag) (name : String)
    (read : String → PropertyValue → Except DiscoveryError α) : Outcome (Option α) := do
  match ← bag name with
  | none => return none
  | some found =>
    let value ← .ofExcept (read name found)
    return some value

/-- Reads the properties of a device, one after the other. All but the device identifier may be
missing. -/
def readDevice (bag : PropertyBag) : Outcome DeviceProperties := do
  let id? ← bag.readOptional PropertyName.deviceId PropertyValue.asString
  let id ← match id? with
    | some id => .value id
    | none => .failed (.message ("device has no " ++ PropertyName.deviceId ++ " property"))
  let driver? ← bag.readOptional PropertyName.driver PropertyValue.asString
  let paths? ← bag.readOptional PropertyName.locationPaths PropertyValue.asStringList
  let luid? ← bag.readOptional PropertyName.adapterLuid PropertyValue.asInt64
  let description? ← bag.readOptional PropertyName.description PropertyValue.asString
  let vendor? ← bag.readOptional PropertyName.manufacturer PropertyValue.asString
  return {
    id
    driverRegistryKey := (driver?.map (driverClassKey ++ ·)).getD ""
    locationPath := (paths?.bind List.head?).getD ""
    adapterLuid := luid?
    description := description?.getD ""
    vendor := vendor?.getD "" }

end PropertyBag

/-- The device with these properties on an adapter. Its driver is not looked into yet. -/
def DeviceProperties.toDevice (properties : DeviceProperties) (adapter : AdapterRecord) :
    DeviceRecord where
  adapter := adapter
  id := properties.id
  description := properties.description
  vendor := properties.vendor
  driverRegistryKey := properties.driverRegistryKey
  driverStorePath := ""
  locationPath := properties.locationPath
  runtimeFiles := []
  runtimeFilesWow64 := []

namespace AdapterSet

/-- The query for the devices of a set of adapters. -/
def deviceQuery (adapters : AdapterSet) : DeviceQuery :=
  .ofPatterns (adapters.values.map fun adapter => adapter.hardwareId.pattern)

/-- The device with these properties, if its adapter is in the set, with a note on what becomes
of it. -/
def matchDevice (adapters : AdapterSet) (properties : DeviceProperties) :
    Procedure platformSystem (Option DeviceRecord) := do
  match properties.adapterLuid with
  | none =>
    info ("device " ++ properties.id ++ " has no adapter LUID, skipping")
    return none
  | some luid =>
    match adapters.get? luid with
    | some adapter =>
      info ("matched device " ++ properties.id ++ " to adapter " ++ luid.hex)
      return some (properties.toDevice adapter)
    | none =>
      info ("device " ++ properties.id ++ " belongs to adapter " ++ luid.hex ++
        ", which was not enumerated")
      return none

/-- Reads devices from `index` on and keeps those on adapters of the set. -/
def matchDevices (adapters : AdapterSet) :
    (index : Nat) → List PropertyBag → Procedure platformSystem (List DeviceRecord)
  | _, [] => return []
  | index, bag :: rest => do
    let properties ← ofOutcome <| bag.readDevice.context
      ("reading properties of PnP device " ++ decimal index)
    let device? ← matchDevice adapters properties
    let devices ← matchDevices adapters (index + 1) rest
    return device?.toList ++ devices

/-- Finds the devices of a set of adapters. Without adapters there is nothing to ask. -/
def correlate (adapters : AdapterSet) : Procedure platformSystem (List DeviceRecord) := do
  if adapters.isEmpty then
    return []
  let query := deviceQuery adapters
  info ("querying " ++ query.text)
  let bags ← (ask (.queryDevices query)).context
    "querying PnP devices for the enumerated adapters"
  matchDevices adapters 0 bags

end AdapterSet

end GpuDiscovery
