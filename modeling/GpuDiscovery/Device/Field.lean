import GpuDiscovery.Device.Record
import GpuDiscovery.Text.Truth

/-!
# Device fields

The fields of a device that can be asked for one by one, with their values as numbers, texts or
truth values.
-/

namespace GpuDiscovery

/-- A field of a device record. -/
inductive DeviceField where
  | adapterLuid
  | id
  | description
  | driverRegistryKey
  | driverStorePath
  | locationPath
  | vendor
  | isIntegrated
  | isDetachable
  | supportsDisplay
  | supportsCompute
  deriving DecidableEq, Repr

/-- The value of a field. -/
inductive DeviceFieldValue where
  | integer (value : Int64)
  | text (value : String)
  | flag (value : Bool)
  deriving DecidableEq, Repr

/-- How the value of a field is written. -/
def DeviceFieldValue.render : DeviceFieldValue → String
  | integer value => Text.signedDecimal value.toInt
  | text value => value
  | flag value => Text.truth value

/-- The value of a field. -/
def DeviceRecord.field (device : DeviceRecord) : DeviceField → DeviceFieldValue
  | .adapterLuid => .integer device.adapter.luid
  | .id => .text device.id
  | .description => .text device.description
  | .driverRegistryKey => .text device.driverRegistryKey
  | .driverStorePath => .text device.driverStorePath
  | .locationPath => .text device.locationPath
  | .vendor => .text device.vendor
  | .isIntegrated => .flag device.adapter.isIntegrated
  | .isDetachable => .flag device.adapter.isDetachable
  | .supportsDisplay => .flag device.adapter.supportsDisplay
  | .supportsCompute => .flag device.adapter.supportsCompute

end GpuDiscovery
