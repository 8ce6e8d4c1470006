import GpuDiscovery.Device.Record
import GpuDiscovery.Json.Value

/-!
# Devices as JSON

Every field of a device record under a name of its own, in a fixed order.
-/

namespace GpuDiscovery

/-- The four numbers of a hardware identifier. -/
def HardwareId.toJson (id : HardwareId) : Json :=
  .object
    [("vendor_id", .integer id.vendorId.toNat),
     ("device_id", .integer id.deviceId.toNat),
     ("subsystem_id", .integer id.subsystemId.toNat),
     ("revision", .integer id.revision.toNat)]

/-- An adapter with its identifier as a signed number. -/
def AdapterRecord.toJson (adapter : AdapterRecord) : Json :=
  .object
    [("instance_luid", .integer adapter.luid.toInt),
     ("hardware_id", adapter.hardwareId.toJson),
     ("is_hardware", .bool adapter.isHardware),
     ("is_integrated", .bool adapter.isIntegrated),
     ("is_detachable", .bool adapter.isDetachable),
     ("supports_display", .bool adapter.supportsDisplay),
     ("supports_compute", .bool adapter.supportsCompute)]

/-- A runtime file. -/
def RuntimeFile.toJson (file : RuntimeFile) : Json :=
  .object
    [("source_path", .string file.sourcePath),
     ("destination_name", .string file.destinationName)]

/-- A device with its adapter and both lists of runtime files. -/
def DeviceRecord.toJson (device : DeviceRecord) : Json :=
  .object
    [("adapter", device.adapter.toJson),
     ("id", .string device.id),
     ("description", .string device.description),
     ("vendor", .string device.vendor),
     ("driver_registry_key", .string device.driverRegistryKey),
     ("driver_store_path", .string device.driverStorePath),
     ("location_path", .string device.locationPath),
     ("runtime_files", .array (device.runtimeFiles.map RuntimeFile.toJson)),
     ("runtime_files_wow64", .array (device.runtimeFilesWow64.map RuntimeFile.toJson))]

/-- Devices as an array. -/
def devicesToJson (devices : List DeviceRecord) : Json :=
  .array (devices.map DeviceRecord.toJson)

end GpuDiscovery
