import GpuDiscovery.Json.Device
import GpuDiscovery.Proofs.Json.Reading

/-!
# Devices read back from JSON

What a reader makes of the object that stands for a device: it looks every field up under its name,
wherever the member with this name stands in the object, and accepts a number only within the range
of the field. A name that occurs twice is no name of a field, so it does not matter which of two
members a reader would prefer.

A device is read back from its object as it was (`DeviceRecord.ofJson?_toJson`), and so are any
number of them in their order. With this the text of devices as JSON determines them.
-/

namespace GpuDiscovery

/-! ## Values of some type -/

namespace Json

/-- A truth value. -/
def asBool? : Json → Option Bool
  | bool value => some value
  | _ => none

/-- A text. -/
def asText? : Json → Option String
  | string value => some value
  | _ => none

/-- An unsigned number of 32 bits. -/
def asUInt32? : Json → Option UInt32
  | integer value =>
    if 0 ≤ value ∧ value < 0x100000000 then some (UInt32.ofNat value.toNat) else none
  | _ => none

/-- A signed number of 64 bits. -/
def asInt64? : Json → Option Int64
  | integer value =>
    if -0x8000000000000000 ≤ value ∧ value < 0x8000000000000000 then some (Int64.ofInt value)
    else none
  | _ => none

/-- A list of whatever can be read from each item. -/
def asList? {α : Type} (read : Json → Option α) : Json → Option (List α)
  | array items => items.mapM read
  | _ => none

/-- The value under a name, if there is one member with this name. -/
def member? (name : String) : Json → Option Json
  | object members =>
    match members.filter fun member => member.1 = name with
    | [(_, value)] => some value
    | _ => none
  | _ => none

/-- What is read from the value under a name. -/
def field? {α : Type} (name : String) (read : Json → Option α) (value : Json) : Option α :=
  (value.member? name).bind read

theorem field?_of_member? {α : Type} {name : String} {read : Json → Option α} {value inner : Json}
    {result : α} (hmember : value.member? name = some inner) (hread : read inner = some result) :
    value.field? name read = some result := by
  rw [field?, hmember, Option.bind_some, hread]

theorem asUInt32?_integer (value : UInt32) : asUInt32? (integer value.toNat) = some value := by
  have hrange : 0 ≤ (value.toNat : Int) ∧ (value.toNat : Int) < 0x100000000 := by
    have hlt := value.toNat_lt
    omega
  rw [asUInt32?, if_pos hrange, Int.toNat_natCast, UInt32.ofNat_toNat]

theorem asInt64?_integer (value : Int64) : asInt64? (integer value.toInt) = some value := by
  have hrange : -0x8000000000000000 ≤ value.toInt ∧ value.toInt < 0x8000000000000000 :=
    ⟨value.le_toInt, value.toInt_lt⟩
  rw [asInt64?, if_pos hrange, Int64.ofInt_toInt]

/-- A list is read back if its items are. -/
theorem asList?_array {α : Type} {read : Json → Option α} {write : α → Json}
    (h : ∀ item, read (write item) = some item) (items : List α) :
    asList? read (array (items.map write)) = some items := by
  rw [asList?]
  induction items with
  | nil => rfl
  | cons item items ih =>
    simp only [List.map_cons, List.mapM_cons, h, ih, Option.bind_eq_bind, Option.bind_some,
      Option.pure_def]

end Json

/-! ## Records -/

open Json

/-- The hardware identifier in an object. -/
def HardwareId.ofJson? (value : Json) : Option HardwareId := do
  let vendorId ← value.field? "vendor_id" asUInt32?
  let deviceId ← value.field? "device_id" asUInt32?
  let subsystemId ← value.field? "subsystem_id" asUInt32?
  let revision ← value.field? "revision" asUInt32?
  return { vendorId, deviceId, subsystemId, revision }

/-- The adapter in an object. -/
def AdapterRecord.ofJson? (value : Json) : Option AdapterRecord := do
  let luid ← value.field? "instance_luid" asInt64?
  let hardwareId ← value.field? "hardware_id" HardwareId.ofJson?
  let isHardware ← value.field? "is_hardware" asBool?
  let isIntegrated ← value.field? "is_integrated" asBool?
  let isDetachable ← value.field? "is_detachable" asBool?
  let supportsDisplay ← value.field? "supports_display" asBool?
  let supportsCompute ← value.field? "supports_compute" asBool?
  return { luid, hardwareId, isHardware, isIntegrated, isDetachable, supportsDisplay,
           supportsCompute }

/-- The runtime file in an object. -/
def RuntimeFile.ofJson? (value : Json) : Option RuntimeFile := do
  let sourcePath ← value.field? "source_path" asText?
  let destinationName ← value.field? "destination_name" asText?
  return { sourcePath, destinationName }

/-- The device in an object. -/
def DeviceRecord.ofJson? (value : Json) : Option DeviceRecord := do
  let adapter ← value.field? "adapter" AdapterRecord.ofJson?
  let id ← value.field? "id" asText?
  let description ← value.field? "description" asText?
  let vendor ← value.field? "vendor" asText?
  let driverRegistryKey ← value.field? "driver_registry_key" asText?
  let driverStorePath ← value.field? "driver_store_path" asText?
  let locationPath ← value.field? "location_path" asText?
  let runtimeFiles ← value.field? "runtime_files" (asList? RuntimeFile.ofJson?)
  let runtimeFilesWow64 ← value.field? "runtime_files_wow64" (asList? RuntimeFile.ofJson?)
  return { adapter, id, description, vendor, driverRegistryKey, driverStorePath, locationPath,
           runtimeFiles, runtimeFilesWow64 }

/-! ## Reading back -/

theorem HardwareId.ofJson?_toJson (id : HardwareId) : ofJson? id.toJson = some id := by
  have hvendor : id.toJson.field? "vendor_id" asUInt32? = some id.vendorId :=
    field?_of_member? rfl (asUInt32?_integer _)
  have hdevice : id.toJson.field? "device_id" asUInt32? = some id.deviceId :=
    field?_of_member? rfl (asUInt32?_integer _)
  have hsubsystem : id.toJson.field? "subsystem_id" asUInt32? = some id.subsystemId :=
    field?_of_member? rfl (asUInt32?_integer _)
  have hrevision : id.toJson.field? "revision" asUInt32? = some id.revision :=
    field?_of_member? rfl (asUInt32?_integer _)
  simp only [ofJson?, hvendor, hdevice, hsubsystem, hrevision, Option.bind_eq_bind,
    Option.bind_some, Option.pure_def]

theorem AdapterRecord.ofJson?_toJson (adapter : AdapterRecord) :
    ofJson? adapter.toJson = some adapter := by
  have hluid : adapter.toJson.field? "instance_luid" asInt64? = some adapter.luid :=
    field?_of_member? rfl (asInt64?_integer _)
  have hhardwareId :
      adapter.toJson.field? "hardware_id" HardwareId.ofJson? = some adapter.hardwareId :=
    field?_of_member? rfl (HardwareId.ofJson?_toJson _)
  have hhardware : adapter.toJson.field? "is_hardware" asBool? = some adapter.isHardware :=
    field?_of_member? rfl rfl
  have hintegrated : adapter.toJson.field? "is_integrated" asBool? = some adapter.isIntegrated :=
    field?_of_member? rfl rfl
  have hdetachable : adapter.toJson.field? "is_detachable" asBool? = some adapter.isDetachable :=
    field?_of_member? rfl rfl
  have hdisplay : adapter.toJson.field? "supports_display" asBool? = some adapter.supportsDisplay :=
    field?_of_member? rfl rfl
  have hcompute : adapter.toJson.field? "supports_compute" asBool? = some adapter.supportsCompute :=
    field?_of_member? rfl rfl
  simp only [ofJson?, hluid, hhardwareId, hhardware, hintegrated, hdetachable, hdisplay, hcompute,
    Option.bind_eq_bind, Option.bind_some, Option.pure_def]

theorem RuntimeFile.ofJson?_toJson (file : RuntimeFile) : ofJson? file.toJson = some file := rfl

/-- **A device is read back as it was**, whatever is in its fields. -/
theorem DeviceRecord.ofJson?_toJson (device : DeviceRecord) :
    ofJson? device.toJson = some device := by
  have hadapter : device.toJson.field? "adapter" AdapterRecord.ofJson? = some device.adapter :=
    field?_of_member? rfl (AdapterRecord.ofJson?_toJson _)
  have hid : device.toJson.field? "id" asText? = some device.id :=
    field?_of_member? rfl rfl
  have hdescription : device.toJson.field? "description" asText? = some device.description :=
    field?_of_member? rfl rfl
  have hvendor : device.toJson.field? "vendor" asText? = some device.vendor :=
    field?_of_member? rfl rfl
  have hdriver :
      device.toJson.field? "driver_registry_key" asText? = some device.driverRegistryKey :=
    field?_of_member? rfl rfl
  have hstore : device.toJson.field? "driver_store_path" asText? = some device.driverStorePath :=
    field?_of_member? rfl rfl
  have hlocation : device.toJson.field? "location_path" asText? = some device.locationPath :=
    field?_of_member? rfl rfl
  have hfiles : device.toJson.field? "runtime_files" (asList? RuntimeFile.ofJson?) =
      some device.runtimeFiles :=
    field?_of_member? rfl (asList?_array RuntimeFile.ofJson?_toJson _)
  have hwow64 : device.toJson.field? "runtime_files_wow64" (asList? RuntimeFile.ofJson?) =
      some device.runtimeFilesWow64 :=
    field?_of_member? rfl (asList?_array RuntimeFile.ofJson?_toJson _)
  simp only [ofJson?, hadapter, hid, hdescription, hvendor, hdriver, hstore, hlocation, hfiles,
    hwow64, Option.bind_eq_bind, Option.bind_some, Option.pure_def]

end GpuDiscovery
