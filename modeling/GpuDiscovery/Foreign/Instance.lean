import GpuDiscovery.Session

/-!
# Sessions for foreign callers

Callers in other languages get texts as UTF-16 with a zero unit at the end, in memory that stays in
place between calls. An instance is a session together with such texts for every device: six
fields, and the source and destination of every runtime file. The texts are made anew whenever a
discovery succeeds, and kept when one fails, just as the session keeps its devices.
-/

namespace GpuDiscovery

open Text

/-- A text as foreign callers get it. -/
def wide (text : String) : List UInt16 :=
  Utf16.encode text ++ [0]

/-- The fields of a device that are texts. -/
def textFields : List DeviceField :=
  [.id, .description, .driverRegistryKey, .driverStorePath, .locationPath, .vendor]

/-- A runtime file in wide texts. -/
structure WideFile where
  source : List UInt16
  destination : List UInt16
  deriving DecidableEq, Repr

/-- A device in wide texts. -/
structure DeviceStrings where
  /-- The text fields, by field. -/
  texts : List (DeviceField × List UInt16)
  runtimeFiles : List WideFile
  runtimeFilesWow64 : List WideFile
  deriving DecidableEq, Repr

namespace DeviceStrings

/-- The wide text of a field, if the field is a text. -/
def text? (strings : DeviceStrings) (field : DeviceField) : Option (List UInt16) :=
  strings.texts.lookup field

/-- One of the two lists of runtime files. -/
def files (strings : DeviceStrings) : RuntimeFileList → List WideFile
  | .primary => strings.runtimeFiles
  | .wow64 => strings.runtimeFilesWow64

/-- The wide text of one text field, with the field. -/
def textEntry (device : DeviceRecord) (field : DeviceField) :
    Option (DeviceField × List UInt16) :=
  match device.field field with
  | .text value => some (field, wide value)
  | .integer _ | .flag _ => none

/-- A runtime file in wide texts. -/
def ofFile (file : RuntimeFile) : WideFile :=
  ⟨wide file.sourcePath, wide file.destinationName⟩

/-- A device in wide texts. -/
def ofDevice (device : DeviceRecord) : DeviceStrings where
  texts := textFields.filterMap (textEntry device)
  runtimeFiles := device.runtimeFiles.map ofFile
  runtimeFilesWow64 := device.runtimeFilesWow64.map ofFile

end DeviceStrings

/-- A session for foreign callers. -/
structure Instance where
  session : Session
  /-- The devices of the session in wide texts. -/
  strings : List DeviceStrings
  deriving DecidableEq

namespace Instance

/-- An instance that was not asked for anything yet. -/
def new (config : Config) : Instance where
  session := .new config
  strings := []

/-- The wide texts of all devices of a session. -/
def stringsOf (session : Session) : Except DiscoveryError (List DeviceStrings) := do
  let devices ← session.allDevices
  return devices.map DeviceStrings.ofDevice

/-- The instance with a session that remembers how an access went. -/
def track {α : Type} (inst : Instance) (result : Except DiscoveryError α) : Instance :=
  { inst with session := inst.session.track result }

/-- Completes a discovery that ended: after a success the wide texts are made anew, and in both
cases the session remembers how it went. -/
def complete (inst : Instance) (discovered : Except DiscoveryError Unit) :
    Instance × Except DiscoveryError Unit :=
  match discovered with
  | .error e => (inst.track (α := Unit) (.error e), .error e)
  | .ok () =>
    match stringsOf inst.session with
    | .error e => (inst.track (α := Unit) (.error e), .error e)
    | .ok strings => ({ inst with strings := strings }.track (.ok ()), .ok ())

/-- Discovers devices with a filter given by its number. The answer is 0 after a success and -1
otherwise. A crash leaves the texts alone and the last error as it was when the filter had been
looked up. -/
def discover (inst : Instance) (platform : Platform) (filterCode : Int32)
    (includeIntegrated includeDetachable : Bool) : Instance × Run PlatformCall Int :=
  let lookup := CapabilityFilter.ofCode filterCode
  let inst := inst.track lookup
  match lookup with
  | .error _ => (inst, ⟨.value (-1), []⟩)
  | .ok filter =>
    let (session, run) := inst.session.discover platform
      ⟨filter, includeIntegrated, includeDetachable⟩
    let inst := { inst with session := session }
    match run.outcome with
    | .value () =>
      let (inst, result) := inst.complete (.ok ())
      (inst, ⟨.value (if result.isOk then 0 else -1), run.events⟩)
    | .failed e => ((inst.complete (.error e)).1, ⟨.value (-1), run.events⟩)
    | .crashed => (inst, ⟨.crashed, run.events⟩)

/-! ## Accesses

Each looks into the session, has it remember how that went, and answers with a number or with a
wide text; what stands for a failure depends on the kind of answer. -/

/-- The largest number that a signed 32-bit answer can hold. -/
def maxCount : Nat := 0x7FFFFFFF

/-- A count as a signed 32-bit answer: -1 for a failure, the largest value for what is larger. -/
def countAnswer : Except DiscoveryError Nat → Int
  | .ok count => min count maxCount
  | .error _ => -1

/-- The number of devices. -/
def deviceCount (inst : Instance) : Instance × Int :=
  let result := inst.session.deviceCount
  (inst.track result, countAnswer result)

/-- The number of runtime files in a list of a device. -/
def runtimeFileCount (inst : Instance) (device : Nat) (list : RuntimeFileList) : Instance × Int :=
  let result := inst.session.runtimeFileCount device list
  (inst.track result, countAnswer result)

/-- The identifier of a device's adapter, or -1. -/
def deviceLuid (inst : Instance) (device : Nat) : Instance × Int :=
  let result := inst.session.deviceField device .adapterLuid
  let answer : Int := match result with
    | .ok (.integer luid) => luid.toInt
    | .ok _ | .error _ => -1
  (inst.track result, answer)

/-- A truth value of a device as 0 or 1, or -1. -/
def deviceFlag (inst : Instance) (device : Nat) (field : DeviceField) : Instance × Int :=
  let result := inst.session.deviceField device field
  let answer : Int := match result with
    | .ok (.flag flag) => if flag then 1 else 0
    | .ok _ | .error _ => -1
  (inst.track result, answer)

/-- A text of a device. -/
def deviceText (inst : Instance) (device : Nat) (field : DeviceField) :
    Instance × Option (List UInt16) :=
  let result := inst.session.deviceField device field
  let answer := match result with
    | .ok _ => (inst.strings[device]?).bind fun strings => strings.text? field
    | .error _ => none
  (inst.track result, answer)

/-- A runtime file in a list of a device. -/
def runtimeFile (inst : Instance) (device : Nat) (list : RuntimeFileList) (file : Nat) :
    Instance × Option WideFile :=
  let result := inst.session.runtimeFile device list file
  let answer := match result with
    | .ok _ => (inst.strings[device]?).bind fun strings => (strings.files list)[file]?
    | .error _ => none
  (inst.track result, answer)

end Instance

end GpuDiscovery
