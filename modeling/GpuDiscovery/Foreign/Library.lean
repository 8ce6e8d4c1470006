import GpuDiscovery.Foreign.Instance

/-!
# The functions for foreign callers

The functions that the library offers to callers in other languages, by name, and what a call of
each does to the instances that exist. A function that is given no instance, or one that is gone,
answers as it does for a failure; so does one that is cut off by a crash.
-/

namespace GpuDiscovery

/-- The version of the library. -/
def libraryVersion : String := "0.1.0"

/-- The functions for foreign callers. -/
inductive ForeignFunction where
  | libraryVersion
  | enableLogging
  | disableLogging
  | createInstance
  | destroyInstance
  | lastErrorMessage
  | isRefreshRequired
  | discoverDevices
  | numDevices
  | deviceAdapterLuid
  /-- A text of a device. -/
  | deviceText (field : DeviceField)
  /-- The number of runtime files in a list. -/
  | numRuntimeFiles (list : RuntimeFileList)
  /-- The source of a runtime file. -/
  | runtimeFileSource (list : RuntimeFileList)
  /-- The destination of a runtime file. -/
  | runtimeFileDestination (list : RuntimeFileList)
  /-- A truth value of a device. -/
  | deviceFlag (field : DeviceField)
  deriving DecidableEq, Repr

/-- The functions by name. -/
def foreignFunctions : List (String × ForeignFunction) :=
  [("GetDiscoveryLibraryVersion", .libraryVersion),
   ("EnableDiscoveryLogging", .enableLogging),
   ("DisableDiscoveryLogging", .disableLogging),
   ("CreateDeviceDiscoveryInstance", .createInstance),
   ("DestroyDeviceDiscoveryInstance", .destroyInstance),
   ("DeviceDiscovery_GetLastErrorMessage", .lastErrorMessage),
   ("DeviceDiscovery_IsRefreshRequired", .isRefreshRequired),
   ("DeviceDiscovery_DiscoverDevices", .discoverDevices),
   ("DeviceDiscovery_GetNumDevices", .numDevices),
   ("DeviceDiscovery_GetDeviceAdapterLUID", .deviceAdapterLuid),
   ("DeviceDiscovery_GetDeviceID", .deviceText .id),
   ("DeviceDiscovery_GetDeviceDescription", .deviceText .description),
   ("DeviceDiscovery_GetDeviceDriverRegistryKey", .deviceText .driverRegistryKey),
   ("DeviceDiscovery_GetDeviceDriverStorePath", .deviceText .driverStorePath),
   ("DeviceDiscovery_GetDeviceLocationPath", .deviceText .locationPath),
   ("DeviceDiscovery_GetDeviceVendor", .deviceText .vendor),
   ("DeviceDiscovery_GetNumRuntimeFiles", .numRuntimeFiles .primary),
   ("DeviceDiscovery_GetRuntimeFileSource", .runtimeFileSource .primary),
   ("DeviceDiscovery_GetRuntimeFileDestination", .runtimeFileDestination .primary),
   ("DeviceDiscovery_GetNumRuntimeFilesWow64", .numRuntimeFiles .wow64),
   ("DeviceDiscovery_GetRuntimeFileSourceWow64", .runtimeFileSource .wow64),
   ("DeviceDiscovery_GetRuntimeFileDestinationWow64", .runtimeFileDestination .wow64),
   ("DeviceDiscovery_IsDeviceIntegrated", .deviceFlag .isIntegrated),
   ("DeviceDiscovery_IsDeviceDetachable", .deviceFlag .isDetachable),
   ("DeviceDiscovery_DoesDeviceSupportDisplay", .deviceFlag .supportsDisplay),
   ("DeviceDiscovery_DoesDeviceSupportCompute", .deviceFlag .supportsCompute)]

/-- What a function is called with. A function ignores what it has no use for. -/
structure ForeignArguments where
  /-- The instance, by its number. -/
  inst : Nat
  device : UInt32
  file : UInt32
  filter : Int32
  /-- Anything but 0 is a yes. -/
  includeIntegrated : Int32
  /-- Anything but 0 is a yes. -/
  includeDetachable : Int32
  deriving DecidableEq, Repr

/-- What a function answers. -/
inductive ForeignValue where
  /-- The function has no answer. -/
  | nothing
  | integer (value : Int)
  /-- A text that ends at its first zero unit. -/
  | text (units : List UInt16)
  /-- There is no text. -/
  | noText
  /-- The instance with this number was created. -/
  | created (inst : Nat)
  deriving DecidableEq, Repr

/-- The library in a process: the loggers, and the instances by number. A number whose instance is
gone is not used again. -/
structure Library where
  board : Switchboard
  instances : List (Option Instance)
  /-- The system root that the environment names. -/
  environmentRoot : Option String

namespace Library

/-- A new instance: the configuration of who chooses nothing, and with it the shared logger. -/
def newInstance (environmentRoot : Option String) : Instance :=
  .new (.default environmentRoot)

/-- The library with one instance and the log switched off. -/
def initial (environmentRoot : Option String) : Library where
  board := .initial
  instances := [some (newInstance environmentRoot)]
  environmentRoot := environmentRoot

/-- The instance with a number, if it exists. -/
def instance? (library : Library) (number : Nat) : Option Instance :=
  (library.instances[number]?).join

/-- The library with an instance in a new state. -/
def withInstance (library : Library) (number : Nat) (inst : Instance) : Library :=
  { library with instances := library.instances.set number (some inst) }

/-- The answer where there is no instance, or where a crash cut the function off. -/
def sentinel : ForeignFunction → ForeignValue
  | .libraryVersion | .lastErrorMessage | .deviceText _ | .runtimeFileSource _
  | .runtimeFileDestination _ => .noText
  | .enableLogging | .disableLogging | .createInstance | .destroyInstance => .nothing
  | .isRefreshRequired => .integer 1
  | .discoverDevices | .numDevices | .deviceAdapterLuid | .numRuntimeFiles _ | .deviceFlag _ =>
    .integer (-1)

/-- A text that may be missing, as an answer. -/
def textAnswer : Option (List UInt16) → ForeignValue
  | some units => .text units
  | none => .noText

/-- What a function that works on an instance does to it, with its answer and what happened. -/
def callInstance (platform : Platform) (arguments : ForeignArguments) (inst : Instance) :
    ForeignFunction → Instance × ForeignValue × List (Event PlatformCall)
  | .lastErrorMessage => (inst, .text (wide inst.session.lastError), [])
  | .isRefreshRequired =>
    (inst, .integer (if inst.session.isRefreshRequired platform then 1 else 0), [])
  | .discoverDevices =>
    let (inst, run) := inst.discover platform arguments.filter
      (arguments.includeIntegrated != 0) (arguments.includeDetachable != 0)
    let answer := match run.outcome with
      | .value code => .integer code
      | .failed _ | .crashed => sentinel .discoverDevices
    (inst, answer, run.events)
  | .numDevices =>
    let (inst, count) := inst.deviceCount
    (inst, .integer count, [])
  | .deviceAdapterLuid =>
    let (inst, luid) := inst.deviceLuid arguments.device.toNat
    (inst, .integer luid, [])
  | .deviceText field =>
    let (inst, text) := inst.deviceText arguments.device.toNat field
    (inst, textAnswer text, [])
  | .numRuntimeFiles list =>
    let (inst, count) := inst.runtimeFileCount arguments.device.toNat list
    (inst, .integer count, [])
  | .runtimeFileSource list =>
    let (inst, file) := inst.runtimeFile arguments.device.toNat list arguments.file.toNat
    (inst, textAnswer (file.map WideFile.source), [])
  | .runtimeFileDestination list =>
    let (inst, file) := inst.runtimeFile arguments.device.toNat list arguments.file.toNat
    (inst, textAnswer (file.map WideFile.destination), [])
  | .deviceFlag field =>
    let (inst, flag) := inst.deviceFlag arguments.device.toNat field
    (inst, .integer flag, [])
  | function => (inst, sentinel function, [])

/-- Calls a function: the library afterwards, the answer, and what happened. -/
def call (library : Library) (platform : Platform) (function : ForeignFunction)
    (arguments : ForeignArguments) : Library × ForeignValue × List (Event PlatformCall) :=
  match function with
  | .libraryVersion => (library, .text (wide libraryVersion), [])
  | .enableLogging => ({ library with board := library.board.turn .shared true }, .nothing, [])
  | .disableLogging => ({ library with board := library.board.turn .shared false }, .nothing, [])
  | .createInstance =>
    let inst := newInstance library.environmentRoot
    ({ library with instances := library.instances ++ [some inst] },
      .created library.instances.length, [])
  | .destroyInstance =>
    ({ library with instances := library.instances.set arguments.inst none }, .nothing, [])
  | function =>
    match library.instance? arguments.inst with
    | none => (library, sentinel function, [])
    | some inst =>
      let (inst, answer, events) := callInstance platform arguments inst function
      (library.withInstance arguments.inst inst, answer, events)

end Library

end GpuDiscovery
