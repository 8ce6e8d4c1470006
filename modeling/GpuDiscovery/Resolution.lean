import GpuDiscovery.Config
import GpuDiscovery.Device.Record
import GpuDiscovery.GrowingQuery
import GpuDiscovery.Text.Search

/-!
# Drivers of devices

What is added to a device from its driver: the path of the driver store, and the runtime files that
the driver declares in four subkeys of its registry key. The path must be found. The runtime files
are collected as far as possible: a subkey that cannot be read contributes nothing and is no error.

Inside a container the driver store is that of the host, the files are already in place, and the
registry is not asked.
-/

namespace GpuDiscovery

open Text Procedure

/-- What driver store paths begin with if they lie below the system root. -/
def systemRootAlias : String := "\\SystemRoot"

/-- What the paths of a host's driver store have in them. -/
def hostStoreMarker : String := "HostDriverStore"

/-- The path with the alias of the system root at its beginning, if any, spelled out. -/
def expandSystemRoot (path systemRoot : String) : String :=
  match afterStart? systemRootAlias.toList path.toList with
  | some rest => systemRoot ++ String.ofList rest
  | none => path

/-- The path leads into the driver store of a host. -/
def isHostStore (path : String) : Bool :=
  occursIn hostStoreMarker.toList path.toList

/-- A subkey in which drivers declare runtime files, and the list these belong to. -/
structure RuntimeFileSubkey where
  name : String
  list : RuntimeFileList
  deriving DecidableEq, Repr

/-- The subkeys with runtime files, in the order in which they are read. -/
def runtimeFileSubkeys : List RuntimeFileSubkey :=
  [⟨"CopyToVmOverwrite", .primary⟩, ⟨"CopyToVmWhenNewer", .primary⟩,
   ⟨"CopyToVmOverwriteWow64", .wow64⟩, ⟨"CopyToVmWhenNewerWow64", .wow64⟩]

namespace DeviceRecord

/-- The runtime files that a subkey of the device's driver key declares, in the order of the value
names. -/
def readSubkey (device : DeviceRecord) (subkey : String) :
    Procedure platformSystem (List RuntimeFile) := do
  let driverKey ← ofExcept (RegistryPath.parse device.driverRegistryKey)
  let path := driverKey.join subkey
  (ask (.openKey path)).context ("opening registry key " ++ path.text)
  let values ← (ask (.readKey path)).context ("enumerating values of " ++ path.text)
  return values.values.filterMap RuntimeFile.ofStrings?

/-- The runtime files of a subkey, or none if it cannot be read. -/
def readSubkeyIfPossible (device : DeviceRecord) (subkey : String) :
    Procedure platformSystem (List RuntimeFile) := do
  match ← attempt (device.readSubkey subkey) with
  | .ok files => return files
  | .error e =>
    info ("could not enumerate runtime files for the " ++ subkey ++ " key: " ++ e.text)
    return []

/-- Notes the files that were ignored because their destination was taken. -/
def noteIgnored (subkey : String) : List RuntimeFile → Procedure platformSystem Unit
  | [] => return ()
  | file :: rest => do
    info (subkey ++ ": ignoring runtime file with duplicate destination filename " ++
      file.destinationName)
    noteIgnored subkey rest

/-- Adds the runtime files of some subkeys. -/
def addSubkeys : List RuntimeFileSubkey → DeviceRecord → Procedure platformSystem DeviceRecord
  | [], device => return device
  | subkey :: rest, device => do
    let files ← device.readSubkeyIfPossible subkey.name
    let (device, ignored) := device.appendFiles subkey.list files
    noteIgnored subkey.name ignored
    addSubkeys rest device

/-- The path of the driver store of the device's adapter, with the system root spelled out. -/
def findDriverStore (config : Config) (device : DeviceRecord) :
    Procedure platformSystem String := do
  (ask (.openAdapter device.adapter.luid)).context
    ("opening adapter with LUID " ++ device.adapter.luid.text)
  let path ← (queryGrowing (fun capacity => ask (.queryStorePath device.adapter.luid capacity))
    config.maxQueryAttempts).context ("querying " ++ storePathSubject)
  return expandSystemRoot path config.systemRoot

/-- Adds what the driver tells to a device. -/
def resolve (config : Config) (device : DeviceRecord) :
    Procedure platformSystem DeviceRecord := do
  info ("querying driver details for device " ++ device.id)
  let path ← device.findDriverStore config
  let device := { device with driverStorePath := path }
  -- In a container the files are already in place.
  if isHostStore path then
    info "running inside a container, skipping runtime file enumeration"
    return device
  addSubkeys runtimeFileSubkeys device

/-- Resolves a device on a platform: the device afterwards, and how it went. A failure leaves the
device as it was. -/
def resolveOn (device : DeviceRecord) (config : Config) (platform : Platform) :
    DeviceRecord × Run PlatformCall DeviceRecord :=
  let run := (device.resolve config).run platform.respond
  match run.outcome with
  | .value resolved => (resolved, run)
  | .failed _ | .crashed => (device, run)

end DeviceRecord

end GpuDiscovery
