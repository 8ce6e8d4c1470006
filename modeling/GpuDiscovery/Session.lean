import GpuDiscovery.Catalog
import GpuDiscovery.Correlation
import GpuDiscovery.Device.Field
import GpuDiscovery.Resolution

/-!
# Sessions

A session discovers devices, as often as it is asked to, and answers questions about the devices
of the latest successful discovery. A discovery constructs the platform's services unless they are
there from an earlier one, enumerates adapters, finds their devices, and asks for their drivers.
Whatever fails, the devices found before stay; but a catalog that was enumerated before a later
stage failed is kept, and it is this catalog that is asked whether a refresh is due.

A run that crashes takes the services with it: the next discovery constructs them again.
-/

namespace GpuDiscovery

open Text Procedure

/-- What a session has been doing. -/
inductive SessionState where
  /-- No discovery was asked for. -/
  | uninitialized
  /-- A discovery was begun and neither succeeded nor failed. -/
  | discovering
  /-- The latest discovery succeeded. -/
  | ready
  /-- The latest discovery failed. -/
  | failed
  deriving DecidableEq, Repr

/-- A session. -/
structure Session where
  config : Config
  /-- The catalog, while the services are there. -/
  catalog : Option Catalog
  /-- The devices of the latest successful discovery. -/
  devices : Option (List DeviceRecord)
  state : SessionState
  /-- What the latest failure said, or nothing. -/
  lastError : String
  deriving DecidableEq

/-! ## The stages of a discovery -/

/-- Constructs the three services. -/
def constructServices : Procedure platformSystem Unit := do
  (ask .provideAdapters).context "creating adapter enumeration backend"
  (ask .provideDevices).context "creating PnP device backend"
  (ask .provideDrivers).context "creating driver query backend"

/-- Asks for the drivers of devices. -/
def resolveDevices (config : Config) :
    List DeviceRecord → Procedure platformSystem (List DeviceRecord)
  | [] => return []
  | device :: rest => do
    let resolved ← (device.resolve config).context
      ("retrieving driver details for device " ++ device.id)
    let others ← resolveDevices config rest
    return resolved :: others

/-- Finds the devices of adapters, with their drivers. -/
def findDevices (config : Config) (adapters : AdapterSet) :
    Procedure platformSystem (List DeviceRecord) := do
  let devices ← (AdapterSet.correlate adapters).context
    "retrieving PnP devices for DirectX adapters"
  resolveDevices config devices

/-- Enumerates adapters and finds their devices. The catalog that results is the new one from the
moment the enumeration succeeded, whatever comes after. -/
def runStages (config : Config) (selection : Selection) (catalog : Catalog) :
    Procedure platformSystem (Catalog × Except DiscoveryError (List DeviceRecord)) := do
  match ← attempt ((Catalog.enumerate selection).context "enumerating DirectX adapters") with
  | .error e => return (catalog, .error e)
  | .ok enumerated =>
    -- From here on a failure leaves the new catalog beside the old devices.
    let result ← attempt (findDevices config enumerated.adapters)
    return (enumerated, result)

/-- Constructs the services if they are not there, and runs the stages. Without services there is
no catalog. -/
def runPipeline (config : Config) (selection : Selection) : (catalog : Option Catalog) →
    Procedure platformSystem (Option Catalog × Except DiscoveryError (List DeviceRecord))
  | some catalog => do
    let (catalog, result) ← runStages config selection catalog
    return (some catalog, result)
  | none => do
    match ← attempt constructServices with
    | .error e => return (none, .error e)
    | .ok () =>
      let (catalog, result) ← runStages config selection .initial
      return (some catalog, result)

/-- The note with which a discovery begins. -/
def beginNote (selection : Selection) : String :=
  "discovering devices: filter=" ++ selection.filter.name ++
    " include_integrated=" ++ truth selection.includeIntegrated ++
    " include_detachable=" ++ truth selection.includeDetachable

/-- The note with which a discovery ends. -/
def endNote : Except DiscoveryError (List DeviceRecord) → String
  | .ok devices => "discovered " ++ decimal devices.length ++ " devices"
  | .error e => "device discovery failed: " ++ e.text

/-- A discovery from its first to its last note. -/
def discovery (config : Config) (selection : Selection) (catalog : Option Catalog) :
    Procedure platformSystem (Option Catalog × Except DiscoveryError (List DeviceRecord)) := do
  info (beginNote selection)
  let (catalog, result) ← runPipeline config selection catalog
  info (endNote result)
  return (catalog, result)

namespace Session

/-- A session that was not asked for anything yet. -/
def new (config : Config) : Session where
  config := config
  catalog := none
  devices := none
  state := .uninitialized
  lastError := ""

/-- The session after a discovery that ended so. -/
def settle (session : Session) :
    Outcome (Option Catalog × Except DiscoveryError (List DeviceRecord)) → Session
  | .value (catalog, .ok devices) =>
    { session with catalog := catalog, devices := some devices, state := .ready, lastError := "" }
  | .value (catalog, .error e) =>
    { session with catalog := catalog, state := .failed, lastError := e.text }
  -- The stages never fail as a whole: `discovery` hands their errors on as results.
  | .failed e => { session with state := .failed, lastError := e.text }
  -- The services were in use when the run was cut off, and are gone with it.
  | .crashed => { session with catalog := none, state := .discovering }

/-- How a discovery ended for who asked for it. -/
def verdict :
    Outcome (Option Catalog × Except DiscoveryError (List DeviceRecord)) → Outcome Unit
  | .value (_, .ok _) => .value ()
  | .value (_, .error e) => .failed e
  | .failed e => .failed e
  | .crashed => .crashed

/-- Discovers devices: the session afterwards, and how it went. -/
def discover (session : Session) (platform : Platform) (selection : Selection) :
    Session × Run PlatformCall Unit :=
  let result := (discovery session.config selection session.catalog).run platform.respond
  (session.settle result.outcome, ⟨verdict result.outcome, result.events⟩)

/-- The devices may be outdated: there are none, the services are gone, or the catalog is stale. -/
def isRefreshRequired (session : Session) (platform : Platform) : Bool :=
  match session.devices, session.catalog with
  | some _, some catalog => catalog.isStale platform
  | _, _ => true

/-- Remembers how an access went: what it said if it failed, and nothing if it did not. -/
def track {α : Type} (session : Session) : Except DiscoveryError α → Session
  | .ok _ => { session with lastError := "" }
  | .error e => { session with lastError := e.text }

/-! ## Accessors -/

/-- The devices, for `subject`; an error before the first successful discovery. -/
def found (session : Session) (subject : String) : Except DiscoveryError (List DeviceRecord) :=
  match session.devices with
  | some devices => .ok devices
  | none => .error (.notDiscovered subject)

/-- All devices. -/
def allDevices (session : Session) : Except DiscoveryError (List DeviceRecord) :=
  session.found "devices"

/-- The number of devices. -/
def deviceCount (session : Session) : Except DiscoveryError Nat := do
  let devices ← session.found "device count"
  return devices.length

/-- The device with an index. -/
def device (session : Session) (index : Nat) : Except DiscoveryError DeviceRecord := do
  let devices ← session.found "device details"
  match devices[index]? with
  | some device => return device
  | none => .error (.invalidDeviceIndex index)

/-- A field of the device with an index. -/
def deviceField (session : Session) (index : Nat) (field : DeviceField) :
    Except DiscoveryError DeviceFieldValue := do
  let device ← session.device index
  return device.field field

/-- The number of runtime files in a list of the device with an index. -/
def runtimeFileCount (session : Session) (index : Nat) (list : RuntimeFileList) :
    Except DiscoveryError Nat := do
  let device ← session.device index
  return (device.files list).length

/-- A runtime file in a list of the device with an index. -/
def runtimeFile (session : Session) (index : Nat) (list : RuntimeFileList) (fileIndex : Nat) :
    Except DiscoveryError RuntimeFile := do
  let device ← session.device index
  match (device.files list)[fileIndex]? with
  | some file => return file
  | none => .error (.invalidFileIndex fileIndex)

end Session

end GpuDiscovery
