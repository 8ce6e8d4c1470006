import GpuDiscovery.Correlation
import GpuDiscovery.Platform.Script

/-!
# A simulated platform

A platform in memory for trying discovery out. Adapters and devices are described by what is
special about them and otherwise all alike; driver stores and the subkeys of the one driver key can
be added while a session uses the platform; and the platform remembers the calls it was given, so
that one can ask afterwards how often and with what it was called.
-/

namespace GpuDiscovery

/-! ## Adapters -/

/-- An adapter of the simulation. -/
structure SimulatedAdapter where
  luid : Luid
  hardwareId : HardwareId
  isHardware : Bool
  isIntegrated : Bool
  isDetachable : Bool
  attributes : List AdapterAttribute
  /-- Its identifier cannot be read. -/
  luidIsBroken : Bool
  deriving DecidableEq, Repr

/-- What can be special about an adapter. -/
inductive AdapterTrait where
  /-- It supports both kinds of graphics. -/
  | display
  /-- It supports graphics of the eleventh generation. -/
  | display11
  /-- It supports core compute. -/
  | compute
  | integrated
  | detachable
  /-- It is no hardware. -/
  | software
  | revision (revision : UInt32)
  /-- Its identifier cannot be read. -/
  | brokenLuid
  deriving DecidableEq, Repr

namespace SimulatedAdapter

/-- An adapter with nothing special about it. Its device number follows from its identifier. -/
def plain (luid : Luid) : SimulatedAdapter where
  luid := luid
  hardwareId := ⟨0x10DE, 0x2000 + luid.toUInt64.toUInt32, 0x14671458, 0xA1⟩
  isHardware := true
  isIntegrated := false
  isDetachable := false
  attributes := []
  luidIsBroken := false

/-- The adapter with one more thing special about it. -/
def adorn (adapter : SimulatedAdapter) : AdapterTrait → SimulatedAdapter
  | .display => { adapter with attributes := adapter.attributes ++ [.graphics11, .graphics12] }
  | .display11 => { adapter with attributes := adapter.attributes ++ [.graphics11] }
  | .compute => { adapter with attributes := adapter.attributes ++ [.coreCompute] }
  | .integrated => { adapter with isIntegrated := true }
  | .detachable => { adapter with isDetachable := true }
  | .software => { adapter with isHardware := false }
  | .revision revision =>
    { adapter with hardwareId := { adapter.hardwareId with revision := revision } }
  | .brokenLuid => { adapter with luidIsBroken := true }

/-- The adapter with these things special about it. -/
def ofTraits (luid : Luid) (traits : List AdapterTrait) : SimulatedAdapter :=
  traits.foldl adorn (plain luid)

/-- The error of reading a broken identifier. -/
def brokenLuidError : DiscoveryError :=
  .hresult "IDXCoreAdapter::GetProperty" (Int32.ofNat 0x887A0022) "the adapter was removed"

/-- What a platform tells of the adapter. -/
def info (adapter : SimulatedAdapter) : AdapterInfo where
  luid := if adapter.luidIsBroken then .failed brokenLuidError else .value adapter.luid
  hardwareId := .value adapter.hardwareId
  isHardware := .value adapter.isHardware
  isIntegrated := .value adapter.isIntegrated
  isDetachable := .value adapter.isDetachable
  supports group := adapter.attributes.contains group

end SimulatedAdapter

/-! ## Devices and drivers -/

/-- The name of the driver that all simulated devices have. -/
def simulatedDriver : String := "\x7b4d36e968-e325-11ce-bfc1-08002be10318\x7d\\0000"

/-- A device on an adapter, with the adapter's identifier given as some property value. -/
def simulatedDevice (hardwareId : HardwareId) (inst : String) (luid : PropertyValue) :
    PropertyMap :=
  .ofList
    [(PropertyName.deviceId, .string (hardwareId.pattern.stem ++ "\\" ++ inst)),
     (PropertyName.description, .string "NVIDIA GeForce RTX 3090"),
     (PropertyName.manufacturer, .string "NVIDIA"),
     (PropertyName.driver, .string simulatedDriver),
     (PropertyName.locationPaths,
      .stringList ["PCIROOT(0)#PCI(0100)#PCI(0000)",
        "ACPI(_SB_)#ACPI(PCI0)#ACPI(PEG0)#ACPI(PEGP)"]),
     (PropertyName.adapterLuid, luid)]

/-- The driver store of an adapter. -/
structure SimulatedStore where
  path : String
  /-- The path is given to who has room for so many bytes. -/
  required : Nat
  /-- Every query is answered with a demand for a little more room. -/
  isEndless : Bool
  deriving DecidableEq, Repr

/-- A subkey of the driver key. -/
structure SimulatedKey where
  values : RegistryValues
  /-- Its values cannot be read. -/
  isBroken : Bool

/-- The simulated platform and the calls it was given, oldest first. -/
structure Simulation where
  adapters : List SimulatedAdapter
  listsAreStale : Bool
  listingFails : Bool
  devices : List PropertyMap
  queriesFail : Bool
  stores : SortedMap Luid SimulatedStore
  keys : SortedMap String SimulatedKey
  calls : List PlatformCall

namespace Simulation

/-- A simulation without anything in it. -/
def initial : Simulation where
  adapters := []
  listsAreStale := false
  listingFails := false
  devices := []
  queriesFail := false
  stores := .empty
  keys := .empty
  calls := []

/-! ## Setting the scene -/

/-- Adds the driver store of an adapter, in place of an earlier one. -/
def addStore (simulation : Simulation) (luid : Luid) (path : String) : Simulation :=
  { simulation with stores := simulation.stores.insert luid ⟨path, 0, false⟩ }

/-- Changes the driver store of an adapter, if there is one. -/
def changeStore (simulation : Simulation) (luid : Luid)
    (change : SimulatedStore → SimulatedStore) : Simulation :=
  match simulation.stores.get? luid with
  | some store => { simulation with stores := simulation.stores.insert luid (change store) }
  | none => simulation

/-- Makes the store of an adapter ask for room. -/
def requireBuffer (simulation : Simulation) (luid : Luid) (bytes : Nat) : Simulation :=
  simulation.changeStore luid fun store => { store with required := bytes }

/-- Makes the store of an adapter ask for more room for ever. -/
def overflowForever (simulation : Simulation) (luid : Luid) : Simulation :=
  simulation.changeStore luid fun store => { store with isEndless := true }

/-- The text of the path of a subkey of the driver key. -/
def subkeyPath (name : String) : String :=
  driverClassKey ++ simulatedDriver ++ "\\" ++ name

/-- Adds a subkey of the driver key, in place of an earlier one. -/
def addSubkey (simulation : Simulation) (name : String) (values : List (String × List String)) :
    Simulation :=
  { simulation with keys := simulation.keys.insert (subkeyPath name) ⟨.ofList values, false⟩ }

/-- Makes the values of a subkey unreadable. The subkey comes into being if it is not there. -/
def breakSubkey (simulation : Simulation) (name : String) : Simulation :=
  let values := ((simulation.keys.get? (subkeyPath name)).map SimulatedKey.values).getD .empty
  { simulation with keys := simulation.keys.insert (subkeyPath name) ⟨values, true⟩ }

/-! ## Answering calls -/

/-- The error of a listing that is made to fail. -/
def listingError : DiscoveryError :=
  .hresult "IDXCoreAdapterFactory::CreateAdapterList" (Int32.ofNat 0x80004005) "unspecified error"

/-- The error of a query that is made to fail. -/
def queryError : DiscoveryError :=
  .win32 "SetupDiGetClassDevsW" 13

/-- The error of reading a broken subkey. -/
def brokenKeyError : DiscoveryError :=
  .message "registry value InstalledDisplayDrivers has type 1, expected REG_MULTI_SZ"

/-- The error of fetching an adapter past the end of a list. -/
def noAdapter (index : Nat) : DiscoveryError :=
  .message ("no adapter at index " ++ Text.decimal index)

/-- The list of the adapters that support an attribute. All lists become stale together. -/
def list (simulation : Simulation) (group : AdapterAttribute) : AdapterList where
  id := 0
  adapters := (simulation.adapters.filter fun adapter => adapter.attributes.contains group).map
    fun adapter => .value adapter.info

/-- A query is answered with the device. Only an identifier that is text can fail to match. -/
def isFoundBy (query : DeviceQuery) (device : PropertyMap) : Bool :=
  match device.get? PropertyName.deviceId with
  | some (.string id) => query.matchesId id
  | _ => true

/-- The answer of a store to a query with room for `capacity` bytes. -/
def storeAnswer (store : SimulatedStore) (capacity : Nat) : BufferAnswer :=
  if store.isEndless then .overflow (capacity + 64)
  else if capacity < store.required then .overflow store.required
  else .complete store.path

/-- The answer to a call, whatever was called before. -/
def respond (simulation : Simulation) (_ : List PlatformCall) :
    (call : PlatformCall) → Outcome call.Result
  | .provideAdapters | .provideDevices | .provideDrivers => .value ()
  | .listAdapters group =>
    if simulation.listingFails then .failed listingError else .value (simulation.list group)
  | .queryDevices query =>
    if simulation.queriesFail then .failed queryError
    else .value ((simulation.devices.filter (isFoundBy query)).map PropertyMap.bag)
  | .openAdapter luid =>
    if simulation.stores.contains luid then .value () else .failed unknownAdapter
  | .queryStorePath luid capacity =>
    match simulation.stores.get? luid with
    | some store => .value (storeAnswer store capacity)
    | none => .failed unknownAdapter
  | .openKey path =>
    if simulation.keys.contains path.text then .value () else .failed unknownKey
  | .readKey path =>
    match simulation.keys.get? path.text with
    | some key => if key.isBroken then .failed brokenKeyError else .value key.values
    | none => .failed unknownKey

/-- The platform that a simulation is. -/
def platform (simulation : Simulation) : Platform where
  respond := simulation.respond
  isStale _ := simulation.listsAreStale

/-- The simulation after it was given further calls. -/
def remember (simulation : Simulation) (calls : List PlatformCall) : Simulation :=
  { simulation with calls := simulation.calls ++ calls }

/-- Lists the adapters with an attribute, fetches one of them and reads its identifier. -/
def readListedLuid (group : AdapterAttribute) (index : Nat) : Procedure platformSystem Luid := do
  let list ← ask (.listAdapters group)
  match list.adapters[index]? with
  | none => Procedure.fail (noAdapter index)
  | some fetched =>
    let info ← Procedure.ofOutcome fetched
    Procedure.ofOutcome info.luid

/-! ## Looking back -/

/-- How often the services were constructed. -/
def constructions (simulation : Simulation) : Nat :=
  simulation.calls.countP fun
    | .provideAdapters => true
    | _ => false

/-- The attributes whose lists were asked for. -/
def requestedLists (simulation : Simulation) : List AdapterAttribute :=
  simulation.calls.filterMap fun
    | .listAdapters group => some group
    | _ => none

/-- The device queries. -/
def queries (simulation : Simulation) : List DeviceQuery :=
  simulation.calls.filterMap fun
    | .queryDevices query => some query
    | _ => none

/-- The capacities with which stores were queried. -/
def queryCapacities (simulation : Simulation) : List Nat :=
  simulation.calls.filterMap fun
    | .queryStorePath _ capacity => some capacity
    | _ => none

/-- How often the opening of a registry key was tried. -/
def keyOpenings (simulation : Simulation) : Nat :=
  simulation.calls.countP fun
    | .openKey _ => true
    | _ => false

end Simulation

end GpuDiscovery
