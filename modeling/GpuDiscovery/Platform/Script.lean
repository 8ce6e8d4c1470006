import GpuDiscovery.Platform

/-!
# Scripted platforms

A platform whose answers are written down: which adapters there are and under which attributes they
are listed, which devices, which driver stores, which registry keys, and where a call fails. Its
answers depend on the script alone, with one exception that is in the nature of the call: a store
answers successive queries of one opened adapter with successive replies, and repeats the last.
-/

namespace GpuDiscovery

/-- A way for a call to go wrong. -/
inductive Fault where
  | error (error : DiscoveryError)
  | crash
  deriving DecidableEq, Repr

/-- The outcome of a call that goes wrong. -/
def Fault.outcome {α : Type} : Fault → Outcome α
  | error e => .failed e
  | crash => .crashed

/-- The outcome of a call that yields a value unless it goes wrong. -/
def Outcome.unless {α : Type} (value : α) : Option Fault → Outcome α
  | some fault => fault.outcome
  | none => .value value

theorem Outcome.unless_eq_value_iff {α : Type} {value result : α} {fault : Option Fault} :
    Outcome.unless value fault = .value result ↔ fault = none ∧ value = result := by
  rcases fault with _ | _ | _
  · simp [Outcome.unless]
  · simp [Outcome.unless, Fault.outcome]
  · simp [Outcome.unless, Fault.outcome]

/-- Where reading an adapter goes wrong. -/
structure AdapterFaults where
  fetching : Option Fault
  luid : Option Fault
  hardwareId : Option Fault
  isHardware : Option Fault
  isIntegrated : Option Fault
  isDetachable : Option Fault

/-- An adapter of a script. -/
structure ScriptedAdapter where
  luid : Luid
  hardwareId : HardwareId
  isHardware : Bool
  isIntegrated : Bool
  isDetachable : Bool
  /-- The attributes it says to support. -/
  attributes : List AdapterAttribute
  /-- The attributes under which it is listed. -/
  listedUnder : List AdapterAttribute
  faults : AdapterFaults

/-- A plug-and-play device of a script. -/
structure ScriptedDevice where
  properties : PropertyMap
  /-- The properties that cannot be read. -/
  faults : SortedMap String Fault

/-- A reply to a query for a driver store path. -/
inductive StoreReply where
  | fault (fault : Fault)
  /-- So many bytes are asked for, however many there are. -/
  | overflow (required : Nat)
  /-- The path, however few bytes there are. -/
  | path (path : String)
  /-- The path if there are so many bytes. -/
  | pathIn (required : Nat) (path : String)

/-- The driver store of an adapter. -/
structure ScriptedStore where
  opening : Option Fault
  replies : List StoreReply

/-- A registry key of a script. -/
structure ScriptedKey where
  opening : Option Fault
  reading : Option Fault
  values : RegistryValues

/-- All that a scripted platform knows. -/
structure Script where
  /-- Constructing the services goes wrong. -/
  adapterService : Option Fault
  deviceService : Option Fault
  driverService : Option Fault
  /-- Listing the adapters of an attribute goes wrong. -/
  listFaults : AdapterAttribute → Option Fault
  /-- The attributes whose lists are stale. -/
  staleLists : List AdapterAttribute
  adapters : List ScriptedAdapter
  /-- Querying devices goes wrong. -/
  queryFault : Option Fault
  /-- Queries are answered with all devices, whether they match or not. -/
  unfiltered : Bool
  devices : List ScriptedDevice
  stores : SortedMap Luid ScriptedStore
  /-- Registry keys by the texts of their paths. -/
  keys : SortedMap String ScriptedKey

namespace ScriptedAdapter

/-- A card that stays where it is, is listed under the attributes that it has, and can be read. -/
def card (luid : Luid) (hardwareId : HardwareId) (attributes : List AdapterAttribute) :
    ScriptedAdapter where
  luid := luid
  hardwareId := hardwareId
  isHardware := true
  isIntegrated := false
  isDetachable := false
  attributes := attributes
  listedUnder := attributes
  faults := ⟨none, none, none, none, none, none⟩

/-- What a platform tells of the adapter. -/
def info (adapter : ScriptedAdapter) : AdapterInfo where
  luid := .unless adapter.luid adapter.faults.luid
  hardwareId := .unless adapter.hardwareId adapter.faults.hardwareId
  isHardware := .unless adapter.isHardware adapter.faults.isHardware
  isIntegrated := .unless adapter.isIntegrated adapter.faults.isIntegrated
  isDetachable := .unless adapter.isDetachable adapter.faults.isDetachable
  supports group := adapter.attributes.contains group

end ScriptedAdapter

namespace ScriptedDevice

/-- What reading the properties of the device comes to. -/
def bag (device : ScriptedDevice) : PropertyBag := fun name =>
  .unless (device.properties.get? name) (device.faults.get? name)

/-- A query is answered with the device. Only an identifier that is text can fail to match. -/
def isFoundBy (device : ScriptedDevice) (query : DeviceQuery) : Bool :=
  match device.properties.get? PropertyName.deviceId with
  | some (.string id) => query.matchesId id
  | _ => true

end ScriptedDevice

/-- The answer with room for `capacity` bytes. -/
def StoreReply.answer (reply : StoreReply) (capacity : Nat) : Outcome BufferAnswer :=
  match reply with
  | .fault cause => cause.outcome
  | .overflow room => .value (.overflow room)
  | .path text => .value (.complete text)
  | .pathIn room text =>
    if capacity < room then .value (.overflow room) else .value (.complete text)

/-- The reply to the query after `earlier` queries: the last reply is repeated. -/
def replyAfter {α : Type} (replies : List α) (earlier : Nat) : Option α :=
  replies[min earlier (replies.length - 1)]?

/-- The call opens an adapter. -/
def PlatformCall.isOpening : PlatformCall → Bool
  | openAdapter _ => true
  | _ => false

/-- The call asks for a driver store. -/
def PlatformCall.isStoreQuery : PlatformCall → Bool
  | queryStorePath _ _ => true
  | _ => false

/-- How often a store was queried since an adapter was last opened, given the latest call first. -/
def queriesSinceOpening (past : List PlatformCall) : Nat :=
  (past.takeWhile fun call => !call.isOpening).countP PlatformCall.isStoreQuery

/-- The error of opening an adapter that is not there. -/
def unknownAdapter : DiscoveryError :=
  .ntStatus "D3DKMTOpenAdapterFromLuid" (Int32.ofNat 0xC000000D)

/-- The error of opening a registry key that is not there. -/
def unknownKey : DiscoveryError :=
  .win32 "RegOpenKeyExW" 2

namespace Script

/-- A script in which nothing is there and nothing goes wrong. -/
def empty : Script where
  adapterService := none
  deviceService := none
  driverService := none
  listFaults _ := none
  staleLists := []
  adapters := []
  queryFault := none
  unfiltered := false
  devices := []
  stores := .empty
  keys := .empty

/-- The list of the adapters under an attribute. Its identifier is the position of the
attribute. -/
def list (script : Script) (group : AdapterAttribute) : AdapterList where
  id := AdapterAttribute.every.idxOf group
  adapters := (script.adapters.filter fun adapter => adapter.listedUnder.contains group).map
    fun adapter => .unless adapter.info adapter.faults.fetching

/-- The devices with which a query is answered. -/
def found (script : Script) (query : DeviceQuery) : List PropertyBag :=
  (script.devices.filter fun device => script.unfiltered || device.isFoundBy query).map
    ScriptedDevice.bag

/-- The answer of a store to a query after `earlier` ones. A store without replies has no path. -/
def storeAnswer (script : Script) (luid : Luid) (earlier capacity : Nat) :
    Outcome BufferAnswer :=
  match (script.stores.get? luid).bind fun store => replyAfter store.replies earlier with
  | some reply => reply.answer capacity
  | none => .failed unknownAdapter

/-- The answer to a call after the calls made so far, latest first. -/
def respond (script : Script) (past : List PlatformCall) :
    (call : PlatformCall) → Outcome call.Result
  | .provideAdapters => .unless () script.adapterService
  | .provideDevices => .unless () script.deviceService
  | .provideDrivers => .unless () script.driverService
  | .listAdapters group => .unless (script.list group) (script.listFaults group)
  | .queryDevices query => .unless (script.found query) script.queryFault
  | .openAdapter luid =>
    match script.stores.get? luid with
    | some store => .unless () store.opening
    | none => .failed unknownAdapter
  | .queryStorePath luid capacity => script.storeAnswer luid (queriesSinceOpening past) capacity
  | .openKey path =>
    match script.keys.get? path.text with
    | some key => .unless () key.opening
    | none => .failed unknownKey
  | .readKey path =>
    match script.keys.get? path.text with
    | some key => .unless key.values key.reading
    | none => .failed unknownKey

/-- The platform that answers from a script. -/
def platform (script : Script) : Platform where
  respond := script.respond
  isStale id := script.staleLists.any fun group => AdapterAttribute.every.idxOf group = id

end Script

end GpuDiscovery
