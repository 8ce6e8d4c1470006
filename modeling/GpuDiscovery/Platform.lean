import GpuDiscovery.Adapter.Attribute
import GpuDiscovery.Adapter.Record
import GpuDiscovery.Procedure
import GpuDiscovery.Property.DeviceQuery
import GpuDiscovery.Property.Value
import GpuDiscovery.Registry.MultiString
import GpuDiscovery.Registry.Path

/-!
# The platform

What discovery needs of the system it runs on, as the calls it makes: constructing three services,
listing adapters by attribute, querying plug-and-play devices, opening an adapter and asking for
the path of its driver store, opening a registry key and reading its values.

An answer may hold further failures. The adapters of a list are fetched one by one and each of
their properties is read on its own, and so are the properties of a device; whoever reads an answer
meets these failures in the order of reading. A list of adapters stays with the platform after it
is handed out, which can tell at any later time whether the list has become stale.
-/

namespace GpuDiscovery

/-- An adapter in a list of the platform. -/
structure AdapterInfo where
  luid : Outcome Luid
  hardwareId : Outcome HardwareId
  isHardware : Outcome Bool
  isIntegrated : Outcome Bool
  isDetachable : Outcome Bool
  supports : AdapterAttribute → Bool

/-- A list of adapters that the platform handed out. -/
structure AdapterList where
  /-- By which the platform knows the list later on. -/
  id : Nat
  /-- What fetching the adapters one by one comes to. -/
  adapters : List (Outcome AdapterInfo)

/-- The answer to a query that fills a buffer with text. -/
inductive BufferAnswer where
  /-- The buffer was large enough and holds the text. -/
  | complete (text : String)
  /-- The buffer was too small; so many bytes are asked for. -/
  | overflow (required : Nat)
  deriving DecidableEq, Repr

/-- The calls that discovery makes. -/
inductive PlatformCall where
  /-- Construct the service that lists adapters. -/
  | provideAdapters
  /-- Construct the service that knows plug-and-play devices. -/
  | provideDevices
  /-- Construct the service that knows drivers. -/
  | provideDrivers
  /-- List the adapters with an attribute. -/
  | listAdapters (group : AdapterAttribute)
  /-- Find plug-and-play devices. -/
  | queryDevices (query : DeviceQuery)
  /-- Open an adapter for queries. -/
  | openAdapter (luid : Luid)
  /-- Ask an opened adapter for the path of its driver store, with room for `capacity` bytes. -/
  | queryStorePath (luid : Luid) (capacity : Nat)
  /-- Open a registry key. -/
  | openKey (path : RegistryPath)
  /-- Read the values of an opened registry key. -/
  | readKey (path : RegistryPath)
  deriving DecidableEq

/-- What a successful call yields. -/
@[reducible] def PlatformCall.Result : PlatformCall → Type
  | provideAdapters | provideDevices | provideDrivers => Unit
  | listAdapters _ => AdapterList
  | queryDevices _ => List PropertyBag
  | openAdapter _ => Unit
  | queryStorePath _ _ => BufferAnswer
  | openKey _ => Unit
  | readKey _ => RegistryValues

/-- The calls of the platform; any of them may fail. -/
@[reducible] def platformSystem : System where
  Call := PlatformCall
  Answer call := Outcome call.Result

/-- A platform at some time: what it answers, and which of its lists are stale. -/
structure Platform where
  respond : platformSystem.Responder
  isStale : Nat → Bool

/-- Calls the platform and continues with what a successful call yields. -/
def ask (call : PlatformCall) : Procedure platformSystem call.Result := do
  let outcome ← Procedure.perform call
  Procedure.ofOutcome outcome

/-- A platform without any of the services. -/
def Platform.unsupported : Platform where
  respond _ _ := .failed .unsupportedPlatform
  isStale _ := false

end GpuDiscovery
