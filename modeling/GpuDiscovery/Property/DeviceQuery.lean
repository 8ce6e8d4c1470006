import GpuDiscovery.Adapter.HardwareId
import GpuDiscovery.SortedMap

/-!
# Device queries

What the platform is asked for plug-and-play devices: those whose identifier matches one of a set
of hardware patterns, and of these all or only the ones that are present.
-/

namespace GpuDiscovery

/-- A query for plug-and-play devices. -/
structure DeviceQuery where
  /-- The patterns, each once, in the order of their texts. -/
  patterns : SortedSet HardwareIdPattern
  /-- Devices that are known and not there are left out. -/
  presentOnly : Bool
  deriving DecidableEq

namespace DeviceQuery

/-- The query for present devices that match one of the patterns. -/
def ofPatterns (patterns : List HardwareIdPattern) : DeviceQuery where
  patterns := SortedMap.ofList (patterns.map fun pattern => (pattern, ()))
  presentOnly := true

/-- A device identifier matches a query if it matches one of its patterns. -/
def matchesId (query : DeviceQuery) (deviceId : String) : Bool :=
  query.patterns.keys.any fun pattern => pattern.matchesId deviceId

/-- How a query is written in log notes. -/
def text (query : DeviceQuery) : String :=
  (if query.presentOnly then "present devices where " else "devices where ") ++
    String.intercalate " or " (query.patterns.keys.map fun pattern =>
      "DeviceID like " ++ pattern.text)

end DeviceQuery

end GpuDiscovery
