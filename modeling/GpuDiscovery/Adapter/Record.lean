import GpuDiscovery.Adapter.HardwareId
import GpuDiscovery.Adapter.Luid
import GpuDiscovery.Filter
import GpuDiscovery.SortedMap

/-!
# Adapter records

What discovery knows of an adapter, and which adapters a selection retains. Software adapters are
never retained. Among hardware adapters only the three filters that speak of both capabilities
exclude any; the others leave it to the lists that are read for them.
-/

namespace GpuDiscovery

/-- What is known of one adapter. -/
structure AdapterRecord where
  luid : Luid
  hardwareId : HardwareId
  isHardware : Bool
  isIntegrated : Bool
  isDetachable : Bool
  supportsDisplay : Bool
  supportsCompute : Bool
  deriving DecidableEq, Repr, Inhabited

/-- What a discovery is asked for: a capability, and whether adapters that are part of the
processor and adapters that can be removed at run time count. -/
structure Selection where
  filter : CapabilityFilter
  includeIntegrated : Bool
  includeDetachable : Bool
  deriving DecidableEq, Repr, Inhabited

namespace AdapterRecord

/-- The filter excludes the adapter for a capability it has or lacks. -/
def isExcludedBy (adapter : AdapterRecord) : CapabilityFilter → Bool
  | .displayOnly => adapter.supportsCompute
  | .computeOnly => adapter.supportsDisplay
  | .displayAndCompute => !adapter.supportsDisplay || !adapter.supportsCompute
  | .all | .displaySupported | .computeSupported => false

/-- The selection retains the adapter. -/
def isSelectedBy (adapter : AdapterRecord) (selection : Selection) : Bool :=
  adapter.isHardware
    && !adapter.isExcludedBy selection.filter
    && !(adapter.isIntegrated && !selection.includeIntegrated)
    && !(adapter.isDetachable && !selection.includeDetachable)

end AdapterRecord

/-- Retained adapters by identifier. -/
abbrev AdapterSet := SortedMap Luid AdapterRecord

end GpuDiscovery
