import GpuDiscovery.Filter

/-!
# Adapter attributes

The platform lists adapters by attribute: graphics of the eleventh generation, graphics of the
twelfth, and core compute. A filter names a capability, and `groupsFor` says which of the three
lists have to be read for it: graphics lists are left out when only compute is wanted, the compute
list when only display is, and the older graphics list also when both are wanted, because an
adapter that computes and displays is listed under the newer one.
-/

namespace GpuDiscovery

/-- What adapters are listed by. -/
inductive AdapterAttribute where
  | graphics11
  | graphics12
  | coreCompute
  deriving DecidableEq, Repr

namespace AdapterAttribute

/-- The platform's name of an attribute. -/
def name : AdapterAttribute → String
  | graphics11 => "DXCORE_ADAPTER_ATTRIBUTE_D3D11_GRAPHICS"
  | graphics12 => "DXCORE_ADAPTER_ATTRIBUTE_D3D12_GRAPHICS"
  | coreCompute => "DXCORE_ADAPTER_ATTRIBUTE_D3D12_CORE_COMPUTE"

/-- All attributes, in the order in which their lists are read. -/
def every : List AdapterAttribute :=
  [graphics11, graphics12, coreCompute]

/-- The list of an attribute is read for a filter. -/
def isReadFor (filter : CapabilityFilter) : AdapterAttribute → Bool
  | graphics11 => filter != .computeOnly && filter != .displayAndCompute
  | graphics12 => filter != .computeOnly
  | coreCompute => filter != .displayOnly

/-- The attributes whose lists are read for a filter, in reading order. -/
def groupsFor (filter : CapabilityFilter) : List AdapterAttribute :=
  every.filter (isReadFor filter)

end AdapterAttribute

end GpuDiscovery
