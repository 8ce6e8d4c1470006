import GpuDiscovery.Error
import GpuDiscovery.Text.CaseFold

/-!
# Capability filters

Which adapters a discovery is asked for, by what they can do. A filter has a number, by which
foreign callers name it, and a name, by which users do; users need not mind ASCII case.
-/

namespace GpuDiscovery

/-- The capability that adapters are filtered by. -/
inductive CapabilityFilter where
  /-- Every hardware adapter. -/
  | all
  /-- Adapters that can drive a display. -/
  | displaySupported
  /-- Adapters that can compute. -/
  | computeSupported
  /-- Adapters that can drive a display and not compute. -/
  | displayOnly
  /-- Adapters that can compute and not drive a display. -/
  | computeOnly
  /-- Adapters that can do both. -/
  | displayAndCompute
  deriving DecidableEq, Repr, Inhabited

namespace CapabilityFilter

/-- All filters, in the order of their codes. -/
def every : List CapabilityFilter :=
  [all, displaySupported, computeSupported, displayOnly, computeOnly, displayAndCompute]

/-- The number of a filter. -/
def code : CapabilityFilter → Int32
  | all => 0
  | displaySupported => 1
  | computeSupported => 2
  | displayOnly => 3
  | computeOnly => 4
  | displayAndCompute => 5

/-- The name of a filter. -/
def name : CapabilityFilter → String
  | all => "AllDevices"
  | displaySupported => "DisplaySupported"
  | computeSupported => "ComputeSupported"
  | displayOnly => "DisplayOnly"
  | computeOnly => "ComputeOnly"
  | displayAndCompute => "DisplayAndCompute"

/-- The filter with a given name, in any ASCII case. -/
def ofName? (name : String) : Option CapabilityFilter :=
  every.find? fun filter => Text.equalIgnoringCase filter.name name

/-- The filter with a given number. -/
def ofCode (code : Int32) : Except DiscoveryError CapabilityFilter :=
  match every.find? fun filter => filter.code = code with
  | some filter => .ok filter
  | none => .error (.invalidFilter code)

@[simp] theorem ofCode_code (filter : CapabilityFilter) : ofCode filter.code = .ok filter := by
  cases filter <;> rfl

/-- Filters have different numbers. -/
theorem code_injective {a b : CapabilityFilter} (h : a.code = b.code) : a = b := by
  have := congrArg ofCode h
  simpa using this

theorem ofName?_name (filter : CapabilityFilter) : ofName? filter.name = some filter := by
  cases filter <;> decide

end CapabilityFilter

end GpuDiscovery
