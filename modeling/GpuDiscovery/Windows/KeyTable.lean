import GpuDiscovery.Windows.RegistryKey

/-!
# Tables of registry values

A system with one registry key whose values stand in a table. What it tells about the longest name
and the longest data is true of the table; the number of values it tells can be wrong.
-/

namespace GpuDiscovery.Windows

/-- A value in a table, and the status of reading it. -/
structure TableValue where
  value : KeyValue
  status : UInt32
  deriving DecidableEq, Repr

/-- A table of values, and the statuses of the calls about the key. -/
structure KeyTable where
  openStatus : UInt32
  infoStatus : UInt32
  closeStatus : UInt32
  /-- The number of values that the key tells of. -/
  count : UInt32
  values : List TableValue

namespace KeyTable

/-- The greatest of some lengths. -/
def longest (lengths : List Nat) : UInt32 :=
  UInt32.ofNat (lengths.foldl max 0)

/-- What the key tells about its values. -/
def info (table : KeyTable) : KeyInfo where
  valueCount := table.count
  maxNameLength := longest (table.values.map fun entry => entry.value.name.length)
  maxDataLength := longest (table.values.map fun entry => entry.value.data.length)

/-- The answers of a system with this key. -/
def respond (table : KeyTable) (_ : List RegistryCall) : (call : RegistryCall) → call.Answer
  | .openKey _ _ => table.openStatus
  | .queryInfo => (table.infoStatus, table.info)
  | .enumValue index _ _ =>
    match table.values[index]? with
    | some entry => (entry.status, entry.value)
    | none => (noMoreItems, ⟨[], 0, []⟩)
  | .closeKey => table.closeStatus

end KeyTable

end GpuDiscovery.Windows
