import GpuDiscovery.Adapter.Record
import GpuDiscovery.Device.RuntimeFile

/-!
# Device records

A discovered device: its adapter, what its properties say, the driver store, and two lists of
runtime files. Within a list a destination is taken once, by the file that asked for it first;
`mergeFiles` adds files under that rule and says which of them came too late.
-/

namespace GpuDiscovery

/-- A discovered device. -/
structure DeviceRecord where
  adapter : AdapterRecord
  id : String
  description : String
  vendor : String
  driverRegistryKey : String
  driverStorePath : String
  locationPath : String
  runtimeFiles : List RuntimeFile
  runtimeFilesWow64 : List RuntimeFile
  deriving DecidableEq, Repr, Inhabited

/-- Some file of the list has the destination. -/
def hasDestination (files : List RuntimeFile) (name : String) : Bool :=
  files.any fun file => file.destinationName = name

/-- Adds files to a list, except those whose destination is taken when their turn comes. The
second list holds these, in their order. -/
def mergeFiles : (existing files : List RuntimeFile) → List RuntimeFile × List RuntimeFile
  | existing, [] => (existing, [])
  | existing, file :: rest =>
    if hasDestination existing file.destinationName then
      let (merged, ignored) := mergeFiles existing rest
      (merged, file :: ignored)
    else mergeFiles (existing ++ [file]) rest

namespace DeviceRecord

/-- One of the two lists of runtime files. -/
def files (device : DeviceRecord) : RuntimeFileList → List RuntimeFile
  | .primary => device.runtimeFiles
  | .wow64 => device.runtimeFilesWow64

/-- The device with one of its lists of runtime files replaced. -/
def withFiles (device : DeviceRecord) (files : List RuntimeFile) : RuntimeFileList → DeviceRecord
  | .primary => { device with runtimeFiles := files }
  | .wow64 => { device with runtimeFilesWow64 := files }

/-- Adds runtime files to one of the lists; those whose destination is taken are ignored and
handed back. -/
def appendFiles (device : DeviceRecord) (list : RuntimeFileList) (files : List RuntimeFile) :
    DeviceRecord × List RuntimeFile :=
  let (merged, ignored) := mergeFiles (device.files list) files
  (device.withFiles merged list, ignored)

@[simp] theorem files_withFiles (device : DeviceRecord) (files : List RuntimeFile)
    (list : RuntimeFileList) : (device.withFiles files list).files list = files := by
  cases list <;> rfl

/-- Replacing one list leaves the other alone. -/
theorem files_withFiles_of_ne (device : DeviceRecord) (files : List RuntimeFile)
    {list other : RuntimeFileList} (h : other ≠ list) :
    (device.withFiles files list).files other = device.files other := by
  cases list <;> cases other <;> first | rfl | exact absurd rfl h

end DeviceRecord

end GpuDiscovery
