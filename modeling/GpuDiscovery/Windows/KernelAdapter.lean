import GpuDiscovery.Adapter.Luid
import GpuDiscovery.GrowingQuery
import GpuDiscovery.Windows.Status

/-!
# Adapters in the kernel

The kernel opens an adapter by its identifier, in two halves, and answers queries through a block
of memory that begins with a header and continues with room for the answer. Besides the status of
the call there is one in the header: success, too little room, or a failure.
-/

namespace GpuDiscovery.Windows

open Text Procedure

/-- The size of the header in bytes: the kind of the query, its flags, 260 units for the name of a
value, the type of the value, the number of the physical adapter, the size and the status of the
answer, and eight bytes in which the answer begins. -/
def queryHeaderSize : Nat := 4 + 4 + 2 * 260 + 4 + 4 + 4 + 4 + 8

/-- What a query leaves in memory. -/
structure KernelAnswer where
  /-- How the call went. -/
  callStatus : Int32
  /-- How the query went. -/
  status : Int32
  /-- The room that the answer takes or would take, in bytes. -/
  outputSize : UInt32
  /-- The units that were written. What lies behind them is zero. -/
  output : List UInt16
  deriving DecidableEq, Repr

/-- The calls that deal with an adapter. -/
inductive KernelCall where
  /-- Open the adapter with an identifier, given in two halves. -/
  | openAdapter (low : UInt32) (high : Int32)
  /-- Query the adapter for information of one type, which is the registry, and there for one kind
  of value. `announced` is the size of the block of memory that the kernel is told, `allocated` is
  the size it has. -/
  | query (infoType : UInt32) (queryType : UInt32) (announced : UInt32) (allocated : Nat)
  /-- Close the adapter. -/
  | closeAdapter
  deriving DecidableEq

/-- The answers to the calls. -/
@[reducible] def KernelCall.Answer : KernelCall → Type
  | openAdapter _ _ | closeAdapter => Int32
  | query _ _ _ _ => KernelAnswer

/-- The kernel, as far as adapters are concerned. -/
@[reducible] def kernelSystem : System where
  Call := KernelCall
  Answer := KernelCall.Answer

/-- Makes a call. -/
def callKernel (call : KernelCall) : Procedure kernelSystem call.Answer :=
  perform (S := kernelSystem) call

/-- The lower half of an identifier. -/
def luidLow (luid : Luid) : UInt32 :=
  luid.toUInt64.toUInt32

/-- The upper half of an identifier, with its sign. -/
def luidHigh (luid : Luid) : Int32 :=
  (luid.toUInt64 >>> 32).toUInt32.toInt32

namespace KernelAdapter

/-- The type of queries that ask the registry. -/
def registryInfo : UInt32 := 48

/-- The kind of registry queries that ask for the driver store path. -/
def storePathQuery : UInt32 := 2

/-- The size of the block of memory for an answer of so many bytes. -/
def blockSize (capacity : Nat) : Nat :=
  queryHeaderSize + capacity

/-- The size that is allocated for a block: whole groups of eight bytes. -/
def allocatedSize (capacity : Nat) : Nat :=
  8 * ((blockSize capacity + 7) / 8)

/-- What the status in the header means. -/
def interpret (answer : KernelAnswer) : Outcome BufferAnswer :=
  if answer.status = 0 then
    match Utf16.decode? (Utf16.beforeZero answer.output) with
    | some path => .value (.complete path)
    | none => .failed (.message (storePathSubject ++ " is not valid UTF-16"))
  else if answer.status = 1 then
    .value (.overflow answer.outputSize.toNat)
  else
    .failed (.message (storePathSubject ++ " query returned registry status " ++
      signedDecimal answer.status.toInt))

/-- Asks for the driver store path with room for `capacity` bytes. -/
def queryPath (capacity : Nat) : Procedure kernelSystem BufferAnswer := do
  let answer ← callKernel (.query registryInfo storePathQuery
    (UInt32.ofNat (blockSize capacity)) (allocatedSize capacity))
  checkKernel "D3DKMTQueryAdapterInfo" answer.callStatus
  ofOutcome (interpret answer)

/-- Opens the adapter with an identifier. -/
def openLuid (luid : Luid) : Procedure kernelSystem Unit := do
  let status ← callKernel (.openAdapter (luidLow luid) (luidHigh luid))
  checkKernel "D3DKMTOpenAdapterFromLuid" status

/-- Closes the adapter. -/
def close : Procedure kernelSystem Unit := do
  let status ← callKernel .closeAdapter
  noteKernelRelease "D3DKMTCloseAdapter" status

/-- Finds the driver store path of the adapter with an identifier: it is opened, queried, and
closed however the queries end. -/
def findStorePath (luid : Luid) (maxAttempts : Nat) : Procedure kernelSystem String := do
  openLuid luid
  ensuring (queryGrowing queryPath maxAttempts) close

end KernelAdapter

end GpuDiscovery.Windows
