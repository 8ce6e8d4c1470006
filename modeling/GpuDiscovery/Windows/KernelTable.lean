import GpuDiscovery.Platform.Script
import GpuDiscovery.Windows.KernelAdapter

/-!
# Tables of kernel replies

A kernel with one adapter that answers successive queries with successive replies, and repeats the
last.
-/

namespace GpuDiscovery.Windows

/-- A reply of the kernel. -/
inductive KernelReply where
  /-- The call fails. -/
  | callStatus (status : Int32)
  /-- The query ends with a status and a size and writes nothing. -/
  | status (status : Int32) (size : UInt32)
  /-- The path, if there is room for it and a terminator. -/
  | path (units : List UInt16)
  deriving DecidableEq, Repr

/-- The replies of the kernel. -/
structure KernelTable where
  openStatus : Int32
  closeStatus : Int32
  replies : List KernelReply

/-- The answer with room for `capacity` bytes. -/
def KernelReply.answer (reply : KernelReply) (capacity : Nat) : KernelAnswer :=
  match reply with
  | .callStatus code => ⟨code, 0, 0, []⟩
  | .status code size => ⟨0, code, size, []⟩
  | .path units =>
    let needed := 2 * (units.length + 1)
    if capacity < needed then ⟨0, 1, UInt32.ofNat needed, []⟩
    else ⟨0, 0, UInt32.ofNat needed, units ++ [0]⟩

/-- How often the adapter was queried. -/
def queryCount (past : List KernelCall) : Nat :=
  past.countP fun
    | .query _ _ _ _ => true
    | _ => false

/-- The room for the answer in a block of the announced size. -/
def announcedRoom (announced : UInt32) : Nat :=
  announced.toNat - queryHeaderSize

namespace KernelTable

/-- The answers of a kernel with these replies. Without replies queries fail. -/
def respond (table : KernelTable) (past : List KernelCall) : (call : KernelCall) → call.Answer
  | .openAdapter _ _ => table.openStatus
  | .query _ _ announced _ =>
    match replyAfter table.replies (queryCount past) with
    | some reply => reply.answer (announcedRoom announced)
    | none => ⟨-1, 0, 0, []⟩
  | .closeAdapter => table.closeStatus

end KernelTable

end GpuDiscovery.Windows
