import GpuDiscovery.Procedure

/-!
# Status codes of the system

Calls of the system tell how they went in one of three ways. Calls about devices say whether they
failed, and then there is an error code, which may be any number. Calls about the registry answer
with a status, and calls of the kernel with a status of another kind; zero is success in both. Here
are the checks that turn failures into errors, and the notes about failing releases, which change no
result.
-/

namespace GpuDiscovery.Windows

open Text Procedure

/-- A buffer is too small. -/
def insufficientBuffer : UInt32 := 122

/-- An enumeration is at its end. -/
def noMoreItems : UInt32 := 259

/-- What was asked for does not exist. -/
def notFound : UInt32 := 1168

/-- Continues with the result of a call about devices, or fails with its error code. -/
def check {S : System} {α : Type} (operation : String) (result : Except UInt32 α) :
    Procedure S α :=
  match result with
  | .ok value => return value
  | .error code => fail (.win32 operation code)

/-- Fails with the status of a registry call unless it is the one of success. -/
def checkStatus {S : System} (operation : String) (status : UInt32) : Procedure S Unit :=
  if status = 0 then return () else fail (.win32 operation status)

/-- Fails with the status of a kernel call unless it is the one of success. -/
def checkKernel {S : System} (operation : String) (status : Int32) : Procedure S Unit :=
  if status = 0 then return () else fail (.ntStatus operation status)

/-- The text of a note about a failing release. -/
def releaseFailure (operation : String) (code : UInt32) : String :=
  operation ++ " failed with Win32 error " ++ decimal code.toNat

/-- Notes a failing release of devices. -/
def noteRelease {S : System} (operation : String) (result : Except UInt32 Unit) :
    Procedure S Unit :=
  match result with
  | .ok () => return ()
  | .error code => error (releaseFailure operation code)

/-- Notes a failing release in the registry. -/
def noteStatus {S : System} (operation : String) (status : UInt32) : Procedure S Unit :=
  if status = 0 then return () else error (releaseFailure operation status)

/-- Notes a failing release in the kernel. -/
def noteKernelRelease {S : System} (operation : String) (status : Int32) : Procedure S Unit :=
  if status = 0 then return ()
  else error (operation ++ " failed with NTSTATUS 0x" ++ upperHex 1 status.toUInt32.toNat)

end GpuDiscovery.Windows
