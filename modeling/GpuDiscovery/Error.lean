import GpuDiscovery.Text.Numeral

/-!
# Discovery errors

Everything that can go wrong, as a cause with the data that belongs to it, and the wording of each
cause in one place. A stage that passes on the error of an inner one wraps it in a context; the
text of a wrapped error is its contexts, outermost first, in front of the text of the cause, so
contexts never hide what happened (`rootCause`) nor what kind of failure it was (`isIndexError`).
-/

namespace GpuDiscovery

open Text

/-- A failure of discovery, or of an access to what discovery found. -/
inductive DiscoveryError where
  /-- A failure of an inner stage, with what the outer stage was doing. -/
  | wrapped (context : String) (source : DiscoveryError)
  /-- A failing graphics-object call with its status code and the system's message for it. -/
  | hresult (operation : String) (code : Int32) (message : String)
  /-- There is no device with this index. -/
  | invalidDeviceIndex (index : Nat)
  /-- The device has no runtime file with this index. -/
  | invalidFileIndex (index : Nat)
  /-- There is no filter with this code. -/
  | invalidFilter (code : Int32)
  /-- A failure that its text says all about. -/
  | message (text : String)
  /-- Results were asked for before any discovery succeeded. -/
  | notDiscovered (subject : String)
  /-- A failing kernel call with its status. -/
  | ntStatus (operation : String) (status : Int32)
  /-- The answer outgrew every buffer offered for it. -/
  | queryRetryLimit (attempts : Nat)
  /-- There is no way to discover devices here. -/
  | unsupportedPlatform
  /-- A failing system call with its error code. -/
  | win32 (operation : String) (code : UInt32)
  deriving DecidableEq, Repr

namespace DiscoveryError

/-- A status code as its 32 bits: eight upper-case hexadecimal digits after 0x. -/
def statusText (code : Int32) : String :=
  "0x" ++ upperHex 8 code.toUInt32.toNat

/-- The wording of an error. -/
def text : DiscoveryError → String
  | wrapped context source => context ++ ": " ++ source.text
  | hresult operation code detail =>
    operation ++ " failed with HRESULT " ++ statusText code ++ ": " ++ detail
  | invalidDeviceIndex index => "requested device index is invalid: " ++ decimal index
  | invalidFileIndex index => "requested runtime file index is invalid: " ++ decimal index
  | invalidFilter code => "unknown device filter value: " ++ signedDecimal code.toInt
  | message said => said
  | notDiscovered subject =>
    "attempted to retrieve " ++ subject ++ " before performing device discovery"
  | ntStatus operation status => operation ++ " failed with NTSTATUS " ++ statusText status
  | queryRetryLimit attempts =>
    "output buffer still too small after " ++ decimal attempts ++ " query attempts"
  | unsupportedPlatform => "device discovery is not supported on this platform"
  | win32 operation code => operation ++ " failed with Win32 error " ++ decimal code.toNat

/-- The cause below all contexts. -/
def rootCause : DiscoveryError → DiscoveryError
  | wrapped _ source => source.rootCause
  | cause => cause

/-- The error is about a request for something that is not there: an index out of range, or
results before any discovery. Contexts do not change that. -/
def isIndexError : DiscoveryError → Bool
  | wrapped _ source => source.isIndexError
  | invalidDeviceIndex _ | invalidFileIndex _ | notDiscovered _ => true
  | _ => false

/-- Wraps an error in contexts, the first of which becomes the outermost. -/
def within (contexts : List String) (error : DiscoveryError) : DiscoveryError :=
  contexts.foldr wrapped error

end DiscoveryError

end GpuDiscovery
