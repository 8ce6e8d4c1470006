import GpuDiscovery.Text.CaseFold
import GpuDiscovery.Text.Numeral

/-!
# Hardware identifiers

The four numbers that identify the hardware of an adapter, and the pattern that the identifiers of
its plug-and-play devices begin with. A device identifier has the pattern's text in front, in any
ASCII case, and something about the instance behind it.
-/

namespace GpuDiscovery

open Text

/-- The numbers that identify an adapter's hardware. -/
structure HardwareId where
  vendorId : UInt32
  deviceId : UInt32
  subsystemId : UInt32
  revision : UInt32
  deriving DecidableEq, Repr, Inhabited

/-- A beginning that device identifiers are compared with. -/
structure HardwareIdPattern where
  /-- What a matching identifier begins with. -/
  stem : String
  deriving DecidableEq, Repr

namespace HardwareIdPattern

instance : Ord HardwareIdPattern := ⟨fun a b => compare a.stem b.stem⟩

instance : Std.TransOrd HardwareIdPattern where
  eq_swap {a b} := @Std.OrientedCmp.eq_swap String compare _ a.stem b.stem
  isLE_trans {a b c} := @Std.TransCmp.isLE_trans String compare _ a.stem b.stem c.stem

instance : Std.LawfulEqOrd HardwareIdPattern where
  compare_self {a} := @Std.ReflCmp.compare_self String compare _ a.stem
  eq_of_compare {a b} h := by
    have hstem : a.stem = b.stem := @Std.LawfulEqCmp.eq_of_compare String compare _ a.stem b.stem h
    cases a; cases b
    simpa using hstem

/-- How the pattern is written: an asterisk stands for the rest of an identifier. -/
def text (pattern : HardwareIdPattern) : String :=
  pattern.stem ++ "*"

/-- A device identifier matches if the part of it that fills as many bytes as the stem is the stem
in some ASCII case. -/
def matchesId (pattern : HardwareIdPattern) (deviceId : String) : Bool :=
  match takeBytes pattern.stem.utf8ByteSize deviceId.toList with
  | none => false
  | some start => sameLetters start pattern.stem.toList

end HardwareIdPattern

namespace HardwareId

/-- The characters that the identifiers of devices with this hardware begin with. -/
def stemChars (id : HardwareId) : List Char :=
  "PCI\\VEN_".toList ++ upperHexDigits 4 id.vendorId.toNat ++
    "&DEV_".toList ++ upperHexDigits 4 id.deviceId.toNat ++
    "&SUBSYS_".toList ++ upperHexDigits 8 id.subsystemId.toNat ++
    "&REV_".toList ++ upperHexDigits 2 id.revision.toNat

/-- The pattern of devices with this hardware. -/
def pattern (id : HardwareId) : HardwareIdPattern :=
  ⟨String.ofList id.stemChars⟩

end HardwareId

example : (HardwareId.pattern ⟨0x8086, 0x9BC5, 0x7D, 5⟩).text =
    "PCI\\VEN_8086&DEV_9BC5&SUBSYS_0000007D&REV_05*" := by decide

end GpuDiscovery
