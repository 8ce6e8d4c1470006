import GpuDiscovery.Text.Numeral

/-!
# Property keys

The platform names a device property by a globally unique identifier and a number. The name of a
key is the identifier in its registry form, in braces, a blank, and the number; every part but the
last has a fixed width, so different keys have different names.
-/

namespace GpuDiscovery

open Text

/-- A globally unique identifier in its four parts. -/
structure Guid where
  data1 : UInt32
  data2 : UInt16
  data3 : UInt16
  data4 : Vector UInt8 8
  deriving DecidableEq, Repr

/-- The key of a device property. -/
structure PropertyKey where
  guid : Guid
  id : UInt32
  deriving DecidableEq, Repr

/-- The registry form of an identifier, in braces: groups of eight, four, four, four and twelve
upper-case hexadecimal digits. -/
def Guid.chars (guid : Guid) : List Char :=
  let byteDigits := guid.data4.toList.map fun byte => upperHexDigits 2 byte.toNat
  '\x7b' :: upperHexDigits 8 guid.data1.toNat ++
    '-' :: upperHexDigits 4 guid.data2.toNat ++
    '-' :: upperHexDigits 4 guid.data3.toNat ++
    '-' :: (byteDigits.take 2).flatten ++
    '-' :: (byteDigits.drop 2).flatten ++ ['\x7d']

namespace PropertyKey

/-- The name of a key. -/
def name (key : PropertyKey) : String :=
  String.ofList (key.guid.chars ++ ' ' :: Nat.toDigits 10 key.id.toNat)

/-- The key under which a device tells the identifier of its adapter. -/
def adapterLuid : PropertyKey where
  guid :=
    ⟨0x60B193CB, 0x5276, 0x4D0F, #v[0x96, 0xFC, 0xF1, 0x73, 0xAB, 0xAD, 0x3E, 0xC6]⟩
  id := 2

/-- The keys of a device's general properties share one identifier. -/
def ofDevice (id : UInt32) : PropertyKey where
  guid :=
    ⟨0xA45C254E, 0xDF1C, 0x4EFD, #v[0x80, 0x20, 0x67, 0xD1, 0x46, 0xA8, 0x50, 0xE0]⟩
  id := id

end PropertyKey

example : PropertyKey.adapterLuid.name =
    "\x7b60B193CB-5276-4D0F-96FC-F173ABAD3EC6\x7d 2" := by decide

end GpuDiscovery
