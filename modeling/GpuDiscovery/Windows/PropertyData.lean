import GpuDiscovery.Property.Value
import GpuDiscovery.Registry.MultiString
import GpuDiscovery.Windows.Bytes

/-!
# Device properties in bytes

The system hands out a device property as a type code and bytes. Six types are understood: text and
lists of text in units, truth values in one byte, and integers of four and eight bytes. Terminators
of text may be missing, and bytes behind a value are ignored; too few bytes for a value of fixed
size are an error. `encode` writes a value the way the system does.
-/

namespace GpuDiscovery.Windows

open Text

namespace PropertyType

/-- The code of unsigned 32-bit integers. -/
def uint32 : UInt32 := 7

/-- The code of signed 64-bit integers. -/
def int64 : UInt32 := 8

/-- The code of unsigned 64-bit integers. -/
def uint64 : UInt32 := 9

/-- The code of truth values. -/
def boolean : UInt32 := 17

/-- The code of text. -/
def string : UInt32 := 18

/-- The code of lists of text: that of text and the mark of lists. -/
def stringList : UInt32 := string ||| 0x2000

end PropertyType

/-- The first bytes of a value that has a fixed size. -/
def fixedSize (size : Nat) (bytes : List UInt8) : Except DiscoveryError (List UInt8) :=
  if size ≤ bytes.length then .ok (bytes.take size)
  else .error (.message ("property value shorter than " ++ decimal size ++ " bytes"))

/-- Reads a property. -/
def decodeProperty (type : UInt32) (bytes : List UInt8) : Except DiscoveryError PropertyValue :=
  if type = PropertyType.string then
    .ok (.string (Utf16.decodeLossy (Utf16.beforeZero (unitsOfBytes bytes))))
  else if type = PropertyType.stringList then
    .ok (.stringList (MultiString.decode (unitsOfBytes bytes)))
  else if type = PropertyType.boolean then
    (fixedSize 1 bytes).map fun value => .boolean (numberOfBytes value != 0)
  else if type = PropertyType.uint32 then
    (fixedSize 4 bytes).map fun value => .uint32 (UInt32.ofNat (numberOfBytes value))
  else if type = PropertyType.int64 then
    (fixedSize 8 bytes).map fun value => .int64 (UInt64.ofNat (numberOfBytes value)).toInt64
  else if type = PropertyType.uint64 then
    (fixedSize 8 bytes).map fun value => .uint64 (UInt64.ofNat (numberOfBytes value))
  else
    .error (.message ("unsupported device property type 0x" ++ lowerHex type.toNat))

/-- The type code of a value. -/
def propertyType : PropertyValue → UInt32
  | .boolean _ => PropertyType.boolean
  | .int64 _ => PropertyType.int64
  | .uint32 _ => PropertyType.uint32
  | .uint64 _ => PropertyType.uint64
  | .string _ => PropertyType.string
  | .stringList _ => PropertyType.stringList

/-- The bytes of a value, with all terminators. -/
def encodeProperty : PropertyValue → List UInt8
  | .boolean value => [if value then 0xFF else 0]
  | .int64 value => bytesOfNumber 8 value.toUInt64.toNat
  | .uint32 value => bytesOfNumber 4 value.toNat
  | .uint64 value => bytesOfNumber 8 value.toNat
  | .string value => bytesOfUnits (Utf16.encode value ++ [0])
  | .stringList values => bytesOfUnits (MultiString.encode values)

example : decodeProperty 8 [0xA3, 0xD2, 0, 0, 1, 0, 0, 0] = .ok (.int64 0x10000D2A3) := rfl
example : decodeProperty 18 [0x61, 0, 0, 0, 0x62, 0, 0x63] = .ok (.string "a") := rfl

end GpuDiscovery.Windows
