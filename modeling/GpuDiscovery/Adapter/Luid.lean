import GpuDiscovery.Text.Numeral

/-!
# Locally unique identifiers

The platform identifies an adapter, until the next restart, by 64 bits. Texts show them in two
ways: as a signed decimal number, and as the hexadecimal form of the bits themselves.
-/

namespace GpuDiscovery

open Text

/-- The identifier of an adapter. -/
abbrev Luid := Int64

namespace Luid

/-- The identifier as a signed decimal number. -/
def text (luid : Luid) : String :=
  signedDecimal luid.toInt

/-- The 64 bits of the identifier in lower-case hexadecimal after 0x. -/
def hex (luid : Luid) : String :=
  "0x" ++ lowerHex luid.toUInt64.toNat

end Luid

example : Luid.hex (-1) = "0xffffffffffffffff" := by decide

end GpuDiscovery
