import GpuDiscovery.SortedMap
import GpuDiscovery.Text.Utf16

/-!
# Lists of strings in the registry

A value of the registry can hold a list of strings: their units one after the other, each string
ended by a zero unit, and the list by an empty string. Writers forget the last zero or the last
two; readers take what they find up to the first empty string.
-/

namespace GpuDiscovery

open Text

/-- The values of a registry key that hold lists of strings, by name. -/
abbrev RegistryValues := SortedMap String (List String)

namespace MultiString

/-- Reads a list of strings; what is no text becomes U+FFFD, unit by unit. -/
def decode (units : List UInt16) : List String :=
  ((units.splitOn 0).takeWhile fun segment => !segment.isEmpty).map Utf16.decodeLossy

/-- The strings one after the other, each ended by a zero unit, without the empty string at the
end of the list. -/
def encodeStrings (strings : List String) : List UInt16 :=
  strings.flatMap fun string => Utf16.encode string ++ [0]

/-- Writes a list of strings. -/
def encode (strings : List String) : List UInt16 :=
  encodeStrings strings ++ [0]

end MultiString

example : MultiString.decode [0x61, 0, 0x62, 0, 0, 0x63] = ["a", "b"] := by decide
example : MultiString.decode [0x61] = ["a"] := by decide

end GpuDiscovery
