/-!
# Numerals

How numbers appear in the texts of this library: decimal without padding, and hexadecimal either
in lower case (the adapter identifiers of log notes) or in upper case filled up with zeros to a
least width (status codes, hardware identifiers, property keys).

Every numeral is built from `Nat.toDigits`, so its laws (`Nat.ofDigitChars_toDigits` above all)
apply to whatever is printed here.
-/

namespace GpuDiscovery.Text

/-- The decimal digits of a natural number, without leading zeros. -/
def decimal (n : Nat) : String :=
  String.ofList (Nat.toDigits 10 n)

/-- A decimal integer: a minus sign stands in front of a negative one, and nothing in front of any
other. -/
def signedDecimal (i : Int) : String :=
  if i < 0 then "-" ++ decimal i.natAbs else decimal i.natAbs

/-- The characters `cs`, preceded by as many zeros as are missing to `width`. A longer list is
kept whole: the width is a least one. -/
def zeroFill (width : Nat) (cs : List Char) : List Char :=
  List.replicate (width - cs.length) '0' ++ cs

/-- Lower-case hexadecimal digits, without leading zeros. -/
def lowerHex (n : Nat) : String :=
  String.ofList (Nat.toDigits 16 n)

/-- Upper-case hexadecimal digits, filled up with zeros to at least `width` of them. -/
def upperHexDigits (width n : Nat) : List Char :=
  zeroFill width ((Nat.toDigits 16 n).map Char.toUpper)

/-- Upper-case hexadecimal, filled up with zeros to at least `width` digits. -/
def upperHex (width n : Nat) : String :=
  String.ofList (upperHexDigits width n)

theorem length_zeroFill (width : Nat) (cs : List Char) :
    (zeroFill width cs).length = max width cs.length := by
  simp [zeroFill]; omega

example : upperHex 8 0xC000000D = "C000000D" := by decide
example : upperHex 4 0x12345 = "12345" := by decide
example : lowerHex 0 = "0" := by decide
example : signedDecimal (-12) = "-12" := by decide

end GpuDiscovery.Text
