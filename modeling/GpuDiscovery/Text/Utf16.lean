/-!
# UTF-16

The platform exchanges text as 16-bit units. A character below 0x10000 is one unit; any other is a
pair, a high surrogate (0xD800 to 0xDBFF) and a low one (0xDC00 to 0xDFFF), that carries ten bits
each. Not every list of units is text: a surrogate without its partner stands for nothing.
`decodeUnits` says of each place what it holds, and the two readers differ in what they make of an
unpaired surrogate: `decodeLossy` writes U+FFFD for it, `decode?` gives up.
-/

namespace GpuDiscovery.Text.Utf16

/-- The units of one character. -/
def encodeChar (c : Char) : List UInt16 :=
  if c.toNat < 0x10000 then [UInt16.ofNat c.toNat]
  else
    [UInt16.ofNat (0xD800 + (c.toNat - 0x10000) / 0x400),
     UInt16.ofNat (0xDC00 + (c.toNat - 0x10000) % 0x400)]

/-- The units of a text, without a terminator. -/
def encode (text : String) : List UInt16 :=
  text.toList.flatMap encodeChar

/-- The unit is the first half of a pair. -/
def isHighSurrogate (u : UInt16) : Bool :=
  0xD800 ≤ u.toNat && u.toNat < 0xDC00

/-- The unit is the second half of a pair. -/
def isLowSurrogate (u : UInt16) : Bool :=
  0xDC00 ≤ u.toNat && u.toNat < 0xE000

/-- The character that a high and a low surrogate stand for together. -/
def joinSurrogates (high low : UInt16) : Char :=
  Char.ofNat (0x10000 + (high.toNat - 0xD800) * 0x400 + (low.toNat - 0xDC00))

/-- Reads units from left to right; `none` marks the place of an unpaired surrogate. -/
def decodeUnits : List UInt16 → List (Option Char)
  | [] => []
  | [u] => if isHighSurrogate u || isLowSurrogate u then [none] else [some (Char.ofNat u.toNat)]
  | u :: v :: rest =>
    if isHighSurrogate u then
      if isLowSurrogate v then some (joinSurrogates u v) :: decodeUnits rest
      -- The second unit is not used up: it may be text, or the first half of a pair itself.
      else none :: decodeUnits (v :: rest)
    else if isLowSurrogate u then none :: decodeUnits (v :: rest)
    else some (Char.ofNat u.toNat) :: decodeUnits (v :: rest)

/-- The character written for an unpaired surrogate. -/
def replacementCharacter : Char := '\uFFFD'

/-- Reads any list of units; each unpaired surrogate becomes U+FFFD. -/
def decodeLossy (units : List UInt16) : String :=
  String.ofList ((decodeUnits units).map (·.getD replacementCharacter))

/-- Reads units that are text throughout. -/
def decode? (units : List UInt16) : Option String :=
  ((decodeUnits units).mapM id).map String.ofList

/-- The units in front of the first zero unit, or all of them. -/
def beforeZero (units : List UInt16) : List UInt16 :=
  units.takeWhile (· != 0)

theorem encode_append (s t : String) : encode (s ++ t) = encode s ++ encode t := by
  simp [encode]

theorem zero_notMem_beforeZero (units : List UInt16) : (0 : UInt16) ∉ beforeZero units := by
  induction units with
  | nil => simp [beforeZero]
  | cons u rest ih =>
    simp only [beforeZero, List.takeWhile_cons] at ih ⊢
    split
    · rename_i hu
      simp only [List.mem_cons, not_or]
      exact ⟨fun h => by simp [← h] at hu, ih⟩
    · simp

example : encode "é😀" = [0xE9, 0xD83D, 0xDE00] := by decide
example : decodeLossy [0xD83D, 0xD83D, 0xDE00] = "\uFFFD😀" := by decide
example : decode? [0x78, 0xD800] = none := by decide

end GpuDiscovery.Text.Utf16
