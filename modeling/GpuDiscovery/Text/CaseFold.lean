/-!
# Comparing without regard to ASCII case

Device identifiers and filter names are compared without regard to case, where case is that of the
26 Latin letters only: every other character stands for itself. `Char.toLower` is that folding.
-/

namespace GpuDiscovery.Text

/-- The two lists of characters agree once ASCII capitals are read as small letters. -/
def sameLetters (a b : List Char) : Bool :=
  a.map Char.toLower == b.map Char.toLower

/-- The two texts agree once ASCII capitals are read as small letters. -/
def equalIgnoringCase (a b : String) : Bool :=
  sameLetters a.toList b.toList

/-- The beginning of `cs` that fills exactly `size` bytes of UTF-8, if there is one: a text that
is shorter has none, and neither has one whose `size`-th byte falls inside a character. -/
def takeBytes : Nat → List Char → Option (List Char)
  | 0, _ => some []
  | _ + 1, [] => none
  | size + 1, c :: rest =>
    if c.utf8Size ≤ size + 1 then (takeBytes (size + 1 - c.utf8Size) rest).map (c :: ·) else none

example : equalIgnoringCase "DisplayOnly" "DISPLAYONLY" = true := by decide
example : equalIgnoringCase "é" "É" = false := by decide
example : takeBytes 3 "aé日".toList = some ['a', 'é'] := by decide
example : takeBytes 2 "aé".toList = none := by decide

end GpuDiscovery.Text
