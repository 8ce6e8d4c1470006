/-!
# Searching texts

Whether a text occurs within another, at any place.
-/

namespace GpuDiscovery.Text

/-- The characters `sought` occur in `cs` one right after the other. -/
def occursIn (sought : List Char) : List Char → Bool
  | [] => sought.isEmpty
  | c :: rest => sought.isPrefixOf (c :: rest) || occursIn sought rest

/-- What occurs has something before it and something behind it. -/
theorem occursIn_iff {sought cs : List Char} : occursIn sought cs = true ↔ sought <:+: cs := by
  induction cs with
  | nil => simp [occursIn]
  | cons c rest ih =>
    rw [List.infix_cons_iff, ← ih, ← List.isPrefixOf_iff_prefix]
    simp [occursIn]

example : occursIn "bc".toList "abcd".toList = true := by decide
example : occursIn "bd".toList "abcd".toList = false := by decide
example : occursIn [] [] = true := rfl

end GpuDiscovery.Text
