/-!
# Splitting texts

Three ways of taking a list of characters apart: at the first separator, after the last one, and
at a fixed beginning.
-/

namespace GpuDiscovery.Text

/-- What stands before and after the first `separator`; `none` if there is none. -/
def splitAtFirst (separator : Char) : List Char → Option (List Char × List Char)
  | [] => none
  | c :: rest =>
    if c = separator then some ([], rest)
    else (splitAtFirst separator rest).map fun parts => (c :: parts.1, parts.2)

/-- What stands after the last character that `isSeparator` accepts, or everything. -/
def afterLast (isSeparator : Char → Bool) (cs : List Char) : List Char :=
  (cs.reverse.takeWhile fun c => !isSeparator c).reverse

/-- What follows the beginning `start`; `none` if the characters do not begin so. -/
def afterStart? : (start cs : List Char) → Option (List Char)
  | [], cs => some cs
  | _ :: _, [] => none
  | s :: start, c :: cs => if s = c then afterStart? start cs else none

/-- Splitting loses nothing, and the first part holds no separator. -/
theorem splitAtFirst_eq_some_iff {separator : Char} {cs before after : List Char} :
    splitAtFirst separator cs = some (before, after) ↔
      cs = before ++ separator :: after ∧ separator ∉ before := by
  induction cs generalizing before with
  | nil => simp [splitAtFirst]
  | cons c rest ih =>
    simp only [splitAtFirst]
    split
    · subst_vars
      cases before with
      | nil => simp [eq_comm]
      | cons b before => simp; grind
    · rename_i hc
      cases before with
      | nil => simp [hc]
      | cons b before =>
        simp only [Option.map_eq_some_iff, Prod.mk.injEq, List.cons.injEq, Prod.exists]
        grind

/-- There is no split exactly if there is no separator. -/
theorem splitAtFirst_eq_none_iff {separator : Char} {cs : List Char} :
    splitAtFirst separator cs = none ↔ separator ∉ cs := by
  induction cs with
  | nil => simp [splitAtFirst]
  | cons c rest ih =>
    simp only [splitAtFirst]
    split
    · simp_all
    · simp [ih]; grind

theorem afterStart?_eq_some_iff {start cs rest : List Char} :
    afterStart? start cs = some rest ↔ cs = start ++ rest := by
  induction start generalizing cs with
  | nil => simp [afterStart?, eq_comm]
  | cons s start ih =>
    cases cs with
    | nil => simp [afterStart?]
    | cons c cs =>
      simp only [afterStart?]
      split
      · simp_all
      · simp; grind

example : splitAtFirst '\\' "A\\b\\c".toList = some (['A'], "b\\c".toList) := by decide
example : afterLast (fun c => c = '\\' || c = '/') "a\\b/c.dll".toList = "c.dll".toList := by decide

end GpuDiscovery.Text
