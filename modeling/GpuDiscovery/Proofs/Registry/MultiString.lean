import GpuDiscovery.Proofs.Text.Utf16
import GpuDiscovery.Registry.MultiString

/-!
# Reading lists of strings back

What stands in a list of strings is said here without the reader: `LeadingSegments` cuts units into
the segments in front of the first empty one, by four rules, of which exactly one applies. Units
have one such cut, and reading them is reading each of its segments (`decode_eq_of_leading`).

Everything else is about cuts. Behind the strings that were written comes whatever is cut from the
rest (`LeadingSegments.behind_strings`), so it does not matter whether the end of the list was
written, and what stands behind the end is not looked at. The last terminator may be missing because
a segment may be the last one. And two zeros end every list, in whatever state it is.
-/

namespace GpuDiscovery.MultiString

open Text

/-- A string that a list can hold: it is not empty, and none of its characters is the terminator. -/
def IsListable (string : String) : Prop :=
  string ≠ "" ∧ '\x00' ∉ string.toList

instance (string : String) : Decidable (IsListable string) :=
  inferInstanceAs (Decidable (_ ∧ _))

/-- The segments of units in front of the first empty segment. A segment ends at a zero or where the
units end. -/
inductive LeadingSegments : List UInt16 → List (List UInt16) → Prop where
  /-- Nothing is left. -/
  | nil : LeadingSegments [] []
  /-- The next segment is empty. -/
  | closed (rest : List UInt16) : LeadingSegments (0 :: rest) []
  /-- The last segment, which nobody ended. -/
  | last {segment : List UInt16} (hne : segment ≠ []) (hzero : 0 ∉ segment) :
      LeadingSegments segment [segment]
  /-- A segment, its terminator and more. -/
  | cons {segment rest : List UInt16} {segments : List (List UInt16)} (hne : segment ≠ [])
      (hzero : 0 ∉ segment) (hrest : LeadingSegments rest segments) :
      LeadingSegments (segment ++ 0 :: rest) (segment :: segments)

variable {units : List UInt16} {segments : List (List UInt16)} {strings : List String}

/-! ## Cuts of units -/

/-- The segments that a reader finds are those of the cut. -/
theorem takeWhile_splitOn_of_leading (h : LeadingSegments units segments) :
    (units.splitOn 0).takeWhile (fun segment => !segment.isEmpty) = segments := by
  induction h with
  | nil => rfl
  | closed rest =>
    have hsplit : (0 :: rest).splitOn (0 : UInt16) = [] :: rest.splitOn 0 :=
      List.splitOn_append_cons_self_of_not_mem (List.not_mem_nil (a := 0)) rest
    rw [hsplit]
    rfl
  | @last segment hne hzero =>
    rw [List.splitOn_eq_singleton hzero]
    simp [hne]
  | @cons segment rest segments hne hzero _ ih =>
    rw [List.splitOn_append_cons_self_of_not_mem hzero]
    simp [hne, ih]

/-- Units are cut in one way. -/
theorem LeadingSegments.unique {others : List (List UInt16)} (h : LeadingSegments units segments)
    (hothers : LeadingSegments units others) : others = segments := by
  rw [← takeWhile_splitOn_of_leading h, takeWhile_splitOn_of_leading hothers]

/-- All units can be cut. -/
theorem exists_leading (units : List UInt16) : ∃ segments, LeadingSegments units segments := by
  -- What is behind the first segment is shorter, but it is no tail that structural recursion sees.
  induction hlength : units.length using Nat.strongRecOn generalizing units with
  | ind length ih =>
    have hcut : units.takeWhile (· != 0) ++ units.dropWhile (· != 0) = units :=
      List.takeWhile_append_dropWhile
    have hzero : 0 ∉ units.takeWhile (· != 0) := Utf16.zero_notMem_beforeZero units
    generalize units.takeWhile (· != 0) = segment at hcut hzero
    rcases hbehind : units.dropWhile (· != 0) with _ | ⟨terminator, rest⟩
    · rw [hbehind, List.append_nil] at hcut
      subst hcut
      by_cases hne : segment = []
      · exact ⟨[], hne ▸ .nil⟩
      · exact ⟨[segment], .last hne hzero⟩
    · have hstop : (terminator != 0) = false := by
        have hhead := List.head?_dropWhile_not (· != 0) units
        rwa [hbehind] at hhead
      obtain rfl : terminator = 0 := by simpa using hstop
      rw [hbehind] at hcut
      subst hcut
      by_cases hne : segment = []
      · exact ⟨[], hne ▸ .closed rest⟩
      · have hshorter : rest.length < length := by
          rw [← hlength, List.length_append, List.length_cons]
          omega
        obtain ⟨segments, hsegments⟩ := ih _ hshorter rest rfl
        exact ⟨segment :: segments, .cons hne hzero hsegments⟩

/-- The segments of a cut are not empty, and there is no zero in them. -/
theorem LeadingSegments.forall_mem (h : LeadingSegments units segments) :
    ∀ segment ∈ segments, segment ≠ [] ∧ 0 ∉ segment := by
  induction h with
  | nil => exact List.forall_mem_nil _
  | closed rest => exact List.forall_mem_nil _
  | last hne hzero => exact List.forall_mem_singleton.2 ⟨hne, hzero⟩
  | cons hne hzero _ ih => exact List.forall_mem_cons.2 ⟨⟨hne, hzero⟩, ih⟩

/-- Two zeros end a list wherever they stand: the first may still end a segment, and the second is
an empty one. -/
theorem LeadingSegments.append_zeros (h : LeadingSegments units segments) (tail : List UInt16) :
    LeadingSegments (units ++ 0 :: 0 :: tail) segments := by
  induction h with
  | nil => exact .closed _
  | closed rest => exact .closed _
  | last hne hzero => exact .cons hne hzero (.closed tail)
  | cons hne hzero _ ih =>
    rw [List.append_assoc, List.cons_append]
    exact .cons hne hzero ih

/-! ## What was written -/

theorem encode_ne_nil {string : String} (h : string ≠ "") : Utf16.encode string ≠ [] := by
  intro hnil
  have hread := Utf16.decode?_encode string
  rw [hnil] at hread
  exact h (Option.some.inj hread).symm

/-- Behind the strings that were written come the segments of the rest. -/
theorem LeadingSegments.behind_strings (hstrings : ∀ string ∈ strings, IsListable string)
    (h : LeadingSegments units segments) :
    LeadingSegments (encodeStrings strings ++ units) (strings.map Utf16.encode ++ segments) := by
  induction strings with
  | nil => exact h
  | cons string rest ih =>
    rw [List.forall_mem_cons] at hstrings
    obtain ⟨⟨hne, hzero⟩, hrest⟩ := hstrings
    have hunits : encodeStrings (string :: rest) ++ units =
        Utf16.encode string ++ 0 :: (encodeStrings rest ++ units) := by
      simp [encodeStrings]
    rw [hunits]
    exact .cons (encode_ne_nil hne) (Utf16.zero_notMem_encode hzero) (ih hrest)

/-- The last string may be without its terminator. -/
theorem leading_dropLast (hstrings : ∀ string ∈ strings, IsListable string)
    (hne : strings ≠ []) :
    LeadingSegments (encodeStrings strings).dropLast (strings.map Utf16.encode) := by
  obtain ⟨before, string, rfl⟩ : ∃ before string, strings = before ++ [string] :=
    ⟨_, _, (List.dropLast_concat_getLast hne).symm⟩
  rw [List.forall_mem_append, List.forall_mem_singleton] at hstrings
  obtain ⟨hbefore, hstring, hzero⟩ := hstrings
  have hunits : (encodeStrings (before ++ [string])).dropLast =
      encodeStrings before ++ Utf16.encode string := by
    simp [encodeStrings, ← List.append_assoc]
  rw [hunits, List.map_append]
  exact .behind_strings hbefore (.last (encode_ne_nil hstring) (Utf16.zero_notMem_encode hzero))

/-! ## Reading -/

/-- Reading units is reading the segments of their cut. -/
theorem decode_eq_of_leading (h : LeadingSegments units segments) :
    decode units = segments.map Utf16.decodeLossy := by
  rw [decode, takeWhile_splitOn_of_leading h]

/-- Units that are cut into the units of some strings are read as these strings. -/
theorem decode_of_leading_encode (h : LeadingSegments units (strings.map Utf16.encode)) :
    decode units = strings := by
  have hread : ∀ string, Utf16.decodeLossy (Utf16.encode string) = string :=
    fun string => Utf16.decodeLossy_of_decode? (Utf16.decode?_encode string)
  rw [decode_eq_of_leading h, List.map_map]
  exact (List.map_congr_left fun string _ => hread string).trans (List.map_id strings)

/-- Strings are read back from their units, each with its terminator. -/
theorem decode_encodeStrings (h : ∀ string ∈ strings, IsListable string) :
    decode (encodeStrings strings) = strings := by
  have hleads := LeadingSegments.behind_strings h .nil
  rw [List.append_nil, List.append_nil] at hleads
  exact decode_of_leading_encode hleads

/-- So they are with the end of the list, whatever stands behind it. -/
theorem decode_encode_append (h : ∀ string ∈ strings, IsListable string) (tail : List UInt16) :
    decode (encode strings ++ tail) = strings := by
  have hleads := LeadingSegments.behind_strings h (.closed tail)
  rw [List.append_nil] at hleads
  rw [encode, List.append_assoc]
  exact decode_of_leading_encode hleads

/-- And so they are without the last terminator. -/
theorem decode_dropLast_encodeStrings (h : ∀ string ∈ strings, IsListable string)
    (hne : strings ≠ []) : decode (encodeStrings strings).dropLast = strings :=
  decode_of_leading_encode (leading_dropLast h hne)

/-- Whatever is read could be written. -/
theorem isListable_of_mem_decode (units : List UInt16) :
    ∀ string ∈ decode units, IsListable string := by
  obtain ⟨segments, hsegments⟩ := exists_leading units
  rw [decode_eq_of_leading hsegments, List.forall_mem_map]
  intro segment hmem
  obtain ⟨hne, hzero⟩ := hsegments.forall_mem segment hmem
  exact ⟨Utf16.decodeLossy_ne_empty hne, Utf16.zero_notMem_decodeLossy hzero⟩

/-- **Reading lists of strings.** Strings that a list can hold are read back from their units, each
with its terminator: as they stand, without the last terminator, and with the end of the list and
anything behind it. Whatever units are read, two zeros behind them change nothing, whatever follows.
What is read from any units is one string for each segment in front of the first empty one, and each
of these strings could stand in a list. -/
theorem decode_undoes_encode :
    (∀ strings, (∀ string ∈ strings, IsListable string) →
      decode (encodeStrings strings) = strings ∧
        (strings ≠ [] → decode (encodeStrings strings).dropLast = strings) ∧
        ∀ tail, decode (encode strings ++ tail) = strings) ∧
    (∀ units tail, decode (units ++ [0, 0] ++ tail) = decode units) ∧
    ∀ units, (∀ string ∈ decode units, IsListable string) ∧
      ∃ segments, LeadingSegments units segments ∧
        (∀ others, LeadingSegments units others → others = segments) ∧
        decode units = segments.map Utf16.decodeLossy := by
  refine ⟨?_, ?_, ?_⟩
  · intro strings h
    exact ⟨decode_encodeStrings h, decode_dropLast_encodeStrings h, decode_encode_append h⟩
  · intro units tail
    obtain ⟨segments, hsegments⟩ := exists_leading units
    have hbehind := hsegments.append_zeros tail
    rw [decode_eq_of_leading hsegments, List.append_assoc]
    exact decode_eq_of_leading hbehind
  · intro units
    obtain ⟨segments, hsegments⟩ := exists_leading units
    exact ⟨isListable_of_mem_decode units, segments, hsegments, fun _ => hsegments.unique,
      decode_eq_of_leading hsegments⟩

/-- Two strings, one of them with a character outside the basic plane, are read back in all three
forms, also with an unpaired surrogate behind the end. -/
theorem decode_of_twoStrings :
    (∀ string ∈ ["nv😀", "é"], IsListable string) ∧
      decode [0x6E, 0x76, 0xD83D, 0xDE00, 0, 0xE9, 0] = ["nv😀", "é"] ∧
      decode [0x6E, 0x76, 0xD83D, 0xDE00, 0, 0xE9] = ["nv😀", "é"] ∧
      decode [0x6E, 0x76, 0xD83D, 0xDE00, 0, 0xE9, 0, 0, 0xD800, 0x61] = ["nv😀", "é"] := by
  have hlistable : ∀ string ∈ ["nv😀", "é"], IsListable string := by decide
  have hunits : encodeStrings ["nv😀", "é"] = [0x6E, 0x76, 0xD83D, 0xDE00, 0, 0xE9, 0] := by decide
  obtain ⟨hplain, hdropped, hclosed⟩ := decode_undoes_encode.1 ["nv😀", "é"] hlistable
  have hbehind := hclosed [0xD800, 0x61]
  rw [encode] at hbehind
  rw [hunits] at hplain hdropped hbehind
  exact ⟨hlistable, hplain, hdropped (List.cons_ne_nil _ _), hbehind⟩

end GpuDiscovery.MultiString
