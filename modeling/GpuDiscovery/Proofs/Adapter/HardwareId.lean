import GpuDiscovery.Proofs.SortedMap
import GpuDiscovery.Proofs.Text.CaseFold
import GpuDiscovery.Proofs.Text.Numeral
import GpuDiscovery.Property.DeviceQuery
import GpuDiscovery.Text.Split

/-!
# What the pattern of a hardware identifier finds

Matching is a question about beginnings once case is folded (`matchesId_iff_begins`), for any text
and any pattern. The folded pattern of a hardware identifier is a sequence of numbers between fixed
words (`foldedStem`). Each number but the last is followed by a character that is no digit, so it
can be told where it ends, however many digits it has. The last one, the revision, is at the end of
the pattern, and what follows it is up to the device: only if it fills its two digits exactly, and
no digit follows, is the device's own revision known to end there too.
-/

namespace GpuDiscovery

open Text

namespace HardwareIdPattern

/-- A pattern matches what begins with its stem, whatever the case. -/
theorem matchesId_iff_begins (pattern : HardwareIdPattern) (deviceId : String) :
    pattern.matchesId deviceId = true ↔
      pattern.stem.toList.map Char.toLower <+: deviceId.toList.map Char.toLower := by
  have hsize : pattern.stem.utf8ByteSize = String.utf8Len pattern.stem.toList := by
    rw [← String.utf8ByteSize_ofList, String.ofList_toList]
  rw [← takeBytes_any_sameLetters_iff, matchesId, hsize]
  rcases takeBytes (String.utf8Len pattern.stem.toList) deviceId.toList with _ | start
  · rfl
  · rfl

/-- So a pattern compares as many characters as it has. -/
theorem matchesId_iff_take (pattern : HardwareIdPattern) (deviceId : String) :
    pattern.matchesId deviceId = true ↔
      pattern.stem.length ≤ deviceId.length ∧
        IsRecasing pattern.stem.toList (deviceId.toList.take pattern.stem.length) := by
  rw [matchesId_iff_begins, ← map_toLower_eq_iff, List.prefix_iff_eq_take, List.length_map,
    ← List.map_take, String.length_toList]
  constructor
  · intro h
    refine ⟨?_, h⟩
    have hlength := congrArg List.length h
    rw [List.length_map, List.length_map, List.length_take, String.length_toList,
      String.length_toList] at hlength
    omega
  · exact And.right

end HardwareIdPattern

namespace HardwareId

/-- The text identifies a device with this hardware: the characters of the pattern in any case, and
behind them nothing, or a backslash and something about the instance. -/
def IsOfDevice (id : HardwareId) (text : String) : Prop :=
  ∃ start rest, text.toList = start ++ rest ∧ IsRecasing id.pattern.stem.toList start ∧
    (rest = [] ∨ ∃ other, rest = '\\' :: other)

/-- The stem of the pattern in small letters. -/
def foldedStem (id : HardwareId) : List Char :=
  "pci\\ven_".toList ++ (lowerHexDigits 4 id.vendorId.toNat ++
    '&' :: ("dev_".toList ++ (lowerHexDigits 4 id.deviceId.toNat ++
    '&' :: ("subsys_".toList ++ (lowerHexDigits 8 id.subsystemId.toNat ++
    '&' :: ("rev_".toList ++ lowerHexDigits 2 id.revision.toNat))))))

theorem map_toLower_stem (id : HardwareId) :
    id.pattern.stem.toList.map Char.toLower = id.foldedStem := by
  have hpci : "PCI\\VEN_".toList.map Char.toLower = "pci\\ven_".toList := by decide
  have hdev : "&DEV_".toList.map Char.toLower = '&' :: "dev_".toList := by decide
  have hsubsys : "&SUBSYS_".toList.map Char.toLower = '&' :: "subsys_".toList := by decide
  have hrev : "&REV_".toList.map Char.toLower = '&' :: "rev_".toList := by decide
  rw [pattern, String.toList_ofList]
  unfold stemChars foldedStem
  simp only [List.map_append, map_toLower_upperHexDigits, hpci, hdev, hsubsys, hrev,
    List.append_assoc, List.cons_append]

/-- A number that ends at a character that is no digit ends there however it is read. -/
theorem eq_of_lowerHexDigits_append {width n m : Nat} {rest others : List Char}
    (h : lowerHexDigits width n ++ '&' :: rest = lowerHexDigits width m ++ '&' :: others) :
    n = m ∧ rest = others := by
  have hno : ∀ d < 16, d.digitChar ≠ '&' := by decide
  have hone := splitAtFirst_eq_some_iff.2
    ⟨@rfl _ (_ ++ '&' :: rest), @notMem_lowerHexDigits _ width n hno⟩
  have hother := splitAtFirst_eq_some_iff.2 ⟨h, @notMem_lowerHexDigits _ width m hno⟩
  rw [hone, Option.some.injEq, Prod.mk.injEq] at hother
  exact ⟨lowerHexDigits_injective hother.1, hother.2⟩

/-- Stems with something behind them can only be equal if all numbers but the last agree. -/
theorem foldedStem_append_eq {a b : HardwareId} {rest others : List Char}
    (h : a.foldedStem ++ rest = b.foldedStem ++ others) :
    a = { b with revision := a.revision } ∧
      lowerHexDigits 2 a.revision.toNat ++ rest = lowerHexDigits 2 b.revision.toNat ++ others := by
  unfold foldedStem at h
  simp only [List.append_assoc, List.cons_append, List.append_cancel_left_eq] at h
  obtain ⟨hvendor, h⟩ := eq_of_lowerHexDigits_append h
  rw [List.append_cancel_left_eq] at h
  obtain ⟨hdevice, h⟩ := eq_of_lowerHexDigits_append h
  rw [List.append_cancel_left_eq] at h
  obtain ⟨hsubsystem, h⟩ := eq_of_lowerHexDigits_append h
  rw [List.append_cancel_left_eq] at h
  rw [← UInt32.toNat_inj.1 hvendor, ← UInt32.toNat_inj.1 hdevice,
    ← UInt32.toNat_inj.1 hsubsystem]
  exact ⟨rfl, h⟩

/-- Digits that begin with digits which fill the width are no others, unless a digit follows. -/
theorem eq_of_lowerHexDigits_prefix {n m : Nat} {rest : List Char} (hm : m < 256)
    (hrest : rest = [] ∨ ∃ other, rest = '\\' :: other)
    (h : lowerHexDigits 2 n <+: lowerHexDigits 2 m ++ rest) : n = m := by
  have hno : ∀ d < 16, d.digitChar ≠ '\\' := by decide
  have hwidth : (lowerHexDigits 2 m).length = 2 :=
    length_lowerHexDigits_of_le ((Nat.length_toDigits_le_iff (by decide) (by decide)).2 hm)
  have hleast : 2 ≤ (lowerHexDigits 2 n).length := by
    rw [length_lowerHexDigits]
    exact Nat.le_max_left _ _
  obtain ⟨behind, hbehind⟩ := h
  rcases List.append_eq_append_iff.1 hbehind with ⟨more, hmore, -⟩ | ⟨more, hmore, hothers⟩
  · have hlength := congrArg List.length hmore
    rw [List.length_append, hwidth] at hlength
    have hnil : more = [] := List.length_eq_zero_iff.1 (by omega)
    rw [hnil, List.append_nil] at hmore
    exact (lowerHexDigits_injective hmore).symm
  · rcases more with _ | ⟨c, more⟩
    · rw [List.append_nil] at hmore
      exact lowerHexDigits_injective hmore
    -- One more digit would have to be the backslash.
    · rcases hrest with rfl | ⟨other, rfl⟩
      · cases hothers
      · obtain ⟨rfl, -⟩ := List.cons.inj hothers
        refine absurd ?_ (@notMem_lowerHexDigits _ 2 n hno)
        rw [hmore]
        exact List.mem_append_right _ List.mem_cons_self

/-- A pattern matches the identifier of a device with a revision of two digits exactly if it is the
pattern of the device's own hardware. -/
theorem matchesId_iff_eq {a b : HardwareId} {text : String} (hrevision : b.revision ≤ 0xFF)
    (hdevice : b.IsOfDevice text) : a.pattern.matchesId text = true ↔ a = b := by
  obtain ⟨start, rest, htext, hstart, hrest⟩ := hdevice
  have hfolded : text.toList.map Char.toLower = b.foldedStem ++ rest.map Char.toLower := by
    rw [htext, List.map_append, ← map_toLower_eq_iff.2 hstart, map_toLower_stem]
  rw [HardwareIdPattern.matchesId_iff_begins, map_toLower_stem, hfolded]
  constructor
  · rintro ⟨behind, hbehind⟩
    obtain ⟨hothers, hdigits⟩ := foldedStem_append_eq hbehind
    have hsmall : b.revision.toNat < 256 := Nat.lt_succ_of_le hrevision
    have hbackslash : rest.map Char.toLower = [] ∨
        ∃ other, rest.map Char.toLower = '\\' :: other := by
      rcases hrest with rfl | ⟨other, rfl⟩
      · exact .inl rfl
      · exact .inr ⟨other.map Char.toLower, rfl⟩
    have hrevisions := eq_of_lowerHexDigits_prefix hsmall hbackslash ⟨behind, hdigits⟩
    rw [hothers, UInt32.toNat_inj.1 hrevisions]
  · rintro rfl
    exact List.prefix_append _ _

theorem pattern_inj {a b : HardwareId} (h : a.pattern = b.pattern) : a = b := by
  have hfolded : a.foldedStem ++ [] = b.foldedStem ++ [] := by
    rw [← map_toLower_stem, ← map_toLower_stem, h]
  obtain ⟨hothers, hdigits⟩ := foldedStem_append_eq hfolded
  rw [List.append_nil, List.append_nil] at hdigits
  rw [hothers, UInt32.toNat_inj.1 (lowerHexDigits_injective hdigits)]

end HardwareId

/-- A query matches what one of its patterns matches. -/
theorem DeviceQuery.matchesId_ofPatterns_iff {patterns : List HardwareIdPattern} {text : String} :
    (DeviceQuery.ofPatterns patterns).matchesId text = true ↔
      ∃ pattern ∈ patterns, pattern.matchesId text = true := by
  rw [matchesId, List.any_eq_true, ofPatterns]
  simp only [SortedMap.mem_keys_ofList, List.map_map, Function.comp_def, List.map_id']

namespace HardwareId

/-- **Patterns identify hardware.** A pattern matches a text exactly if the text has as many
characters as the pattern and begins with it in some case, whatever characters the text is made of.
So the identifier of a device whose revision has two digits is matched by the pattern of its own
hardware and by no other, however many digits the other numbers have, and a query for any hardware
matches it exactly if its own is asked for. Different hardware has different patterns. -/
theorem pattern_identifies :
    (∀ (id : HardwareId) (text : String), id.pattern.matchesId text = true ↔
      id.pattern.stem.length ≤ text.length ∧
        IsRecasing id.pattern.stem.toList (text.toList.take id.pattern.stem.length)) ∧
    (∀ (b : HardwareId) (text : String), b.revision ≤ 0xFF → b.IsOfDevice text →
      (∀ a : HardwareId, a.pattern.matchesId text = true ↔ a = b) ∧
        ∀ ids : List HardwareId,
          (DeviceQuery.ofPatterns (ids.map pattern)).matchesId text = true ↔ b ∈ ids) ∧
    ∀ a b : HardwareId, a.pattern = b.pattern ↔ a = b := by
  refine ⟨fun id => id.pattern.matchesId_iff_take, ?_, fun a b => ⟨pattern_inj, congrArg _⟩⟩
  intro b text hrevision hdevice
  refine ⟨fun a => matchesId_iff_eq hrevision hdevice, fun ids => ?_⟩
  rw [DeviceQuery.matchesId_ofPatterns_iff]
  simp only [List.mem_map, exists_exists_and_eq_and, matchesId_iff_eq hrevision hdevice,
    exists_eq_right]

/-- A card with more digits in two of its numbers than they are filled up to. -/
def wideCard : HardwareId :=
  ⟨0x12345, 0xABCDEF01, 0x7D, 0xA1⟩

/-- The identifier of a device of the wide card, in mixed case, is not taken for one of a card whose
vendor has fewer digits. -/
theorem pattern_identifies_wideCard :
    wideCard.revision ≤ 0xFF ∧
      wideCard.IsOfDevice "pci\\VEN_12345&dev_abcdEF01&SUBSYS_0000007d&rev_a1\\4&é" ∧
      wideCard.pattern.matchesId "pci\\VEN_12345&dev_abcdEF01&SUBSYS_0000007d&rev_a1\\4&é" =
        true ∧
      ¬ (DeviceQuery.ofPatterns ([{ wideCard with vendorId := 0x1234 }].map pattern)).matchesId
        "pci\\VEN_12345&dev_abcdEF01&SUBSYS_0000007d&rev_a1\\4&é" = true := by
  have hrevision : wideCard.revision ≤ 0xFF := by decide
  have hdevice :
      wideCard.IsOfDevice "pci\\VEN_12345&dev_abcdEF01&SUBSYS_0000007d&rev_a1\\4&é" := by
    refine ⟨"pci\\VEN_12345&dev_abcdEF01&SUBSYS_0000007d&rev_a1".toList, "\\4&é".toList,
      by decide +kernel, map_toLower_eq_iff.1 (by decide +kernel), .inr ⟨"4&é".toList, ?_⟩⟩
    decide +kernel
  obtain ⟨hsingle, hquery⟩ := pattern_identifies.2.1 wideCard _ hrevision hdevice
  refine ⟨hrevision, hdevice, (hsingle wideCard).2 rfl, ?_⟩
  rw [hquery]
  decide

end HardwareId

-- With a revision of three digits it would not be known where the device's own ends.
example : (HardwareId.pattern ⟨0x10DE, 0x20B0, 0x7D, 0x10⟩).matchesId
    (String.ofList (HardwareId.stemChars ⟨0x10DE, 0x20B0, 0x7D, 0x100⟩)) = true := by
  decide +kernel

end GpuDiscovery
