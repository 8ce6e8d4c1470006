import GpuDiscovery.Proofs.Text.Numeral
import GpuDiscovery.Property.Value

/-!
# Property keys have different names

The name of a key is eleven hexadecimal fields and a decimal number, with punctuation between them.
A hexadecimal field is as wide as its numbers can need, so it is always filled exactly and can be
cut off in front of whatever follows (`upperHexDigits_append_inj`). Field by field the identifier of
a key is read off its name in this way (`Guid.chars_append_inj`). What is left is the number, which
may be as long as it likes because nothing stands behind it.
-/

namespace GpuDiscovery

open Text

/-! ## Fields of a fixed width -/

namespace Text

variable {width n m : Nat} {xs ys : List Char}

theorem upperHexDigits_injective (h : upperHexDigits width n = upperHexDigits width m) : n = m := by
  apply @lowerHexDigits_injective width
  rw [← map_toLower_upperHexDigits, ← map_toLower_upperHexDigits, h]

/-- A number that fits the width fills it exactly. -/
theorem length_upperHexDigits (hwidth : 0 < width) (hn : n < Nat.pow 16 width) :
    (upperHexDigits width n).length = width := by
  have hdigits := (Nat.length_toDigits_le_iff (by decide) hwidth).2 hn
  simp only [upperHexDigits, length_zeroFill, List.length_map]
  omega

/-- A field of hexadecimal digits can be told from what stands behind it. -/
theorem upperHexDigits_append_inj (hwidth : 0 < width) (hn : n < Nat.pow 16 width)
    (hm : m < Nat.pow 16 width) :
    upperHexDigits width n ++ xs = upperHexDigits width m ++ ys ↔ n = m ∧ xs = ys := by
  constructor
  · intro h
    have hlength : (upperHexDigits width n).length = (upperHexDigits width m).length := by
      rw [length_upperHexDigits hwidth hn, length_upperHexDigits hwidth hm]
    obtain ⟨hdigits, hrest⟩ := List.append_inj h hlength
    exact ⟨upperHexDigits_injective hdigits, hrest⟩
  · rintro ⟨rfl, rfl⟩
    rfl

/-- So can as many fields of two digits as there are bytes. -/
theorem flatten_byteDigits_append_inj {bytes others : List UInt8}
    (hlength : bytes.length = others.length) :
    (bytes.map fun byte => upperHexDigits 2 byte.toNat).flatten ++ xs =
        (others.map fun byte => upperHexDigits 2 byte.toNat).flatten ++ ys ↔
      bytes = others ∧ xs = ys := by
  induction bytes generalizing others with
  | nil =>
    cases others with
    | nil => simp
    | cons other others => simp at hlength
  | cons byte bytes ih =>
    cases others with
    | nil => simp at hlength
    | cons other others =>
      simp only [List.length_cons, Nat.add_right_cancel_iff] at hlength
      have hbyte : byte.toNat < Nat.pow 16 2 := byte.toNat_lt
      have hother : other.toNat < Nat.pow 16 2 := other.toNat_lt
      simp only [List.map_cons, List.flatten_cons, List.append_assoc,
        upperHexDigits_append_inj (by decide) hbyte hother, ih hlength, UInt8.toNat_inj,
        List.cons.injEq, and_assoc]

end Text

/-! ## Identifiers and keys -/

/-- An identifier can be told from what stands behind it. -/
theorem Guid.chars_append_inj {guid other : Guid} {xs ys : List Char} :
    guid.chars ++ xs = other.chars ++ ys ↔ guid = other ∧ xs = ys := by
  constructor
  · intro h
    obtain ⟨data1, data2, data3, data4⟩ := guid
    obtain ⟨other1, other2, other3, other4⟩ := other
    have hlength : data4.toList.length = other4.toList.length := by
      rw [Vector.length_toList, Vector.length_toList]
    have hfront : (data4.toList.take 2).length = (other4.toList.take 2).length := by
      rw [List.length_take, List.length_take, hlength]
    have hback : (data4.toList.drop 2).length = (other4.toList.drop 2).length := by
      rw [List.length_drop, List.length_drop, hlength]
    have hlong : ∀ number : UInt32, number.toNat < Nat.pow 16 8 := fun number => number.toNat_lt
    have hshort : ∀ number : UInt16, number.toNat < Nat.pow 16 4 := fun number => number.toNat_lt
    -- Cutting off one field after the other leaves one equation for each.
    simp only [Guid.chars, ← List.map_take, ← List.map_drop, List.cons_append, List.append_assoc,
      List.nil_append, List.cons.injEq, true_and,
      upperHexDigits_append_inj (by decide) (hlong _) (hlong _),
      upperHexDigits_append_inj (by decide) (hshort _) (hshort _),
      flatten_byteDigits_append_inj hfront, flatten_byteDigits_append_inj hback] at h
    obtain ⟨hdata1, hdata2, hdata3, htake, hdrop, hrest⟩ := h
    have hdata4 : data4.toList = other4.toList := by
      rw [← List.take_append_drop 2 data4.toList, htake, hdrop, List.take_append_drop]
    rw [UInt32.toNat_inj.1 hdata1, UInt16.toNat_inj.1 hdata2, UInt16.toNat_inj.1 hdata3,
      Vector.toList_inj.1 hdata4]
    exact ⟨rfl, hrest⟩
  · rintro ⟨rfl, rfl⟩
    rfl

namespace PropertyKey

variable {key other : PropertyKey}

/-- **A name is that of one key.** -/
theorem name_inj : key.name = other.name ↔ key = other := by
  constructor
  · intro h
    rw [name, name, String.ofList_inj, Guid.chars_append_inj, List.cons.injEq] at h
    obtain ⟨hguid, -, hdigits⟩ := h
    have hid := congrArg (Nat.ofDigitChars 10 · 0) hdigits
    simp only [Nat.ofDigitChars_ten_toDigits] at hid
    cases key
    cases other
    rw [PropertyKey.mk.injEq]
    exact ⟨hguid, UInt32.toNat_inj.1 hid⟩
  · rintro rfl
    rfl

/-- The names of keys begin with a brace. -/
theorem head?_name (key : PropertyKey) : key.name.toList.head? = some '\x7b' := by
  rw [name, String.toList_ofList]
  rfl

end PropertyKey

end GpuDiscovery
