import GpuDiscovery.Text.Numeral
import Mathlib.Data.List.Induction

/-!
# Reading numerals back

What a numeral stands for does not depend on the zeros in front of it, and is all that the digits
tell. In base sixteen the digits are read by `hexValue`, so different numbers have different digits
when filled up to the same least width, also where they outgrow it (`lowerHexDigits_injective`). In
base ten any digits at all are those of a number behind some zeros
(`exists_zeros_of_forall_isDigit`).
-/

namespace GpuDiscovery.Text

variable {c : Char} {width n m : Nat}

/-! ## Base sixteen -/

/-- The number that a small hexadecimal digit stands for. -/
def hexDigitValue (c : Char) : Nat :=
  (List.range 16).findIdx fun d => d.digitChar == c

/-- The number that small hexadecimal digits stand for. -/
def hexValue (digits : List Char) : Nat :=
  digits.foldl (fun value c => 16 * value + hexDigitValue c) 0

theorem hexDigitValue_digitChar : ∀ d < 16, hexDigitValue d.digitChar = d := by
  decide

theorem hexValue_concat (digits : List Char) (c : Char) :
    hexValue (digits ++ [c]) = 16 * hexValue digits + hexDigitValue c := by
  rw [hexValue, List.foldl_append]
  rfl

/-- Digits are read as the number they were made of. -/
theorem hexValue_toDigits (n : Nat) : hexValue (Nat.toDigits 16 n) = n := by
  induction n using Nat.strongRecOn with
  | ind n ih =>
    rw [Nat.toDigits_eq_if (by decide)]
    by_cases hsmall : n < 16
    · rw [if_pos hsmall, ← List.nil_append [_], hexValue_concat, hexDigitValue_digitChar n hsmall]
      exact Nat.zero_add n
    · rw [if_neg hsmall, hexValue_concat, ih (n / 16) (by omega),
        hexDigitValue_digitChar _ (Nat.mod_lt n (by decide))]
      exact Nat.div_add_mod n 16

/-- Zeros in front make no difference. -/
theorem hexValue_zeroFill (width : Nat) (digits : List Char) :
    hexValue (zeroFill width digits) = hexValue digits := by
  have hzeros : ∀ count, hexValue (List.replicate count '0') = 0 := by
    intro count
    induction count with
    | zero => rfl
    | succ count ih =>
      rw [List.replicate_succ', hexValue_concat, ih]
      decide
  rw [zeroFill, hexValue, List.foldl_append]
  exact congrArg (fun value => List.foldl _ value digits) (hzeros _)

theorem exists_digitChar_of_mem_toDigits (h : c ∈ Nat.toDigits 16 n) :
    ∃ d < 16, d.digitChar = c := by
  induction n using Nat.strongRecOn with
  | ind n ih =>
    rw [Nat.toDigits_eq_if (by decide)] at h
    by_cases hsmall : n < 16
    · rw [if_pos hsmall, List.mem_singleton] at h
      exact ⟨n, hsmall, h.symm⟩
    · rw [if_neg hsmall, List.mem_append, List.mem_singleton] at h
      rcases h with h | h
      · exact ih (n / 16) (by omega) h
      · exact ⟨n % 16, Nat.mod_lt n (by decide), h.symm⟩

/-- Small hexadecimal digits, filled up with zeros to at least `width` of them. -/
def lowerHexDigits (width n : Nat) : List Char :=
  zeroFill width (Nat.toDigits 16 n)

theorem exists_digitChar_of_mem_lowerHexDigits (h : c ∈ lowerHexDigits width n) :
    ∃ d < 16, d.digitChar = c := by
  rw [lowerHexDigits, zeroFill, List.mem_append] at h
  rcases h with h | h
  · exact ⟨0, by decide, (List.eq_of_mem_replicate h).symm⟩
  · exact exists_digitChar_of_mem_toDigits h

/-- A character that is no digit does not stand among digits. -/
theorem notMem_lowerHexDigits (h : ∀ d < 16, d.digitChar ≠ c) : c ∉ lowerHexDigits width n := by
  intro hmem
  obtain ⟨d, hd, hc⟩ := exists_digitChar_of_mem_lowerHexDigits hmem
  exact h d hd hc

/-- Filled up to the same least width, different numbers have different digits. -/
theorem lowerHexDigits_injective (h : lowerHexDigits width n = lowerHexDigits width m) : n = m := by
  have hvalue := congrArg hexValue h
  rwa [lowerHexDigits, lowerHexDigits, hexValue_zeroFill, hexValue_zeroFill, hexValue_toDigits,
    hexValue_toDigits] at hvalue

/-- Capital digits are the small ones in the other case. -/
theorem map_toLower_upperHexDigits (width n : Nat) :
    (upperHexDigits width n).map Char.toLower = lowerHexDigits width n := by
  have hsmall : ∀ d < 16, d.digitChar.toUpper.toLower = d.digitChar := by decide
  have hdigits : (Nat.toDigits 16 n).map (Char.toLower ∘ Char.toUpper) = Nat.toDigits 16 n := by
    refine (List.map_congr_left ?_).trans (List.map_id _)
    intro c hmem
    obtain ⟨d, hd, rfl⟩ := exists_digitChar_of_mem_toDigits hmem
    exact hsmall d hd
  rw [upperHexDigits, zeroFill, List.map_append, List.map_replicate, List.map_map, hdigits,
    List.length_map]
  rfl

theorem length_lowerHexDigits (width n : Nat) :
    (lowerHexDigits width n).length = max width (Nat.toDigits 16 n).length :=
  length_zeroFill width _

/-- Digits that fit the width fill it exactly. -/
theorem length_lowerHexDigits_of_le (h : (Nat.toDigits 16 n).length ≤ width) :
    (lowerHexDigits width n).length = width := by
  rw [length_lowerHexDigits, Nat.max_eq_left h]

/-! ## Base ten -/

theorem digitChar_of_isDigit (h : c.isDigit = true) :
    c.toNat - '0'.toNat < 10 ∧ Nat.digitChar (c.toNat - '0'.toNat) = c := by
  obtain ⟨hlow, hhigh⟩ := Char.isDigit_iff_toNat.1 h
  have hzero : '0'.toNat = 48 := rfl
  have hnine : '9'.toNat = 57 := rfl
  have hsmall : c.toNat - '0'.toNat < 10 := by omega
  refine ⟨hsmall, Char.toNat_inj.1 ?_⟩
  rw [Nat.toNat_digitChar_of_lt_ten hsmall]
  omega

/-- Digits are those of the number they stand for, behind zeros. -/
theorem exists_zeros_of_forall_isDigit {cs : List Char} (hne : cs ≠ [])
    (h : ∀ c ∈ cs, c.isDigit = true) :
    ∃ zeros, cs = List.replicate zeros '0' ++ Nat.toDigits 10 (Nat.ofDigitChars 10 cs 0) := by
  induction cs using List.reverseRecOn with
  | nil => exact absurd rfl hne
  | append_singleton cs c ih =>
    rw [List.forall_mem_append, List.forall_mem_singleton] at h
    obtain ⟨hdigits, hc⟩ := h
    obtain ⟨hsmall, hchar⟩ := digitChar_of_isDigit hc
    rw [Nat.ofDigitChars_append, Nat.ofDigitChars_cons, Nat.ofDigitChars_nil]
    by_cases hnil : cs = []
    · subst hnil
      refine ⟨0, ?_⟩
      rw [Nat.ofDigitChars_nil, Nat.mul_zero, Nat.zero_add, Nat.toDigits_of_lt_base hsmall, hchar]
      rfl
    obtain ⟨zeros, hcs⟩ := ih hnil hdigits
    generalize Nat.ofDigitChars 10 cs 0 = value at hcs ⊢
    by_cases hvalue : value = 0
    -- So far there are only zeros, and the last of them is not needed any more.
    · subst hvalue
      refine ⟨zeros + 1, ?_⟩
      rw [hcs, Nat.toDigits_zero, Nat.mul_zero, Nat.zero_add, Nat.toDigits_of_lt_base hsmall,
        hchar, List.replicate_succ']
    · refine ⟨zeros, ?_⟩
      rw [← Nat.toDigits_append_toDigits (by decide) (Nat.pos_of_ne_zero hvalue) hsmall,
        Nat.toDigits_of_lt_base hsmall, hchar, ← List.append_assoc, ← hcs]

end GpuDiscovery.Text
