import GpuDiscovery.Text.Utf16
import Mathlib.Data.List.TakeWhile

/-!
# Reading back what was written in UTF-16

Every text is read back from its units, characters outside the basic plane included
(`decode?_encode`). Who is handed a text with a zero unit at its end reads up to the first zero
unit, and that is the whole text if none of its characters is zero (`decode?_beforeZero`). The other
way round, units that are text are those of the text that is read (`encode_of_decode?`), so
different ones are read differently; a reader that makes do with units that are no text cannot
promise this.
-/

namespace GpuDiscovery.Text.Utf16

/-- A character is no surrogate, and there are no characters behind the last plane. -/
theorem toNat_valid (c : Char) :
    c.toNat < 0xD800 ∨ 0xDFFF < c.toNat ∧ c.toNat < 0x110000 :=
  c.valid

theorem toNat_ofNat_of_lt {n : Nat} (h : n < 0x10000) : (UInt16.ofNat n).toNat = n :=
  UInt16.toNat_ofNat_of_lt' h

/-- The units of a character are read as this character, whatever follows them. -/
theorem decodeUnits_encodeChar (c : Char) (rest : List UInt16) :
    decodeUnits (encodeChar c ++ rest) = some c :: decodeUnits rest := by
  have hvalid := toNat_valid c
  rw [encodeChar]
  by_cases hbasic : c.toNat < 0x10000
  -- A character of the basic plane is one unit, and no surrogate because it is a character.
  · have hunit := toNat_ofNat_of_lt hbasic
    have hhigh : isHighSurrogate (UInt16.ofNat c.toNat) = false := by
      rw [isHighSurrogate, hunit, Bool.and_eq_false_iff, decide_eq_false_iff_not,
        decide_eq_false_iff_not]
      omega
    have hlow : isLowSurrogate (UInt16.ofNat c.toNat) = false := by
      rw [isLowSurrogate, hunit, Bool.and_eq_false_iff, decide_eq_false_iff_not,
        decide_eq_false_iff_not]
      omega
    rw [if_pos hbasic, List.singleton_append]
    -- The last unit has an equation of its own in the reader.
    rcases rest with _ | ⟨next, rest⟩
    · change decodeUnits [UInt16.ofNat c.toNat] = [some c]
      rw [decodeUnits, hhigh, hlow, hunit, Char.ofNat_toNat]
      rfl
    · rw [decodeUnits, hhigh, hlow, hunit, Char.ofNat_toNat]
      rfl
  -- Any other is 20 bits above 0x10000, ten of them in each half.
  · have hquotient : (c.toNat - 0x10000) / 0x400 < 0x400 := by omega
    have hremainder : (c.toNat - 0x10000) % 0x400 < 0x400 := by omega
    have hfirst := toNat_ofNat_of_lt
      (show 0xD800 + (c.toNat - 0x10000) / 0x400 < 0x10000 by omega)
    have hsecond := toNat_ofNat_of_lt
      (show 0xDC00 + (c.toNat - 0x10000) % 0x400 < 0x10000 by omega)
    have hhigh : isHighSurrogate (UInt16.ofNat (0xD800 + (c.toNat - 0x10000) / 0x400)) = true := by
      rw [isHighSurrogate, hfirst, Bool.and_eq_true, decide_eq_true_eq, decide_eq_true_eq]
      omega
    have hlow : isLowSurrogate (UInt16.ofNat (0xDC00 + (c.toNat - 0x10000) % 0x400)) = true := by
      rw [isLowSurrogate, hsecond, Bool.and_eq_true, decide_eq_true_eq, decide_eq_true_eq]
      omega
    have hjoined : 0x10000 + (0xD800 + (c.toNat - 0x10000) / 0x400 - 0xD800) * 0x400 +
        (0xDC00 + (c.toNat - 0x10000) % 0x400 - 0xDC00) = c.toNat := by omega
    rw [if_neg hbasic, List.cons_append, List.singleton_append, decodeUnits, if_pos hhigh,
      if_pos hlow, joinSurrogates, hfirst, hsecond, hjoined, Char.ofNat_toNat]

theorem decodeUnits_encode (text : String) :
    decodeUnits (encode text) = text.toList.map some := by
  rw [encode]
  induction text.toList with
  | nil => rfl
  | cons c rest ih => rw [List.flatMap_cons, decodeUnits_encodeChar, ih, List.map_cons]

/-- **Reading back.** Every text is read back from its units. -/
theorem decode?_encode (text : String) : decode? (encode text) = some text := by
  rw [decode?, decodeUnits_encode, List.mapM_map]
  change (text.toList.mapM fun c => (pure c : Option Char)).map String.ofList = some text
  rw [List.mapM_pure, List.map_id']
  exact congrArg some String.ofList_toList

theorem zero_notMem_encodeChar {c : Char} (h : c ≠ '\x00') : (0 : UInt16) ∉ encodeChar c := by
  have hpositive : c.toNat ≠ 0 := by
    intro hzero
    apply h
    rw [← Char.ofNat_toNat c, hzero]
  have hvalid := toNat_valid c
  have hzero : ∀ n, 0 < n → n < 0x10000 → (0 : UInt16) ≠ UInt16.ofNat n := by
    intro n hn hlt heq
    have htoNat := congrArg UInt16.toNat heq
    rw [toNat_ofNat_of_lt hlt] at htoNat
    exact absurd htoNat.symm (Nat.ne_of_gt hn)
  rw [encodeChar]
  by_cases hbasic : c.toNat < 0x10000
  · rw [if_pos hbasic, List.mem_singleton]
    exact hzero _ (by omega) hbasic
  · rw [if_neg hbasic, List.mem_cons, List.mem_singleton, not_or]
    exact ⟨hzero _ (by omega) (by omega), hzero _ (by omega) (by omega)⟩

/-- The units of a text have no zero among them if its characters have none. -/
theorem zero_notMem_encode {text : String} (h : '\x00' ∉ text.toList) :
    (0 : UInt16) ∉ encode text := by
  rw [encode, List.mem_flatMap]
  rintro ⟨c, hc, hmem⟩
  have hne : c ≠ '\x00' := fun heq => h (heq ▸ hc)
  exact zero_notMem_encodeChar hne hmem

theorem forall_bne_zero {units : List UInt16} (h : 0 ∉ units) :
    ∀ unit ∈ units, (unit != 0) = true := by
  intro unit hunit
  rw [bne_iff_ne]
  exact fun hzero => h (hzero ▸ hunit)

/-- Units without a zero are all in front of the first zero. -/
theorem beforeZero_of_notMem {units : List UInt16} (h : 0 ∉ units) : beforeZero units = units :=
  List.takeWhile_eq_self_iff.2 (forall_bne_zero h)

/-- So they are if a zero follows, and anything behind it. -/
theorem beforeZero_append_zero {units : List UInt16} (h : 0 ∉ units) (tail : List UInt16) :
    beforeZero (units ++ 0 :: tail) = units := by
  rw [beforeZero, List.takeWhile_append_of_pos (forall_bne_zero h),
    List.takeWhile_cons_of_neg (by decide), List.append_nil]

/-- A text is read back from its units up to the first zero unit, where one follows. -/
theorem decode?_beforeZero {text : String} (h : '\x00' ∉ text.toList) :
    decode? (beforeZero (encode text ++ [0])) = some text := by
  rw [beforeZero_append_zero (zero_notMem_encode h)]
  exact decode?_encode text

/-! ## Units that are text -/

/-- A number of a character is the number of the character with it. -/
theorem toNat_ofNat_of_isValidChar {n : Nat} (h : n.isValidChar) : (Char.ofNat n).toNat = n := by
  rw [Char.ofNat, dif_pos h]
  rfl

theorem mapM_id_eq_some_iff {α : Type} {xs : List (Option α)} {ys : List α} :
    xs.mapM id = some ys ↔ xs = ys.map some := by
  induction xs generalizing ys with
  | nil =>
    rcases ys with _ | ⟨y, ys⟩
    · exact iff_of_true rfl rfl
    · exact iff_of_false nofun nofun
  | cons x rest ih =>
    rcases ys with _ | ⟨y, ys⟩
    · refine iff_of_false ?_ nofun
      rw [List.mapM_cons]
      rcases x with _ | x
      · exact nofun
      · rcases rest.mapM id with _ | others
        · exact nofun
        · exact nofun
    · rw [List.map_cons, List.cons.injEq, ← ih, List.mapM_cons]
      rcases x with _ | x
      · exact iff_of_false nofun nofun
      · rcases rest.mapM id with _ | others
        · exact iff_of_false nofun nofun
        · simp

/-- A pair of surrogates is the character that they stand for together. -/
theorem encodeChar_joinSurrogates {high low : UInt16} (hhigh : isHighSurrogate high = true)
    (hlow : isLowSurrogate low = true) : encodeChar (joinSurrogates high low) = [high, low] := by
  rw [isHighSurrogate, Bool.and_eq_true, decide_eq_true_eq, decide_eq_true_eq] at hhigh
  rw [isLowSurrogate, Bool.and_eq_true, decide_eq_true_eq, decide_eq_true_eq] at hlow
  have hvalid : (0x10000 + (high.toNat - 0xD800) * 0x400 + (low.toNat - 0xDC00)).isValidChar := by
    exact .inr (by omega)
  have hnumber : (joinSurrogates high low).toNat =
      0x10000 + (high.toNat - 0xD800) * 0x400 + (low.toNat - 0xDC00) := by
    rw [joinSurrogates, toNat_ofNat_of_isValidChar hvalid]
  have hfirst : 0xD800 + ((joinSurrogates high low).toNat - 0x10000) / 0x400 = high.toNat := by
    rw [hnumber]
    omega
  have hsecond : 0xDC00 + ((joinSurrogates high low).toNat - 0x10000) % 0x400 = low.toNat := by
    rw [hnumber]
    omega
  rw [encodeChar, if_neg (by rw [hnumber]; omega), hfirst, hsecond, UInt16.ofNat_toNat,
    UInt16.ofNat_toNat]

/-- A unit that is no surrogate is the character with its number. -/
theorem encodeChar_ofNat {unit : UInt16} (hhigh : isHighSurrogate unit = false)
    (hlow : isLowSurrogate unit = false) : encodeChar (Char.ofNat unit.toNat) = [unit] := by
  rw [isHighSurrogate, Bool.and_eq_false_iff, decide_eq_false_iff_not, decide_eq_false_iff_not]
    at hhigh
  rw [isLowSurrogate, Bool.and_eq_false_iff, decide_eq_false_iff_not, decide_eq_false_iff_not]
    at hlow
  have hunit := unit.toNat_lt
  have hvalid : unit.toNat.isValidChar := by
    rw [Nat.isValidChar]
    omega
  rw [encodeChar, toNat_ofNat_of_isValidChar hvalid, if_pos (by omega), UInt16.ofNat_toNat]

/-- Units that are read throughout are those of the characters read. -/
theorem flatMap_encodeChar_of_decodeUnits {units : List UInt16} {chars : List Char}
    (h : decodeUnits units = chars.map some) : chars.flatMap encodeChar = units := by
  induction units using decodeUnits.induct generalizing chars with
  | case1 =>
    rw [List.map_eq_nil_iff.1 h.symm]
    rfl
  | case2 unit hsurrogate =>
    rw [decodeUnits, if_pos hsurrogate] at h
    obtain ⟨_, _, -, hnone, -⟩ := List.map_eq_cons_iff.1 h.symm
    cases hnone
  | case3 unit hplain =>
    rw [decodeUnits, if_neg hplain] at h
    obtain ⟨_, others, rfl, hunit, hothers⟩ := List.map_eq_cons_iff.1 h.symm
    rw [Bool.not_eq_true, Bool.or_eq_false_iff] at hplain
    rw [Option.some.inj hunit, List.map_eq_nil_iff.1 hothers, List.flatMap_cons,
      encodeChar_ofNat hplain.1 hplain.2]
    rfl
  | case4 high low rest hhigh hlow ih =>
    rw [decodeUnits, if_pos hhigh, if_pos hlow] at h
    obtain ⟨_, others, rfl, hjoined, hothers⟩ := List.map_eq_cons_iff.1 h.symm
    rw [Option.some.inj hjoined, List.flatMap_cons, encodeChar_joinSurrogates hhigh hlow,
      ih hothers.symm]
    rfl
  | case5 high next rest hhigh hnext ih =>
    rw [decodeUnits, if_pos hhigh, if_neg hnext] at h
    obtain ⟨_, _, -, hnone, -⟩ := List.map_eq_cons_iff.1 h.symm
    cases hnone
  | case6 low next rest hhigh hlow ih =>
    rw [decodeUnits, if_neg hhigh, if_pos hlow] at h
    obtain ⟨_, _, -, hnone, -⟩ := List.map_eq_cons_iff.1 h.symm
    cases hnone
  | case7 unit next rest hhigh hlow ih =>
    rw [decodeUnits, if_neg hhigh, if_neg hlow] at h
    obtain ⟨_, others, rfl, hunit, hothers⟩ := List.map_eq_cons_iff.1 h.symm
    rw [Bool.not_eq_true] at hhigh hlow
    rw [Option.some.inj hunit, List.flatMap_cons, encodeChar_ofNat hhigh hlow, ih hothers.symm]
    rfl

theorem decodeUnits_of_decode? {units : List UInt16} {text : String}
    (h : decode? units = some text) : decodeUnits units = text.toList.map some := by
  obtain ⟨chars, hchars, rfl⟩ := Option.map_eq_some_iff.1 h
  rw [String.toList_ofList]
  exact mapM_id_eq_some_iff.1 hchars

/-- Of units that are text nothing has to be replaced. -/
theorem decodeLossy_of_decode? {units : List UInt16} {text : String}
    (h : decode? units = some text) : decodeLossy units = text := by
  rw [decodeLossy, decodeUnits_of_decode? h, List.map_map]
  change String.ofList (text.toList.map id) = text
  rw [List.map_id, String.ofList_toList]

/-- **Writing back.** Units that are text are those of the text that is read. -/
theorem encode_of_decode? {units : List UInt16} {text : String} (h : decode? units = some text) :
    encode text = units :=
  flatMap_encodeChar_of_decodeUnits (decodeUnits_of_decode? h)

/-- Different units that are text are read differently. -/
theorem decodeLossy_inj {xs ys : List UInt16} (hxs : (decode? xs).isSome = true)
    (hys : (decode? ys).isSome = true) (h : decodeLossy xs = decodeLossy ys) : xs = ys := by
  obtain ⟨first, hfirst⟩ := Option.isSome_iff_exists.1 hxs
  obtain ⟨second, hsecond⟩ := Option.isSome_iff_exists.1 hys
  rw [decodeLossy_of_decode? hfirst, decodeLossy_of_decode? hsecond] at h
  rw [← encode_of_decode? hfirst, ← encode_of_decode? hsecond, h]

/-! ## Units that need not be text -/

/-- The units of a character that is read are there. -/
theorem encodeChar_subset_of_mem_decodeUnits {units : List UInt16} {c : Char}
    (h : some c ∈ decodeUnits units) : encodeChar c ⊆ units := by
  induction units using decodeUnits.induct with
  | case1 => exact absurd h List.not_mem_nil
  | case2 unit hsurrogate =>
    rw [decodeUnits, if_pos hsurrogate, List.mem_singleton] at h
    cases h
  | case3 unit hplain =>
    rw [decodeUnits, if_neg hplain, List.mem_singleton] at h
    rw [Bool.not_eq_true, Bool.or_eq_false_iff] at hplain
    rw [Option.some.inj h, encodeChar_ofNat hplain.1 hplain.2]
    exact List.Subset.refl _
  | case4 high low rest hhigh hlow ih =>
    rw [decodeUnits, if_pos hhigh, if_pos hlow] at h
    rcases List.mem_cons.1 h with hjoined | h
    · rw [Option.some.inj hjoined, encodeChar_joinSurrogates hhigh hlow]
      exact List.subset_append_left [high, low] rest
    · exact List.Subset.trans (ih h) (List.subset_append_right [high, low] rest)
  | case5 high next rest hhigh hnext ih =>
    rw [decodeUnits, if_pos hhigh, if_neg hnext] at h
    rcases List.mem_cons.1 h with hnone | h
    · cases hnone
    · exact List.subset_cons_of_subset high (ih h)
  | case6 low next rest hhigh hlow ih =>
    rw [decodeUnits, if_neg hhigh, if_pos hlow] at h
    rcases List.mem_cons.1 h with hnone | h
    · cases hnone
    · exact List.subset_cons_of_subset low (ih h)
  | case7 unit next rest hhigh hlow ih =>
    rw [decodeUnits, if_neg hhigh, if_neg hlow] at h
    rcases List.mem_cons.1 h with hunit | h
    · rw [Bool.not_eq_true] at hhigh hlow
      rw [Option.some.inj hunit, encodeChar_ofNat hhigh hlow]
      exact List.subset_append_left [unit] (next :: rest)
    · exact List.subset_cons_of_subset unit (ih h)

/-- Where no unit is zero, no character is read as the one with the number zero. -/
theorem zero_notMem_decodeLossy {units : List UInt16} (h : 0 ∉ units) :
    '\x00' ∉ (decodeLossy units).toList := by
  rw [decodeLossy, String.toList_ofList, List.mem_map]
  rintro ⟨_ | c, hmem, hzero⟩
  · exact absurd hzero (by decide)
  · obtain rfl : c = '\x00' := hzero
    have hunits : [0] ⊆ units := encodeChar_subset_of_mem_decodeUnits hmem
    exact h (hunits (List.mem_singleton_self 0))

/-- Every unit is read as something. -/
theorem decodeUnits_ne_nil {units : List UInt16} (h : units ≠ []) : decodeUnits units ≠ [] := by
  rcases units with _ | ⟨unit, _ | ⟨next, rest⟩⟩
  · exact absurd rfl h
  · rw [decodeUnits]
    split
    · exact List.cons_ne_nil _ _
    · exact List.cons_ne_nil _ _
  · rw [decodeUnits]
    split
    · split
      · exact List.cons_ne_nil _ _
      · exact List.cons_ne_nil _ _
    · split
      · exact List.cons_ne_nil _ _
      · exact List.cons_ne_nil _ _

theorem decodeLossy_ne_empty {units : List UInt16} (h : units ≠ []) : decodeLossy units ≠ "" := by
  intro hempty
  have hnone : (decodeLossy units).toList = [] := by
    rw [hempty]
    rfl
  rw [decodeLossy, String.toList_ofList, List.map_eq_nil_iff] at hnone
  exact decodeUnits_ne_nil h hnone

end GpuDiscovery.Text.Utf16
