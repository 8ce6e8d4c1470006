import GpuDiscovery.Proofs.Text.Numeral
import GpuDiscovery.Text.Blank
import GpuDiscovery.Text.Integer
import Mathlib

/-!
# Which texts are 64-bit integers

`Spells` is the grammar of decimal numbers without the reader: the digits of the magnitude behind
any number of zeros, and a sign that a number below zero needs. A text spells at most one number
(`Spells.reads`), and none exactly if it `IsMalformed`. Of the numbers that are spelled, the
reader accepts those that a 64-bit integer can be, and gives that integer
(`readInt64_eq_ok_iff`). It stops at the first digit with which the magnitude is too large. Digits
only make a magnitude larger, so no digit behind this one could make it right again, and a number of
any length is told apart from all that fit. White space around a number makes no difference to a
reader that trims it off first, because nothing that spells a number has any (`spells_trim_iff`).
-/

namespace GpuDiscovery.Text

/-- The digits of a number behind some zeros. -/
def digitsBehind (zeros magnitude : Nat) : List Char :=
  List.replicate zeros '0' ++ Nat.toDigits 10 magnitude

/-- The characters spell the number in decimal digits. -/
inductive Spells (number : Int) : List Char → Prop where
  | plain (zeros : Nat) (h : 0 ≤ number) : Spells number (digitsBehind zeros number.natAbs)
  | plus (zeros : Nat) (h : 0 ≤ number) : Spells number ('+' :: digitsBehind zeros number.natAbs)
  /-- Zero may have a minus sign too. -/
  | minus (zeros : Nat) (h : number ≤ 0) : Spells number ('-' :: digitsBehind zeros number.natAbs)

/-- What stands behind the sign, or everything if there is none in front. -/
def unsigned : List Char → List Char
  | '+' :: rest => rest
  | '-' :: rest => rest
  | cs => cs

/-- The characters spell no number at all. -/
inductive IsMalformed : List Char → Prop where
  | empty : IsMalformed []
  | loneSign {sign : Char} (h : sign = '+' ∨ sign = '-') : IsMalformed [sign]
  /-- Some character is neither a digit nor the sign in front. -/
  | stray {cs : List Char} {c : Char} (hmem : c ∈ unsigned cs) (hc : c.isDigit = false) :
      IsMalformed cs

/-- The number that characters spell, if they spell one. -/
def valueOf : List Char → Int
  | '-' :: rest => -(Nat.ofDigitChars 10 rest 0 : Int)
  | cs => Nat.ofDigitChars 10 (unsigned cs) 0

variable {c : Char} {cs rest : List Char} {number : Int} {zeros magnitude : Nat}

/-! ## Digits -/

theorem isDigit_of_mem_digitsBehind (h : c ∈ digitsBehind zeros magnitude) :
    c.isDigit = true := by
  rw [digitsBehind, List.mem_append] at h
  rcases h with h | h
  · rw [List.eq_of_mem_replicate h]
    rfl
  · exact Nat.isDigit_of_mem_toDigits (by decide) (by decide) h

theorem digitsBehind_ne_nil (zeros magnitude : Nat) : digitsBehind zeros magnitude ≠ [] :=
  List.append_ne_nil_of_right_ne_nil _ Nat.toDigits_ne_nil

theorem ofDigitChars_digitsBehind (zeros magnitude : Nat) :
    Nat.ofDigitChars 10 (digitsBehind zeros magnitude) 0 = magnitude := by
  rw [digitsBehind, Nat.ofDigitChars_append, Nat.ofDigitChars_replicate_zero, Nat.mul_zero,
    Nat.ofDigitChars_ten_toDigits]

/-- Digits have no sign in front. -/
theorem digitsBehind_ne_cons (h : c.isDigit = false) :
    digitsBehind zeros magnitude ≠ c :: rest := by
  intro heq
  have hdigit : c.isDigit = true := by
    apply @isDigit_of_mem_digitsBehind _ zeros magnitude
    rw [heq]
    exact List.mem_cons_self
  rw [h] at hdigit
  cases hdigit

/-- So they are read whole, and as what they are. -/
theorem unsigned_digitsBehind (zeros magnitude : Nat) :
    unsigned (digitsBehind zeros magnitude) = digitsBehind zeros magnitude := by
  rw [unsigned.eq_def]
  split
  · exact absurd ‹_› (digitsBehind_ne_cons rfl)
  · exact absurd ‹_› (digitsBehind_ne_cons rfl)
  · rfl

theorem valueOf_digitsBehind (zeros magnitude : Nat) :
    valueOf (digitsBehind zeros magnitude) = magnitude := by
  rw [valueOf.eq_def]
  split
  · exact absurd ‹_› (digitsBehind_ne_cons rfl)
  · rw [unsigned_digitsBehind, ofDigitChars_digitsBehind]

/-! ## Spellings -/

/-- What is spelled has digits behind the sign and nothing else, and is what these stand for. -/
theorem Spells.reads (h : Spells number cs) :
    (unsigned cs ≠ [] ∧ ∀ c ∈ unsigned cs, c.isDigit = true) ∧ number = valueOf cs := by
  have hdigits : ∀ zeros, digitsBehind zeros number.natAbs ≠ [] ∧
      ∀ c ∈ digitsBehind zeros number.natAbs, c.isDigit = true :=
    fun zeros => ⟨digitsBehind_ne_nil _ _, fun _ => isDigit_of_mem_digitsBehind⟩
  cases h with
  | plain zeros h =>
    rw [unsigned_digitsBehind, valueOf_digitsBehind]
    exact ⟨hdigits zeros, (Int.natAbs_of_nonneg h).symm⟩
  | plus zeros h =>
    refine ⟨hdigits zeros, ?_⟩
    rw [valueOf, unsigned, ofDigitChars_digitsBehind]
    · exact (Int.natAbs_of_nonneg h).symm
    · rintro _ ⟨⟩
  | minus zeros h =>
    refine ⟨hdigits zeros, ?_⟩
    rw [valueOf, ofDigitChars_digitsBehind, Int.ofNat_natAbs_of_nonpos h, Int.neg_neg]

/-- Digits, alone or behind a sign, spell what they stand for. -/
theorem spells_valueOf (hne : unsigned cs ≠ []) (hdigits : ∀ c ∈ unsigned cs, c.isDigit = true) :
    Spells (valueOf cs) cs := by
  obtain ⟨zeros, hzeros⟩ := exists_zeros_of_forall_isDigit hne hdigits
  rw [← digitsBehind] at hzeros
  fun_cases valueOf cs with
  | case1 rest =>
    rw [unsigned] at hzeros
    generalize Nat.ofDigitChars 10 rest 0 = magnitude at hzeros ⊢
    have hspells := Spells.minus zeros (show -(magnitude : Int) ≤ 0 by omega)
    rwa [Int.natAbs_neg, Int.natAbs_natCast, ← hzeros] at hspells
  | case2 cs hminus =>
    generalize Nat.ofDigitChars 10 (unsigned cs) 0 = magnitude at hzeros ⊢
    fun_cases unsigned cs with
    | case1 rest =>
      have hspells := Spells.plus zeros (Int.natCast_nonneg magnitude)
      rwa [Int.natAbs_natCast, ← hzeros] at hspells
    | case2 rest => exact absurd rfl (hminus rest)
    | case3 cs hplus _ =>
      rw [unsigned.eq_3 cs hplus hminus] at hzeros
      have hspells := Spells.plain zeros (Int.natCast_nonneg magnitude)
      rwa [Int.natAbs_natCast, ← hzeros] at hspells

theorem spells_iff :
    Spells number cs ↔
      (unsigned cs ≠ [] ∧ ∀ c ∈ unsigned cs, c.isDigit = true) ∧ number = valueOf cs := by
  constructor
  · exact Spells.reads
  · rintro ⟨⟨hne, hdigits⟩, rfl⟩
    exact spells_valueOf hne hdigits

theorem isMalformed_iff :
    IsMalformed cs ↔ ¬(unsigned cs ≠ [] ∧ ∀ c ∈ unsigned cs, c.isDigit = true) := by
  constructor
  · rintro (_ | hsign | ⟨hmem, hc⟩) ⟨hne, hdigits⟩
    · exact hne rfl
    · rcases hsign with rfl | rfl
      · exact hne rfl
      · exact hne rfl
    · rw [hdigits _ hmem] at hc
      cases hc
  · intro h
    by_cases hnil : unsigned cs = []
    · fun_cases unsigned cs with
      | case1 rest =>
        rw [unsigned] at hnil
        rw [hnil]
        exact .loneSign (.inl rfl)
      | case2 rest =>
        rw [unsigned] at hnil
        rw [hnil]
        exact .loneSign (.inr rfl)
      | case3 cs hplus hminus =>
        rw [unsigned.eq_3 cs hplus hminus] at hnil
        rw [hnil]
        exact .empty
    · simp only [not_and, not_forall, Bool.not_eq_true] at h
      obtain ⟨c, hmem, hc⟩ := h hnil
      exact .stray hmem hc

/-- A text that is not malformed spells one number. -/
theorem exists_spells_iff : (∃ number, Spells number cs) ↔ ¬IsMalformed cs := by
  rw [isMalformed_iff, not_not]
  constructor
  · rintro ⟨number, h⟩
    exact h.reads.1
  · rintro ⟨hne, hdigits⟩
    exact ⟨_, spells_valueOf hne hdigits⟩

/-! ## Reading -/

theorem le_ofDigitChars (cs : List Char) (value : Nat) :
    value ≤ Nat.ofDigitChars 10 cs value := by
  rw [Nat.ofDigitChars_eq_ofDigitChars_zero]
  have hpos : 0 < 10 ^ cs.length := Nat.pow_pos (by decide)
  exact Nat.le_trans (Nat.le_mul_of_pos_left value hpos) (Nat.le_add_right _ _)

/-- Digits are read if what they stand for is within the limit, whatever was read before. -/
theorem readDigits_eq_ok_iff {limit value result : Nat} {overflow : IntegerFault}
    (hvalue : value ≤ limit) :
    readDigits limit overflow value cs = .ok result ↔
      (∀ c ∈ cs, c.isDigit = true) ∧ Nat.ofDigitChars 10 cs value = result ∧ result ≤ limit := by
  induction cs generalizing value with
  | nil =>
    rw [readDigits, Except.ok.injEq, Nat.ofDigitChars_nil]
    constructor
    · rintro rfl
      exact ⟨List.forall_mem_nil _, rfl, hvalue⟩
    · exact fun h => h.2.1
  | cons c rest ih =>
    rw [readDigits, digitValue?, List.forall_mem_cons, Nat.ofDigitChars_cons]
    by_cases hc : c.isDigit = true
    · rw [if_pos hc]
      dsimp only
      by_cases hfits : 10 * value + (c.toNat - '0'.toNat) ≤ limit
      · rw [if_pos hfits, ih hfits]
        simp only [hc, true_and]
      -- What is behind can only make the number larger.
      · rw [if_neg hfits]
        refine iff_of_false (by rintro ⟨⟩) ?_
        rintro ⟨-, hresult, hlimit⟩
        have hleast := le_ofDigitChars rest (10 * value + (c.toNat - '0'.toNat))
        omega
    · rw [if_neg hc]
      exact iff_of_false (by rintro ⟨⟩) fun h => hc h.1.1

theorem readMagnitude_eq_ok_iff {limit result : Nat} {overflow : IntegerFault} :
    readMagnitude limit overflow cs = .ok result ↔
      (cs ≠ [] ∧ ∀ c ∈ cs, c.isDigit = true) ∧
        Nat.ofDigitChars 10 cs 0 = result ∧ result ≤ limit := by
  rcases cs with _ | ⟨c, rest⟩
  · rw [readMagnitude]
    exact iff_of_false nofun fun h => h.1.1 rfl
  · rw [readMagnitude, readDigits_eq_ok_iff (Nat.zero_le limit)]
    · simp only [ne_eq, reduceCtorEq, not_false_eq_true, true_and]
    · rintro ⟨⟩

theorem map_readMagnitude_eq_ok_iff {limit : Nat} {overflow : IntegerFault} {f : Int → Int64}
    {value : Int64} :
    Except.map f (readMagnitude limit overflow cs) = .ok value ↔
      (cs ≠ [] ∧ ∀ c ∈ cs, c.isDigit = true) ∧
        Nat.ofDigitChars 10 cs 0 ≤ limit ∧ f (Nat.ofDigitChars 10 cs 0) = value := by
  constructor
  · intro h
    cases hread : readMagnitude limit overflow cs with
    | error fault =>
      rw [hread] at h
      cases h
    | ok magnitude =>
      rw [hread] at h
      obtain ⟨hdigits, rfl, hlimit⟩ := readMagnitude_eq_ok_iff.1 hread
      exact ⟨hdigits, hlimit, Except.ok.inj h⟩
  · rintro ⟨hdigits, hlimit, rfl⟩
    rw [readMagnitude_eq_ok_iff.2 ⟨hdigits, rfl, hlimit⟩]
    rfl

/-- Within the range no number is taken for another. -/
theorem ofInt_eq_iff {value : Int64} :
    (-2 ^ 63 ≤ number ∧ number < 2 ^ 63) ∧ Int64.ofInt number = value ↔
      value.toInt = number := by
  constructor
  · rintro ⟨⟨hleast, hgreatest⟩, rfl⟩
    exact Int64.toInt_ofInt_of_le hleast hgreatest
  · rintro rfl
    exact ⟨⟨value.le_toInt, value.toInt_lt⟩, value.ofInt_toInt⟩

/-- Exactly the numbers that a 64-bit integer can be are read, in whatever way they are spelled. -/
theorem readInt64_eq_ok_iff {value : Int64} :
    readInt64 cs = .ok value ↔ Spells value.toInt cs := by
  rw [spells_iff]
  fun_cases readInt64 cs with
  | case1 => exact iff_of_false nofun fun h => h.1.1 rfl
  | case2 rest =>
    rw [map_readMagnitude_eq_ok_iff, unsigned, valueOf, ← ofInt_eq_iff]
    refine and_congr_right fun _ => and_congr_left fun _ => ?_
    rw [greatestInt64]
    omega
  | case3 rest =>
    rw [map_readMagnitude_eq_ok_iff, unsigned, valueOf, unsigned, ← ofInt_eq_iff]
    · refine and_congr_right fun _ => and_congr_left fun _ => ?_
      rw [greatestInt64]
      omega
    · rintro _ ⟨⟩
  | case4 cs hne hminus hplus =>
    rw [map_readMagnitude_eq_ok_iff, valueOf.eq_2 cs hminus, unsigned.eq_3 cs hplus hminus,
      ← ofInt_eq_iff]
    refine and_congr_right fun _ => and_congr_left fun _ => ?_
    rw [greatestInt64]
    omega

/-- What is refused spells nothing, or a number that no 64-bit integer can be. -/
theorem exists_fault_iff :
    (∃ fault, readInt64 cs = .error fault) ↔
      IsMalformed cs ∨ ∃ number, Spells number cs ∧ (number < -2 ^ 63 ∨ 2 ^ 63 ≤ number) := by
  have hfault : (∃ fault, readInt64 cs = .error fault) ↔
      ¬∃ value : Int64, Spells value.toInt cs := by
    simp only [← readInt64_eq_ok_iff]
    rcases readInt64 cs with fault | value
    · exact iff_of_true ⟨fault, rfl⟩ nofun
    · exact iff_of_false nofun fun h => h ⟨value, rfl⟩
  rw [hfault]
  constructor
  · intro hnone
    by_cases hmalformed : IsMalformed cs
    · exact .inl hmalformed
    obtain ⟨number, hspells⟩ := exists_spells_iff.2 hmalformed
    refine .inr ⟨number, hspells, ?_⟩
    by_contra hrange
    refine hnone ⟨Int64.ofInt number, ?_⟩
    rwa [Int64.toInt_ofInt_of_le (by omega) (by omega)]
  · rintro (hmalformed | ⟨number, hspells, hrange⟩) ⟨value, hvalue⟩
    · exact exists_spells_iff.1 ⟨_, hvalue⟩ hmalformed
    · have hnumber : number = value.toInt := by rw [hspells.reads.2, hvalue.reads.2]
      have hleast := value.le_toInt
      have hgreatest := value.toInt_lt
      omega

/-! ## White space around -/

/-- What is trimmed off is white space. -/
theorem exists_trim (cs : List Char) :
    ∃ before after, cs = before ++ trim cs ++ after ∧
      (∀ c ∈ before, isBlank c = true) ∧ ∀ c ∈ after, isBlank c = true := by
  refine ⟨cs.takeWhile isBlank, ((cs.dropWhile isBlank).reverse.takeWhile isBlank).reverse, ?_,
    fun c => List.mem_takeWhile_imp, fun c hmem => List.mem_takeWhile_imp (List.mem_reverse.1 hmem)⟩
  rw [List.append_assoc, trim, ← List.reverse_append, List.takeWhile_append_dropWhile,
    List.reverse_reverse, List.takeWhile_append_dropWhile]

/-- White space in front is trimmed off, and with nothing else around nothing else is. -/
theorem dropWhile_isBlank_append {before core : List Char}
    (hbefore : ∀ c ∈ before, isBlank c = true) (hcore : ∀ c ∈ core, isBlank c = false) :
    (before ++ core).dropWhile isBlank = core := by
  rw [List.dropWhile_append_of_pos hbefore]
  rcases core with _ | ⟨c, rest⟩
  · rfl
  · exact List.dropWhile_cons_of_neg (Bool.eq_false_iff.1 (hcore c List.mem_cons_self))

/-- All white space around a text without any is trimmed off. -/
theorem trim_append_append {before core after : List Char}
    (hbefore : ∀ c ∈ before, isBlank c = true) (hcore : ∀ c ∈ core, isBlank c = false)
    (hafter : ∀ c ∈ after, isBlank c = true) : trim (before ++ core ++ after) = core := by
  have hreverse : (core ++ after).reverse.dropWhile isBlank = core.reverse := by
    rw [List.reverse_append]
    refine dropWhile_isBlank_append ?_ ?_
    · simpa only [List.mem_reverse] using hafter
    · simpa only [List.mem_reverse] using hcore
  rw [trim, List.append_assoc, List.dropWhile_append_of_pos hbefore]
  rcases core with _ | ⟨c, rest⟩
  · rw [List.nil_append, List.dropWhile_eq_nil_iff.2 hafter]
    rfl
  · have hc : ¬isBlank c = true := Bool.eq_false_iff.1 (hcore c List.mem_cons_self)
    rw [List.cons_append, List.dropWhile_cons_of_neg hc, ← List.cons_append, hreverse,
      List.reverse_reverse]

theorem isBlank_eq_false_of_isDigit (h : c.isDigit = true) : isBlank c = false := by
  obtain ⟨hlow, hhigh⟩ := Char.isDigit_iff_toNat.1 h
  have hzero : '0'.toNat = 48 := rfl
  have hnine : '9'.toNat = 57 := rfl
  simp only [isBlank, blankRanges, List.any_cons, List.any_nil, Bool.or_false, Bool.or_eq_false_iff,
    Bool.and_eq_false_iff, decide_eq_false_iff_not]
  omega

/-- There is no white space in what spells a number. -/
theorem Spells.isBlank_eq_false (h : Spells number cs) : ∀ c ∈ cs, isBlank c = false := by
  have hdigits : ∀ zeros, ∀ c ∈ digitsBehind zeros number.natAbs, isBlank c = false :=
    fun zeros c hmem => isBlank_eq_false_of_isDigit (isDigit_of_mem_digitsBehind hmem)
  cases h with
  | plain zeros => exact hdigits zeros
  | plus zeros => exact List.forall_mem_cons.2 ⟨by decide, hdigits zeros⟩
  | minus zeros => exact List.forall_mem_cons.2 ⟨by decide, hdigits zeros⟩

/-- A number is spelled behind and in front of any white space. -/
theorem spells_trim_iff :
    Spells number (trim cs) ↔
      ∃ before numeral after, cs = before ++ numeral ++ after ∧ (∀ c ∈ before, isBlank c = true) ∧
        (∀ c ∈ after, isBlank c = true) ∧ Spells number numeral := by
  constructor
  · intro h
    obtain ⟨before, after, hcs, hbefore, hafter⟩ := exists_trim cs
    exact ⟨before, trim cs, after, hcs, hbefore, hafter, h⟩
  · rintro ⟨before, numeral, after, rfl, hbefore, hafter, h⟩
    rwa [trim_append_append hbefore h.isBlank_eq_false hafter]

end GpuDiscovery.Text
