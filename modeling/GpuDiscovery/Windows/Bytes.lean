import GpuDiscovery.Text.Utf16

/-!
# Texts and numbers in bytes

How the system lays out text and numbers in bytes: units and integers have their least significant
byte first.
-/

namespace GpuDiscovery.Windows

/-- The units that pairs of bytes make up. A byte left over at the end is ignored. -/
def unitsOfBytes : List UInt8 → List UInt16
  | low :: high :: rest =>
    UInt16.ofNat (low.toNat + 0x100 * high.toNat) :: unitsOfBytes rest
  | _ => []

/-- The bytes of units. -/
def bytesOfUnits (units : List UInt16) : List UInt8 :=
  units.flatMap fun unit => [UInt8.ofNat (unit.toNat % 0x100), UInt8.ofNat (unit.toNat / 0x100)]

/-- The number that bytes make up. -/
def numberOfBytes : List UInt8 → Nat
  | [] => 0
  | byte :: rest => byte.toNat + 0x100 * numberOfBytes rest

/-- The bytes of a number, so many of them. -/
def bytesOfNumber : (count number : Nat) → List UInt8
  | 0, _ => []
  | count + 1, number => UInt8.ofNat (number % 0x100) :: bytesOfNumber count (number / 0x100)

/-- Units are read from their bytes, whatever bytes follow. -/
theorem unitsOfBytes_append (units : List UInt16) (rest : List UInt8) :
    unitsOfBytes (bytesOfUnits units ++ rest) = units ++ unitsOfBytes rest := by
  induction units with
  | nil => rfl
  | cons unit units ih =>
    have hunit : unit.toNat < 0x10000 := unit.toNat_lt
    -- Taking the two bytes modulo their size changes nothing, because the unit has no third one.
    have hjoin :
        unit.toNat % 0x100 % 2 ^ 8 + 0x100 * (unit.toNat / 0x100 % 2 ^ 8) = unit.toNat := by
      omega
    simp only [bytesOfUnits, List.flatMap_cons, List.cons_append, List.nil_append, unitsOfBytes,
      UInt8.toNat_ofNat'] at ih ⊢
    rw [ih, hjoin, UInt16.ofNat_toNat]

/-- Units read back from their bytes. -/
@[simp] theorem unitsOfBytes_bytesOfUnits (units : List UInt16) :
    unitsOfBytes (bytesOfUnits units) = units := by
  have hread := unitsOfBytes_append units []
  rw [List.append_nil] at hread
  exact hread.trans (List.append_nil units)

/-- A byte left over at the end may as well be left out. -/
theorem unitsOfBytes_take_even (bytes : List UInt8) :
    unitsOfBytes (bytes.take (2 * (bytes.length / 2))) = unitsOfBytes bytes := by
  induction bytes using unitsOfBytes.induct with
  | case1 low high rest ih =>
    have heven : 2 * ((low :: high :: rest).length / 2) = 2 * (rest.length / 2) + 2 := by
      simp only [List.length_cons]
      omega
    rw [heven, List.take_succ_cons, List.take_succ_cons, unitsOfBytes, unitsOfBytes, ih]
  | case2 bytes hshort =>
    rcases bytes with _ | ⟨byte, _ | ⟨next, rest⟩⟩
    · rfl
    · rw [List.length_singleton]
      rfl
    · exact absurd rfl (hshort byte next rest)

theorem length_bytesOfNumber (count number : Nat) :
    (bytesOfNumber count number).length = count := by
  induction count generalizing number with
  | zero => rfl
  | succ count ih => rw [bytesOfNumber, List.length_cons, ih]

/-- A number read back from enough of its bytes. -/
theorem numberOfBytes_bytesOfNumber {count number : Nat} (h : number < Nat.pow 0x100 count) :
    numberOfBytes (bytesOfNumber count number) = number := by
  induction count generalizing number with
  | zero =>
    have hone : Nat.pow 0x100 0 = 1 := rfl
    have hzero : number = 0 := by omega
    simp [bytesOfNumber, numberOfBytes, hzero]
  | succ count ih =>
    have hpow : Nat.pow 0x100 (count + 1) = Nat.pow 0x100 count * 0x100 := rfl
    have hrest : number / 0x100 < Nat.pow 0x100 count := by omega
    simp only [bytesOfNumber, numberOfBytes, ih hrest, UInt8.toNat_ofNat']
    omega

end GpuDiscovery.Windows
