import GpuDiscovery.Proofs.Device.Faults
import GpuDiscovery.Proofs.Text.Integer

/-!
# What an adapter identifier is read from

The adapter of a device is a 64-bit number among its properties, and the platform has four ways to
write it. `Carries` lists them without the reader, and `IsRefused` all that none of them is: every
value is one or the other, so a device is never on an adapter that its properties do not name.
-/

namespace GpuDiscovery

open Text

namespace PropertyValue

/-- The value is a way to write the number. -/
inductive Carries (number : Int64) : PropertyValue → Prop where
  | int64 : Carries number (.int64 number)
  | uint64 {value : UInt64} (h : number.toInt = value.toNat) : Carries number (.uint64 value)
  | uint32 {value : UInt32} (h : number.toInt = value.toNat) : Carries number (.uint32 value)
  | string {text : String} {before numeral after : List Char}
      (htext : text.toList = before ++ numeral ++ after)
      (hbefore : ∀ c ∈ before, isBlank c = true) (hafter : ∀ c ∈ after, isBlank c = true)
      (h : Spells number.toInt numeral) : Carries number (.string text)

/-- The value writes no 64-bit number. -/
inductive IsRefused : PropertyValue → Prop where
  | aboveRange {value : UInt64} (h : 2 ^ 63 ≤ value.toNat) : IsRefused (.uint64 value)
  | malformed {text : String} (h : IsMalformed (trim text.toList)) : IsRefused (.string text)
  | outOfRange {text : String} {number : Int} (h : Spells number (trim text.toList))
      (hrange : number < -2 ^ 63 ∨ 2 ^ 63 ≤ number) : IsRefused (.string text)
  | boolean (value : Bool) : IsRefused (.boolean value)
  | stringList (value : List String) : IsRefused (.stringList value)

variable {name : String} {number : Int64} {value : PropertyValue}

theorem asInt64_uint64_eq_ok_iff {value : UInt64} :
    (uint64 value).asInt64 name = .ok number ↔ number.toInt = value.toNat := by
  rw [asInt64, ← ofInt_eq_iff, greatestInt64]
  by_cases hfits : value.toNat ≤ 0x7FFFFFFFFFFFFFFF
  · rw [if_pos hfits, Except.ok.injEq]
    exact (and_iff_right (by omega)).symm
  · rw [if_neg hfits]
    exact iff_of_false (by rintro ⟨⟩) fun h => absurd h.1.2 (by omega)

theorem asInt64_uint32_eq_ok_iff {value : UInt32} :
    (uint32 value).asInt64 name = .ok number ↔ number.toInt = value.toNat := by
  have hbound := value.toNat_lt
  rw [asInt64, ← ofInt_eq_iff, Except.ok.injEq]
  exact (and_iff_right (by omega)).symm

theorem asInt64_string_eq_ok_iff {text : String} :
    (string text).asInt64 name = .ok number ↔ Spells number.toInt (trim text.toList) := by
  rw [asInt64, ← readInt64_eq_ok_iff]
  rcases readInt64 (trim text.toList) with fault | found
  · exact iff_of_false nofun nofun
  · rw [Except.ok.injEq, Except.ok.injEq]

theorem exists_error_string_iff {text : String} :
    (∃ error, (string text).asInt64 name = .error error) ↔
      IsMalformed (trim text.toList) ∨
        ∃ number, Spells number (trim text.toList) ∧ (number < -2 ^ 63 ∨ 2 ^ 63 ≤ number) := by
  rw [asInt64, ← exists_fault_iff]
  rcases readInt64 (trim text.toList) with fault | found
  · exact iff_of_true ⟨_, rfl⟩ ⟨fault, rfl⟩
  · exact iff_of_false nofun nofun

theorem asInt64_eq_ok_iff : value.asInt64 name = .ok number ↔ Carries number value := by
  constructor
  · intro h
    cases value with
    | int64 value =>
      cases h
      exact .int64
    | uint64 value => exact .uint64 (asInt64_uint64_eq_ok_iff.1 h)
    | uint32 value => exact .uint32 (asInt64_uint32_eq_ok_iff.1 h)
    | string text =>
      obtain ⟨before, numeral, after, htext, hbefore, hafter, hspells⟩ :=
        spells_trim_iff.1 (asInt64_string_eq_ok_iff.1 h)
      exact .string htext hbefore hafter hspells
    | boolean value => cases h
    | stringList value => cases h
  · rintro (_ | h | h | ⟨htext, hbefore, hafter, hspells⟩)
    · rfl
    · exact asInt64_uint64_eq_ok_iff.2 h
    · exact asInt64_uint32_eq_ok_iff.2 h
    · exact asInt64_string_eq_ok_iff.2
        (spells_trim_iff.2 ⟨_, _, _, htext, hbefore, hafter, hspells⟩)

theorem exists_error_iff : (∃ error, value.asInt64 name = .error error) ↔ IsRefused value := by
  constructor
  · rintro ⟨error, h⟩
    cases value with
    | int64 value => cases h
    | uint64 value =>
      refine .aboveRange ?_
      by_contra hfits
      rw [asInt64, greatestInt64, if_pos (by omega)] at h
      cases h
    | uint32 value => cases h
    | string text =>
      rcases exists_error_string_iff.1 ⟨error, h⟩ with hmalformed | ⟨number, hspells, hrange⟩
      · exact .malformed hmalformed
      · exact .outOfRange hspells hrange
    | boolean value => exact .boolean value
    | stringList value => exact .stringList value
  · rintro (h | h | ⟨hspells, hrange⟩ | _ | _)
    · rw [asInt64, greatestInt64, if_neg (by omega)]
      exact ⟨_, rfl⟩
    · exact exists_error_string_iff.2 (.inl h)
    · exact exists_error_string_iff.2 (.inr ⟨_, hspells, hrange⟩)
    · exact ⟨_, rfl⟩
    · exact ⟨_, rfl⟩

/-- The adapter of a device that was read is the number in its bag. -/
theorem exists_adapterLuid {bag : PropertyBag} {properties : DeviceProperties}
    (hread : bag.readDevice = .value properties)
    (hfound : bag PropertyName.adapterLuid = .value (some value)) :
    ∃ number, properties.adapterLuid = some number ∧
      value.asInt64 PropertyName.adapterLuid = .ok number := by
  have hluid := (PropertyBag.describes_of_readDevice hread).1
  rw [PropertyBag.luid?, PropertyBag.property?, hfound] at hluid
  have hreadable := PropertyBag.isSome_readDevice_iff.1 (Outcome.isSome_value?_iff.2 ⟨_, hread⟩)
  have hrule : PropertyRule.ofType PropertyName.adapterLuid false asInt64 ∈ propertyRules := by
    simp only [propertyRules, List.mem_cons, true_or, or_true]
  rcases hreadable _ hrule with ⟨-, habsent⟩ | ⟨hvalue, hcheck⟩
  · rw [PropertyRule.ofType, hfound] at habsent
    cases habsent
  · rw [PropertyRule.ofType, hfound] at hvalue
    cases hvalue
    dsimp only [PropertyRule.ofType] at hcheck
    cases hnumber : value.asInt64 PropertyName.adapterLuid with
    | error error =>
      rw [hnumber] at hcheck
      cases hcheck
    | ok number =>
      refine ⟨number, ?_, rfl⟩
      rw [← hluid]
      exact congrArg Except.toOption hnumber

/-- **A number is read from whatever carries it, and from nothing else.** A device that was read is
on the adapter whose number its bag carries. -/
theorem asInt64_decodes (value : PropertyValue) :
    (∀ name number, value.asInt64 name = .ok number ↔ Carries number value) ∧
      (∀ name, (∃ error, value.asInt64 name = .error error) ↔ IsRefused value) ∧
      ∀ (bag : PropertyBag) (properties : DeviceProperties), bag.readDevice = .value properties →
        bag PropertyName.adapterLuid = .value (some value) →
        ∃ number, properties.adapterLuid = some number ∧ Carries number value := by
  refine ⟨fun _ _ => asInt64_eq_ok_iff, fun _ => exists_error_iff, ?_⟩
  intro bag properties hread hfound
  obtain ⟨number, hluid, hnumber⟩ := exists_adapterLuid hread hfound
  exact ⟨number, hluid, asInt64_eq_ok_iff.1 hnumber⟩

/-- There are white space, a sign and zeros around the seven. -/
def paddedText : PropertyValue :=
  .string "\u2003-007\u00a0"

/-- A device with this text for its adapter. -/
def paddedDevice : PropertyBag :=
  PropertyMap.bag (.ofList [(PropertyName.deviceId, .string "PCI"),
    (PropertyName.adapterLuid, paddedText)])

theorem asInt64_decodes_paddedText :
    paddedDevice.readDevice = .value ⟨"PCI", "", "", some (-7), "", ""⟩ ∧
      Carries (-7) paddedText := by
  have hread : paddedDevice.readDevice = .value ⟨"PCI", "", "", some (-7), "", ""⟩ := by rfl
  obtain ⟨number, hluid, hcarries⟩ := (asInt64_decodes paddedText).2.2 paddedDevice _ hread rfl
  cases hluid
  exact ⟨hread, hcarries⟩

end PropertyValue

end GpuDiscovery
