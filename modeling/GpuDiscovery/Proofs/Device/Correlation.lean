import GpuDiscovery.Proofs.Platform.Stage
import Mathlib.Data.List.Forall2

/-!
# What a correlation comes to

The devices of a set of adapters, from the exchanges of a successful correlation: the platform
handed out property bags (`foundBags`), and the devices stem one by one and in order from those
whose adapter identifier leads to an adapter (`path_correlate`). Nothing here depends on how the
adapters are kept: a set of adapters is no more than a way to look one up.
-/

namespace GpuDiscovery

open Procedure

/-! ## Reading a bag -/

namespace PropertyBag

/-- A property in the type that `read` gives it, if it is there and of a fitting type. -/
def property? {α : Type} (bag : PropertyBag) (name : String)
    (read : String → PropertyValue → Except DiscoveryError α) : Option α :=
  match bag name with
  | .value (some found) => (read name found).toOption
  | _ => none

/-- The identifier of the adapter that a device belongs to. -/
def luid? (bag : PropertyBag) : Option Luid :=
  bag.property? PropertyName.adapterLuid PropertyValue.asInt64

theorem property?_of_readOptional {α : Type} {bag : PropertyBag} {name : String}
    {read : String → PropertyValue → Except DiscoveryError α} {found? : Option α}
    (h : bag.readOptional name read = .value found?) : bag.property? name read = found? := by
  obtain ⟨present?, hpresent, hread⟩ := Outcome.bind_eq_value_iff.1 h
  rw [property?, hpresent]
  rcases present? with _ | present
  · exact Outcome.value.inj hread
  · obtain ⟨value, hvalue, hfound⟩ := Outcome.bind_eq_value_iff.1 hread
    rw [Outcome.ofExcept_eq_value_iff] at hvalue
    rw [← Outcome.value.inj hfound]
    exact congrArg Except.toOption hvalue

/-- The bag says this of a device. -/
structure Describes (bag : PropertyBag) (device : DeviceRecord) : Prop where
  id : bag.property? PropertyName.deviceId PropertyValue.asString = some device.id
  description : device.description =
    (bag.property? PropertyName.description PropertyValue.asString).getD ""
  vendor : device.vendor =
    (bag.property? PropertyName.manufacturer PropertyValue.asString).getD ""
  locationPath : device.locationPath =
    ((bag.property? PropertyName.locationPaths PropertyValue.asStringList).bind List.head?).getD ""
  driverRegistryKey : device.driverRegistryKey =
    ((bag.property? PropertyName.driver PropertyValue.asString).map (driverClassKey ++ ·)).getD ""

/-- What is read of a device is what its bag says of it, on whatever adapter it is. -/
theorem describes_of_readDevice {bag : PropertyBag} {properties : DeviceProperties}
    (h : bag.readDevice = .value properties) :
    bag.luid? = properties.adapterLuid ∧
      ∀ adapter, bag.Describes (properties.toDevice adapter) := by
  obtain ⟨id?, hid, hbehind⟩ := Outcome.bind_eq_value_iff.1 h
  rcases id? with _ | id
  · exact absurd hbehind nofun
  dsimp only at hbehind
  rw [Outcome.bind_value] at hbehind
  obtain ⟨driver?, hdriver, hbehind⟩ := Outcome.bind_eq_value_iff.1 hbehind
  obtain ⟨paths?, hpaths, hbehind⟩ := Outcome.bind_eq_value_iff.1 hbehind
  obtain ⟨luid?, hluid, hbehind⟩ := Outcome.bind_eq_value_iff.1 hbehind
  obtain ⟨description?, hdescription, hbehind⟩ := Outcome.bind_eq_value_iff.1 hbehind
  obtain ⟨vendor?, hvendor, hproperties⟩ := Outcome.bind_eq_value_iff.1 hbehind
  rw [← Outcome.value.inj hproperties]
  refine ⟨property?_of_readOptional hluid, fun adapter => ⟨property?_of_readOptional hid, ?_, ?_,
    ?_, ?_⟩⟩
  · rw [property?_of_readOptional hdescription]
    rfl
  · rw [property?_of_readOptional hvendor]
    rfl
  · rw [property?_of_readOptional hpaths]
    rfl
  · rw [property?_of_readOptional hdriver]
    rfl

end PropertyBag

/-! ## What was found -/

/-- The bags that the platform handed out in an exchange. -/
def Exchange.bags? : Exchange platformSystem → Option (List PropertyBag)
  | ⟨.queryDevices _, .value bags⟩ => some bags
  | _ => none

/-- The bags that the platform handed out, in the order in which it did. -/
def foundBags (talk : List (Exchange platformSystem)) : List PropertyBag :=
  (talk.filterMap Exchange.bags?).flatten

namespace DeviceRecord

/-- The device without what its driver tells. -/
def bare (device : DeviceRecord) : DeviceRecord :=
  { device with driverStorePath := "", runtimeFiles := [], runtimeFilesWow64 := [] }

/-- The device comes from the bag, on the adapter that the bag's identifier leads to. -/
structure StemsFrom (lookup : Luid → Option AdapterRecord) (device : DeviceRecord)
    (bag : PropertyBag) : Prop where
  adapter : bag.luid?.bind lookup = some device.adapter
  described : bag.Describes device

end DeviceRecord

namespace AdapterSet

variable (adapters : AdapterSet)

/-- The device with these properties, if its adapter is in the set. -/
def deviceWith (properties : DeviceProperties) : Option DeviceRecord :=
  (properties.adapterLuid.bind adapters.get?).map properties.toDevice

/-- The devices of the set that the bags describe. -/
def devicesOf (bags : List PropertyBag) : List DeviceRecord :=
  (bags.filterMap fun bag => bag.readDevice.value?).filterMap adapters.deviceWith

/-- The properties in some bags, from `index` on. -/
def propertiesOf (index : Nat) (bags : List PropertyBag) : Outcome (List DeviceProperties) :=
  (bags.zipIdx index).mapM fun bag =>
    bag.1.readDevice.context ("reading properties of PnP device " ++ Text.decimal bag.2)

/-- The bags can be read exactly if each of them can. -/
theorem exists_propertiesOf_iff {index : Nat} {bags : List PropertyBag} :
    (∃ found, propertiesOf index bags = .value found) ↔
      ∀ bag ∈ bags, bag.readDevice.value?.isSome = true := by
  rw [propertiesOf, Outcome.exists_mapM_eq_value_iff]
  simp only [Outcome.value?_context]
  exact forall_mem_zipIdx_fst (p := fun bag : PropertyBag => bag.readDevice.value?.isSome = true)

/-- The properties found are those of the bags, one by one. -/
theorem forall₂_readDevice {index : Nat} {bags : List PropertyBag}
    {found : List DeviceProperties} (h : propertiesOf index bags = .value found) :
    List.Forall₂ (fun bag properties => bag.readDevice = .value properties) bags found := by
  rw [propertiesOf, Outcome.mapM_eq_value_iff] at h
  simp only [Outcome.context_eq_value_iff] at h
  rw [← List.zipIdx_map_fst index bags, List.forall₂_map_left_iff]
  exact h

/-- What is read is what can be read. -/
theorem propertiesOf_eq {index : Nat} {bags : List PropertyBag} {found : List DeviceProperties}
    (h : propertiesOf index bags = .value found) :
    found = bags.filterMap fun bag => bag.readDevice.value? := by
  rw [← Outcome.filterMap_value?_of_mapM h]
  simp only [Outcome.value?_context]
  exact filterMap_zipIdx_fst (fun bag : PropertyBag => bag.readDevice.value?) bags index

/-- Matching makes no calls: a device is on an adapter of the set exactly if its identifier leads to
one. -/
theorem endsAs_matchDevice (properties : DeviceProperties) :
    (matchDevice adapters properties).EndsAs (.value (adapters.deviceWith properties)) := by
  rw [matchDevice, deviceWith]
  rcases properties.adapterLuid with _ | luid
  · refine EndsAs.value_bind (endsAs_info _) ?_
    exact endsAs_pure _
  · dsimp only [Option.bind_some]
    rcases adapters.get? luid with _ | adapter
    · refine EndsAs.value_bind (endsAs_info _) ?_
      exact endsAs_pure _
    · refine EndsAs.value_bind (endsAs_info _) ?_
      exact endsAs_pure _

/-- The loop over the bags makes no calls. It reads all of them, and keeps the devices on adapters
of the set. -/
theorem endsAs_matchDevices (index : Nat) (bags : List PropertyBag) :
    (matchDevices adapters index bags).EndsAs
      (propertiesOf index bags >>= fun found => .value (found.filterMap adapters.deviceWith)) := by
  induction bags generalizing index with
  | nil => exact endsAs_pure []
  | cons bag rest ih =>
    rw [propertiesOf, List.zipIdx_cons, List.mapM_cons, bind_assoc]
    refine (endsAs_ofOutcome _).bind fun properties => ?_
    have hcons : ∀ found : List DeviceProperties,
        (adapters.deviceWith properties).toList ++ found.filterMap adapters.deviceWith =
          (properties :: found).filterMap adapters.deviceWith := by
      intro found
      rw [List.filterMap_cons]
      cases adapters.deviceWith properties <;> rfl
    simp only [bind_assoc, pure_bind, ← hcons]
    refine (endsAs_matchDevice adapters properties).value_bind ?_
    have hrest := (ih (index + 1)).bind fun devices =>
      endsAs_pure ((adapters.deviceWith properties).toList ++ devices)
    simp only [bind_assoc, Outcome.bind_value] at hrest
    exact hrest

/-- A correlation that is handed bags reads all of them, and keeps the devices on adapters of the
set. -/
theorem outcome_correlate_of_bags {bags : List PropertyBag} {respond : platformSystem.Responder}
    {past : List PlatformCall} (hsome : adapters.isEmpty = false)
    (hanswer : respond past (.queryDevices adapters.deviceQuery) = .value bags) :
    (adapters.correlate.runAfter respond past).outcome =
      propertiesOf 0 bags >>= fun found => .value (found.filterMap adapters.deviceWith) := by
  have hasked : ∀ text, ((ask (.queryDevices adapters.deviceQuery)).context text).runAfter
      respond past = ⟨.value bags, [.called (.queryDevices adapters.deviceQuery)]⟩ := by
    intro text
    rw [runAfter_context, runAfter_ask, hanswer]
    rfl
  rw [correlate, if_neg (Bool.eq_false_iff.1 hsome), runAfter_bind, runAfter_info]
  dsimp only [callsOf, List.filterMap, List.reverse_nil, List.nil_append]
  rw [runAfter_bind, hasked]
  exact (adapters.endsAs_matchDevices 0 bags).outcome_eq respond _

variable {adapters : AdapterSet} {talk : List (Exchange platformSystem)}

/-- A device with the properties in a bag stems from it, if there is one. -/
theorem forall₂_stemsFrom {bags : List PropertyBag} {found : List DeviceProperties}
    (h : List.Forall₂ (fun bag properties => bag.readDevice = .value properties) bags found) :
    List.Forall₂ (DeviceRecord.StemsFrom adapters.get?) (found.filterMap adapters.deviceWith)
        (bags.filter fun bag => (bag.luid?.bind adapters.get?).isSome) ∧
      (found.filterMap adapters.deviceWith).map DeviceRecord.bare =
        found.filterMap adapters.deviceWith := by
  induction h with
  | nil => exact ⟨.nil, rfl⟩
  | @cons bag properties _ _ hread _ ih =>
    obtain ⟨hluid, hdescribes⟩ := PropertyBag.describes_of_readDevice hread
    -- The bag counts exactly if it gave a device.
    rw [List.filterMap_cons, deviceWith, ← hluid]
    rcases hfound : bag.luid?.bind adapters.get? with _ | adapter
    · rw [List.filter_cons_of_neg (by simp [hfound])]
      exact ih
    · rw [List.filter_cons_of_pos (by simp [hfound])]
      exact ⟨.cons ⟨hfound, hdescribes adapter⟩ ih.1, congrArg (_ :: ·) ih.2⟩

end AdapterSet

end GpuDiscovery
