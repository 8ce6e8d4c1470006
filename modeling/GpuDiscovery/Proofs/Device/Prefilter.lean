import GpuDiscovery.Platform.Script
import GpuDiscovery.Proofs.Device.Correlation
import GpuDiscovery.Proofs.SortedMap

/-!
# What the query of a correlation leaves out

A correlation asks for the devices that match the hardware of some adapter, and then looks at the
adapter identifiers of those it is handed. The query is there to save work: were all devices handed
out, the same ones would be kept. A device that is kept is on an adapter of the set, and if it is
named after the hardware it sits on (`AdapterSet.Recognizes`), the pattern of that adapter finds it.
Nothing is needed of the devices that are dropped, so the query may let through as many of them as
it likes: those that match by accident, and those of other adapters with the same hardware.
-/

namespace GpuDiscovery

open Procedure

/-! ## The query -/

namespace AdapterSet

variable {adapters : AdapterSet}

/-- A query has the patterns of the adapters, and no others. -/
theorem mem_patterns_deviceQuery {pattern : HardwareIdPattern} :
    pattern ∈ adapters.deviceQuery.patterns.keys ↔
      ∃ luid adapter, adapters.get? luid = some adapter ∧ adapter.hardwareId.pattern = pattern := by
  rw [deviceQuery, DeviceQuery.ofPatterns, SortedMap.mem_keys_ofList, List.map_map]
  simp only [Function.comp_def, List.map_id', List.mem_map, SortedMap.mem_values_iff]
  constructor
  · rintro ⟨adapter, ⟨luid, hadapter⟩, hpattern⟩
    exact ⟨luid, adapter, hadapter, hpattern⟩
  · rintro ⟨luid, adapter, hadapter, hpattern⟩
    exact ⟨adapter, ⟨luid, hadapter⟩, hpattern⟩

/-- The query of a set finds what the pattern of one of its adapters finds. -/
theorem matchesId_deviceQuery {luid : Luid} {adapter : AdapterRecord} {id : String}
    (hadapter : adapters.get? luid = some adapter)
    (hid : adapter.hardwareId.pattern.matchesId id = true) :
    adapters.deviceQuery.matchesId id = true := by
  rw [DeviceQuery.matchesId, List.any_eq_true]
  exact ⟨_, mem_patterns_deviceQuery.2 ⟨luid, adapter, hadapter, rfl⟩, hid⟩

end AdapterSet

/-! ## Devices that the query finds -/

namespace PropertyBag

/-- The identifier of the device. -/
def id? (bag : PropertyBag) : Option String :=
  bag.property? PropertyName.deviceId PropertyValue.asString

/-- The device is one that the query asks for. -/
def isMatchedBy (bag : PropertyBag) (query : DeviceQuery) : Bool :=
  bag.id?.any query.matchesId

end PropertyBag

namespace AdapterSet

variable {adapters : AdapterSet} {bags : List PropertyBag}

/-- The bags can be read, and a device that is on an adapter of the set has an identifier that the
pattern of this adapter matches. -/
structure Recognizes (adapters : AdapterSet) (bags : List PropertyBag) : Prop where
  readable : ∀ bag ∈ bags, bag.readDevice.value?.isSome = true
  named : ∀ bag ∈ bags, ∀ adapter, bag.luid?.bind adapters.get? = some adapter →
    bag.id?.any adapter.hardwareId.pattern.matchesId = true

theorem Recognizes.filter (h : adapters.Recognizes bags) (keep : PropertyBag → Bool) :
    adapters.Recognizes (bags.filter keep) where
  readable bag hmem := h.readable bag (List.mem_of_mem_filter hmem)
  named bag hmem := h.named bag (List.mem_of_mem_filter hmem)

/-- A device on an adapter of the set is found by the query for the set. -/
theorem Recognizes.isMatchedBy (h : adapters.Recognizes bags) {bag : PropertyBag}
    (hmem : bag ∈ bags) (hon : (bag.luid?.bind adapters.get?).isSome = true) :
    bag.isMatchedBy adapters.deviceQuery = true := by
  obtain ⟨adapter, hadapter⟩ := Option.isSome_iff_exists.1 hon
  obtain ⟨luid, -, hget⟩ := Option.bind_eq_some_iff.1 hadapter
  obtain ⟨id, hid, hmatch⟩ := (Option.any_eq_true _ _).1 (h.named bag hmem adapter hadapter)
  exact (Option.any_eq_true _ _).2 ⟨id, hid, matchesId_deviceQuery hget hmatch⟩

/-- A bag comes to a device only if it is on an adapter of the set. -/
theorem bind_deviceWith_eq_none {bag : PropertyBag}
    (h : ¬(bag.luid?.bind adapters.get?).isSome = true) :
    bag.readDevice.value?.bind adapters.deviceWith = none := by
  rcases hread : bag.readDevice.value? with _ | properties
  · rfl
  · rw [Outcome.value?_eq_some_iff] at hread
    obtain ⟨hluid, -⟩ := PropertyBag.describes_of_readDevice hread
    rw [hluid, Option.not_isSome_iff_eq_none] at h
    rw [Option.bind_some, deviceWith, h, Option.map_none]

/-- Bags that are on no adapter of the set can be left out. -/
theorem devicesOf_filter {keep : PropertyBag → Bool}
    (h : ∀ bag ∈ bags, (bag.luid?.bind adapters.get?).isSome = true → keep bag = true) :
    adapters.devicesOf (bags.filter keep) = adapters.devicesOf bags := by
  simp only [devicesOf, List.filterMap_filterMap, List.filterMap_filter]
  apply List.filterMap_congr
  intro bag hmem
  by_cases hkeep : keep bag = true
  · rw [if_pos hkeep]
  · rw [if_neg hkeep]
    exact (bind_deviceWith_eq_none fun hon => hkeep (h bag hmem hon)).symm

/-- The devices of a set stem, one by one and in order, from the bags that are on its adapters. -/
theorem forall₂_devicesOf (hread : ∀ bag ∈ bags, bag.readDevice.value?.isSome = true) :
    List.Forall₂ (DeviceRecord.StemsFrom adapters.get?) (adapters.devicesOf bags)
      (bags.filter fun bag => (bag.luid?.bind adapters.get?).isSome) := by
  obtain ⟨found, hfound⟩ := (@exists_propertiesOf_iff 0 bags).2 hread
  rw [devicesOf, ← propertiesOf_eq hfound]
  exact (forall₂_stemsFrom (forall₂_readDevice hfound)).1

/-! ## Correlations with and without the query's help -/

/-- In a set without adapters no device is on an adapter. -/
theorem devicesOf_eq_nil (hempty : adapters.isEmpty = true) : adapters.devicesOf bags = [] := by
  have hnone : ∀ luid, adapters.get? luid = none := by
    intro luid
    rw [SortedMap.get?, List.isEmpty_iff.1 hempty]
    rfl
  rw [devicesOf, List.filterMap_eq_nil_iff]
  intro properties _
  rw [deviceWith]
  rcases properties.adapterLuid with _ | luid
  · rfl
  · rw [Option.bind_some, hnone, Option.map_none]

/-- Where readable bags are handed out, a correlation finds the devices that they describe. -/
theorem outcome_correlate {respond : platformSystem.Responder} {past : List PlatformCall}
    (hanswer : respond past (.queryDevices adapters.deviceQuery) = .value bags)
    (hread : ∀ bag ∈ bags, bag.readDevice.value?.isSome = true) :
    (adapters.correlate.runAfter respond past).outcome = .value (adapters.devicesOf bags) := by
  by_cases hempty : adapters.isEmpty = true
  · rw [correlate, if_pos hempty, devicesOf_eq_nil hempty, runAfter_pure]
  · obtain ⟨found, hfound⟩ := (@exists_propertiesOf_iff 0 bags).2 hread
    rw [outcome_correlate_of_bags adapters (Bool.eq_false_iff.2 hempty) hanswer, hfound,
      Outcome.bind_value, devicesOf, ← propertiesOf_eq hfound]

/-- **The query of a correlation loses nothing.** Whether a correlation is handed all devices or
only those that match its query, it finds the same ones in the same order: one for each bag that is
on an adapter of the set, and none for bags without an identifier of an adapter or with that of
another one. Adapters with the same hardware share a pattern, which the query has once. -/
theorem correlate_of_matching {everything matching : platformSystem.Responder}
    {past : List PlatformCall} (hbags : adapters.Recognizes bags)
    (heverything : everything past (.queryDevices adapters.deviceQuery) = .value bags)
    (hmatching : matching past (.queryDevices adapters.deviceQuery) =
      .value (bags.filter (PropertyBag.isMatchedBy · adapters.deviceQuery))) :
    (∃ devices, (adapters.correlate.runAfter everything past).outcome = .value devices ∧
        (adapters.correlate.runAfter matching past).outcome = .value devices ∧
        List.Forall₂ (DeviceRecord.StemsFrom adapters.get?) devices
          (bags.filter fun bag => (bag.luid?.bind adapters.get?).isSome)) ∧
      adapters.deviceQuery.patterns.keys.Nodup ∧
      ∀ pattern, pattern ∈ adapters.deviceQuery.patterns.keys ↔
        ∃ luid adapter, adapters.get? luid = some adapter ∧
          adapter.hardwareId.pattern = pattern := by
  have hall := outcome_correlate heverything hbags.readable
  have hsome := outcome_correlate hmatching (hbags.filter _).readable
  rw [devicesOf_filter fun bag hmem hon => hbags.isMatchedBy hmem hon] at hsome
  exact ⟨⟨_, hall, hsome, forall₂_devicesOf hbags.readable⟩, SortedMap.nodup_keys _,
    fun _ => mem_patterns_deviceQuery⟩

end AdapterSet

/-! ## Scripts that filter -/

/-- Of a device that can be read, the identifier decides whether a script finds it. -/
theorem ScriptedDevice.isFoundBy_eq {device : ScriptedDevice}
    (hread : device.bag.readDevice.value?.isSome = true) (query : DeviceQuery) :
    device.isFoundBy query = device.bag.isMatchedBy query := by
  obtain ⟨properties, hproperties⟩ := Outcome.isSome_value?_iff.1 hread
  obtain ⟨-, hdescribes⟩ := PropertyBag.describes_of_readDevice hproperties
  have hid : device.bag.id? = some properties.id := (hdescribes default).id
  -- The identifier was read, so it is there, and it is text.
  have hproperty : device.properties.get? PropertyName.deviceId = some (.string properties.id) := by
    rw [PropertyBag.id?, PropertyBag.property?, bag] at hid
    generalize device.faults.get? PropertyName.deviceId = fault at hid
    generalize device.properties.get? PropertyName.deviceId = value? at hid ⊢
    rcases fault with _ | _ | _
    · rcases value? with _ | value
      · cases hid
      · cases value with
        | string id => rw [show id = properties.id from Option.some.inj hid]
        | _ => cases hid
    · cases hid
    · cases hid
  rw [PropertyBag.isMatchedBy, hid, isFoundBy, hproperty]
  rfl

/-- What a script that filters finds is what the query matches of all that there is. -/
theorem Script.found_of_filtering {script : Script} (hfilters : script.unfiltered = false)
    (hread : ∀ device ∈ script.devices, device.bag.readDevice.value?.isSome = true)
    (query : DeviceQuery) :
    script.found query =
      (script.devices.map ScriptedDevice.bag).filter (PropertyBag.isMatchedBy · query) := by
  rw [found, List.filter_map]
  congr 1
  apply List.filter_congr
  intro device hmem
  rw [hfilters, Bool.false_or]
  exact ScriptedDevice.isFoundBy_eq (hread device hmem) query

/-- The hardware of the twin cards. -/
def twinHardware : HardwareId :=
  ⟨0x10DE, 0x20B0, 0x14671458, 0xA1⟩

/-- A platform with the device of each of two cards with the same hardware. Besides these it has a
device with that hardware on another adapter, one on an unknown adapter, and one of other
hardware. -/
def twinCards : Script :=
  let device (id : String) (luid? : Option Luid) : ScriptedDevice :=
    { properties := .ofList ((PropertyName.deviceId, .string id) ::
        luid?.toList.map fun luid => (PropertyName.adapterLuid, .int64 luid))
      faults := .empty }
  { Script.empty with
    devices := [
      device "PCI\\VEN_10DE&DEV_20B0&SUBSYS_14671458&REV_A1\\0" (some 9),
      device "PCI\\VEN_1414&DEV_008E&SUBSYS_00000000&REV_00\\1" (some 3),
      device "PCI\\VEN_10DE&DEV_20B0&SUBSYS_14671458&REV_A1\\2" (some 3),
      device "pci\\ven_10de&dev_20b0&subsys_14671458&rev_a1\\3" none,
      device "pci\\ven_10de&dev_20b0&subsys_14671458&rev_a1\\4" (some 7)] }

/-- The two cards. -/
def twins : AdapterSet :=
  let card (luid : Luid) : AdapterRecord := ⟨luid, twinHardware, true, false, false, false, true⟩
  .ofList [(7, card 7), (9, card 9)]

/-- Of the devices on the platform four match the one pattern of the twin cards, and two are on
them. -/
theorem correlate_of_twinCards :
    twins.Recognizes (twinCards.devices.map ScriptedDevice.bag) ∧
      (twinCards.found twins.deviceQuery).length = 4 ∧
      twins.deviceQuery.patterns.keys = [twinHardware.pattern] ∧
      ∃ devices, devices.length = 2 ∧
        (twins.correlate.runAfter { twinCards with unfiltered := true }.respond []).outcome =
          .value devices ∧
        (twins.correlate.runAfter twinCards.respond []).outcome = .value devices := by
  have hread : ∀ device ∈ twinCards.devices, device.bag.readDevice.value?.isSome = true := by
    decide +kernel
  have hnamed : ∀ device ∈ twinCards.devices,
      (device.bag.luid?.bind twins.get?).all (fun adapter =>
        device.bag.id?.any adapter.hardwareId.pattern.matchesId) = true := by
    decide +kernel
  have hbags : twins.Recognizes (twinCards.devices.map ScriptedDevice.bag) := by
    refine ⟨List.forall_mem_map.2 hread, List.forall_mem_map.2 ?_⟩
    intro device hmem
    exact (Option.all_eq_true _ _).1 (hnamed device hmem)
  have heverything : { twinCards with unfiltered := true }.respond []
      (.queryDevices twins.deviceQuery) = .value (twinCards.devices.map ScriptedDevice.bag) := rfl
  have hmatching : twinCards.respond [] (.queryDevices twins.deviceQuery) =
      .value ((twinCards.devices.map ScriptedDevice.bag).filter
        (PropertyBag.isMatchedBy · twins.deviceQuery)) :=
    congrArg Outcome.value (Script.found_of_filtering rfl hread _)
  obtain ⟨⟨devices, hall, hsome, hstems⟩, -⟩ :=
    AdapterSet.correlate_of_matching hbags heverything hmatching
  have hcount : devices.length = 2 := by
    rw [hstems.length_eq]
    decide +kernel
  exact ⟨hbags, by decide +kernel, by decide +kernel, devices, hcount, hall, hsome⟩

end GpuDiscovery
