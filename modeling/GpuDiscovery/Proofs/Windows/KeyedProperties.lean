import GpuDiscovery.Proofs.Device.Correlation
import GpuDiscovery.Proofs.Property.KeyName
import GpuDiscovery.Windows.DeviceTable

/-!
# Which properties stand under the names of keys

Of the six properties that are recorded of a device, five have plain names of their own and one
stands under the name of its key. No key has a plain name, and no two keys have the same one
(`PropertyKey.name_inj`), so an entry under the name of a key is found under no other name that a
reader can ask for: neither a plain one nor that of another key. Of the keys only that of the
adapter's identifier is ever recorded, with what the system told under this key
(`get?_of_path_readProperties`), and only that one is read when a device is correlated
(`PropertyBag.readDevice_congr`).
-/

namespace GpuDiscovery

open Procedure

namespace PropertyName

/-- The names of properties that are not those of their keys. -/
def plain : List String :=
  [deviceId, description, manufacturer, driver, locationPaths]

/-- Plain names begin with no brace, and the names of keys do. -/
theorem name_notMem_plain (key : PropertyKey) : key.name ∉ plain := by
  have hplain : ∀ name ∈ plain, name.toList.head? ≠ some '\x7b' := by decide
  intro hmem
  exact hplain _ hmem key.head?_name

end PropertyName

/-! ## Reading -/

namespace PropertyBag

theorem readOptional_congr {α : Type} {bag other : PropertyBag} {name : String}
    (h : bag name = other name) (read : String → PropertyValue → Except DiscoveryError α) :
    bag.readOptional name read = other.readOptional name read := by
  simp only [readOptional, h]

/-- A device is read through the plain names and the name of one key. -/
theorem readDevice_congr {bag other : PropertyBag}
    (hplain : ∀ name ∈ PropertyName.plain, bag name = other name)
    (hluid : bag PropertyName.adapterLuid = other PropertyName.adapterLuid) :
    bag.readDevice = other.readDevice := by
  simp only [PropertyName.plain, List.forall_mem_cons] at hplain
  obtain ⟨hid, hdescription, hvendor, hdriver, hpaths, -⟩ := hplain
  simp only [readDevice, readOptional_congr hid, readOptional_congr hdescription,
    readOptional_congr hvendor, readOptional_congr hdriver, readOptional_congr hpaths,
    readOptional_congr hluid]

end PropertyBag

namespace PropertyMap

variable (map : PropertyMap) (key : PropertyKey) (value : PropertyValue)

/-- An entry under the name of a key changes nothing under the plain names. -/
theorem get?_insert_of_plain {name : String} (hname : name ∈ PropertyName.plain) :
    (map.insert key.name value).get? name = map.get? name := by
  rw [SortedMap.get?_insert, if_neg]
  rintro rfl
  exact PropertyName.name_notMem_plain key hname

/-- Under the names of keys it changes what is found for its own key. -/
theorem get?_insert_name (other : PropertyKey) :
    (map.insert key.name value).get? other.name =
      if other = key then some value else map.get? other.name := by
  simp only [SortedMap.get?_insert, PropertyKey.name_inj]

end PropertyMap

/-! ## Recording -/

namespace Windows.DeviceSet

variable {index : Nat} {talk : List (Exchange deviceSetSystem)} {map properties : PropertyMap}
  {entries : List (String × PropertyKey)}

/-- What is read with the first key is recorded under its name, and with it the others are read. -/
theorem path_readProperties_cons {entry : String × PropertyKey}
    (h : (readProperties index (entry :: entries) properties).Path talk (.value map)) :
    ∃ found? middle reading behind, talk = reading ++ behind ∧
      (readProperty index entry.2).Path reading (.value found?) ∧
      (readProperties index entries middle).Path behind (.value map) ∧
      ∀ name, middle.get? name =
        if name = entry.1 then found?.or (properties.get? name) else properties.get? name := by
  obtain ⟨found?, reading, behind, rfl, hreading, hbehind⟩ := path_bind_value_iff.1 h
  cases found? with
  | none =>
    refine ⟨none, properties, reading, behind, rfl, hreading, hbehind, fun name => ?_⟩
    simp only [Option.none_or, ite_self]
  | some value =>
    refine ⟨some value, properties.insert entry.1 value, reading, behind, rfl, hreading, hbehind,
      fun name => ?_⟩
    simp only [SortedMap.get?_insert, Option.some_or]

/-- Under other names nothing is recorded. -/
theorem get?_of_path_readProperties_of_notMem
    (h : (readProperties index entries properties).Path talk (.value map)) {name : String}
    (hname : name ∉ entries.map (·.1)) : map.get? name = properties.get? name := by
  induction entries generalizing properties talk with
  | nil =>
    obtain ⟨-, hmap⟩ := path_pure_iff.1 h
    rw [Outcome.value.inj hmap]
  | cons entry rest ih =>
    rw [List.map_cons, List.mem_cons, not_or] at hname
    obtain ⟨_, middle, _, _, -, -, hbehind, hmiddle⟩ := path_readProperties_cons h
    rw [ih hbehind hname.2, hmiddle, if_neg hname.1]

/-- What is recorded under a name is what was read with its key. -/
theorem get?_of_path_readProperties
    (h : (readProperties index entries properties).Path talk (.value map))
    (hnames : (entries.map (·.1)).Nodup) {name : String} {key : PropertyKey}
    (hmem : (name, key) ∈ entries) :
    ∃ found? part, part <:+: talk ∧ (readProperty index key).Path part (.value found?) ∧
      map.get? name = found?.or (properties.get? name) := by
  induction entries generalizing properties talk with
  | nil => exact absurd hmem List.not_mem_nil
  | cons entry rest ih =>
    rw [List.map_cons, List.nodup_cons] at hnames
    obtain ⟨found?, middle, reading, behind, rfl, hreading, hbehind, hmiddle⟩ :=
      path_readProperties_cons h
    rcases List.mem_cons.1 hmem with rfl | hmem
    · refine ⟨found?, reading, (List.prefix_append _ _).isInfix, hreading, ?_⟩
      rw [get?_of_path_readProperties_of_notMem hbehind hnames.1, hmiddle, if_pos rfl]
    · obtain ⟨told?, part, hpart, htold, hfound⟩ := ih hbehind hnames.2 hmem
      have hne : name ≠ entry.1 := by
        rintro rfl
        exact hnames.1 (List.mem_map.2 ⟨_, hmem, rfl⟩)
      rw [hmiddle, if_neg hne] at hfound
      exact ⟨told?, part, hpart.trans (List.suffix_append _ _).isInfix, htold, hfound⟩

/-- Of a device nothing is recorded under the name of a key, except the identifier of its adapter
under the name of the key for that. -/
theorem get?_name_of_path_readDevice {id : String}
    (h : (readDevice index id).Path talk (.value map)) :
    (∀ key : PropertyKey, key ≠ .adapterLuid → map.get? key.name = none) ∧
      ∃ found? part, part <:+: talk ∧
        (readProperty index .adapterLuid).Path part (.value found?) ∧
        map.get? PropertyKey.adapterLuid.name = found? := by
  rw [readDevice, path_context_value_iff] at h
  -- The identifier of the device was recorded first, under a plain name.
  have hfirst : ∀ key : PropertyKey,
      (SortedMap.empty.insert PropertyName.deviceId (.string id) : PropertyMap).get? key.name =
        none := by
    intro key
    have hne : key.name ≠ PropertyName.deviceId := fun heq =>
      PropertyName.name_notMem_plain key (heq ▸ List.mem_cons_self)
    rw [SortedMap.get?_insert, if_neg hne, SortedMap.get?_empty]
  constructor
  · intro key hkey
    rw [get?_of_path_readProperties_of_notMem h, hfirst]
    intro hmem
    have hnames : ∀ name ∈ propertyKeys.map (·.1),
        name ∈ PropertyName.plain ∨ name = PropertyKey.adapterLuid.name := by decide
    rcases hnames _ hmem with hplain | hname
    · exact PropertyName.name_notMem_plain key hplain
    · exact hkey (PropertyKey.name_inj.1 hname)
  · have hmem : (PropertyKey.adapterLuid.name, .adapterLuid) ∈ propertyKeys := by decide
    obtain ⟨found?, part, hpart, htold, hfound⟩ :=
      get?_of_path_readProperties h (by decide) hmem
    rw [hfirst, Option.or_none] at hfound
    exact ⟨found?, part, hpart, htold, hfound⟩

end Windows.DeviceSet

/-! ## From the system to the reader -/

/-- What is read of a device as the identifier of its adapter is what stands in the map under the
name of the key for it. -/
theorem adapterLuid_of_readDevice {map : PropertyMap} {properties : DeviceProperties}
    (h : map.bag.readDevice = .value properties) :
    properties.adapterLuid = (map.get? PropertyKey.adapterLuid.name).bind fun value =>
      (value.asInt64 PropertyKey.adapterLuid.name).toOption := by
  rw [← (PropertyBag.describes_of_readDevice h).1, PropertyBag.luid?, PropertyBag.property?,
    PropertyMap.bag, PropertyName.adapterLuid]
  cases map.get? PropertyKey.adapterLuid.name with
  | none => rfl
  | some value => rfl

open Windows DeviceSet in
/-- **Names tell keys apart.** Keys with the same name are the same, and no key has one of the five
plain names. So when a device is recorded, whatever the system answers, nothing stands under the
name of a key but what the system told of the identifier of the adapter, under that key's name; and
who reads the device reads this and nothing else as the identifier of the adapter. In general, an
entry under the name of a key is found under no plain name and under the name of no other key, and
unless it is under the name of the key for the adapter's identifier, the device is read as if the
entry were not there. -/
theorem PropertyKey.name_identifies :
    (∀ key other : PropertyKey, key.name = other.name ↔ key = other) ∧
    (∀ key : PropertyKey, key.name ∉ PropertyName.plain) ∧
    (∀ (respond : deviceSetSystem.Responder) (past : List DeviceSetCall) (index : Nat)
      (id : String) (map : PropertyMap),
      let run := (readDevice index id).runAfter respond past
      run.outcome = .value map →
        (∀ key : PropertyKey, key ≠ .adapterLuid → map.get? key.name = none) ∧
        ∃ found? part, part <:+: exchangesAfter respond past run.calls ∧
          (readProperty index .adapterLuid).Path part (.value found?) ∧
          map.get? PropertyKey.adapterLuid.name = found? ∧
          ∀ properties, map.bag.readDevice = .value properties →
            properties.adapterLuid = found?.bind fun value =>
              (value.asInt64 PropertyKey.adapterLuid.name).toOption) ∧
    ∀ (map : PropertyMap) (key : PropertyKey) (value : PropertyValue),
      (∀ other : PropertyKey, (map.insert key.name value).get? other.name =
        if other = key then some value else map.get? other.name) ∧
      (∀ name ∈ PropertyName.plain, (map.insert key.name value).get? name = map.get? name) ∧
      (key ≠ .adapterLuid →
        PropertyBag.readDevice (PropertyMap.bag (map.insert key.name value)) =
          map.bag.readDevice) := by
  refine ⟨fun _ _ => PropertyKey.name_inj, PropertyName.name_notMem_plain, ?_, ?_⟩
  · intro respond past index id map run houtcome
    have hpath : (readDevice index id).Path (exchangesAfter respond past run.calls)
        (.value map) := by
      rw [← houtcome]
      exact path_runAfter respond _ past
    obtain ⟨hothers, found?, part, hpart, htold, hfound⟩ := get?_name_of_path_readDevice hpath
    refine ⟨hothers, found?, part, hpart, htold, hfound, fun properties hread => ?_⟩
    rw [adapterLuid_of_readDevice hread, hfound]
  · intro map key value
    have hplain : ∀ name ∈ PropertyName.plain,
        (map.insert key.name value).get? name = map.get? name :=
      fun _ hname => PropertyMap.get?_insert_of_plain map key value hname
    refine ⟨PropertyMap.get?_insert_name map key value, hplain, fun hkey => ?_⟩
    apply PropertyBag.readDevice_congr
    · intro name hname
      simp only [PropertyMap.bag, hplain name hname]
    · simp only [PropertyMap.bag, PropertyName.adapterLuid,
        PropertyMap.get?_insert_name map key value, if_neg (Ne.symm hkey)]

namespace Windows.DeviceSet

/-- A machine with one card, which tells its description and the identifier of its adapter. -/
def luidCard : DeviceTable where
  openError := none
  devices := [
    { takeError := none
      id := Text.Utf16.encode "PCI\\VEN_10DE&DEV_20B0\\0"
      idSizeError := none
      idError := none
      properties := .ofList [
        ((PropertyKey.ofDevice 2).name, ⟨18, [0x41, 0, 0, 0], none, none⟩),
        (PropertyKey.adapterLuid.name, ⟨8, [0xA3, 0xD2, 0, 0, 0, 0, 0, 0], none, none⟩)] }]
  endError := noMoreItems
  destroyError := none

/-- What is recorded of the card. -/
def luidCardProperties : PropertyMap :=
  .ofList [
    (PropertyName.deviceId, .string "PCI\\VEN_10DE&DEV_20B0\\0"),
    (PropertyName.description, .string "A"),
    (PropertyKey.adapterLuid.name, .int64 0xD2A3)]

/-- The description of the card is not found under the name of its key, as the identifier of the
adapter is. Nor would anything be read differently if it were. -/
theorem name_identifies_luidCard :
    let map := luidCardProperties
    let description : PropertyKey := .ofDevice 2
    ((readDevice 0 "PCI\\VEN_10DE&DEV_20B0\\0").runAfter luidCard.respond []).outcome =
        .value map ∧
      map.get? description.name = none ∧
      map.get? PropertyKey.adapterLuid.name = some (.int64 0xD2A3) ∧
      (∃ properties, map.bag.readDevice = .value properties ∧
        properties.adapterLuid = some 0xD2A3) ∧
      PropertyBag.readDevice (PropertyMap.bag (map.insert description.name (.string "B"))) =
        map.bag.readDevice := by
  intro map description
  have hrun : ((readDevice 0 "PCI\\VEN_10DE&DEV_20B0\\0").runAfter luidCard.respond []).outcome =
      .value map := by decide +kernel
  have hluid : map.get? PropertyKey.adapterLuid.name = some (.int64 0xD2A3) := by decide +kernel
  have hdescription : description ≠ .adapterLuid := by decide
  have hread : map.bag.readDevice = .value
      ⟨"PCI\\VEN_10DE&DEV_20B0\\0", "", "", some 0xD2A3, "A", ""⟩ := by decide +kernel
  obtain ⟨-, -, hrecorded, hinserted⟩ := PropertyKey.name_identifies
  obtain ⟨hothers, found?, _, _, _, hfound, hreader⟩ :=
    hrecorded luidCard.respond [] 0 "PCI\\VEN_10DE&DEV_20B0\\0" map hrun
  refine ⟨hrun, hothers description hdescription, hluid, ⟨_, hread, ?_⟩, ?_⟩
  · rw [hreader _ hread, ← hfound, hluid]
    rfl
  · exact (hinserted map description (.string "B")).2.2 hdescription

end Windows.DeviceSet

end GpuDiscovery
