import GpuDiscovery.Proofs.Windows.DeviceTable
import GpuDiscovery.Proofs.Windows.Handles

/-!
# Enumerating a table of devices

What a query for devices comes to on a table: the faults that there are, in the order in which the
enumeration meets them (`DeviceTable.faults`), and the devices that it finds (`DeviceTable.found`).
The query ends with the first fault, and without faults it has found these devices, each with
exactly the properties that it has (`queryDevices_of_table`). An enumeration ends with a code of its
own, and that code is no fault; whatever comes behind it in the table is not there.

A device that does not match is passed over once its identifier is read. None of its properties
counts among the faults, because none of them is asked for.
-/

namespace GpuDiscovery.Windows

open Text Procedure

namespace TableDevice

/-- The enumeration does not end at the device. -/
def isListed (device : TableDevice) : Bool :=
  device.takeError ≠ some noMoreItems

/-- The device has an identifier that matches the query. -/
def isFoundBy (device : TableDevice) (query : DeviceQuery) : Bool :=
  device.idResult.toOption.any query.matchesId

/-- The faults of reading properties, in the order of reading. -/
def propertyFaults (device : TableDevice) (keys : List (String × PropertyKey)) :
    List DiscoveryError :=
  keys.filterMap fun entry =>
    match device.propertyResult entry.2 with
    | .error fault => some fault
    | .ok _ => none

/-- The faults that the enumeration meets at the device. -/
def faults (device : TableDevice) (query : DeviceQuery) : List DiscoveryError :=
  match device.takeError with
  | some code => [.win32 "SetupDiEnumDeviceInfo" code]
  | none =>
    match device.idResult with
    | .error fault => [fault]
    | .ok id =>
      if query.matchesId id then
        (device.propertyFaults DeviceSet.propertyKeys).map
          (.wrapped ("reading properties of device " ++ id))
      else []

/-- The map holds the identifier of the device and those of the five known properties that the
device has, and nothing else. -/
structure IsRecordedIn (device : TableDevice) (map : PropertyMap) : Prop where
  id : ∃ id, device.idResult = .ok id ∧ map.get? PropertyName.deviceId = some (.string id)
  known : ∀ entry ∈ DeviceSet.propertyKeys,
    device.propertyResult entry.2 = .ok (map.get? entry.1)
  unknown : ∀ name, name ≠ PropertyName.deviceId →
    name ∉ DeviceSet.propertyKeys.map (·.1) → map.get? name = none

end TableDevice

/-- The faults that an enumeration meets at some devices and behind them. -/
def enumerationFaults (endError : UInt32) (query : DeviceQuery) (devices : List TableDevice) :
    List DiscoveryError :=
  (devices.takeWhile TableDevice.isListed).flatMap (TableDevice.faults · query) ++
    if devices.all TableDevice.isListed && endError ≠ noMoreItems then
      [.win32 "SetupDiEnumDeviceInfo" endError]
    else []

/-- At a device at which the enumeration ends there are no faults any more. -/
theorem enumerationFaults_cons_of_not_listed {device : TableDevice}
    (h : ¬device.isListed = true) (endError : UInt32) (query : DeviceQuery)
    (rest : List TableDevice) : enumerationFaults endError query (device :: rest) = [] := by
  rw [enumerationFaults, List.takeWhile_cons_of_neg h, List.all_cons, Bool.eq_false_iff.2 h]
  rfl

/-- The faults of a device come in front of those behind it. -/
theorem enumerationFaults_cons_of_listed {device : TableDevice} (h : device.isListed = true)
    (endError : UInt32) (query : DeviceQuery) (rest : List TableDevice) :
    enumerationFaults endError query (device :: rest) =
      device.faults query ++ enumerationFaults endError query rest := by
  rw [enumerationFaults, enumerationFaults, List.takeWhile_cons_of_pos h, List.flatMap_cons,
    List.all_cons, h, Bool.true_and, List.append_assoc]

namespace DeviceTable

/-- The devices in front of the end of the enumeration. -/
def listed (table : DeviceTable) : List TableDevice :=
  table.devices.takeWhile TableDevice.isListed

/-- The devices that a query finds. -/
def found (table : DeviceTable) (query : DeviceQuery) : List TableDevice :=
  table.listed.filter (TableDevice.isFoundBy · query)

/-- The faults that a query meets. -/
def faults (table : DeviceTable) (query : DeviceQuery) : List DiscoveryError :=
  (table.openError.map (DiscoveryError.win32 "SetupDiGetClassDevsW")).toList ++
    enumerationFaults table.endError query table.devices

end DeviceTable

/-! ## The properties of a device -/

namespace TableDevice

variable (device : TableDevice)

/-- The properties with those under some keys added, as far as the device has them. -/
def addProperties (keys : List (String × PropertyKey)) (properties : PropertyMap) : PropertyMap :=
  keys.foldl
    (fun properties entry =>
      match device.propertyResult entry.2 with
      | .ok (some value) => properties.insert entry.1 value
      | _ => properties)
    properties

/-- What is recorded of a device with this identifier. -/
def record (id : String) : PropertyMap :=
  device.addProperties DeviceSet.propertyKeys
    (SortedMap.empty.insert PropertyName.deviceId (.string id))

/-- What is recorded of the device, if the query finds it. -/
def recordFor (query : DeviceQuery) : Option PropertyMap :=
  match device.idResult with
  | .ok id => if query.matchesId id then some (device.record id) else none
  | .error _ => none

variable {device}

/-- Under other names nothing is added. -/
theorem get?_addProperties_of_notMem {name : String} {keys : List (String × PropertyKey)}
    (h : name ∉ keys.map (·.1)) (properties : PropertyMap) :
    (device.addProperties keys properties).get? name = properties.get? name := by
  induction keys generalizing properties with
  | nil => rfl
  | cons entry rest ih =>
    rw [List.map_cons, List.mem_cons, not_or] at h
    rw [addProperties, List.foldl_cons]
    refine (ih h.2 _).trans ?_
    split
    · rw [SortedMap.get?_insert, if_neg h.1]
    · rfl

/-- Under a name of its own, a property is added if the device has it. -/
theorem get?_addProperties_of_mem {entry : String × PropertyKey}
    {keys : List (String × PropertyKey)} (hnodup : (keys.map (·.1)).Nodup) (hmem : entry ∈ keys)
    {properties : PropertyMap} (hnone : properties.get? entry.1 = none)
    {value? : Option PropertyValue} (hvalue : device.propertyResult entry.2 = .ok value?) :
    (device.addProperties keys properties).get? entry.1 = value? := by
  induction keys generalizing properties with
  | nil => exact absurd hmem List.not_mem_nil
  | cons first rest ih =>
    rw [List.map_cons, List.nodup_cons] at hnodup
    rw [addProperties, List.foldl_cons]
    rcases List.mem_cons.1 hmem with rfl | hmem
    -- The names behind the first one are others, and add nothing under it.
    · refine (get?_addProperties_of_notMem hnodup.1 _).trans ?_
      rw [hvalue]
      rcases value? with _ | value
      · exact hnone
      · rw [SortedMap.get?_insert, if_pos rfl]
    · have hne : entry.1 ≠ first.1 := by
        intro heq
        exact hnodup.1 (heq ▸ List.mem_map_of_mem hmem)
      refine ih hnodup.2 hmem ?_
      split
      · rw [SortedMap.get?_insert, if_neg hne]
        exact hnone
      · exact hnone

/-- Without faults every property is either had or not. -/
theorem isRecordedIn_record {id : String} (hid : device.idResult = .ok id)
    (hfaults : device.propertyFaults DeviceSet.propertyKeys = []) :
    device.IsRecordedIn (device.record id) := by
  have hnodup : (DeviceSet.propertyKeys.map (·.1)).Nodup := by decide
  have hdevice : PropertyName.deviceId ∉ DeviceSet.propertyKeys.map (·.1) := by decide
  refine ⟨⟨id, hid, ?_⟩, ?_, ?_⟩
  · rw [record, get?_addProperties_of_notMem hdevice, SortedMap.get?_insert, if_pos rfl]
  · intro entry hmem
    rw [propertyFaults, List.filterMap_eq_nil_iff] at hfaults
    have hfault := hfaults entry hmem
    rcases hvalue : device.propertyResult entry.2 with fault | value?
    · rw [hvalue] at hfault
      cases hfault
    · have hne : entry.1 ≠ PropertyName.deviceId := by
        intro heq
        exact hdevice (heq ▸ List.mem_map_of_mem hmem)
      have hnone : (SortedMap.empty.insert PropertyName.deviceId (.string id) :
          PropertyMap).get? entry.1 = none := by
        rw [SortedMap.get?_insert, if_neg hne]
        rfl
      rw [record, get?_addProperties_of_mem hnodup hmem hnone hvalue]
  · intro name hname hunknown
    rw [record, get?_addProperties_of_notMem hunknown, SortedMap.get?_insert, if_neg hname]
    rfl

/-- A device without faults is recorded if the query finds it. -/
theorem recordFor_of_isFoundBy {query : DeviceQuery} (hfaults : device.faults query = [])
    (hfound : device.isFoundBy query = true) :
    ∃ record, device.recordFor query = some record ∧ device.IsRecordedIn record := by
  rw [isFoundBy] at hfound
  rw [faults] at hfaults
  rw [recordFor]
  rcases htake : device.takeError with _ | code
  · rw [htake] at hfaults
    rcases hid : device.idResult with fault | id
    · rw [hid] at hfound
      cases hfound
    · rw [hid] at hfound hfaults
      have hmatch : query.matchesId id = true := hfound
      dsimp only at hfaults ⊢
      rw [if_pos hmatch] at hfaults ⊢
      exact ⟨_, rfl, isRecordedIn_record hid (List.map_eq_nil_iff.1 hfaults)⟩
  · rw [htake] at hfaults
    cases hfaults

/-- A device that the query does not find is not recorded. -/
theorem recordFor_of_not_isFoundBy {query : DeviceQuery}
    (hfound : ¬device.isFoundBy query = true) : device.recordFor query = none := by
  rw [isFoundBy] at hfound
  rw [recordFor]
  rcases hid : device.idResult with fault | id
  · rfl
  · rw [hid] at hfound
    exact if_neg hfound

/-- Where there are no faults, what is recorded are the devices that the query finds, in order. -/
theorem forall₂_isRecordedIn {query : DeviceQuery} {devices : List TableDevice}
    (h : ∀ device ∈ devices, device.faults query = []) :
    List.Forall₂ IsRecordedIn (devices.filter (isFoundBy · query))
      (devices.filterMap (recordFor · query)) := by
  induction devices with
  | nil => exact .nil
  | cons device rest ih =>
    rw [List.forall_mem_cons] at h
    by_cases hfound : device.isFoundBy query = true
    · obtain ⟨record, hrecord, hrecorded⟩ := recordFor_of_isFoundBy h.1 hfound
      rw [List.filter_cons, if_pos hfound, List.filterMap_cons, hrecord]
      exact .cons hrecorded (ih h.2)
    · rw [List.filter_cons, if_neg hfound, List.filterMap_cons,
        recordFor_of_not_isFoundBy hfound]
      exact ih h.2

end TableDevice

/-! ## Reading one device -/

namespace DeviceSet

variable {table : DeviceTable} {index : Nat} {device : TableDevice} {query : DeviceQuery}

/-- Reading properties stops at the first fault. -/
theorem outcomeBy_readProperties (hdevice : table.devices[index]? = some device)
    (keys : List (String × PropertyKey)) (properties : PropertyMap) :
    (readProperties index keys properties).outcomeBy table.answer =
      .ofFaults (device.propertyFaults keys) (device.addProperties keys properties) := by
  induction keys generalizing properties with
  | nil => rfl
  | cons entry rest ih =>
    rw [readProperties, outcomeBy_bind, outcomeBy_readProperty hdevice,
      TableDevice.propertyFaults, TableDevice.addProperties, List.filterMap_cons, List.foldl_cons]
    rcases device.propertyResult entry.2 with fault | _ | value
    · rfl
    · exact ih properties
    · exact ih (properties.insert entry.1 value)

/-- Reads the identifier of a device, and its properties if it matches. -/
def inspect (query : DeviceQuery) (index : Nat) :
    Procedure deviceSetSystem (Option PropertyMap) := do
  let id ← readInstanceId index
  if query.matchesId id then
    let properties ← readDevice index id
    return some properties
  else
    return none

/-- Reading devices is taking them one by one and inspecting each. -/
theorem readDevices_succ (query : DeviceQuery) (indicesLeft index : Nat) :
    readDevices query (indicesLeft + 1) index =
      callDeviceSet (.takeDevice index) >>= fun
        | .error code =>
          if code = noMoreItems then pure [] else fail (.win32 "SetupDiEnumDeviceInfo" code)
        | .ok () => do
          let device? ← inspect query index
          let others ← readDevices query indicesLeft (index + 1)
          return device?.toList ++ others := by
  rw [readDevices]
  refine congrArg (callDeviceSet _ >>= ·) (funext ?_)
  rintro (code | ⟨⟩)
  · rfl
  · dsimp only
    rw [inspect, bind_assoc]
    refine congrArg (readInstanceId index >>= ·) (funext ?_)
    intro id
    split
    · simp
    · simp

/-- Inspecting a device meets its faults, or records it if it matches. -/
theorem outcomeBy_inspect (hdevice : table.devices[index]? = some device)
    (htake : device.takeError = none) (query : DeviceQuery) :
    (inspect query index).outcomeBy table.answer =
      .ofFaults (device.faults query) (device.recordFor query) := by
  rw [inspect, outcomeBy_bind, outcomeBy_readInstanceId hdevice, TableDevice.faults, htake,
    TableDevice.recordFor]
  rcases device.idResult with fault | id
  · rfl
  · dsimp only [Outcome.ofExcept, Outcome.bind_value]
    split
    · rw [outcomeBy_bind, readDevice, outcomeBy_context, outcomeBy_readProperties hdevice,
        Outcome.ofFaults_context]
      exact Outcome.ofFaults_map _ _ some
    · rfl

/-! ## Reading all devices -/

/-- The three ways in which taking a device can go: the enumeration is over, it fails, or there is a
device. -/
theorem taking_cases (table : DeviceTable) (index : Nat) (query : DeviceQuery) :
    (table.answer (.takeDevice index) = .error noMoreItems ∧
        (table.devices.drop index).takeWhile TableDevice.isListed = [] ∧
        enumerationFaults table.endError query (table.devices.drop index) = []) ∨
      (∃ code later, table.answer (.takeDevice index) = .error code ∧ code ≠ noMoreItems ∧
        enumerationFaults table.endError query (table.devices.drop index) =
          .win32 "SetupDiEnumDeviceInfo" code :: later) ∨
      ∃ device, table.answer (.takeDevice index) = .ok () ∧
        table.devices[index]? = some device ∧ device.takeError = none ∧
        device.isListed = true ∧
        table.devices.drop index = device :: table.devices.drop (index + 1) := by
  rcases hdevice : table.devices[index]? with _ | device
  -- Behind the last device the enumeration ends, with the code for that or another one.
  · have hrest : table.devices.drop index = [] :=
      List.drop_eq_nil_of_le (List.getElem?_eq_none_iff.1 hdevice)
    have htaken : table.answer (.takeDevice index) = .error table.endError := by
      simp [DeviceTable.answer, DeviceTable.respond, hdevice]
    rw [htaken, hrest, enumerationFaults]
    by_cases hend : table.endError = noMoreItems
    · exact .inl ⟨congrArg Except.error hend, rfl, by simp [hend]⟩
    · exact .inr (.inl ⟨table.endError, [], rfl, hend, by simp [hend]⟩)
  · obtain ⟨hlt, rfl⟩ := List.getElem?_eq_some_iff.1 hdevice
    have hrest := List.drop_eq_getElem_cons hlt
    have htaken : table.answer (.takeDevice index) =
        succeedUnless () table.devices[index].takeError := by
      simp [DeviceTable.answer, DeviceTable.respond, hdevice]
    generalize table.devices[index] = device at hdevice hrest htaken
    rw [hrest, htaken]
    rcases htake : device.takeError with _ | code
    · have hlisted : device.isListed = true := by
        rw [TableDevice.isListed, htake]
        rfl
      exact .inr (.inr ⟨device, rfl, rfl, htake, hlisted, rfl⟩)
    · by_cases hend : code = noMoreItems
      · have hlisted : ¬device.isListed = true := by
          rw [TableDevice.isListed, htake, hend]
          decide
        exact .inl ⟨congrArg Except.error hend, List.takeWhile_cons_of_neg hlisted,
          enumerationFaults_cons_of_not_listed hlisted _ _ _⟩
      · have hlisted : device.isListed = true := by
          rw [TableDevice.isListed, htake]
          simpa using hend
        refine .inr (.inl ⟨code, enumerationFaults table.endError query
          (table.devices.drop (index + 1)), rfl, hend, ?_⟩)
        rw [enumerationFaults_cons_of_listed hlisted, TableDevice.faults, htake]
        rfl

/-- Reading devices from `index` on meets the faults of those that stand there, and records those
that match. -/
theorem outcomeBy_readDevices {indicesLeft : Nat}
    (hleft : ((table.devices.drop index).takeWhile TableDevice.isListed).length < indicesLeft)
    (query : DeviceQuery) :
    (readDevices query indicesLeft index).outcomeBy table.answer =
      .ofFaults (enumerationFaults table.endError query (table.devices.drop index))
        (((table.devices.drop index).takeWhile TableDevice.isListed).filterMap
          (TableDevice.recordFor · query)) := by
  induction indicesLeft generalizing index with
  | zero => exact absurd hleft (Nat.not_lt_zero _)
  | succ indicesLeft ih =>
    rw [readDevices_succ, outcomeBy_call_bind]
    rcases taking_cases table index query with
      ⟨htaken, hnone, hfaults⟩ | ⟨code, later, htaken, hend, hfaults⟩ |
        ⟨device, htaken, hdevice, htake, hlisted, hrest⟩
    · rw [htaken, hnone, hfaults]
      rfl
    · rw [htaken, hfaults]
      dsimp only
      rw [if_neg hend]
      rfl
    · rw [hrest, List.takeWhile_cons_of_pos hlisted] at hleft ⊢
      rw [htaken, enumerationFaults_cons_of_listed hlisted, List.filterMap_cons]
      dsimp only
      rw [outcomeBy_bind, outcomeBy_inspect hdevice htake]
      apply Outcome.ofFaults_bind
      rw [outcomeBy_bind, ih (Nat.lt_of_succ_lt_succ hleft)]
      refine (Outcome.ofFaults_map _ _ _).trans ?_
      rcases device.recordFor query with _ | record
      · rfl
      · rfl

end DeviceSet

/-! ## Which calls are made -/

namespace DeviceSetCall

/-- The index of the device that the call takes from the set. -/
def taken? : DeviceSetCall → Option Nat
  | takeDevice index => some index
  | _ => none

/-- The index of the device of which the call asks for a property. -/
def askedFor? : DeviceSetCall → Option Nat
  | propertySize index _ | readProperty index _ _ => some index
  | _ => none

end DeviceSetCall

namespace DeviceSet

variable {table : DeviceTable} {index : Nat} {device : TableDevice} {query : DeviceQuery}

/-- Inspecting a device takes none. -/
theorem callsOnly_inspect (query : DeviceQuery) (index : Nat) :
    (inspect query index).CallsOnly (DeviceSetCall.taken? · = none) := by
  refine CallsOnly.bind (callsOnly_readInstanceId rfl fun _ => rfl) fun id => ?_
  split
  · refine CallsOnly.bind (CallsOnly.context ?_ _) fun _ => trivial
    exact callsOnly_readProperties (fun _ => rfl) (fun _ _ => rfl) _
  · trivial

/-- Only of a device that matches properties are asked for. -/
theorem isFoundBy_of_askedFor (hdevice : table.devices[index]? = some device)
    {call : DeviceSetCall} (hcall : call ∈ (inspect query index).callsBy table.answer)
    {asked : Nat} (hasked : call.askedFor? = some asked) :
    asked = index ∧ device.isFoundBy query = true := by
  rcases (mem_callsBy_bind _).1 hcall with hreading | ⟨id, hid, hbehind⟩
  · have hnone : (readInstanceId index).CallsOnly (DeviceSetCall.askedFor? · = none) :=
      callsOnly_readInstanceId rfl fun _ => rfl
    rw [hnone.of_mem_callsBy hreading] at hasked
    cases hasked
  · rw [outcomeBy_readInstanceId hdevice, Outcome.ofExcept_eq_value_iff] at hid
    by_cases hmatch : query.matchesId id = true
    · rw [if_pos hmatch] at hbehind
      have hof : (readDevice index id >>= fun properties => pure (some properties)).CallsOnly
          (DeviceSetCall.askedFor? · = some index) := by
        refine CallsOnly.bind (CallsOnly.context ?_ _) fun _ => trivial
        exact callsOnly_readProperties (fun _ => rfl) (fun _ _ => rfl) _
      rw [hof.of_mem_callsBy hbehind] at hasked
      refine ⟨(Option.some.inj hasked).symm, ?_⟩
      rw [TableDevice.isFoundBy, hid]
      exact hmatch
    · rw [if_neg hmatch] at hbehind
      exact absurd hbehind List.not_mem_nil

/-- What is taken stands in the table. -/
theorem exists_device_of_taken (h : table.answer (.takeDevice index) = .ok ()) :
    ∃ device, table.devices[index]? = some device := by
  rw [← Option.isSome_iff_exists, Option.isSome_iff_ne_none]
  intro hnone
  simp [DeviceTable.answer, DeviceTable.respond, hnone] at h

/-- Properties are asked for of devices that match, whatever else there is in the table. -/
theorem isFoundBy_of_mem_readDevices {indicesLeft : Nat} {call : DeviceSetCall}
    (hcall : call ∈ (readDevices query indicesLeft index).callsBy table.answer)
    {asked : Nat} (hasked : call.askedFor? = some asked) :
    ∃ device, table.devices[asked]? = some device ∧ device.isFoundBy query = true := by
  induction indicesLeft generalizing index with
  | zero => exact absurd hcall List.not_mem_nil
  | succ indicesLeft ih =>
    rw [readDevices_succ] at hcall
    rcases (mem_callsBy_bind _).1 hcall with htaking | ⟨taken, htaken, hbehind⟩
    · rw [List.mem_singleton.1 htaking] at hasked
      cases hasked
    · rcases taken with code | ⟨⟩
      · dsimp only at hbehind
        split at hbehind
        · exact absurd hbehind List.not_mem_nil
        · exact absurd hbehind List.not_mem_nil
      · rcases (mem_callsBy_bind _).1 hbehind with hinspecting | ⟨device?, -, hothers⟩
        · obtain ⟨device, hdevice⟩ := exists_device_of_taken (Outcome.value.inj htaken)
          obtain ⟨rfl, hfound⟩ := isFoundBy_of_askedFor hdevice hinspecting hasked
          exact ⟨device, hdevice, hfound⟩
        · rcases (mem_callsBy_bind _).1 hothers with hothers | ⟨_, -, hnone⟩
          · exact ih hothers
          · exact absurd hnone List.not_mem_nil

/-- Devices are taken one after the other, and none behind the end of the enumeration. -/
theorem taken_readDevices {indicesLeft : Nat}
    (hleft : ((table.devices.drop index).takeWhile TableDevice.isListed).length < indicesLeft)
    (query : DeviceQuery) :
    ∃ count, ((readDevices query indicesLeft index).callsBy table.answer).filterMap
        DeviceSetCall.taken? = List.range' index count ∧
      count ≤ ((table.devices.drop index).takeWhile TableDevice.isListed).length + 1 ∧
      (enumerationFaults table.endError query (table.devices.drop index) = [] →
        count = ((table.devices.drop index).takeWhile TableDevice.isListed).length + 1) := by
  induction indicesLeft generalizing index with
  | zero => exact absurd hleft (Nat.not_lt_zero _)
  | succ indicesLeft ih =>
    rw [readDevices_succ, callsBy_call_bind]
    rcases taking_cases table index query with
      ⟨htaken, hnone, hfaults⟩ | ⟨code, later, htaken, hend, hfaults⟩ |
        ⟨device, htaken, hdevice, htake, hlisted, hrest⟩
    · rw [htaken, hnone]
      exact ⟨1, rfl, Nat.le_refl _, fun _ => rfl⟩
    · rw [htaken, hfaults]
      dsimp only
      rw [if_neg hend]
      exact ⟨1, rfl, by omega, nofun⟩
    · rw [hrest, List.takeWhile_cons_of_pos hlisted] at hleft ⊢
      obtain ⟨count, htakes, hle, hall⟩ := ih (Nat.lt_of_succ_lt_succ hleft)
      have hinspect : ((inspect query index).callsBy table.answer).filterMap
          DeviceSetCall.taken? = [] :=
        (callsOnly_inspect query index).filterMap_callsBy
      rw [htaken, enumerationFaults_cons_of_listed hlisted, List.filterMap_cons]
      dsimp only [DeviceSetCall.taken?]
      rw [callsBy_bind, List.filterMap_append, hinspect, List.nil_append,
        outcomeBy_inspect hdevice htake]
      rcases device.faults query with _ | ⟨fault, later⟩
      · dsimp only [Outcome.ofFaults_nil, Outcome.value?, Option.elim]
        rw [callsBy_map, htakes, List.nil_append]
        exact ⟨count + 1, rfl, Nat.succ_le_succ hle, fun hnone => congrArg Nat.succ (hall hnone)⟩
      · exact ⟨1, rfl, by omega, nofun⟩

/-! ## A query -/

/-- A set that cannot be opened ends the query, and nothing is called behind that. -/
theorem queryDevices_of_unopened {code : UInt32} (hopen : table.openError = some code)
    (query : DeviceQuery) :
    (queryDevices query).outcomeBy table.answer = .failed (.win32 "SetupDiGetClassDevsW" code) ∧
      (queryDevices query).callsBy table.answer =
        [.openSet pciEnumerator (openFlags query.presentOnly)] := by
  have hopened : table.answer (.openSet pciEnumerator (openFlags query.presentOnly)) =
      .error code := by
    simp [DeviceTable.answer, DeviceTable.respond, hopen, succeedUnless]
  rw [queryDevices, outcomeBy_call_bind, callsBy_call_bind, hopened]
  exact ⟨rfl, rfl⟩

/-- From a set that is opened the devices are read, and then it is destroyed. -/
theorem queryDevices_of_opened (hopen : table.openError = none) (query : DeviceQuery) :
    (queryDevices query).outcomeBy table.answer =
        (readDevices query indexCount 0).outcomeBy table.answer ∧
      (queryDevices query).callsBy table.answer =
        .openSet pciEnumerator (openFlags query.presentOnly) ::
          ((readDevices query indexCount 0).callsBy table.answer ++ [.destroySet]) := by
  have hopened : table.answer (.openSet pciEnumerator (openFlags query.presentOnly)) = .ok () := by
    simp [DeviceTable.answer, DeviceTable.respond, hopen, succeedUnless]
  have hdestroy : destroy.callsBy table.answer = [.destroySet] := by
    rw [destroy, callsBy_call_bind]
    rcases table.answer .destroySet with code | ⟨⟩
    · rfl
    · rfl
  rw [queryDevices, outcomeBy_call_bind, callsBy_call_bind, hopened, check]
  dsimp only
  rw [pure_bind, outcomeBy_ensuring, callsBy_ensuring, hdestroy]
  exact ⟨rfl, rfl⟩

/-- A query meets the faults of its table, or records the devices in front of the end. -/
theorem outcomeBy_queryDevices (hindices : table.listed.length < indexCount)
    (query : DeviceQuery) :
    (queryDevices query).outcomeBy table.answer =
      .ofFaults (table.faults query)
        (table.listed.filterMap (TableDevice.recordFor · query)) := by
  rw [DeviceTable.faults]
  rcases hopen : table.openError with _ | code
  · rw [(queryDevices_of_opened hopen query).1, outcomeBy_readDevices hindices]
    rfl
  · rw [(queryDevices_of_unopened hopen query).1]
    rfl

theorem taken_queryDevices (hindices : table.listed.length < indexCount) (query : DeviceQuery) :
    ∃ count ≤ table.listed.length + 1,
      ((queryDevices query).callsBy table.answer).filterMap DeviceSetCall.taken? =
          List.range count ∧
        (table.faults query = [] → count = table.listed.length + 1) := by
  rw [DeviceTable.faults]
  rcases hopen : table.openError with _ | code
  · obtain ⟨count, htaken, hle, hall⟩ := @taken_readDevices table 0 indexCount hindices query
    refine ⟨count, hle, ?_, hall⟩
    rw [(queryDevices_of_opened hopen query).2, List.filterMap_cons_none rfl,
      List.filterMap_append, htaken, List.range_eq_range']
    exact List.append_nil _
  · rw [(queryDevices_of_unopened hopen query).2]
    exact ⟨0, Nat.zero_le _, rfl, nofun⟩

theorem isFoundBy_of_mem_queryDevices {call : DeviceSetCall}
    (hcall : call ∈ (queryDevices query).callsBy table.answer) {asked : Nat}
    (hasked : call.askedFor? = some asked) :
    ∃ device, table.devices[asked]? = some device ∧ device.isFoundBy query = true := by
  rcases hopen : table.openError with _ | code
  · rw [(queryDevices_of_opened hopen query).2, List.mem_cons, List.mem_append,
      List.mem_singleton] at hcall
    rcases hcall with rfl | hreading | rfl
    · cases hasked
    · exact isFoundBy_of_mem_readDevices hreading hasked
    · cases hasked
  · rw [(queryDevices_of_unopened hopen query).2, List.mem_singleton] at hcall
    rw [hcall] at hasked
    cases hasked

/-- **Enumerating a table of devices.** Without faults a query finds, in their order, the devices
whose identifiers match, each with exactly the properties that it has; otherwise it fails with the
first fault. Devices are taken in the order of their indices up to the end of the enumeration, and
of those that do not match no property is asked for.

Indices have 32 bits and the system tells the end at one of them, so there are fewer devices than
indices in front of it. -/
theorem queryDevices_of_table (table : DeviceTable) (query : DeviceQuery)
    (hindices : table.listed.length < indexCount) :
    let run := (queryDevices query).run table.respond
    (table.faults query = [] →
        (∃ maps, run.outcome = .value maps ∧
          List.Forall₂ TableDevice.IsRecordedIn (table.found query) maps) ∧
        run.calls.filterMap DeviceSetCall.taken? = List.range (table.listed.length + 1)) ∧
      (∀ fault later, table.faults query = fault :: later →
        run.outcome = .failed fault ∧
          ∃ count ≤ table.listed.length + 1,
            run.calls.filterMap DeviceSetCall.taken? = List.range count) ∧
      ∀ call ∈ run.calls, ∀ index, call.askedFor? = some index →
        ∃ device, table.devices[index]? = some device ∧ device.isFoundBy query = true := by
  intro run
  have hrun : run = (queryDevices query).runAfter (fun _ => table.answer) [] :=
    run_eq_runAfter _ _
  obtain ⟨houtcome, hcalls⟩ :=
    @runAfter_const deviceSetSystem _ table.answer (queryDevices query) []
  rw [hrun, houtcome, hcalls, outcomeBy_queryDevices hindices]
  obtain ⟨count, hle, htaken, hall⟩ := taken_queryDevices hindices query
  refine ⟨?_, ?_, ?_⟩
  · intro hnone
    rw [htaken, hall hnone, hnone]
    refine ⟨⟨_, rfl, ?_⟩, rfl⟩
    apply TableDevice.forall₂_isRecordedIn
    intro device hmem
    have hfaults : enumerationFaults table.endError query table.devices = [] :=
      (List.append_eq_nil_iff.1 hnone).2
    rw [enumerationFaults, List.append_eq_nil_iff, List.flatMap_eq_nil_iff] at hfaults
    exact hfaults.1 device hmem
  · intro fault later hfaults
    rw [hfaults]
    exact ⟨rfl, count, hle, htaken⟩
  · intro call hcall index hasked
    exact isFoundBy_of_mem_queryDevices hcall hasked

/-- A machine with two cards. Of the first one the driver was never told, and something stands
behind the zero of its identifier. The description of the second one cannot be read. -/
def faultyPair : DeviceTable where
  openError := none
  devices := [
    { takeError := none
      id := Utf16.encode "PCI\\VEN_10DE&DEV_20B0\\0" ++ [0, 0x41]
      idSizeError := none
      idError := none
      properties := .ofList [
        ((PropertyKey.ofDevice 2).name, ⟨18, [0x41, 0, 0, 0], none, none⟩),
        ((PropertyKey.ofDevice 11).name, ⟨18, [], some notFound, none⟩),
        (PropertyKey.adapterLuid.name, ⟨8, [0xA3, 0xD2, 0, 0, 0, 0, 0, 0], none, none⟩)] },
    { takeError := none
      id := Utf16.encode "PCI\\VEN_1414&DEV_008E\\1"
      idSizeError := none
      idError := none
      properties := .ofList [((PropertyKey.ofDevice 2).name, ⟨18, [0x42, 0], none, some 5⟩)] }]
  endError := noMoreItems
  destroyError := none

/-- A query for the first card does not touch the description of the second one, and a query for
both fails because of it. -/
theorem queryDevices_of_faultyPair :
    let first : DeviceQuery := .ofPatterns [⟨"pci\\ven_10de"⟩]
    let both : DeviceQuery := .ofPatterns [⟨"pci\\ven_10de"⟩, ⟨"pci\\ven_1414"⟩]
    faultyPair.listed.length < indexCount ∧ faultyPair.faults first = [] ∧
      (∃ properties, ((queryDevices first).run faultyPair.respond).outcome = .value [properties]) ∧
      ((queryDevices both).run faultyPair.respond).outcome =
        .failed (.wrapped "reading properties of device PCI\\VEN_1414&DEV_008E\\1"
          (.win32 (propertyOperation (.ofDevice 2)) 5)) := by
  intro first both
  have hindices : faultyPair.listed.length < indexCount := by decide +kernel
  have hfirst : faultyPair.faults first = [] := by decide +kernel
  have hboth : faultyPair.faults both =
      [.wrapped "reading properties of device PCI\\VEN_1414&DEV_008E\\1"
        (.win32 (propertyOperation (.ofDevice 2)) 5)] := by decide +kernel
  have hfound : (faultyPair.found first).length = 1 := by decide +kernel
  refine ⟨hindices, hfirst, ?_, ?_⟩
  · obtain ⟨⟨maps, houtcome, hrecorded⟩, -⟩ :=
      (queryDevices_of_table faultyPair first hindices).1 hfirst
    obtain ⟨properties, rfl⟩ := List.length_eq_one_iff.1 (hrecorded.length_eq.symm.trans hfound)
    exact ⟨properties, houtcome⟩
  · exact ((queryDevices_of_table faultyPair both hindices).2.1 _ _ hboth).1

end DeviceSet

end GpuDiscovery.Windows
