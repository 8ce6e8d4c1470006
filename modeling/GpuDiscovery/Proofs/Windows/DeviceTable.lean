import GpuDiscovery.Proofs.Procedure.Evaluation
import GpuDiscovery.Proofs.SortedMap
import GpuDiscovery.Windows.DeviceTable

/-!
# What a table tells of a device

Identifiers and properties are read in two calls, and any of the four can fail with any code. Here
is said what comes of them, given what stands in a table (`TableDevice.idResult`,
`TableDevice.propertyResult`), and that the procedures which make the calls come to that. Two codes
of the size calls are no failures: want of a buffer, behind which the size that was told counts,
and, of a property, that there is none.
-/

namespace GpuDiscovery.Windows

open Text Procedure

/-- The code of a size call that really failed. -/
def sizeFailure? (error : Option UInt32) : Option UInt32 :=
  error.filter (· ≠ insufficientBuffer)

/-- The code with which a call that writes to a buffer fails. -/
def readFailure? (error : Option UInt32) (fits : Bool) : Option UInt32 :=
  error.or (if fits then none else some insufficientBuffer)

theorem fits_of_readFailure?_eq_none {error : Option UInt32} {fits : Bool}
    (h : readFailure? error fits = none) : fits = true := by
  rw [readFailure?, Option.or_eq_none_iff] at h
  rcases fits with _ | _
  · cases h.2
  · rfl

/-- The answers of a system with these devices, which do not depend on earlier calls. -/
abbrev DeviceTable.answer (table : DeviceTable) (call : DeviceSetCall) : call.Answer :=
  table.respond [] call

namespace TableDevice

/-- There is room for the identifier and its terminator. A size call that fails tells no size, and
then there is room for a terminator only. -/
def idFits (device : TableDevice) : Bool :=
  if device.idSizeError.isSome then device.id.isEmpty else device.id.length + 1 < 0x100000000

/-- The code with which reading the identifier fails. -/
def idFault? (device : TableDevice) : Option UInt32 :=
  (sizeFailure? device.idSizeError).or (readFailure? device.idError device.idFits)

/-- What reading the identifier comes to: the text in front of the first zero unit. -/
def idResult (device : TableDevice) : Except DiscoveryError String :=
  match device.idFault? with
  | some code => .error (.win32 "SetupDiGetDeviceInstanceIdW" code)
  | none =>
    match Utf16.decode? (Utf16.beforeZero device.id) with
    | some id => .ok id
    | none => .error DeviceSet.malformedId

end TableDevice

namespace TableProperty

/-- There is room for the bytes. A size call that fails tells no size, and then there is none. -/
def fits (property : TableProperty) : Bool :=
  if property.sizeError.isSome then property.bytes.isEmpty else property.bytes.length < 0x100000000

/-- The code with which reading the property fails. -/
def fault? (property : TableProperty) : Option UInt32 :=
  (sizeFailure? property.sizeError).or (readFailure? property.readError property.fits)

/-- The type that is told. A size call that fails tells none. -/
def toldType (property : TableProperty) : UInt32 :=
  if property.sizeError.isSome then 0 else property.type

/-- What reading the property comes to. -/
def result (property : TableProperty) (key : PropertyKey) :
    Except DiscoveryError (Option PropertyValue) :=
  if property.sizeError = some notFound then .ok none
  else
    match property.fault? with
    | some code => .error (.win32 (DeviceSet.propertyOperation key) code)
    | none => (decodeProperty property.toldType property.bytes).map some

end TableProperty

/-- What reading a property of the device comes to, which may be that the device does not have
it. -/
def TableDevice.propertyResult (device : TableDevice) (key : PropertyKey) :
    Except DiscoveryError (Option PropertyValue) :=
  match device.properties.get? key.name with
  | some property => property.result key
  | none => .ok none

/-! ## Reading in two calls -/

/-- A buffer of the size of what is written into it holds that. -/
theorem cells_write_zeroed {α : Type} [OfNat α 0] {capacity : Nat} {written : List α}
    (h : capacity = written.length) :
    ((Buffer.zeroed capacity).write written).cells = written := by
  rw [h]
  exact Buffer.take_write (.zeroed written.length) written

/-- Nothing behind a zero unit counts. -/
theorem beforeZero_concat (units : List UInt16) :
    Utf16.beforeZero (units ++ [0]) = Utf16.beforeZero units := by
  induction units with
  | nil => rfl
  | cons unit rest ih =>
    rw [List.cons_append, Utf16.beforeZero, Utf16.beforeZero, List.takeWhile_cons,
      List.takeWhile_cons]
    exact ite_congr rfl (fun _ => congrArg (unit :: ·) ih) fun _ => rfl

variable {table : DeviceTable} {index : Nat} {device : TableDevice}

namespace TableDevice

/-- The room with which the identifier is read: what was told, and at least the terminator. -/
theorem toNat_room (size : UInt32) : (max size 1).toNat = max size.toNat 1 := by
  have hone : (1 : UInt32).toNat = 1 := rfl
  rw [show max size 1 = if size ≤ 1 then 1 else size from rfl]
  split
  · rename_i hle
    rw [UInt32.le_iff_toNat_le] at hle
    omega
  · rename_i hgt
    rw [UInt32.le_iff_toNat_le] at hgt
    omega

/-- Where the identifier fits, there is as much room as it takes. -/
theorem toNat_room_of_idFits (h : device.idFits = true) :
    (max device.idSize.size 1).toNat = device.id.length + 1 := by
  rw [toNat_room, idSize]
  rw [idFits] at h
  rcases hsize : device.idSizeError with _ | code
  · rw [hsize] at h
    have hlt : device.id.length + 1 < 2 ^ 32 := by simpa using h
    dsimp only
    rw [UInt32.toNat_ofNat_of_lt' hlt]
    omega
  · rw [hsize] at h
    have hnil : device.id = [] := by simpa using h
    rw [hnil]
    rfl

/-- Where it does not, there is less. -/
theorem toNat_room_lt (h : ¬device.idFits = true) :
    (max device.idSize.size 1).toNat < device.id.length + 1 := by
  rw [toNat_room, idSize]
  rw [idFits] at h
  rcases hsize : device.idSizeError with _ | code
  · rw [hsize] at h
    have hge : 2 ^ 32 ≤ device.id.length + 1 := by simpa using h
    dsimp only
    rw [UInt32.toNat_ofNat']
    omega
  · rw [hsize] at h
    have hne : device.id ≠ [] := by simpa using h
    have hpos := List.length_pos_iff.2 hne
    have hzero : (0 : UInt32).toNat = 0 := rfl
    dsimp only
    omega

/-- What the second call answers to the room that was told by the first. -/
theorem readId_room (device : TableDevice) :
    device.readId (max device.idSize.size 1) =
      match readFailure? device.idError device.idFits with
      | some code => .error code
      | none => .ok (device.id ++ [0]) := by
  rw [readId, readFailure?]
  rcases device.idError with _ | code
  · dsimp only
    by_cases hfits : device.idFits = true
    · have hroom := toNat_room_of_idFits hfits
      rw [if_neg (by omega), if_pos hfits]
      rfl
    · have hroom := toNat_room_lt hfits
      rw [if_pos (by omega), if_neg hfits]
      rfl
  · rfl

end TableDevice

namespace TableProperty

variable {property : TableProperty}

/-- The size call fails as it is made to, and for want of a buffer. -/
theorem error_size (property : TableProperty) :
    sizeFailure? property.size.error = sizeFailure? property.sizeError ∧
      (property.size.error = some notFound ↔ property.sizeError = some notFound) := by
  rw [size]
  rcases property.sizeError with _ | code
  · have hne : some insufficientBuffer ≠ some notFound := by decide
    dsimp only
    split
    · simp
    · exact ⟨rfl, iff_of_false hne nofun⟩
  · exact ⟨rfl, Iff.rfl⟩

theorem type_size (property : TableProperty) : property.size.type = property.toldType := by
  rw [size, toldType]
  rcases property.sizeError with _ | code
  · dsimp only
    split
    · rfl
    · rfl
  · rfl

/-- Where the bytes fit, there is as much room as they take. -/
theorem toNat_size_of_fits (h : property.fits = true) :
    property.size.size.toNat = property.bytes.length := by
  rw [size]
  rw [fits] at h
  rcases hsize : property.sizeError with _ | code
  · rw [hsize] at h
    have hlt : property.bytes.length < 2 ^ 32 := by simpa using h
    dsimp only
    split
    · rename_i hempty
      rw [List.isEmpty_iff.1 hempty]
      rfl
    · exact UInt32.toNat_ofNat_of_lt' hlt
  · rw [hsize] at h
    have hnil : property.bytes = [] := by simpa using h
    rw [hnil]
    rfl

/-- Where they do not, there is less. -/
theorem toNat_size_lt (h : ¬property.fits = true) :
    property.size.size.toNat < property.bytes.length := by
  rw [size]
  rw [fits] at h
  rcases hsize : property.sizeError with _ | code
  · rw [hsize] at h
    have hge : 2 ^ 32 ≤ property.bytes.length := by simpa using h
    have hpos : 0 < property.bytes.length := by omega
    dsimp only
    split
    · exact hpos
    · dsimp only
      rw [UInt32.toNat_ofNat']
      omega
  · rw [hsize] at h
    have hne : property.bytes ≠ [] := by simpa using h
    exact List.length_pos_iff.2 hne

/-- What the second call answers to the room that was told by the first. -/
theorem read_size (property : TableProperty) :
    property.read property.size.size =
      match readFailure? property.readError property.fits with
      | some code => .error code
      | none => .ok ⟨none, property.bytes⟩ := by
  rw [read, readFailure?]
  rcases property.readError with _ | code
  · dsimp only
    by_cases hfits : property.fits = true
    · have hroom := toNat_size_of_fits hfits
      rw [if_neg (by omega), if_pos hfits]
      rfl
    · have hroom := toNat_size_lt hfits
      rw [if_pos hroom, if_neg hfits]
      rfl
  · rfl

end TableProperty

namespace DeviceSet

/-- A call is evaluated by answering it. -/
theorem outcomeBy_call_bind {β : Type} (answer : (call : DeviceSetCall) → call.Answer)
    (call : DeviceSetCall) (next : call.Answer → Procedure deviceSetSystem β) :
    (callDeviceSet call >>= next).outcomeBy answer = (next (answer call)).outcomeBy answer :=
  rfl

theorem callsBy_call_bind {β : Type} (answer : (call : DeviceSetCall) → call.Answer)
    (call : DeviceSetCall) (next : call.Answer → Procedure deviceSetSystem β) :
    (callDeviceSet call >>= next).callsBy answer = call :: (next (answer call)).callsBy answer :=
  rfl

theorem outcomeBy_acceptSize (answer : (call : DeviceSetCall) → call.Answer) (operation : String)
    (error : Option UInt32) :
    (acceptSize operation error).outcomeBy answer =
      (sizeFailure? error).elim (.value ()) fun code => .failed (.win32 operation code) := by
  rcases error with _ | code
  · rfl
  · rw [acceptSize, sizeFailure?]
    by_cases hcode : code = insufficientBuffer
    · simp [hcode, Option.filter]
    · simp [hcode, Option.filter]

theorem outcomeBy_check {α : Type} (answer : (call : DeviceSetCall) → call.Answer)
    (operation : String) (result : Except UInt32 α) :
    (check operation result : Procedure deviceSetSystem α).outcomeBy answer =
      .ofExcept (result.mapError (.win32 operation)) := by
  rcases result with code | value
  · rfl
  · rfl

/-- Reading the identifier of a device in a table. -/
theorem outcomeBy_readInstanceId (hdevice : table.devices[index]? = some device) :
    (readInstanceId index).outcomeBy table.answer = .ofExcept device.idResult := by
  have hsize : table.answer (.idSize index) = device.idSize := by
    simp [DeviceTable.answer, DeviceTable.respond, hdevice]
  have hread : table.answer (.readId index (max device.idSize.size 1)) =
      device.readId (max device.idSize.size 1) := by
    simp [DeviceTable.answer, DeviceTable.respond, hdevice]
  have herror : sizeFailure? device.idSize.error = sizeFailure? device.idSizeError := by
    rw [TableDevice.idSize]
    rcases device.idSizeError with _ | code
    · rfl
    · rfl
  rw [readInstanceId, outcomeBy_call_bind, hsize, outcomeBy_bind, outcomeBy_acceptSize, herror,
    TableDevice.idResult, TableDevice.idFault?]
  rcases sizeFailure? device.idSizeError with _ | code
  · dsimp only [Option.elim, Outcome.bind_value, Option.none_or]
    rw [outcomeBy_call_bind, hread, TableDevice.readId_room, outcomeBy_bind, outcomeBy_check]
    rcases hfault : readFailure? device.idError device.idFits with _ | code
    · have hfits := fits_of_readFailure?_eq_none hfault
      have hcells : ((Buffer.zeroed (max device.idSize.size 1).toNat).write
          (device.id ++ [0])).cells = device.id ++ [0] :=
        cells_write_zeroed (by simp [TableDevice.toNat_room_of_idFits hfits])
      dsimp only [Except.mapError, Outcome.ofExcept, Outcome.bind_value]
      rw [hcells, beforeZero_concat]
      rcases Utf16.decode? (Utf16.beforeZero device.id) with _ | id
      · rfl
      · rfl
    · rfl
  · rfl

/-- Reading the bytes of a property, of which the size was told. -/
theorem outcomeBy_readSizedProperty {key : PropertyKey} {property : TableProperty}
    (hproperty : table.property? index key = some property) :
    (readSizedProperty index key property.size).outcomeBy table.answer =
      match readFailure? property.readError property.fits with
      | some code => .failed (.win32 (propertyOperation key) code)
      | none => .ofExcept (decodeProperty property.toldType property.bytes) := by
  have hread : table.answer (.readProperty index key property.size.size) =
      property.read property.size.size := by
    simp [DeviceTable.answer, DeviceTable.respond, hproperty]
  rw [readSizedProperty, outcomeBy_call_bind, hread, TableProperty.read_size, outcomeBy_bind,
    outcomeBy_check]
  rcases hfault : readFailure? property.readError property.fits with _ | code
  · have hfits := fits_of_readFailure?_eq_none hfault
    have hcells : ((Buffer.zeroed property.size.size.toNat).write property.bytes).cells =
        property.bytes :=
      cells_write_zeroed (TableProperty.toNat_size_of_fits hfits)
    dsimp only [Except.mapError, Outcome.ofExcept, Outcome.bind_value]
    rw [hcells, outcomeBy_ofExcept, Option.getD_none, TableProperty.type_size]
    rfl
  · rfl

/-- Reading a property of a device in a table. -/
theorem outcomeBy_readProperty (hdevice : table.devices[index]? = some device)
    (key : PropertyKey) :
    (readProperty index key).outcomeBy table.answer = .ofExcept (device.propertyResult key) := by
  have htable : table.property? index key = device.properties.get? key.name := by
    rw [DeviceTable.property?, hdevice, Option.bind_some]
  rw [readProperty, outcomeBy_call_bind, TableDevice.propertyResult]
  rcases hproperty : device.properties.get? key.name with _ | property
  · have hsize : table.answer (.propertySize index key) = ⟨some notFound, 0, 0⟩ := by
      simp [DeviceTable.answer, DeviceTable.respond, htable, hproperty]
    rw [hsize]
    rfl
  · have hsize : table.answer (.propertySize index key) = property.size := by
      simp [DeviceTable.answer, DeviceTable.respond, htable, hproperty]
    obtain ⟨herror, habsent⟩ := property.error_size
    rw [hsize]
    dsimp only
    rw [TableProperty.result, TableProperty.fault?]
    by_cases hnone : property.sizeError = some notFound
    · rw [if_pos (habsent.2 hnone), if_pos hnone]
      rfl
    · rw [if_neg (mt habsent.1 hnone), if_neg hnone, outcomeBy_bind, outcomeBy_acceptSize, herror]
      rcases sizeFailure? property.sizeError with _ | code
      · dsimp only [Option.elim, Outcome.bind_value, Option.none_or]
        rw [outcomeBy_bind, outcomeBy_readSizedProperty (htable.trans hproperty)]
        split
        · rfl
        · rcases decodeProperty property.toldType property.bytes with error | value
          · rfl
          · rfl
      · rfl

end DeviceSet

end GpuDiscovery.Windows
