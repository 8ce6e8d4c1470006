import GpuDiscovery.Device.RuntimeFile
import GpuDiscovery.Proofs.Procedure.Path
import GpuDiscovery.Proofs.SortedMap
import GpuDiscovery.Proofs.Text.Utf16
import GpuDiscovery.Windows.RegistryKey

/-!
# Which values of a registry key are kept

A key is gone through value by value, into two buffers that are used again each time. If the system
tells the truth about the key (`Holds`), every value comes out of the buffers as it went in: what a
longer value left behind in them does no harm, and so a key is read like a list of its values
(`Holds.outcome_multiStringValues`).

What is handed on is a map under the texts of the names. A name need not be text, and one that is
not is read as one in which every unpaired surrogate is a U+FFFD. Two different names can then be
read as the same text, and of their values only the last is kept. That is the one way in which a
value is lost (`multiStringValues_keeps_iff`), except that a length that is no number of 32 bits
with what the buffers have to spare cannot be told to the system.
-/

namespace GpuDiscovery.Windows

open Text Procedure

/-- What was to be written does not fit into the buffers. -/
def moreData : UInt32 := 234

namespace KeyValue

/-- The text that the name is read as. -/
def text (value : KeyValue) : String :=
  Utf16.decodeLossy value.name

/-- The strings in the data. -/
def strings (value : KeyValue) : List String :=
  MultiString.decode (unitsOfBytes value.data)

/-- What is kept of the value. -/
def entry (value : KeyValue) : String × List String :=
  (value.text, value.strings)

/-- The value can be written into buffers of these lengths. A name is written with a terminator. -/
def FitsIn (value : KeyValue) (nameLength dataLength : UInt32) : Prop :=
  value.name.length < nameLength.toNat ∧ value.data.length ≤ dataLength.toNat

instance (value : KeyValue) (nameLength dataLength : UInt32) :
    Decidable (value.FitsIn nameLength dataLength) :=
  inferInstanceAs (Decidable (_ ∧ _))

/-- What reading the value into buffers of these lengths comes to. A value that does not fit is not
looked at. -/
def reading (nameLength dataLength : UInt32) (value : KeyValue) :
    Outcome (String × List String) :=
  if value.FitsIn nameLength dataLength then
    if value.type = RegistryKey.multiStringType then .value value.entry
    else .failed (RegistryKey.wrongType value.text value.type)
  else .failed (.win32 "RegEnumValueW" moreData)

end KeyValue

/-! ## Systems that tell the truth -/

/-- The greatest of some lengths, and zero if there are none. -/
def greatestLength (lengths : List Nat) : Nat :=
  lengths.max?.getD 0

/-- What the key tells about its values is true. -/
structure KeyInfo.Describes (info : KeyInfo) (values : List KeyValue) : Prop where
  count : info.valueCount.toNat = values.length
  names : info.maxNameLength.toNat = greatestLength (values.map fun value => value.name.length)
  data : info.maxDataLength.toNat = greatestLength (values.map fun value => value.data.length)

/-- The key of the system holds these values, and whatever is asked about them is answered truly:
how many and how long they are, and each of them in its place, if there is enough room for it. -/
structure Holds (respond : registrySystem.Responder) (values : List KeyValue) : Prop where
  describes (past : List RegistryCall) :
    ∃ info : KeyInfo, respond past .queryInfo = (0, info) ∧ info.Describes values
  fitting {past : List RegistryCall} {index : Nat} {nameLength dataLength : UInt32}
    {value : KeyValue} (hvalue : values[index]? = some value)
    (hfits : value.FitsIn nameLength dataLength) :
    respond past (.enumValue index nameLength dataLength) = (0, value)
  overflowing {past : List RegistryCall} {index : Nat} {nameLength dataLength : UInt32}
    {value : KeyValue} (hvalue : values[index]? = some value)
    (hfits : ¬value.FitsIn nameLength dataLength) :
    (respond past (.enumValue index nameLength dataLength)).1 = moreData

/-- A system that tells the truth about a key with these values. -/
def keyWith (values : List KeyValue) (_ : List RegistryCall) : (call : RegistryCall) → call.Answer
  | .openKey _ _ | .closeKey => 0
  | .queryInfo =>
    (0, {
      valueCount := UInt32.ofNat values.length
      maxNameLength :=
        UInt32.ofNat (greatestLength (values.map fun value => value.name.length))
      maxDataLength :=
        UInt32.ofNat (greatestLength (values.map fun value => value.data.length)) })
  | .enumValue index nameLength dataLength =>
    match values[index]? with
    | some value =>
      if value.FitsIn nameLength dataLength then (0, value) else (moreData, ⟨[], 0, []⟩)
    | none => (noMoreItems, ⟨[], 0, []⟩)

theorem le_greatestLength {lengths : List Nat} {length : Nat} (h : length ∈ lengths) :
    length ≤ greatestLength lengths := by
  rw [greatestLength]
  rcases hmax : lengths.max? with _ | greatest
  · rw [List.max?_eq_none_iff.1 hmax] at h
    exact absurd h List.not_mem_nil
  · exact (List.max?_eq_some_iff.1 hmax).2 length h

theorem greatestLength_mem {lengths : List Nat} (h : lengths ≠ []) :
    greatestLength lengths ∈ lengths := by
  rw [greatestLength]
  rcases hmax : lengths.max? with _ | greatest
  · exact absurd (List.max?_eq_none_iff.1 hmax) h
  · exact (List.max?_eq_some_iff.1 hmax).1

theorem greatestLength_lt {lengths : List Nat} {bound : Nat} (hbound : 0 < bound)
    (h : ∀ length ∈ lengths, length < bound) : greatestLength lengths < bound := by
  by_cases hempty : lengths = []
  · rw [hempty]
    exact hbound
  · exact h _ (greatestLength_mem hempty)

variable {values : List KeyValue}

/-- There are such systems for all values with lengths that can be told. -/
theorem holds_keyWith (hcount : values.length < UInt32.size)
    (hlengths : ∀ value ∈ values,
      value.name.length < UInt32.size ∧ value.data.length < UInt32.size) :
    Holds (keyWith values) values where
  describes past := by
    refine ⟨_, rfl, UInt32.toNat_ofNat_of_lt' hcount, UInt32.toNat_ofNat_of_lt' ?_,
      UInt32.toNat_ofNat_of_lt' ?_⟩
    · refine greatestLength_lt (by decide) ?_
      exact List.forall_mem_map.2 fun value hmem => (hlengths value hmem).1
    · refine greatestLength_lt (by decide) ?_
      exact List.forall_mem_map.2 fun value hmem => (hlengths value hmem).2
  fitting hvalue hfits := by
    rw [keyWith, hvalue]
    exact if_pos hfits
  overflowing hvalue hfits := by
    rw [keyWith, hvalue]
    dsimp only
    rw [if_neg hfits]

/-! ## Buffers that are used again -/

namespace RegistryKey

variable {buffers : Buffers} {value : KeyValue}

/-- A value that fits as the system is told it does fit. -/
theorem le_capacity_of_fitsIn
    (h : value.FitsIn buffers.announcedName buffers.announcedData) :
    value.name.length ≤ buffers.name.capacity ∧ value.data.length ≤ buffers.data.capacity := by
  rw [KeyValue.FitsIn, Buffers.announcedName, Buffers.announcedData, UInt32.toNat_ofNat',
    UInt32.toNat_ofNat'] at h
  exact ⟨Nat.le_of_lt (Nat.lt_of_lt_of_le h.1 (Nat.mod_le _ _)), Nat.le_trans h.2 (Nat.mod_le _ _)⟩

/-- Whatever was in the buffers before, a value comes out of them as it went in. -/
theorem readValue_receive (h : value.FitsIn buffers.announcedName buffers.announcedData) :
    readValue (buffers.receive value) value =
      value.reading buffers.announcedName buffers.announcedData := by
  obtain ⟨hname, hdata⟩ := le_capacity_of_fitsIn h
  have hnames : (buffers.receive value).name.slice value.name.length = .value value.name := by
    rw [Buffers.receive, Buffer.slice, Buffer.take_write]
    exact if_pos hname
  have heven : 2 * (value.data.length / 2) ≤ value.data.length := Nat.mul_div_le _ _
  have hbytes : (buffers.receive value).data.slice (2 * (value.data.length / 2)) =
      .value (value.data.take (2 * (value.data.length / 2))) := by
    rw [Buffers.receive, Buffer.slice, Buffer.take_write_of_le _ heven]
    exact if_pos (Nat.le_trans heven hdata)
  rw [KeyValue.reading, if_pos h, readValue, hnames, Outcome.bind_value]
  by_cases htype : value.type = multiStringType
  · rw [if_neg (not_not_intro htype), if_pos htype, hbytes, Outcome.bind_value,
      unitsOfBytes_take_even]
    rfl
  · rw [if_pos htype, if_neg htype]
    rfl

variable {respond : registrySystem.Responder} {past : List RegistryCall}

/-- One step of the loop, when the value fits. -/
theorem runAfter_readValues_of_fitting {valuesLeft index : Nat} {map : RegistryValues}
    (hanswer : respond past (.enumValue index buffers.announcedName buffers.announcedData) =
      (0, value))
    (hfits : value.FitsIn buffers.announcedName buffers.announcedData) :
    ((readValues buffers (valuesLeft + 1) index map).runAfter respond past).outcome =
      value.reading buffers.announcedName buffers.announcedData >>= fun entry =>
        ((readValues (buffers.receive value) valuesLeft (index + 1)
          (map.insert entry.1 entry.2)).runAfter respond
          (.enumValue index buffers.announcedName buffers.announcedData :: past)).outcome := by
  rw [readValues, runAfter_bind, callRegistry, runAfter_perform, hanswer]
  dsimp only
  rw [if_neg (by decide), checkStatus, if_pos rfl, pure_bind, readValue_receive hfits,
    runAfter_bind, runAfter_ofOutcome]
  rcases value.reading buffers.announcedName buffers.announcedData with entry | error | _
  · rfl
  · rfl
  · rfl

/-- One step of the loop, when it does not fit. -/
theorem runAfter_readValues_of_overflowing {valuesLeft index : Nat} {map : RegistryValues}
    (hanswer : (respond past
      (.enumValue index buffers.announcedName buffers.announcedData)).1 = moreData) :
    ((readValues buffers (valuesLeft + 1) index map).runAfter respond past).outcome =
      .failed (.win32 "RegEnumValueW" moreData) := by
  rw [readValues, runAfter_bind, callRegistry, runAfter_perform]
  generalize respond past (.enumValue index buffers.announcedName buffers.announcedData) = answer
    at hanswer
  obtain ⟨status, written⟩ := answer
  obtain rfl : status = moreData := hanswer
  dsimp only
  rw [if_neg (by decide), checkStatus, if_neg (by decide)]
  rfl

end RegistryKey

open RegistryKey

variable {respond : registrySystem.Responder}

/-- The loop reads one value after the other, and stops at the first that does not fit or is no list
of strings. -/
theorem Holds.outcome_readValues (h : Holds respond values) {valuesLeft index : Nat}
    (hleft : index + valuesLeft = values.length) (buffers : Buffers) (map : RegistryValues)
    (past : List RegistryCall) :
    ((readValues buffers valuesLeft index map).runAfter respond past).outcome =
      (values.drop index).mapM (KeyValue.reading buffers.announcedName buffers.announcedData) >>=
        fun entries =>
          .value (entries.foldl (fun map entry => map.insert entry.1 entry.2) map) := by
  induction valuesLeft generalizing index buffers map past with
  | zero =>
    rw [Nat.add_zero] at hleft
    rw [hleft, List.drop_length]
    rfl
  | succ valuesLeft ih =>
    have hindex : index < values.length := by omega
    have hvalue : values[index]? = some values[index] := List.getElem?_eq_getElem hindex
    rw [List.drop_eq_getElem_cons hindex, List.mapM_cons]
    by_cases hfits : values[index].FitsIn buffers.announcedName buffers.announcedData
    · rw [runAfter_readValues_of_fitting (h.fitting hvalue hfits) hfits]
      have hrest : index + 1 + valuesLeft = values.length := by omega
      simp only [ih hrest, bind_assoc, Outcome.pure_eq, Outcome.bind_value, List.foldl_cons]
      rfl
    · rw [runAfter_readValues_of_overflowing (h.overflowing hvalue hfits), KeyValue.reading,
        if_neg hfits]
      rfl

/-- **A key is read like a list of its values.** -/
theorem Holds.outcome_multiStringValues (h : Holds respond values) (past : List RegistryCall) :
    ∃ info : KeyInfo, info.Describes values ∧
      (multiStringValues.runAfter respond past).outcome =
        values.mapM (KeyValue.reading (Buffers.ofInfo info).announcedName
            (Buffers.ofInfo info).announcedData) >>= fun entries =>
          .value (SortedMap.ofList entries) := by
  obtain ⟨info, hinfo, hdescribes⟩ := h.describes past
  refine ⟨info, hdescribes, ?_⟩
  rw [multiStringValues, runAfter_bind, callRegistry, runAfter_perform, hinfo]
  dsimp only
  rw [checkStatus, if_pos rfl, pure_bind, hdescribes.count, h.outcome_readValues (by omega)]
  rfl

/-! ## Lengths that can be told -/

/-- The lengths are still numbers of 32 bits with what the buffers have to spare: one unit behind
the longest name, and up to three bytes behind the longest data. -/
def KeyValue.CanBeTold (value : KeyValue) : Prop :=
  value.name.length < 0xFFFFFFFF ∧ value.data.length ≤ 0xFFFFFFFC

/-- The values of a key fit into the buffers that are made for them exactly if their lengths can be
told. -/
theorem KeyInfo.Describes.forall_fitsIn_iff {info : KeyInfo} (h : info.Describes values) :
    (∀ value ∈ values, value.FitsIn (Buffers.ofInfo info).announcedName
        (Buffers.ofInfo info).announcedData) ↔
      ∀ value ∈ values, value.CanBeTold := by
  by_cases hvalues : values = []
  · rw [hvalues]
    exact iff_of_true (List.forall_mem_nil _) (List.forall_mem_nil _)
  -- Everything depends on the longest name and the longest data.
  obtain ⟨named, hnamed, hlongestName⟩ := List.mem_map.1 (greatestLength_mem
    (mt List.map_eq_nil_iff.1 hvalues : (values.map fun value => value.name.length) ≠ []))
  obtain ⟨filled, hfilled, hlongestData⟩ := List.mem_map.1 (greatestLength_mem
    (mt List.map_eq_nil_iff.1 hvalues : (values.map fun value => value.data.length) ≠ []))
  have hle : ∀ value ∈ values, value.name.length ≤ info.maxNameLength.toNat ∧
      value.data.length ≤ info.maxDataLength.toNat := by
    intro value hmem
    rw [h.names, h.data]
    exact ⟨le_greatestLength (List.mem_map_of_mem hmem),
      le_greatestLength (List.mem_map_of_mem hmem)⟩
  rw [← h.names] at hlongestName
  rw [← h.data] at hlongestData
  have hname := info.maxNameLength.toNat_lt
  have hdata := info.maxDataLength.toNat_lt
  simp only [KeyValue.FitsIn, KeyValue.CanBeTold, Buffers.announcedName, Buffers.announcedData,
    Buffers.ofInfo, Buffer.zeroed, UInt32.toNat_ofNat']
  constructor
  · intro hfits value hmem
    have hnamedFits := (hfits named hnamed).1
    have hfilledFits := (hfits filled hfilled).2
    obtain ⟨hvalueName, hvalueData⟩ := hle value hmem
    omega
  · intro htold value hmem
    have hnamedTold := (htold named hnamed).1
    have hfilledTold := (htold filled hfilled).2
    obtain ⟨hvalueName, hvalueData⟩ := hle value hmem
    omega

/-! ## What is kept -/

theorem KeyValue.reading_eq_value_iff {nameLength dataLength : UInt32} {value : KeyValue}
    {entry : String × List String} :
    value.reading nameLength dataLength = .value entry ↔
      (value.FitsIn nameLength dataLength ∧ value.type = multiStringType) ∧
        value.entry = entry := by
  rw [reading]
  by_cases hfits : value.FitsIn nameLength dataLength
  · by_cases htype : value.type = multiStringType
    · rw [if_pos hfits, if_pos htype, Outcome.value.injEq]
      exact (and_iff_right ⟨hfits, htype⟩).symm
    · rw [if_pos hfits, if_neg htype]
      exact iff_of_false nofun fun h => htype h.1.2
  · rw [if_neg hfits]
    exact iff_of_false nofun fun h => hfits h.1.1

/-- Reading a list of strings fails only because it does not fit. -/
theorem KeyValue.reading_eq_failed_iff {nameLength dataLength : UInt32} {value : KeyValue}
    (htype : value.type = multiStringType) {error : DiscoveryError} :
    value.reading nameLength dataLength = .failed error ↔
      ¬value.FitsIn nameLength dataLength ∧ error = .win32 "RegEnumValueW" moreData := by
  rw [reading]
  by_cases hfits : value.FitsIn nameLength dataLength
  · rw [if_pos hfits, if_pos htype]
    exact iff_of_false nofun fun h => h.1 hfits
  · rw [if_neg hfits, Outcome.failed.injEq]
    exact eq_comm.trans (and_iff_right hfits).symm

theorem KeyValue.reading_ne_crashed (nameLength dataLength : UInt32) (value : KeyValue) :
    value.reading nameLength dataLength ≠ .crashed := by
  rw [reading]
  split
  · split
    · exact nofun
    · exact nofun
  · exact nofun

/-- Values are read all together or not at all. -/
theorem mapM_reading_eq_value_iff {nameLength dataLength : UInt32}
    {entries : List (String × List String)} :
    values.mapM (KeyValue.reading nameLength dataLength) = Outcome.value entries ↔
      (∀ value ∈ values, value.FitsIn nameLength dataLength ∧ value.type = multiStringType) ∧
        values.map KeyValue.entry = entries := by
  rw [Outcome.mapM_eq_value_iff]
  simp only [KeyValue.reading_eq_value_iff]
  rw [List.forall₂_and_left, ← List.forall₂_map_left_iff, List.forall₂_eq_eq_eq]

/-- A map is handed on exactly if all values are lists of strings whose lengths can be told, and
then it is made from all entries. -/
theorem Holds.outcome_eq_value_iff (h : Holds respond values) (past : List RegistryCall)
    {map : RegistryValues} :
    (multiStringValues.runAfter respond past).outcome = .value map ↔
      ((∀ value ∈ values, value.CanBeTold) ∧ ∀ value ∈ values, value.type = multiStringType) ∧
        map = SortedMap.ofList (values.map KeyValue.entry) := by
  obtain ⟨info, hdescribes, houtcome⟩ := h.outcome_multiStringValues past
  rw [houtcome, Outcome.bind_eq_value_iff, ← hdescribes.forall_fitsIn_iff, ← forall₂_and]
  simp only [mapM_reading_eq_value_iff, Outcome.value.injEq]
  constructor
  · rintro ⟨_, ⟨hfits, rfl⟩, hmap⟩
    exact ⟨hfits, hmap.symm⟩
  · rintro ⟨hfits, rfl⟩
    exact ⟨_, ⟨hfits, rfl⟩, rfl⟩

/-- Of lists of strings a map is handed on exactly if all lengths can be told. -/
theorem Holds.outcome_multiStringValues_eq_value_iff (h : Holds respond values)
    (htypes : ∀ value ∈ values, value.type = multiStringType) (past : List RegistryCall)
    {map : RegistryValues} :
    (multiStringValues.runAfter respond past).outcome = .value map ↔
      (∀ value ∈ values, value.CanBeTold) ∧
        map = SortedMap.ofList (values.map KeyValue.entry) := by
  rw [h.outcome_eq_value_iff, and_iff_left htypes]

/-- If no map is handed on, the reading fails. -/
theorem Holds.exists_failed (h : Holds respond values) (past : List RegistryCall)
    (hnone : ∀ map, (multiStringValues.runAfter respond past).outcome ≠ .value map) :
    ∃ error, (multiStringValues.runAfter respond past).outcome = .failed error := by
  obtain ⟨info, -, houtcome⟩ := h.outcome_multiStringValues past
  rcases hend : (multiStringValues.runAfter respond past).outcome with map | error | _
  · exact absurd hend (hnone map)
  · exact ⟨error, rfl⟩
  · rw [houtcome] at hend
    refine absurd hend (Outcome.bind_ne_crashed ?_ fun _ => nofun)
    exact Outcome.mapM_ne_crashed fun value _ => KeyValue.reading_ne_crashed _ _ value

/-- Lists of strings of which a length cannot be told are not read, because one does not fit. -/
theorem Holds.outcome_of_untold (h : Holds respond values)
    (htypes : ∀ value ∈ values, value.type = multiStringType)
    (huntold : ¬∀ value ∈ values, value.CanBeTold) (past : List RegistryCall) :
    (multiStringValues.runAfter respond past).outcome =
      .failed (.win32 "RegEnumValueW" moreData) := by
  obtain ⟨info, -, houtcome⟩ := h.outcome_multiStringValues past
  obtain ⟨error, herror⟩ := h.exists_failed past fun map hmap =>
    huntold ((h.outcome_multiStringValues_eq_value_iff htypes past).1 hmap).1
  have hfailed := houtcome.symm.trans herror
  rcases Outcome.bind_eq_failed_iff.1 hfailed with hreading | ⟨entries, -, hnone⟩
  · obtain ⟨before, value, after, rfl, -, hvalue⟩ := Outcome.mapM_eq_failed_iff.1 hreading
    have htype := htypes value (List.mem_append_right before List.mem_cons_self)
    rw [herror, ((KeyValue.reading_eq_failed_iff htype).1 hvalue).2]
  · cases hnone

/-- Different names that are text have different texts. -/
theorem nodup_texts (hnames : (values.map KeyValue.name).Nodup)
    (hvalid : ∀ value ∈ values, (Utf16.decode? value.name).isSome = true) :
    (values.map KeyValue.text).Nodup := by
  have htexts : (values.map KeyValue.name).map Utf16.decodeLossy = values.map KeyValue.text :=
    List.map_map
  rw [← htexts]
  rw [← List.forall_mem_map (P := fun units => (Utf16.decode? units).isSome = true)] at hvalid
  exact hnames.map_on fun units hunits others hothers heq =>
    Utf16.decodeLossy_inj (hvalid units hunits) (hvalid others hothers) heq

theorem map_fst_entry : (values.map KeyValue.entry).map (·.1) = values.map KeyValue.text :=
  List.map_map

theorem map_snd_entry : (values.map KeyValue.entry).map (·.2) = values.map KeyValue.strings :=
  List.map_map

/-- Each value has an entry of its own exactly if no two names are read as the same text. -/
theorem hasOwnEntries_entries_iff :
    (SortedMap.ofList (values.map KeyValue.entry)).HasOwnEntries (values.map KeyValue.strings) ↔
      (values.map KeyValue.text).Nodup := by
  rw [← map_snd_entry, ← map_fst_entry, SortedMap.hasOwnEntries_ofList_iff]

/-- Then the map has no other entries. -/
theorem perm_values_entries (h : (values.map KeyValue.text).Nodup) :
    (SortedMap.ofList (values.map KeyValue.entry)).values.Perm (values.map KeyValue.strings) := by
  rw [← map_fst_entry] at h
  rw [← map_snd_entry]
  exact (SortedMap.perm_entries_ofList h).map (·.2)

/-- **Which values are kept.** Of a key that holds values with different names, all of them lists of
strings, a map is handed on exactly if their lengths can be told, and it is the map of what the
values are, each with the strings in its own data. Each of the values has an entry of its own in it
exactly if no two names are read as the same text. Then there are as many entries as values, and the
runtime files that they declare are those that the values declare. Names that are text are not read
as the same text. -/
theorem multiStringValues_keeps_iff (h : Holds respond values)
    (htypes : ∀ value ∈ values, value.type = multiStringType)
    (hnames : (values.map KeyValue.name).Nodup) (past : List RegistryCall) :
    (∀ map, (multiStringValues.runAfter respond past).outcome = .value map ↔
      (∀ value ∈ values, value.CanBeTold) ∧
        map = SortedMap.ofList (values.map KeyValue.entry)) ∧
    ((∃ map, (multiStringValues.runAfter respond past).outcome = .value map ∧
        map.HasOwnEntries (values.map KeyValue.strings)) ↔
      (∀ value ∈ values, value.CanBeTold) ∧ (values.map KeyValue.text).Nodup) ∧
    (∀ map, (multiStringValues.runAfter respond past).outcome = .value map →
      map.HasOwnEntries (values.map KeyValue.strings) →
        map.size = values.length ∧
        (map.values.filterMap RuntimeFile.ofStrings?).Perm
          (values.filterMap fun value => RuntimeFile.ofStrings? value.strings)) ∧
    ((∀ value ∈ values, (Utf16.decode? value.name).isSome = true) →
      (values.map KeyValue.text).Nodup) := by
  have houtcome : ∀ map, (multiStringValues.runAfter respond past).outcome = .value map ↔
      (∀ value ∈ values, value.CanBeTold) ∧
        map = SortedMap.ofList (values.map KeyValue.entry) :=
    fun map => h.outcome_multiStringValues_eq_value_iff htypes past
  refine ⟨houtcome, ?_, ?_, nodup_texts hnames⟩
  · simp only [houtcome, ← hasOwnEntries_entries_iff]
    constructor
    · rintro ⟨_, ⟨htold, rfl⟩, hkept⟩
      exact ⟨htold, hkept⟩
    · rintro ⟨htold, hkept⟩
      exact ⟨_, ⟨htold, rfl⟩, hkept⟩
  · intro map hmap hkept
    obtain ⟨-, rfl⟩ := (houtcome map).1 hmap
    have hperm := perm_values_entries (hasOwnEntries_entries_iff.1 hkept)
    constructor
    · have hlength := hperm.length_eq
      rw [SortedMap.values, List.length_map, List.length_map] at hlength
      exact hlength
    · have hfiles := hperm.filterMap RuntimeFile.ofStrings?
      rw [List.filterMap_map] at hfiles
      exact hfiles

/-- Two values. The first has the longer data; that of the second has no end and a byte too many. -/
def fileValues : List KeyValue :=
  [⟨[0x41], multiStringType, [0x61, 0, 0, 0, 0x62, 0, 0, 0, 0, 0]⟩,
    ⟨[0x42, 0x43], multiStringType, [0x63, 0, 0x64]⟩]

/-- Both are kept, and the second is as if the first had not been in the buffers. -/
theorem multiStringValues_of_fileValues :
    Holds (keyWith fileValues) fileValues ∧
      (multiStringValues.runAfter (keyWith fileValues) []).outcome =
        .value (.ofList [("A", ["a", "b"]), ("BC", ["c"])]) ∧
      (SortedMap.ofList [("A", ["a", "b"]), ("BC", ["c"])]).HasOwnEntries [["a", "b"], ["c"]] := by
  have hholds : Holds (keyWith fileValues) fileValues := holds_keyWith (by decide) (by decide)
  have hvalid : ∀ value ∈ fileValues, (Utf16.decode? value.name).isSome = true := by decide
  have htold : ∀ value ∈ fileValues, value.CanBeTold := by
    simp [fileValues, KeyValue.CanBeTold]
  have hentries : fileValues.map KeyValue.entry = [("A", ["a", "b"]), ("BC", ["c"])] := by decide
  obtain ⟨houtcome, hkept, -, htexts⟩ :=
    multiStringValues_keeps_iff hholds (by decide) (by decide) []
  obtain ⟨map, hmap, hown⟩ := hkept.2 ⟨htold, htexts hvalid⟩
  obtain ⟨-, rfl⟩ := (houtcome map).1 hmap
  rw [hentries] at hmap hown
  exact ⟨hholds, hmap, hown⟩

/-- Two values whose names are different, and neither of them is text. -/
def surrogateValues : List KeyValue :=
  [⟨[0xD800], multiStringType, [0x61, 0, 0, 0, 0, 0]⟩,
    ⟨[0xD801], multiStringType, [0x62, 0, 0, 0, 0, 0]⟩]

/-- Only one of them is kept. -/
theorem multiStringValues_of_surrogateValues :
    Holds (keyWith surrogateValues) surrogateValues ∧
      (∀ value ∈ surrogateValues, value.type = multiStringType) ∧
      (surrogateValues.map KeyValue.name).Nodup ∧
      (multiStringValues.runAfter (keyWith surrogateValues) []).outcome =
        .value (.ofList [("\uFFFD", ["b"])]) ∧
      ¬∃ map, (multiStringValues.runAfter (keyWith surrogateValues) []).outcome = .value map ∧
        map.HasOwnEntries (surrogateValues.map KeyValue.strings) := by
  have hentries : (multiStringValues.runAfter (keyWith surrogateValues) []).outcome =
      .value (.ofList (surrogateValues.map KeyValue.entry)) := by
    decide
  refine ⟨holds_keyWith (by decide) (by decide), by decide, by decide, by decide, ?_⟩
  rintro ⟨map, hmap, hown⟩
  rw [hentries, Outcome.value.injEq] at hmap
  rw [← hmap] at hown
  -- Both names are read as the same text.
  have htexts : (surrogateValues.map KeyValue.text).Nodup :=
    hasOwnEntries_entries_iff.1 hown
  exact absurd htexts (by decide)

end GpuDiscovery.Windows
