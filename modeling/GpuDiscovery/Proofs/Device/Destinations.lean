import GpuDiscovery.Proofs.Registry.MultiString
import GpuDiscovery.Proofs.Windows.EnumerationOrder

/-!
# Which destinations runtime files get

A value of a subkey declares at most one runtime file. `RuntimeFile.Declares` says which: of exactly
two strings the second one is the destination, and in all other cases it is the file name at the
end of the first one, which `IsFileNameOf` describes without the search for separators.

Strings that are read from units are never empty, so a declared destination is not empty either. The
fallback is empty for sources that end in a separator, and for no others
(`fileName_eq_empty_iff`). Nothing between the units of a value and the lists of a device changes
this: whatever the platform answers, each file that a resolution adds is declared by the strings of
a value in one of the subkeys of its list, and it is without a destination exactly if there are not
two strings and the source ends in a separator (`destinations_of_resolve`).
-/

namespace GpuDiscovery

open Procedure

/-! ## Behind the last separator -/

namespace Text

/-- What stands behind the last separator has no separator in it, and in front of it stands nothing
or a separator. -/
theorem afterLast_eq_iff {isSeparator : Char → Bool} {cs name : List Char} :
    afterLast isSeparator cs = name ↔
      (∀ c ∈ name, isSeparator c = false) ∧
        ∃ before, cs = before ++ name ∧ ∀ c ∈ before.getLast?, isSeparator c = true := by
  constructor
  · rintro rfl
    constructor
    · intro c hc
      rw [afterLast, List.mem_reverse] at hc
      have hkept := List.mem_takeWhile_imp hc
      rwa [Bool.not_eq_true'] at hkept
    · refine ⟨(cs.reverse.dropWhile fun c => !isSeparator c).reverse, ?_, ?_⟩
      · rw [afterLast, ← List.reverse_append, List.takeWhile_append_dropWhile, List.reverse_reverse]
      · intro c hc
        rw [List.getLast?_reverse, Option.mem_def] at hc
        have hstop := List.head?_dropWhile_not (fun c => !isSeparator c) cs.reverse
        rw [hc] at hstop
        simpa using hstop
  · rintro ⟨hname, before, rfl, hbefore⟩
    have hnone : (before.reverse.takeWhile fun c => !isSeparator c) = [] := by
      rcases List.eq_nil_or_concat before with rfl | ⟨front, c, rfl⟩
      · rfl
      · rw [List.concat_eq_append] at hbefore ⊢
        have hc : isSeparator c = true := hbefore c List.getLast?_concat
        simp [hc]
    have hall : ∀ c ∈ name.reverse, (!isSeparator c) = true := by
      intro c hc
      rw [hname c (List.mem_reverse.1 hc)]
      rfl
    rw [afterLast, List.reverse_append, List.takeWhile_append_of_pos hall, hnone, List.append_nil,
      List.reverse_reverse]

end Text

namespace RuntimeFile

/-- A path ends in the name of a file: there is no separator in the name, and in front of it stands
nothing or a separator. -/
structure IsFileNameOf (name path : String) : Prop where
  clean : ∀ c ∈ name.toList, isPathSeparator c = false
  cut : ∃ before, path.toList = before ++ name.toList ∧
    ∀ c ∈ before.getLast?, isPathSeparator c = true

/-- The last character of the path is a separator. -/
def endsInSeparator (path : String) : Bool :=
  path.toList.getLast?.any isPathSeparator

variable {name path : String}

/-- **A path has one file name.** -/
theorem isFileNameOf_iff : IsFileNameOf name path ↔ fileName path = name := by
  rw [fileName, ← String.toList_inj, String.toList_ofList, Text.afterLast_eq_iff]
  exact ⟨fun h => ⟨h.clean, h.cut⟩, fun h => ⟨h.1, h.2⟩⟩

/-- The file name is empty where a separator ends the path. -/
theorem fileName_eq_empty_iff :
    fileName path = "" ↔ path = "" ∨ endsInSeparator path = true := by
  have hempty : path = "" ↔ path.toList = [] := String.toList_eq_nil_iff.symm
  rw [← isFileNameOf_iff, endsInSeparator, hempty]
  constructor
  · rintro ⟨-, before, hpath, hbefore⟩
    rw [String.toList_empty, List.append_nil] at hpath
    rw [hpath]
    rcases List.eq_nil_or_concat before with rfl | ⟨front, c, rfl⟩
    · exact .inl rfl
    · rw [List.concat_eq_append] at hbefore ⊢
      have hc : isPathSeparator c = true := hbefore c List.getLast?_concat
      rw [List.getLast?_concat]
      exact .inr hc
  · intro hend
    refine ⟨nofun, path.toList, (List.append_nil _).symm, ?_⟩
    intro c hc
    rw [Option.mem_def] at hc
    rcases hend with hnil | hend
    · rw [hnil] at hc
      cases hc
    · rwa [hc] at hend

/-! ## What strings declare -/

/-- Strings declare a file. -/
inductive Declares : List String → RuntimeFile → Prop where
  /-- A source and a destination. -/
  | pair (source destination : String) : Declares [source, destination] ⟨source, destination⟩
  /-- A source, and no string or several strings behind it, which do not matter. -/
  | other {source name : String} {rest : List String} (hrest : rest.length ≠ 1)
      (hname : IsFileNameOf name source) : Declares (source :: rest) ⟨source, name⟩

variable {strings : List String} {file : RuntimeFile}

/-- Strings that are not empty are understood in this way. -/
theorem ofStrings?_eq_some_iff (hne : ∀ string ∈ strings, string ≠ "") :
    ofStrings? strings = some file ↔ Declares strings file := by
  constructor
  · intro h
    rcases strings with _ | ⟨source, _ | ⟨destination, _ | ⟨third, rest⟩⟩⟩
    · cases h
    · obtain rfl := Option.some.inj h
      exact .other (by decide) (isFileNameOf_iff.2 rfl)
    · obtain rfl := Option.some.inj h
      have hdestination : destination.isEmpty = false := by
        rw [String.isEmpty_eq_false_iff]
        exact hne destination (List.mem_cons_of_mem _ List.mem_cons_self)
      rw [ofPaths, hdestination]
      exact .pair source destination
    · obtain rfl := Option.some.inj h
      exact .other (by simp) (isFileNameOf_iff.2 rfl)
  · intro h
    cases h with
    | pair source destination =>
      have hdestination : destination.isEmpty = false := by
        rw [String.isEmpty_eq_false_iff]
        exact hne destination (List.mem_cons_of_mem _ List.mem_cons_self)
      rw [ofStrings?, ofPaths, hdestination]
      rfl
    | @other source name rest hrest hname =>
      obtain rfl := isFileNameOf_iff.1 hname
      rcases rest with _ | ⟨second, _ | ⟨third, rest⟩⟩
      · rfl
      · exact absurd rfl hrest
      · rfl

/-- **When there is no destination.** -/
theorem Declares.destinationName_eq_empty_iff (h : Declares strings file)
    (hne : ∀ string ∈ strings, string ≠ "") :
    file.destinationName = "" ↔
      strings.length ≠ 2 ∧ endsInSeparator file.sourcePath = true := by
  cases h with
  | pair source destination =>
    have hdestination : destination ≠ "" :=
      hne destination (List.mem_cons_of_mem _ List.mem_cons_self)
    constructor
    · intro hempty
      exact absurd hempty hdestination
    · intro hlength
      exact absurd rfl hlength.1
  | @other source name rest hrest hname =>
    have hsource : source ≠ "" := hne source List.mem_cons_self
    have hlength : (source :: rest).length ≠ 2 := by
      rw [List.length_cons]
      omega
    obtain rfl := isFileNameOf_iff.1 hname
    rw [fileName_eq_empty_iff, or_iff_right hsource, and_iff_right hlength]

end RuntimeFile

/-! ## From the subkeys to the lists -/

variable {driverKey : String} {talk : Talk} {file : RuntimeFile}

/-- A subkey of the driver's key holds strings, which were read in these exchanges. -/
def HoldsStrings (driverKey subkey : String) (talk : Talk) (strings : List String) : Prop :=
  ∃ key, RegistryPath.parse driverKey = .ok key ∧ ∃ values : RegistryValues,
    ⟨.readKey (key.join subkey), .value values⟩ ∈ talk ∧ strings ∈ values.values

theorem HoldsStrings.mono {subkey : String} {strings : List String} {more : Talk}
    (h : HoldsStrings driverKey subkey talk strings) (hmore : talk ⊆ more) :
    HoldsStrings driverKey subkey more strings := by
  obtain ⟨key, hkey, values, hmem, hstrings⟩ := h
  exact ⟨key, hkey, values, hmore hmem, hstrings⟩

/-- Each file that a subkey contributes is declared by some strings in it. -/
theorem Contributes.exists_strings {subkey : String} {files : List RuntimeFile}
    (h : Contributes driverKey subkey talk files) (hmem : file ∈ files) :
    ∃ strings, HoldsStrings driverKey subkey talk strings ∧
      RuntimeFile.ofStrings? strings = some file := by
  cases h with
  | read hkey values =>
    obtain ⟨strings, hstrings, hfile⟩ := List.mem_filterMap.1 hmem
    exact ⟨strings, ⟨_, hkey, values, List.mem_cons_of_mem _ List.mem_cons_self, hstrings⟩, hfile⟩
  | _ => exact absurd hmem List.not_mem_nil

namespace DeviceRecord

variable {config : Config} {device resolved : DeviceRecord}

/-- Each file that is gathered for a list comes from a subkey of the list. -/
theorem Gathers.exists_strings {subkeys : List RuntimeFileSubkey} {list : RuntimeFileList}
    {gathered : RuntimeFileList → List RuntimeFile} (h : Gathers driverKey subkeys talk gathered)
    (hmem : file ∈ gathered list) :
    ∃ subkey ∈ subkeys, subkey.list = list ∧ ∃ strings,
      HoldsStrings driverKey subkey.name talk strings ∧
        RuntimeFile.ofStrings? strings = some file := by
  induction h with
  | nil => exact absurd hmem List.not_mem_nil
  | @cons subkey rest part others files gathered hfirst _ ih =>
    have hbehind (hlater : file ∈ gathered list) :
        ∃ other ∈ subkey :: rest, other.list = list ∧ ∃ strings,
          HoldsStrings driverKey other.name (part ++ others) strings ∧
            RuntimeFile.ofStrings? strings = some file := by
      obtain ⟨other, hother, hlist, strings, hholds, hfile⟩ := ih hlater
      exact ⟨other, List.mem_cons_of_mem _ hother, hlist, strings,
        hholds.mono (List.subset_append_right _ _), hfile⟩
    dsimp only at hmem
    -- Only a subkey of the list adds to it, in front of what the others do.
    by_cases hlist : subkey.list = list
    · rw [if_pos hlist, List.mem_append] at hmem
      rcases hmem with hmem | hmem
      · obtain ⟨strings, hholds, hfile⟩ := hfirst.exists_strings hmem
        exact ⟨subkey, List.mem_cons_self, hlist, strings,
          hholds.mono (List.subset_append_left _ _), hfile⟩
      · exact hbehind hmem
    · rw [if_neg hlist] at hmem
      exact hbehind hmem

/-- Each file that a resolution adds to a list is declared by strings in a subkey of the list. -/
theorem files_of_path_resolve (h : (device.resolve config).Path talk (.value resolved))
    (list : RuntimeFileList) :
    ∃ added, resolved.files list = device.files list ++ added ∧
      ∀ file ∈ added, ∃ subkey ∈ runtimeFileSubkeys, subkey.list = list ∧ ∃ strings,
        HoldsStrings device.driverRegistryKey subkey.name talk strings ∧
          RuntimeFile.ofStrings? strings = some file := by
  rw [resolve_eq, path_info_bind_iff] at h
  obtain ⟨path, store, registry, rfl, -, hbehind⟩ := path_bind_value_iff.1 h
  obtain ⟨found, hfound, -, hhost, hgathers⟩ := gathers_of_resolveAt hbehind nofun
  obtain rfl := Outcome.value.inj hfound
  by_cases hstore : isHostStore path = true
  · refine ⟨[], ?_, List.forall_mem_nil _⟩
    rw [hhost hstore, List.append_nil]
  -- Not every file that was gathered is added, but every file that is added was gathered.
  · obtain ⟨gathered, hgathered, hfiles⟩ := hgathers (Bool.not_eq_true _ ▸ hstore)
    refine ⟨newcomers (device.files list) (gathered list), ?_, ?_⟩
    · rw [hfiles, mergeFiles_eq_append_newcomers]
    · intro file hmem
      have hgiven : file ∈ gathered list :=
        (perm_newcomers_latecomers _ _).mem_iff.1 (List.mem_append_left _ hmem)
      obtain ⟨subkey, hsubkey, hlist, strings, hholds, hfile⟩ := hgathered.exists_strings hgiven
      exact ⟨subkey, hsubkey, hlist, strings, hholds.mono (List.subset_append_right _ _), hfile⟩

end DeviceRecord

/-! ## From the values to the strings -/

namespace Windows

open Text RegistryKey

/-- The system tells of a value that is a list of strings. -/
def TellsOf (respond : registrySystem.Responder) (value : KeyValue) : Prop :=
  value.type = multiStringType ∧ ∃ past index nameLength dataLength,
    respond past (.enumValue index nameLength dataLength) = (0, value)

/-- What is read of a value is the text of its name and the strings in its data, whatever was in
the buffers before and however long they are. -/
theorem readValue_receive_eq_value {buffers : Buffers} {value : KeyValue}
    {entry : String × List String}
    (h : readValue (buffers.receive value) value = .value entry) :
    value.type = multiStringType ∧ entry = value.entry := by
  have hslice {α : Type} [OfNat α 0] {buffer : Buffer α} {cells part : List α} {count : Nat}
      (hcount : count ≤ cells.length) (hpart : (buffer.write cells).slice count = .value part) :
      part = cells.take count := by
    rw [Buffer.slice, Buffer.take_write_of_le _ hcount] at hpart
    split at hpart
    · exact (Outcome.value.inj hpart).symm
    · cases hpart
  rw [readValue, Outcome.bind_eq_value_iff] at h
  obtain ⟨units, hunits, h⟩ := h
  dsimp only at h
  split at h
  · cases h
  · rename_i htype
    rw [Outcome.bind_eq_value_iff] at h
    obtain ⟨bytes, hbytes, h⟩ := h
    rw [hslice (Nat.mul_div_le _ _) hbytes, hslice (Nat.le_refl _) hunits, List.take_length,
      unitsOfBytes_take_even] at h
    exact ⟨not_not.1 htype, (Outcome.value.inj h).symm⟩

/-- The strings in a map come from what was told of values, or were there before. -/
theorem path_readValues {talk : List (Exchange registrySystem)} {buffers : Buffers}
    {valuesLeft index : Nat} {values map : RegistryValues} {strings : List String}
    (h : (readValues buffers valuesLeft index values).Path talk (.value map))
    (hmem : strings ∈ map.values) :
    strings ∈ values.values ∨ ∃ index nameLength dataLength value,
      ⟨.enumValue index nameLength dataLength, (0, value)⟩ ∈ talk ∧
        value.type = multiStringType ∧ strings = value.strings := by
  induction valuesLeft generalizing buffers index values talk with
  | zero =>
    obtain ⟨-, hmap⟩ := path_pure_iff.1 h
    rw [Outcome.value.inj hmap] at hmem
    exact .inl hmem
  | succ valuesLeft ih =>
    rw [readValues, callRegistry, path_perform_bind_iff] at h
    obtain ⟨⟨status, value⟩, behind, rfl, hbehind⟩ := h
    dsimp only at hbehind
    -- The loop ends here, goes on with the value, or fails.
    by_cases hend : status = noMoreItems
    · rw [if_pos hend] at hbehind
      obtain ⟨-, hmap⟩ := path_pure_iff.1 hbehind
      rw [Outcome.value.inj hmap] at hmem
      exact .inl hmem
    rw [if_neg hend] at hbehind
    by_cases hstatus : status = 0
    · rw [hstatus, checkStatus, if_pos rfl, pure_bind] at hbehind
      obtain ⟨entry, reading, later, rfl, hreading, hlater⟩ := path_bind_value_iff.1 hbehind
      obtain ⟨rfl, hentry⟩ := path_ofOutcome_iff.1 hreading
      obtain ⟨htype, rfl⟩ := readValue_receive_eq_value hentry.symm
      have htold : (⟨.enumValue index buffers.announcedName buffers.announcedData, (0, value)⟩ :
          Exchange registrySystem) ∈ ⟨.enumValue index buffers.announcedName
            buffers.announcedData, (status, value)⟩ :: ([] ++ later) := by
        rw [hstatus]
        exact List.mem_cons_self
      rcases ih hlater with hinserted | ⟨_, _, _, other, hother, hrest⟩
      · rcases SortedMap.mem_values_insert hinserted with rfl | hvalues
        · exact .inr ⟨_, _, _, value, htold, htype, rfl⟩
        · exact .inl hvalues
      · exact .inr ⟨_, _, _, other, List.mem_cons_of_mem _ hother, hrest⟩
    · rw [checkStatus, if_neg hstatus] at hbehind
      obtain ⟨⟨⟩, _, _, -, hfail, -⟩ := path_bind_value_iff.1 hbehind
      cases (path_ends_iff.1 hfail).2

/-- Whatever a key tells, the strings in its map are those of values that are lists of strings. -/
theorem exists_value_of_multiStringValues {respond : registrySystem.Responder}
    {past : List RegistryCall} {map : RegistryValues} {strings : List String}
    (h : (multiStringValues.runAfter respond past).outcome = .value map)
    (hmem : strings ∈ map.values) :
    ∃ value, TellsOf respond value ∧ strings = value.strings := by
  have hpath := path_runAfter respond multiStringValues past
  rw [h] at hpath
  generalize htalk : exchangesAfter respond past _ = talk at hpath
  obtain ⟨⟨status, info⟩, behind, rfl, hbehind⟩ := path_perform_bind_iff.1 hpath
  obtain ⟨⟨⟩, checking, reading, rfl, -, hreading⟩ := path_bind_value_iff.1 hbehind
  rcases path_readValues hreading hmem with hnone | ⟨_, _, _, value, htold, htype, hstrings⟩
  · exact absurd hnone List.not_mem_nil
  · have hin : _ ∈ exchangesAfter respond past _ :=
      htalk ▸ List.mem_cons_of_mem _ (List.mem_append_right _ htold)
    obtain ⟨earlier, hanswer⟩ := exists_past_of_mem_exchangesAfter hin
    exact ⟨value, ⟨htype, earlier, _, _, _, hanswer.symm⟩, hstrings⟩

/-- What is read from units is understood as it was declared, because none of it is empty. -/
theorem declares_decode_iff (units : List UInt16) (file : RuntimeFile) :
    (RuntimeFile.ofStrings? (MultiString.decode units) = some file ↔
      RuntimeFile.Declares (MultiString.decode units) file) ∧
    (RuntimeFile.Declares (MultiString.decode units) file → (file.destinationName = "" ↔
      (MultiString.decode units).length ≠ 2 ∧
        RuntimeFile.endsInSeparator file.sourcePath = true)) := by
  have hne : ∀ string ∈ MultiString.decode units, string ≠ "" :=
    fun string hmem => (MultiString.isListable_of_mem_decode units string hmem).1
  exact ⟨RuntimeFile.ofStrings?_eq_some_iff hne, fun h => h.destinationName_eq_empty_iff hne⟩

/-- **Destinations of runtime files.** Whatever the platform answers and whatever it holds in its
registry, each file that a resolution adds to a list is declared by the strings of a value in a
subkey of the list: of exactly two strings the second is the destination, and otherwise it is the
file name at the end of the source. It is empty exactly if there are not two strings and the source
ends in a separator. -/
theorem destinations_of_resolve (config : Config) (device resolved : DeviceRecord)
    (respond : platformSystem.Responder) (keys : RegistryPath → registrySystem.Responder)
    (hrun : ((device.resolve config).run (readingKeys respond keys)).outcome = .value resolved)
    (list : RuntimeFileList) :
    ∃ added, resolved.files list = device.files list ++ added ∧
      ∀ file ∈ added, ∃ subkey ∈ runtimeFileSubkeys, subkey.list = list ∧
        ∃ key, RegistryPath.parse device.driverRegistryKey = .ok key ∧
          ∃ value, TellsOf (keys (key.join subkey.name)) value ∧
            RuntimeFile.Declares value.strings file ∧
            (file.destinationName = "" ↔ value.strings.length ≠ 2 ∧
              RuntimeFile.endsInSeparator file.sourcePath = true) := by
  have hpath := path_run (readingKeys respond keys) (device.resolve config)
  rw [hrun] at hpath
  obtain ⟨added, hfiles, hadded⟩ := DeviceRecord.files_of_path_resolve hpath list
  refine ⟨added, hfiles, fun file hmem => ?_⟩
  obtain ⟨subkey, hsubkey, hlist, strings, ⟨key, hkey, values, hread, hstrings⟩, hfile⟩ :=
    hadded file hmem
  obtain ⟨earlier, hanswer⟩ := exists_past_of_mem_exchangesAfter hread
  obtain ⟨value, htells, rfl⟩ := exists_value_of_multiStringValues hanswer.symm hstrings
  obtain ⟨hunderstood, hempty⟩ := declares_decode_iff (unitsOfBytes value.data) file
  have hdeclares : RuntimeFile.Declares value.strings file := hunderstood.1 hfile
  exact ⟨subkey, hsubkey, hlist, key, hkey, value, htells, hdeclares, hempty hdeclares⟩

/-- Values that declare three runtime files: with a destination that ends in a separator, with no
destination, and with two strings behind the source. -/
def declaringValues : List KeyValue :=
  [⟨Utf16.encode "1", multiStringType,
      bytesOfUnits (MultiString.encode ["x64\\hip.dll", "amd\\"])⟩,
    ⟨Utf16.encode "2", multiStringType, bytesOfUnits (Utf16.encode "x64/ocl.dll")⟩,
    ⟨Utf16.encode "3", multiStringType,
      bytesOfUnits (MultiString.encode ["new.dll", "a.dll", "b.dll"])⟩]

/-- A value that has a directory for its source and no destination. -/
def directoryValues : List KeyValue :=
  [⟨Utf16.encode "1", multiStringType, bytesOfUnits (MultiString.encode ["x64\\"])⟩]

/-- One subkey of a driver has these values, and no other key has values. -/
def overwriteKey (values : List KeyValue) (path : RegistryPath) : registrySystem.Responder :=
  keyWith (if path = ⟨.users, "amd\\CopyToVmOverwrite"⟩ then values else [])

/-- What a resolution adds to the card where the subkey has these values. -/
def resolvedCard (files : List RuntimeFile) : DeviceRecord :=
  { DeviceRecord.renderCard with
    driverStorePath := "C:\\Windows\\amd"
    runtimeFiles := DeviceRecord.renderCard.runtimeFiles ++ files }

open RuntimeFile in
/-- The file whose destination is taken is not added. The other two are declared by values that the
subkey has, and are not without a destination: the first has one that was given for it, and the
source of the second is its file name. -/
theorem destinations_of_declaringValues :
    let respond := DeviceRecord.clashingDriver.platform.respond
    let keys := overwriteKey declaringValues
    let added : List RuntimeFile := [⟨"x64\\hip.dll", "amd\\"⟩, ⟨"new.dll", "new.dll"⟩]
    ((DeviceRecord.renderCard.resolve (.default none)).run (readingKeys respond keys)).outcome =
        .value (resolvedCard added) ∧
      ∀ file ∈ added, file.destinationName ≠ "" ∧
        ∃ path value, TellsOf (keys path) value ∧ Declares value.strings file := by
  intro respond keys added
  have hrun : ((DeviceRecord.renderCard.resolve (.default none)).run
      (readingKeys respond keys)).outcome = .value (resolvedCard added) := by
    decide +kernel
  obtain ⟨files, hfiles, hdeclared⟩ := destinations_of_resolve (.default none)
    DeviceRecord.renderCard (resolvedCard added) respond keys hrun .primary
  obtain rfl : added = files := List.append_cancel_left hfiles
  refine ⟨hrun, fun file hmem => ?_⟩
  obtain ⟨subkey, -, -, key, -, value, htells, hdeclares, hempty⟩ := hdeclared file hmem
  have hends : ∀ file ∈ added, endsInSeparator file.sourcePath = false := by decide
  refine ⟨?_, key.join subkey.name, value, htells, hdeclares⟩
  rw [Ne, hempty, hends file hmem]
  exact fun h => nomatch h.2

/-- The file without a destination is added. -/
theorem destinations_of_directoryValues :
    let respond := DeviceRecord.clashingDriver.platform.respond
    let directory : RuntimeFile := ⟨"x64\\", ""⟩
    ((DeviceRecord.renderCard.resolve (.default none)).run
        (readingKeys respond (overwriteKey directoryValues))).outcome =
          .value (resolvedCard [directory]) ∧
      directory ∉ DeviceRecord.renderCard.runtimeFiles ∧ directory.destinationName = "" := by
  refine ⟨by decide +kernel, by decide +kernel, rfl⟩

end Windows

end GpuDiscovery
