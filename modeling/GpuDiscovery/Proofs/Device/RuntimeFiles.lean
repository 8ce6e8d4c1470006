import GpuDiscovery.Platform.Script
import GpuDiscovery.Proofs.Device.Merging
import GpuDiscovery.Proofs.Device.Resolution
import GpuDiscovery.Proofs.Platform.Course

/-!
# Where runtime files come from

A driver declares runtime files in four subkeys, each looked into by itself. `Contributes` says what
a subkey can come to: its files if its values could be read, and nothing otherwise, in whatever way
that went wrong. A resolution puts these contributions together (`runtimeFiles_of_resolve`): those
of the first two subkeys end up behind the files for the native word size, those of the last two
behind the files for 32-bit programs, and a destination goes to the file that comes first. A subkey
that could not be read is missing from the sequence, which may let later files take its
destinations, and has no other effect.
-/

namespace GpuDiscovery

open Procedure

/-- What looking into a subkey of a driver's key can come to: what was exchanged about it, and the
runtime files that it gives. -/
inductive Contributes (driverKey subkey : String) : Talk → List RuntimeFile → Prop where
  /-- The driver's key is none, and nothing was asked. -/
  | unparsed (error : DiscoveryError) (h : RegistryPath.parse driverKey = .error error) :
      Contributes driverKey subkey [] []
  /-- The subkey could not be opened. -/
  | unopened {key : RegistryPath} (h : RegistryPath.parse driverKey = .ok key)
      (error : DiscoveryError) :
      Contributes driverKey subkey [⟨.openKey (key.join subkey), .failed error⟩] []
  /-- The subkey could be opened, and its values not be read. -/
  | unread {key : RegistryPath} (h : RegistryPath.parse driverKey = .ok key)
      (error : DiscoveryError) :
      Contributes driverKey subkey
        [⟨.openKey (key.join subkey), .value ()⟩, ⟨.readKey (key.join subkey), .failed error⟩] []
  /-- The values were read: each gives a file, or none if it is empty, in the order of the names. -/
  | read {key : RegistryPath} (h : RegistryPath.parse driverKey = .ok key)
      (values : RegistryValues) :
      Contributes driverKey subkey
        [⟨.openKey (key.join subkey), .value ()⟩, ⟨.readKey (key.join subkey), .value values⟩]
        (values.values.filterMap RuntimeFile.ofStrings?)

namespace DeviceRecord

variable {device resolved : DeviceRecord} {talk : Talk} {name : String}

/-- A subkey that is read through gives the files in its values. -/
theorem contributes_of_readSubkey {files : List RuntimeFile}
    (h : (device.readSubkey name).Path talk (.value files)) :
    Contributes device.driverRegistryKey name talk files := by
  obtain ⟨key, parsing, behind, rfl, hparsing, hbehind⟩ := path_bind_value_iff.1 h
  obtain ⟨⟨⟩, opening, behind, rfl, hopening, hbehind⟩ := path_bind_value_iff.1 hbehind
  obtain ⟨values, reading, ending, rfl, hreading, hending⟩ := path_bind_value_iff.1 hbehind
  obtain ⟨rfl, hkey⟩ := path_ofOutcome_iff.1 hparsing
  obtain ⟨rfl, hfiles⟩ := path_pure_iff.1 hending
  rw [path_context_value_iff, path_ask_iff] at hopening hreading
  rw [hopening, hreading, Outcome.value.inj hfiles]
  exact .read (Outcome.ofExcept_eq_value_iff.1 hkey.symm) values

/-- A subkey at which something fails gives nothing. -/
theorem contributes_of_readSubkey_failed {error : DiscoveryError}
    (h : (device.readSubkey name).Path talk (.failed error)) :
    Contributes device.driverRegistryKey name talk [] := by
  rcases path_bind_failed_iff.1 h with hparsing | ⟨key, parsing, behind, rfl, hparsing, hbehind⟩
  · obtain ⟨rfl, hkey⟩ := path_ofOutcome_iff.1 hparsing
    exact .unparsed error (Outcome.ofExcept_eq_failed_iff.1 hkey.symm)
  obtain ⟨rfl, hkey⟩ := path_ofOutcome_iff.1 hparsing
  have hparse : RegistryPath.parse device.driverRegistryKey = .ok key :=
    Outcome.ofExcept_eq_value_iff.1 hkey.symm
  rcases path_bind_failed_iff.1 hbehind with
    hopening | ⟨⟨⟩, opening, behind, rfl, hopening, hbehind⟩
  · obtain ⟨cause, hopening, -⟩ := path_context_failed_iff.1 hopening
    rw [path_ask_iff.1 hopening]
    exact .unopened hparse cause
  rw [path_context_value_iff, path_ask_iff] at hopening
  rcases path_bind_failed_iff.1 hbehind with
    hreading | ⟨values, reading, ending, rfl, hreading, hending⟩
  · obtain ⟨cause, hreading, -⟩ := path_context_failed_iff.1 hreading
    rw [hopening, path_ask_iff.1 hreading]
    exact .unread hparse cause
  · exact absurd (path_pure_iff.1 hending).2 nofun

/-- Looking into a subkey gives what the subkey contributes, or the platform crashes. -/
theorem contributes_of_readSubkeyIfPossible {outcome : Outcome (List RuntimeFile)}
    (h : (device.readSubkeyIfPossible name).Path talk outcome) (hcrash : outcome ≠ .crashed) :
    ∃ files, outcome = .value files ∧ Contributes device.driverRegistryKey name talk files := by
  rcases path_bind_iff.1 h with
    ⟨tried, reading, behind, rfl, hreading, hbehind⟩ | ⟨error, hreading, rfl⟩ | ⟨-, rfl⟩
  · rcases path_attempt_iff.1 hreading with
      ⟨files, hread, htried⟩ | ⟨error, hread, htried⟩ | ⟨-, htried⟩
    · rw [Outcome.value.inj htried] at hbehind
      obtain ⟨rfl, rfl⟩ := path_pure_iff.1 hbehind
      rw [List.append_nil]
      exact ⟨files, rfl, contributes_of_readSubkey hread⟩
    · rw [Outcome.value.inj htried] at hbehind
      dsimp only at hbehind
      rw [path_info_bind_iff] at hbehind
      obtain ⟨rfl, rfl⟩ := path_pure_iff.1 hbehind
      rw [List.append_nil]
      exact ⟨[], rfl, contributes_of_readSubkey_failed hread⟩
    · cases htried
  · rcases path_attempt_iff.1 hreading with ⟨_, -, hnone⟩ | ⟨_, -, hnone⟩ | ⟨-, hnone⟩
    all_goals cases hnone
  · exact absurd rfl hcrash

/-! ## Subkey by subkey -/

/-- Subkeys were looked into one after the other, and so many files came of them for each list. -/
inductive Gathers (driverKey : String) :
    List RuntimeFileSubkey → Talk → (RuntimeFileList → List RuntimeFile) → Prop where
  | nil : Gathers driverKey [] [] fun _ => []
  | cons {subkey : RuntimeFileSubkey} {rest : List RuntimeFileSubkey} {talk others : Talk}
      {files : List RuntimeFile} {gathered : RuntimeFileList → List RuntimeFile}
      (h : Contributes driverKey subkey.name talk files)
      (hrest : Gathers driverKey rest others gathered) :
      Gathers driverKey (subkey :: rest) (talk ++ others) fun list =>
        if subkey.list = list then files ++ gathered list else gathered list

/-- Subkeys give what they contribute, or the platform crashes. -/
theorem gathers_of_addSubkeys {subkeys : List RuntimeFileSubkey} {outcome : Outcome DeviceRecord}
    (h : (addSubkeys subkeys device).Path talk outcome) (hcrash : outcome ≠ .crashed) :
    ∃ resolved gathered, outcome = .value resolved ∧
      Gathers device.driverRegistryKey subkeys talk gathered ∧
      ∀ list, resolved.files list = (mergeFiles (device.files list) (gathered list)).1 := by
  induction subkeys generalizing device talk with
  | nil =>
    obtain ⟨rfl, rfl⟩ := path_pure_iff.1 h
    exact ⟨device, _, rfl, .nil, fun _ => rfl⟩
  | cons subkey rest ih =>
    rcases path_bind_iff.1 h with
      ⟨files, looking, behind, rfl, hlooking, hbehind⟩ | ⟨error, hlooking, rfl⟩ | ⟨-, rfl⟩
    · obtain ⟨found, hfound, hcontributes⟩ :=
        contributes_of_readSubkeyIfPossible hlooking (by rintro ⟨⟩)
      rw [← Outcome.value.inj hfound] at hcontributes
      have hrest : (addSubkeys rest (device.appendFiles subkey.list files).1).Path behind outcome :=
        (endsAs_noteIgnored _ _).path_bind hbehind
      obtain ⟨resolved, gathered, rfl, hgathers, hfiles⟩ := ih hrest
      rw [appendFiles, driverRegistryKey_withFiles] at hgathers
      refine ⟨resolved, _, rfl, .cons hcontributes hgathers, ?_⟩
      intro list
      rw [hfiles, appendFiles]
      by_cases hlist : subkey.list = list
      · rw [if_pos hlist, mergeFiles_append, ← hlist, files_withFiles]
      · rw [if_neg hlist, files_withFiles_of_ne _ _ (Ne.symm hlist)]
    · obtain ⟨_, hnone, -⟩ := contributes_of_readSubkeyIfPossible hlooking (by rintro ⟨⟩)
      cases hnone
    · exact absurd rfl hcrash

/-! ## A resolution -/

/-- What a device gains from the registry, given what was exchanged about its driver: about the
store first, and then about one subkey after the other. Behind the files that were there come those
of two subkeys, without the ones whose destination stands in front of them already. -/
def GainsFrom (device resolved : DeviceRecord) (talk : Talk) : Prop :=
  ∃ store first second third fourth overwrite newer overwriteWow64 newerWow64,
    talk = store ++ (first ++ (second ++ (third ++ fourth))) ∧
    (∀ exchange ∈ store, exchange.call.stage = .stores) ∧
    Contributes device.driverRegistryKey "CopyToVmOverwrite" first overwrite ∧
    Contributes device.driverRegistryKey "CopyToVmWhenNewer" second newer ∧
    Contributes device.driverRegistryKey "CopyToVmOverwriteWow64" third overwriteWow64 ∧
    Contributes device.driverRegistryKey "CopyToVmWhenNewerWow64" fourth newerWow64 ∧
    resolved.runtimeFiles =
      device.runtimeFiles ++ newcomers device.runtimeFiles (overwrite ++ newer) ∧
    resolved.runtimeFilesWow64 =
      device.runtimeFilesWow64 ++
        newcomers device.runtimeFilesWow64 (overwriteWow64 ++ newerWow64)

theorem GainsFrom.of_gathers {store registry : Talk}
    {gathered : RuntimeFileList → List RuntimeFile}
    (hstore : ∀ exchange ∈ store, exchange.call.stage = .stores)
    (hgathers : Gathers device.driverRegistryKey runtimeFileSubkeys registry gathered)
    (hfiles : ∀ list, resolved.files list = (mergeFiles (device.files list) (gathered list)).1) :
    device.GainsFrom resolved (store ++ registry) := by
  have hprimary := hfiles .primary
  have hwow64 := hfiles .wow64
  rw [mergeFiles_eq_append_newcomers] at hprimary hwow64
  -- There are four subkeys, so the list of them is taken apart four times.
  obtain _ | ⟨hfirst, hrest⟩ := hgathers
  obtain _ | ⟨hsecond, hrest⟩ := hrest
  obtain _ | ⟨hthird, hrest⟩ := hrest
  obtain _ | ⟨hfourth, hrest⟩ := hrest
  cases hrest
  refine ⟨store, _, _, _, _, _, _, _, _, ?_, hstore, hfirst, hsecond, hthird, hfourth, ?_, ?_⟩
  · rw [List.append_nil]
  · simpa [files] using hprimary
  · simpa [files] using hwow64

/-- A device whose store was found is resolved, or the platform crashes. In the store of a host
nothing more is asked. -/
theorem gathers_of_resolveAt {path : String} {outcome : Outcome DeviceRecord}
    (h : (device.resolveAt path).Path talk outcome) (hcrash : outcome ≠ .crashed) :
    ∃ resolved, outcome = .value resolved ∧ resolved.driverStorePath = path ∧
      (isHostStore path = true → ∀ list, resolved.files list = device.files list) ∧
      (isHostStore path = false → ∃ gathered,
        Gathers device.driverRegistryKey runtimeFileSubkeys talk gathered ∧
          ∀ list, resolved.files list = (mergeFiles (device.files list) (gathered list)).1) := by
  rw [resolveAt] at h
  by_cases hhost : isHostStore path = true
  · rw [if_pos hhost, path_info_bind_iff] at h
    obtain ⟨rfl, rfl⟩ := path_pure_iff.1 h
    refine ⟨_, rfl, rfl, ?_, ?_⟩
    · rintro - (_ | _)
      · rfl
      · rfl
    · intro hno
      rw [hhost] at hno
      cases hno
  · rw [if_neg hhost] at h
    obtain ⟨resolved, gathered, rfl, hgathers, hfiles⟩ := gathers_of_addSubkeys h hcrash
    obtain ⟨-, hpath, -⟩ := path_addSubkeys h
    refine ⟨resolved, rfl, hpath, fun hyes => absurd hyes hhost, fun _ => ⟨gathered, hgathers, ?_⟩⟩
    rintro (_ | _)
    · exact hfiles .primary
    · exact hfiles .wow64

/-- **Where runtime files come from.** A resolution that succeeds found the driver store. In the
store of a host the runtime files stay as they are; anywhere else they grow by what the four subkeys
contribute. A resolution that fails did so before it came to the registry, so whatever goes wrong
with a subkey makes no resolution fail. -/
theorem runtimeFiles_of_resolve (config : Config) (device : DeviceRecord) (platform : Platform) :
    let run := (device.resolve config).run platform.respond
    (∀ resolved, run.outcome = .value resolved →
      (∃ store, storePaths (run.exchanges platform.respond) = [store] ∧
        resolved.IsStoredAt config store) ∧
      (isHostStore resolved.driverStorePath = true →
        ∀ list, resolved.files list = device.files list) ∧
      (isHostStore resolved.driverStorePath = false →
        device.GainsFrom resolved (run.exchanges platform.respond))) ∧
    ∀ error, run.outcome = .failed error →
      ∀ exchange ∈ run.exchanges platform.respond, exchange.call.stage = .stores := by
  intro run
  have hpath : (device.resolve config).Path (run.exchanges platform.respond) run.outcome :=
    path_run platform.respond (device.resolve config)
  generalize run.exchanges platform.respond = talk at hpath
  generalize run.outcome = outcome at hpath
  have hstores := staysIn_findDriverStore config device
  have hbehind := hpath
  rw [resolve_eq, path_info_bind_iff] at hbehind
  rcases path_bind_iff.1 hbehind with
    ⟨path, store, registry, rfl, hstore, hbehind⟩ | ⟨error, hstore, rfl⟩ | ⟨-, rfl⟩
  · by_cases hcrash : outcome = .crashed
    · subst hcrash
      constructor
      · rintro _ ⟨⟩
      · rintro _ ⟨⟩
    · obtain ⟨resolved, rfl, hstored, hhost, hgathers⟩ := gathers_of_resolveAt hbehind hcrash
      constructor
      · rintro _ ⟨⟩
        rw [hstored]
        refine ⟨(path_resolve hpath).2.1, hhost, ?_⟩
        intro hno
        obtain ⟨gathered, hgathered, hfiles⟩ := hgathers hno
        exact .of_gathers (hstores.of_path hstore) hgathered hfiles
      · rintro _ ⟨⟩
  · constructor
    · rintro _ ⟨⟩
    · intro _ _ exchange hmem
      exact hstores.of_path hstore exchange hmem
  · constructor
    · rintro _ ⟨⟩
    · rintro _ ⟨⟩

/-- A device that has one runtime file before it is resolved. -/
def renderCard : DeviceRecord :=
  { (default : DeviceRecord) with
    adapter := ⟨5, ⟨0x1002, 0x73BF, 0, 0⟩, true, false, false, true, true⟩
    driverRegistryKey := "HKEY_USERS\\amd"
    runtimeFiles := [.ofPaths "base\\ocl.dll" ""] }

/-- A driver whose files clash. Of its four subkeys one cannot be read and one is not there. -/
def clashingDriver : Script :=
  let subkey (name : String) : String := renderCard.driverRegistryKey ++ "\\" ++ name
  { Script.empty with
    stores := .ofList [(5, { opening := none, replies := [.path "\\SystemRoot\\amd"] })]
    keys := .ofList [
      (subkey "CopyToVmOverwrite",
        { opening := none
          reading := none
          values := .ofList [("2", ["x64\\hip.dll"]), ("1", []),
            ("10", ["x64\\new.dll", "hip.dll"]), ("3", ["x64\\ocl.dll"])] }),
      (subkey "CopyToVmWhenNewer",
        { opening := none
          reading := some (.error (.message "busy"))
          values := .ofList [("1", ["x64\\lost.dll"])] }),
      (subkey "CopyToVmWhenNewerWow64",
        { opening := none
          reading := none
          values := .ofList [("1", ["x86\\ocl.dll"]), ("2", ["x86/hip.dll", "ocl.dll"])] })] }

/-- The card with what the clashing driver adds to it. Value "10" comes in front of value "2", the
file that was there keeps its destination, and each list has files of one subkey. -/
def clashingCard : DeviceRecord :=
  { renderCard with
    driverStorePath := "C:\\Windows\\amd"
    runtimeFiles := [.ofPaths "base\\ocl.dll" "", .ofPaths "x64\\new.dll" "hip.dll"]
    runtimeFilesWow64 := [.ofPaths "x86\\ocl.dll" ""] }

/-- The card is resolved although two of its subkeys come to nothing. -/
theorem runtimeFiles_of_clashingDriver :
    ((renderCard.resolve (.default none)).run clashingDriver.platform.respond).outcome =
        .value clashingCard ∧
      isHostStore clashingCard.driverStorePath = false ∧
      renderCard.GainsFrom clashingCard
        (((renderCard.resolve (.default none)).run clashingDriver.platform.respond).exchanges
          clashingDriver.platform.respond) := by
  have hrun : ((renderCard.resolve (.default none)).run clashingDriver.platform.respond).outcome =
      .value clashingCard := by
    decide +kernel
  have hhost : isHostStore clashingCard.driverStorePath = false := by
    decide +kernel
  obtain ⟨hresolved, -⟩ :=
    runtimeFiles_of_resolve (.default none) renderCard clashingDriver.platform
  obtain ⟨-, -, hgains⟩ := hresolved clashingCard hrun
  exact ⟨hrun, hhost, hgains hhost⟩

end DeviceRecord

end GpuDiscovery
