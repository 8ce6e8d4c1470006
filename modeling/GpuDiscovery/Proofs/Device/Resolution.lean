import GpuDiscovery.Proofs.Device.Correlation
import GpuDiscovery.Proofs.Device.Merging

/-!
# What a resolution comes to

What a device gains from its driver, from the exchanges of a successful resolution. Of all the
queries for a driver store only the last one completes, so the completed ones (`storePaths`) are as
many as the devices and in the same order (`path_resolveDevices`). The runtime files that are found
depend on the registry; that no destination is taken twice in a list does not
(`HasDistinctDestinations`).
-/

namespace GpuDiscovery

open Procedure

/-! ## Destinations -/

namespace DeviceRecord

/-- In neither list of runtime files a destination is taken twice. -/
def HasDistinctDestinations (device : DeviceRecord) : Prop :=
  ∀ list, ((device.files list).map RuntimeFile.destinationName).Nodup

theorem HasDistinctDestinations.appendFiles {device : DeviceRecord}
    (h : device.HasDistinctDestinations) (list : RuntimeFileList) (files : List RuntimeFile) :
    (device.appendFiles list files).1.HasDistinctDestinations := by
  intro other
  rw [DeviceRecord.appendFiles]
  by_cases hlist : other = list
  · rw [hlist, files_withFiles]
    exact nodup_mergeFiles (h list) files
  · rw [files_withFiles_of_ne _ _ hlist]
    exact h other

theorem HasDistinctDestinations.of_bare_eq {device : DeviceRecord} (h : device.bare = device) :
    device.HasDistinctDestinations := by
  intro list
  rw [← h]
  rcases list with _ | _
  · exact List.nodup_nil
  · exact List.nodup_nil

/-- Adding files is adding nothing else. -/
theorem bare_withFiles (device : DeviceRecord) (files : List RuntimeFile)
    (list : RuntimeFileList) : (device.withFiles files list).bare = device.bare := by
  rcases list with _ | _
  · rfl
  · rfl

theorem driverStorePath_withFiles (device : DeviceRecord) (files : List RuntimeFile)
    (list : RuntimeFileList) :
    (device.withFiles files list).driverStorePath = device.driverStorePath := by
  rcases list with _ | _
  · rfl
  · rfl

theorem driverRegistryKey_withFiles (device : DeviceRecord) (files : List RuntimeFile)
    (list : RuntimeFileList) :
    (device.withFiles files list).driverRegistryKey = device.driverRegistryKey := by
  rcases list with _ | _
  · rfl
  · rfl

end DeviceRecord

/-! ## Driver stores -/

/-- The path with which a query for the driver store of an adapter was completed. -/
def Exchange.storePath? : Exchange platformSystem → Option (Luid × String)
  | ⟨.queryStorePath luid _, .value (.complete path)⟩ => some (luid, path)
  | _ => none

/-- The completed queries for driver stores, in order. -/
def storePaths (talk : List (Exchange platformSystem)) : List (Luid × String) :=
  talk.filterMap Exchange.storePath?

theorem storePaths_append (xs ys : List (Exchange platformSystem)) :
    storePaths (xs ++ ys) = storePaths xs ++ storePaths ys :=
  List.filterMap_append

theorem storePaths_eq_nil {talk : List (Exchange platformSystem)}
    (h : ∀ exchange ∈ talk, exchange.call.stage ≠ .stores) : storePaths talk = [] := by
  refine filterMap_eq_nil_of_stage ?_ h
  rintro ⟨call, answer⟩ hstage
  rcases call with _ | _ | _ | _ | _ | _ | ⟨luid, capacity⟩ | _ | _
  case queryStorePath => exact absurd rfl hstage
  all_goals rfl

/-- The store of the device is where the query said. -/
def DeviceRecord.IsStoredAt (config : Config) (device : DeviceRecord) (store : Luid × String) :
    Prop :=
  store.1 = device.adapter.luid ∧
    device.driverStorePath = expandSystemRoot store.2 config.systemRoot

variable {talk : List (Exchange platformSystem)}

/-- A growing query ends with the first attempt that completes. -/
theorem path_growFrom {luid : Luid} {maxAttempts attempts capacity : Nat} {text : String}
    (h : (growFrom (fun capacity => ask (.queryStorePath luid capacity)) maxAttempts attempts
      capacity).Path talk (.value text)) :
    storePaths talk = [(luid, text)] := by
  induction attempts generalizing capacity talk with
  | zero =>
    obtain ⟨-, hfail⟩ := path_ends_iff.1 h
    exact absurd hfail nofun
  | succ attempts ih =>
    obtain ⟨answer, asked, behind, rfl, hasked, hbehind⟩ := path_bind_value_iff.1 h
    rw [path_ask_iff] at hasked
    rw [storePaths_append, hasked]
    -- An answer that asks for room completes nothing, so only the last attempt is left.
    rcases answer with found | required
    · obtain ⟨rfl, htext⟩ := path_pure_iff.1 hbehind
      rw [Outcome.value.inj htext]
      rfl
    · dsimp only at hbehind
      by_cases hstuck : required ≤ capacity
      · rw [if_pos hstuck] at hbehind
        obtain ⟨-, hfail⟩ := path_ends_iff.1 hbehind
        exact absurd hfail nofun
      · rw [if_neg hstuck] at hbehind
        rw [ih hbehind]
        rfl

namespace DeviceRecord

variable {config : Config} {device resolved : DeviceRecord}

theorem endsAs_noteIgnored (name : String) (files : List RuntimeFile) :
    (noteIgnored name files).EndsAs (.value ()) := by
  induction files with
  | nil => exact endsAs_pure ()
  | cons file rest ih => exact EndsAs.value_bind (endsAs_info _) ih

theorem path_findDriverStore {path : String}
    (h : (device.findDriverStore config).Path talk (.value path)) :
    ∃ found, storePaths talk = [(device.adapter.luid, found)] ∧
      path = expandSystemRoot found config.systemRoot := by
  obtain ⟨⟨⟩, opened, queried, rfl, hopened, hbehind⟩ := path_bind_value_iff.1 h
  obtain ⟨found, before, after, rfl, hfound, hend⟩ := path_bind_value_iff.1 hbehind
  rw [path_context_value_iff] at hopened hfound
  obtain ⟨rfl, hpath⟩ := path_pure_iff.1 hend
  refine ⟨found, ?_, Outcome.value.inj hpath⟩
  rw [path_ask_iff.1 hopened, List.append_nil, storePaths_append, path_growFrom hfound]
  rfl

/-- Subkeys add runtime files, each destination once, and nothing else. -/
theorem path_addSubkeys {subkeys : List RuntimeFileSubkey}
    (h : (addSubkeys subkeys device).Path talk (.value resolved)) :
    resolved.bare = device.bare ∧ resolved.driverStorePath = device.driverStorePath ∧
      (device.HasDistinctDestinations → resolved.HasDistinctDestinations) := by
  induction subkeys generalizing device talk with
  | nil =>
    obtain ⟨-, hresolved⟩ := path_pure_iff.1 h
    rw [Outcome.value.inj hresolved]
    exact ⟨rfl, rfl, fun hdevice => hdevice⟩
  | cons subkey rest ih =>
    obtain ⟨files, _, _, -, -, hadded⟩ := path_bind_value_iff.1 h
    obtain ⟨⟨⟩, _, _, -, -, hrest⟩ := path_bind_value_iff.1 hadded
    obtain ⟨hbare, hpath, hdistinct⟩ := ih hrest
    refine ⟨?_, ?_, fun hdevice => hdistinct (hdevice.appendFiles subkey.list files)⟩
    · rw [hbare]
      exact bare_withFiles _ _ _
    · rw [hpath]
      exact driverStorePath_withFiles _ _ _

/-- Adds what is left to tell of a device whose driver store was found. -/
def resolveAt (device : DeviceRecord) (path : String) : Procedure platformSystem DeviceRecord := do
  let device := { device with driverStorePath := path }
  if isHostStore path then
    info "running inside a container, skipping runtime file enumeration"
    return device
  addSubkeys runtimeFileSubkeys device

/-- A resolution finds the driver store and goes on from there. -/
theorem resolve_eq (config : Config) (device : DeviceRecord) :
    device.resolve config =
      (info ("querying driver details for device " ++ device.id) >>= fun _ =>
        device.findDriverStore config >>= fun path => device.resolveAt path) := rfl

/-- **What a successful resolution adds.** The path of the one completed query, and runtime
files. -/
theorem path_resolve (h : (device.resolve config).Path talk (.value resolved)) :
    resolved.bare = device.bare ∧
      (∃ store, storePaths talk = [store] ∧ resolved.IsStoredAt config store) ∧
      (device.HasDistinctDestinations → resolved.HasDistinctDestinations) := by
  rw [resolve, path_info_bind_iff] at h
  obtain ⟨path, asked, behind, rfl, hasked, hbehind⟩ := path_bind_value_iff.1 h
  obtain ⟨found, hstores, hpath⟩ := path_findDriverStore hasked
  dsimp only at hbehind
  by_cases hhost : isHostStore path = true
  · rw [if_pos hhost, path_info_bind_iff] at hbehind
    obtain ⟨rfl, hresolved⟩ := path_pure_iff.1 hbehind
    rw [Outcome.value.inj hresolved, List.append_nil]
    exact ⟨rfl, ⟨_, hstores, rfl, hpath⟩, fun hdevice => hdevice⟩
  -- The registry is asked behind the store, and its answers are no part of the path.
  · rw [if_neg hhost] at hbehind
    obtain ⟨hbare, hstored, hdistinct⟩ := path_addSubkeys hbehind
    have hadapter : resolved.adapter = device.adapter := congrArg (fun bare => bare.adapter) hbare
    have hnone : storePaths behind = [] := by
      apply storePaths_eq_nil
      intro exchange hmem
      rw [(staysIn_addSubkeys _ _).of_path hbehind exchange hmem]
      decide
    rw [storePaths_append, hstores, hnone]
    exact ⟨hbare, ⟨_, rfl, congrArg AdapterRecord.luid hadapter.symm, hstored.trans hpath⟩,
      hdistinct⟩

end DeviceRecord

end GpuDiscovery
