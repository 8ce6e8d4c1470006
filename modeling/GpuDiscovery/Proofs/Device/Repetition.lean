import GpuDiscovery.Proofs.Device.InPlace
import GpuDiscovery.Proofs.Device.RuntimeFiles

/-!
# Resolving a device again

A resolution that fails leaves the device alone, and one that succeeds only adds to it. So a device
can be resolved again at any time, and if the platform answers as it did, nothing comes of it: every
file of the driver finds its destination taken (`taken_addReadings`), by itself or by the file that
kept it out the first time, and is noted as ignored.

What the subkeys are found to hold does not depend on the files that a device has already. So the
readings of a resolution (`Reads`) are set apart from what becomes of them (`addReadings`), and when
the platform repeats its answers the readings are the same (`Reads.repeated`), though other files
may be ignored.
-/

namespace GpuDiscovery

open Procedure

namespace DeviceRecord

/-- Files are only added behind those that are there. -/
theorem prefix_appendFiles (device : DeviceRecord) (list other : RuntimeFileList)
    (files : List RuntimeFile) :
    device.files other <+: (device.appendFiles list files).1.files other := by
  rw [appendFiles]
  by_cases hlist : other = list
  · rw [hlist, files_withFiles]
    exact prefix_mergeFiles _ _
  · exact ⟨[], (List.append_nil _).trans (files_withFiles_of_ne _ _ hlist).symm⟩

/-! ## Readings -/

/-- The note about a file that was ignored because its destination was taken. -/
def ignoredNote (name : String) (file : RuntimeFile) : Event PlatformCall :=
  .info (name ++ ": ignoring runtime file with duplicate destination filename " ++
    file.destinationName)

/-- A subkey that was looked into: the files that it gave, and what happened on the way. -/
structure SubkeyReading where
  subkey : RuntimeFileSubkey
  files : List RuntimeFile
  events : List (Event PlatformCall)

/-- The calls that were made to look into the subkey. -/
def SubkeyReading.calls (reading : SubkeyReading) : List PlatformCall :=
  callsOf reading.events

/-- The notes about all files of the subkey being ignored. -/
def SubkeyReading.ignored (reading : SubkeyReading) : List (Event PlatformCall) :=
  reading.files.map (ignoredNote reading.subkey.name)

/-- Looked into one after the other for a device, the subkeys give these readings. -/
inductive Reads (respond : platformSystem.Responder) (device : DeviceRecord) :
    (past : List PlatformCall) → List RuntimeFileSubkey → List SubkeyReading → Prop where
  | nil {past : List PlatformCall} : Reads respond device past [] []
  | cons {past : List PlatformCall} {subkey : RuntimeFileSubkey} {rest : List RuntimeFileSubkey}
      {files : List RuntimeFile} {events : List (Event PlatformCall)}
      {readings : List SubkeyReading}
      (h : (device.readSubkeyIfPossible subkey.name).runAfter respond past =
        ⟨.value files, events⟩)
      (hrest : Reads respond device ((callsOf events).reverse ++ past) rest readings) :
      Reads respond device past (subkey :: rest) (⟨subkey, files, events⟩ :: readings)

/-- The device with the files of some readings added. -/
def addReadings : List SubkeyReading → DeviceRecord → DeviceRecord
  | [], device => device
  | reading :: rest, device =>
    addReadings rest (device.appendFiles reading.subkey.list reading.files).1

/-- What happens while the files of some readings are added to a device. -/
def addingEvents : List SubkeyReading → DeviceRecord → List (Event PlatformCall)
  | [], _ => []
  | reading :: rest, device =>
    let (device, ignored) := device.appendFiles reading.subkey.list reading.files
    reading.events ++ (ignored.map (ignoredNote reading.subkey.name) ++ addingEvents rest device)

variable {respond again : platformSystem.Responder} {past later : List PlatformCall}
  {device other after : DeviceRecord} {subkeys : List RuntimeFileSubkey}
  {readings : List SubkeyReading}

theorem runAfter_noteIgnored (respond : platformSystem.Responder) (past : List PlatformCall)
    (name : String) (files : List RuntimeFile) :
    (noteIgnored name files).runAfter respond past =
      ⟨.value (), files.map (ignoredNote name)⟩ := by
  induction files with
  | nil => rfl
  | cons file rest ih => exact congrArg (Run.after (ignoredNote name file)) ih

/-- A note is no call. -/
theorem callsOf_map_ignoredNote (name : String) (files : List RuntimeFile) :
    callsOf (files.map (ignoredNote name)) = [] := by
  rw [callsOf, List.filterMap_map]
  exact List.filterMap_none files

/-- Where a subkey is looked for depends on the driver's key, and on nothing else of the device. -/
theorem readSubkeyIfPossible_congr (h : other.driverRegistryKey = device.driverRegistryKey)
    (name : String) : other.readSubkeyIfPossible name = device.readSubkeyIfPossible name := by
  rw [readSubkeyIfPossible, readSubkeyIfPossible, readSubkey, readSubkey, h]

/-- A device with the same driver key gives the same readings. -/
theorem Reads.congr (h : Reads respond device past subkeys readings)
    (hkey : other.driverRegistryKey = device.driverRegistryKey) :
    Reads respond other past subkeys readings := by
  induction h with
  | nil => exact .nil
  | cons h _ ih =>
    rw [← readSubkeyIfPossible_congr hkey] at h
    exact .cons h ih

/-- **Answered as they were, the subkeys give the same readings.** -/
theorem Reads.repeated (h : Reads respond device past subkeys readings)
    (hsame : exchangesAfter again later (readings.flatMap SubkeyReading.calls) =
      exchangesAfter respond past (readings.flatMap SubkeyReading.calls)) :
    Reads again device later subkeys readings := by
  induction h generalizing later with
  | nil => exact .nil
  | cons h _ ih =>
    rw [List.flatMap_cons] at hsame
    obtain ⟨hfirst, hrest⟩ := exchangesAfter_append_inj hsame
    refine .cons ?_ (ih hrest)
    rw [← h]
    apply runAfter_eq_of_exchanges
    rw [h]
    exact hfirst

/-- Adding subkeys is adding their readings. -/
theorem Reads.runAfter_addSubkeys (h : Reads respond device past subkeys readings) :
    (addSubkeys subkeys device).runAfter respond past =
      ⟨.value (addReadings readings device), addingEvents readings device⟩ := by
  suffices hall : ∀ other : DeviceRecord, other.driverRegistryKey = device.driverRegistryKey →
      (addSubkeys subkeys other).runAfter respond past =
        ⟨.value (addReadings readings other), addingEvents readings other⟩ from hall device rfl
  induction h with
  | nil => exact fun other _ => rfl
  | @cons _ subkey rest files events readings h _ ih =>
    intro other hkey
    have hadded := ih (other.appendFiles subkey.list files).1
      ((driverRegistryKey_withFiles _ _ _).trans hkey)
    rw [addSubkeys, runAfter_bind, readSubkeyIfPossible_congr hkey, h]
    dsimp only
    rw [runAfter_bind, runAfter_noteIgnored]
    dsimp only
    rw [callsOf_map_ignoredNote, List.reverse_nil, List.nil_append, hadded]
    rfl

/-- Subkeys that could be added were all read. -/
theorem exists_reads_of_addSubkeys
    (h : ((addSubkeys subkeys device).runAfter respond past).outcome = .value after) :
    ∃ readings, Reads respond device past subkeys readings := by
  induction subkeys generalizing device past with
  | nil => exact ⟨[], .nil⟩
  | cons subkey rest ih =>
    rw [addSubkeys] at h
    obtain ⟨files, hfiles⟩ := exists_value_of_bind h
    rw [runAfter_bind_of_value _ hfiles] at h
    dsimp only at h
    rw [runAfter_bind, runAfter_noteIgnored] at h
    dsimp only at h
    rw [callsOf_map_ignoredNote, List.reverse_nil, List.nil_append] at h
    obtain ⟨readings, hreadings⟩ := ih h
    exact ⟨_, .cons (congrArg (Run.mk · _) hfiles)
      (hreadings.congr (driverRegistryKey_withFiles _ _ _).symm)⟩

/-! ## What becomes of readings -/

/-- Whatever the device makes of the readings, the calls are those that they were read with. -/
theorem callsOf_addingEvents (readings : List SubkeyReading) (device : DeviceRecord) :
    callsOf (addingEvents readings device) = readings.flatMap SubkeyReading.calls := by
  induction readings generalizing device with
  | nil => rfl
  | cons reading rest ih =>
    rw [addingEvents]
    dsimp only
    rw [callsOf_append, callsOf_append, callsOf_map_ignoredNote, List.nil_append, ih,
      List.flatMap_cons]
    rfl

theorem prefix_addReadings (readings : List SubkeyReading) (device : DeviceRecord)
    (list : RuntimeFileList) :
    device.files list <+: (addReadings readings device).files list := by
  induction readings generalizing device with
  | nil => exact List.prefix_rfl
  | cons reading rest ih => exact (prefix_appendFiles _ _ _ _).trans (ih _)

/-- Once readings were added, the destination of each of their files is taken. -/
theorem taken_addReadings {reading : SubkeyReading} (hreading : reading ∈ readings)
    {file : RuntimeFile} (hfile : file ∈ reading.files) :
    hasDestination ((addReadings readings device).files reading.subkey.list)
      file.destinationName = true := by
  induction readings generalizing device with
  | nil => exact absurd hreading List.not_mem_nil
  | cons first rest ih =>
    rcases List.mem_cons.1 hreading with rfl | hreading
    · refine hasDestination_of_prefix (prefix_addReadings rest _ _) ?_
      rw [appendFiles, files_withFiles]
      exact taken_mergeFiles hfile
    · exact ih hreading

/-- Readings with nothing new change nothing, and all their files are ignored. -/
theorem addReadings_of_taken (h : ∀ reading ∈ readings, ∀ file ∈ reading.files,
      hasDestination (device.files reading.subkey.list) file.destinationName = true) :
    addReadings readings device = device ∧
      addingEvents readings device =
        readings.flatMap fun reading => reading.events ++ reading.ignored := by
  induction readings with
  | nil => exact ⟨rfl, rfl⟩
  | cons reading rest ih =>
    rw [List.forall_mem_cons] at h
    obtain ⟨hdevice, hevents⟩ := ih h.2
    have hsame : device.appendFiles reading.subkey.list reading.files =
        (device, reading.files) := by
      rw [appendFiles, mergeFiles_of_taken h.1]
      exact congrArg (·, reading.files) (withFiles_files _ _)
    rw [addReadings, addingEvents, hsame]
    refine ⟨hdevice, ?_⟩
    dsimp only
    rw [hevents, List.flatMap_cons, List.append_assoc]
    rfl

/-! ## Resolving -/

/-- What happens behind the store when a device that has all the files of its driver is resolved
again: the store of a host ends it, and anywhere else the subkeys are read and everything in them is
ignored. -/
inductive IgnoresAll (respond : platformSystem.Responder) (device : DeviceRecord)
    (past : List PlatformCall) : List (Event PlatformCall) → Prop where
  | host (h : isHostStore device.driverStorePath = true) :
      IgnoresAll respond device past
        [.info "running inside a container, skipping runtime file enumeration"]
  | elsewhere (h : isHostStore device.driverStorePath = false) {readings : List SubkeyReading}
      (hreads : Reads respond device past runtimeFileSubkeys readings) :
      IgnoresAll respond device past
        (readings.flatMap fun reading => reading.events ++ reading.ignored)

variable {path : String}

/-- The device with its driver store at this path. -/
def withStore (device : DeviceRecord) (path : String) : DeviceRecord :=
  { device with driverStorePath := path }

theorem runAfter_resolveAt_of_host (h : isHostStore path = true) (device : DeviceRecord)
    (respond : platformSystem.Responder) (past : List PlatformCall) :
    (device.resolveAt path).runAfter respond past =
      ⟨.value (device.withStore path),
        [.info "running inside a container, skipping runtime file enumeration"]⟩ := by
  rw [resolveAt, if_pos h]
  rfl

theorem resolveAt_of_not_host (h : isHostStore path = false) (device : DeviceRecord) :
    device.resolveAt path = addSubkeys runtimeFileSubkeys (device.withStore path) := by
  rw [resolveAt, if_neg (Bool.not_eq_true _ ▸ h)]
  rfl

/-- The device afterwards is the one before, but for its driver store and for runtime files that
were added behind those it had. -/
structure Extends (device after : DeviceRecord) : Prop where
  frame : after = { device with
    driverStorePath := after.driverStorePath
    runtimeFiles := after.runtimeFiles
    runtimeFilesWow64 := after.runtimeFilesWow64 }
  files (list : RuntimeFileList) : device.files list <+: after.files list

theorem Extends.adapter (h : device.Extends after) : after.adapter = device.adapter := by
  rw [h.frame]

theorem Extends.driverRegistryKey (h : device.Extends after) :
    after.driverRegistryKey = device.driverRegistryKey := by
  rw [h.frame]

theorem Extends.of_bare_eq (h : after.bare = device.bare)
    (hfiles : ∀ list, device.files list <+: after.files list) : device.Extends after :=
  ⟨congrArg (fun bare : DeviceRecord => { bare with
      driverStorePath := after.driverStorePath
      runtimeFiles := after.runtimeFiles
      runtimeFilesWow64 := after.runtimeFilesWow64 }) h, hfiles⟩

theorem files_withStore (device : DeviceRecord) (path : String) (list : RuntimeFileList) :
    (device.withStore path).files list = device.files list := by
  rcases list with _ | _
  · rfl
  · rfl

/-- Behind the store nothing is lost, and nothing but runtime files is written. -/
theorem extends_of_resolveAt
    (h : ((device.resolveAt path).runAfter respond past).outcome = .value after) :
    after.driverStorePath = path ∧ device.Extends after := by
  rcases hhost : isHostStore path with _ | _
  · rw [resolveAt_of_not_host hhost] at h
    have hpath := path_runAfter respond (addSubkeys runtimeFileSubkeys (device.withStore path)) past
    rw [h] at hpath
    obtain ⟨hbare, hstore, -⟩ := path_addSubkeys hpath
    obtain ⟨readings, hreads⟩ := exists_reads_of_addSubkeys h
    rw [hreads.runAfter_addSubkeys] at h
    obtain rfl := Outcome.value.inj h
    refine ⟨hstore, .of_bare_eq hbare fun list => ?_⟩
    rw [← files_withStore device path list]
    exact prefix_addReadings readings _ list
  · rw [runAfter_resolveAt_of_host hhost] at h
    obtain rfl := Outcome.value.inj h
    refine ⟨rfl, .of_bare_eq rfl fun list => ?_⟩
    exact ⟨[], (List.append_nil _).trans (files_withStore device path list).symm⟩

/-- Done again behind the store, on the device that came of it, it adds nothing. -/
theorem resolveAt_repeated
    (h : ((device.resolveAt path).runAfter respond past).outcome = .value after)
    (hsame : exchangesAfter again later ((device.resolveAt path).runAfter respond past).calls =
      exchangesAfter respond past ((device.resolveAt path).runAfter respond past).calls) :
    ((after.resolveAt path).runAfter again later).outcome = .value after ∧
      ((after.resolveAt path).runAfter again later).calls =
        ((device.resolveAt path).runAfter respond past).calls ∧
      IgnoresAll again after later ((after.resolveAt path).runAfter again later).events := by
  obtain ⟨hstore, hextends⟩ := extends_of_resolveAt h
  have hwritten : after.withStore path = after := by
    rw [← hstore]
    rfl
  rcases hhost : isHostStore path with _ | _
  · rw [resolveAt_of_not_host hhost device] at h hsame ⊢
    rw [resolveAt_of_not_host hhost after, hwritten]
    obtain ⟨readings, hreads⟩ := exists_reads_of_addSubkeys h
    rw [hreads.runAfter_addSubkeys] at h hsame ⊢
    have hafter : addReadings readings (device.withStore path) = after := Outcome.value.inj h
    rw [Run.calls, callsOf_addingEvents] at hsame
    -- The readings are the same, and this time the destinations of all their files are taken.
    have hagain : Reads again after later runtimeFileSubkeys readings :=
      (hreads.repeated hsame).congr hextends.driverRegistryKey
    have htaken : ∀ reading ∈ readings, ∀ file ∈ reading.files,
        hasDestination (after.files reading.subkey.list) file.destinationName = true := by
      rw [← hafter]
      exact fun reading hreading file hfile => taken_addReadings hreading hfile
    obtain ⟨hsettled, hevents⟩ := addReadings_of_taken htaken
    rw [hagain.runAfter_addSubkeys, hsettled]
    refine ⟨rfl, ?_, ?_⟩
    · rw [Run.calls, Run.calls, callsOf_addingEvents, callsOf_addingEvents]
    · rw [hevents]
      exact .elsewhere (hstore.symm ▸ hhost) hagain
  · rw [runAfter_resolveAt_of_host hhost] at h ⊢
    obtain rfl := Outcome.value.inj h
    rw [runAfter_resolveAt_of_host hhost]
    exact ⟨rfl, rfl, .host hhost⟩

/-- How the search for a driver store can fail: the adapter could not be opened, or it was opened
and asking it for the path came to an error. -/
inductive LacksStore (config : Config) (device : DeviceRecord) : Talk → DiscoveryError → Prop where
  | unopened (cause : DiscoveryError) :
      LacksStore config device [⟨.openAdapter device.adapter.luid, .failed cause⟩]
        (.wrapped ("opening adapter with LUID " ++ device.adapter.luid.text) cause)
  | unasked {queries : Talk} {cause : DiscoveryError}
      (h : (queryGrowing (fun room => ask (.queryStorePath device.adapter.luid room))
        config.maxQueryAttempts).Path queries (.failed cause)) :
      LacksStore config device (⟨.openAdapter device.adapter.luid, .value ()⟩ :: queries)
        (.wrapped ("querying " ++ storePathSubject) cause)

variable {config : Config}

theorem lacksStore_of_findDriverStore {talk : Talk} {error : DiscoveryError}
    (h : (device.findDriverStore config).Path talk (.failed error)) :
    LacksStore config device talk error := by
  rcases path_bind_failed_iff.1 h with hopening | ⟨⟨⟩, opening, asking, rfl, hopening, hasking⟩
  · obtain ⟨cause, hcause, rfl⟩ := path_context_failed_iff.1 hopening
    rw [path_ask_iff.1 hcause]
    exact .unopened cause
  rw [path_context_value_iff, path_ask_iff] at hopening
  rw [hopening]
  rcases path_bind_failed_iff.1 hasking with
    hasking | ⟨path, asked, ending, rfl, -, hending⟩
  · obtain ⟨cause, hcause, rfl⟩ := path_context_failed_iff.1 hasking
    exact .unasked hcause
  · exact absurd (path_pure_iff.1 hending).2 nofun

/-- A resolution that cannot be completed lacks the store. Behind it nothing fails. -/
theorem lacksStore_of_resolve {talk : Talk} {error : DiscoveryError}
    (h : (device.resolve config).Path talk (.failed error)) :
    LacksStore config device talk error := by
  rw [resolve_eq, path_info_bind_iff] at h
  rcases path_bind_failed_iff.1 h with hstore | ⟨path, store, registry, rfl, -, hregistry⟩
  · exact lacksStore_of_findDriverStore hstore
  · exact (failsOnly_resolveAt device path (fun _ => False) registry error hregistry).elim

/-- The store of a device is that of its adapter. -/
theorem findDriverStore_congr (h : other.adapter = device.adapter) :
    other.findDriverStore config = device.findDriverStore config := by
  rw [findDriverStore, findDriverStore, h]

variable {events : List (Event PlatformCall)}

/-- A resolution whose store is found goes on from there. -/
theorem runAfter_resolve_of_store
    (h : (device.findDriverStore config).runAfter respond past = ⟨.value path, events⟩) :
    (device.resolve config).runAfter respond past =
      ⟨((device.resolveAt path).runAfter respond ((callsOf events).reverse ++ past)).outcome,
        .info ("querying driver details for device " ++ device.id) :: (events ++
          ((device.resolveAt path).runAfter respond
            ((callsOf events).reverse ++ past)).events)⟩ := by
  rw [resolve_eq, runAfter_bind, runAfter_info]
  dsimp only
  rw [callsOf, List.filterMap_cons_none rfl, List.filterMap_nil, List.reverse_nil, List.nil_append,
    runAfter_bind, h]
  rfl

/-- Its calls are those for the store and those behind it. -/
theorem calls_resolve_of_store
    (h : (device.findDriverStore config).runAfter respond past = ⟨.value path, events⟩) :
    ((device.resolve config).runAfter respond past).calls = callsOf events ++
      ((device.resolveAt path).runAfter respond ((callsOf events).reverse ++ past)).calls := by
  rw [runAfter_resolve_of_store h]
  exact callsOf_append _ _

theorem exists_store_of_resolve
    (h : ((device.resolve config).runAfter respond past).outcome = .value after) :
    ∃ path events,
      (device.findDriverStore config).runAfter respond past = ⟨.value path, events⟩ := by
  rw [resolve_eq, runAfter_bind, runAfter_info] at h
  obtain ⟨path, hpath⟩ := exists_value_of_bind h
  exact ⟨path, _, congrArg (Run.mk · _) hpath⟩

theorem extends_of_resolve
    (h : ((device.resolve config).runAfter respond past).outcome = .value after) :
    device.Extends after := by
  obtain ⟨path, events, hstore⟩ := exists_store_of_resolve h
  rw [runAfter_resolve_of_store hstore] at h
  exact (extends_of_resolveAt h).2

/-- If the platform answers as it did, a resolved device is found to have everything. -/
theorem resolve_repeated
    (h : ((device.resolve config).runAfter respond past).outcome = .value after)
    (hsame : exchangesAfter again later ((device.resolve config).runAfter respond past).calls =
      exchangesAfter respond past ((device.resolve config).runAfter respond past).calls) :
    ((after.resolve config).runAfter again later).calls =
        ((device.resolve config).runAfter respond past).calls ∧
      ∃ path events behind,
        (after.findDriverStore config).runAfter again later = ⟨.value path, events⟩ ∧
        IgnoresAll again after ((callsOf events).reverse ++ later) behind ∧
        (after.resolve config).runAfter again later =
          ⟨.value after, .info ("querying driver details for device " ++ after.id) ::
            (events ++ behind)⟩ := by
  have hextends := extends_of_resolve h
  obtain ⟨path, events, hstore⟩ := exists_store_of_resolve h
  rw [calls_resolve_of_store hstore] at hsame ⊢
  rw [runAfter_resolve_of_store hstore] at h
  obtain ⟨hasked, hbehind⟩ := exchangesAfter_append_inj hsame
  -- The store is looked for in the same way, since the device is on the same adapter.
  have hfound : (after.findDriverStore config).runAfter again later = ⟨.value path, events⟩ := by
    rw [findDriverStore_congr hextends.adapter, ← hstore]
    apply runAfter_eq_of_exchanges
    rw [hstore]
    exact hasked
  obtain ⟨hvalue, hcalls, hignores⟩ := resolveAt_repeated h hbehind
  rw [calls_resolve_of_store hfound, runAfter_resolve_of_store hfound, hcalls, hvalue]
  exact ⟨rfl, path, events, _, hfound, hignores, rfl⟩

/-- **A resolution leaves the device alone or adds to it, and done again it adds nothing.**

A resolution in place can end with an error, and then it lacked the driver store, and the device is
the one it was. It can succeed, and then the device is the one before, but for the path of its store
and for runtime files behind those it had. Let the platform then answer the same calls in the same
way, at whatever time: the device can be resolved again with these calls, it stays as it is, and
each file that is read is noted as ignored. -/
theorem resolveInPlace_twice (config : Config) (device : DeviceRecord)
    (respond : platformSystem.Responder) (past : List PlatformCall) :
    let run := (device.resolve config).runAfter respond past
    let first := ((resolveInPlace config).on device).runAfter respond past
    (first.events = run.events ∧
      ∀ resolved, first.outcome = .value (.ok (), resolved) ↔ run.outcome = .value resolved) ∧
    (∀ error, first.outcome ≠ .failed error) ∧
    (∀ error after, first.outcome = .value (.error error, after) →
      after = device ∧
        LacksStore config device (exchangesAfter respond past first.calls) error) ∧
    ∀ after, first.outcome = .value (.ok (), after) →
      device.Extends after ∧
      ∀ again later,
        exchangesAfter again later first.calls = exchangesAfter respond past first.calls →
        let second := ((resolveInPlace config).on after).runAfter again later
        second.outcome = .value (.ok (), after) ∧ second.calls = first.calls ∧
          ∃ path events behind,
            (after.findDriverStore config).runAfter again later = ⟨.value path, events⟩ ∧
            IgnoresAll again after ((callsOf events).reverse ++ later) behind ∧
            second.events = .info ("querying driver details for device " ++ after.id) ::
              (events ++ behind) := by
  intro run first
  have hrun : (device.resolve config).runAfter respond past = run := rfl
  have hfirst : first = run.lent device := runAfter_resolveInPlace config device respond past
  have hpath : (device.resolve config).Path (exchangesAfter respond past run.calls) run.outcome :=
    path_runAfter respond _ past
  rw [hfirst, Run.events_lent, Run.calls_lent]
  refine ⟨⟨rfl, fun _ => Run.outcome_lent_eq_ok_iff⟩, ?_⟩
  clear_value run
  rcases run with ⟨resolved | error | _, events⟩
  · have hresolved : ((device.resolve config).runAfter respond past).outcome = .value resolved := by
      rw [hrun]
    refine ⟨?_, ?_, ?_⟩
    · rintro _ ⟨⟩
    · rintro _ _ ⟨⟩
    rintro _ ⟨⟩
    refine ⟨extends_of_resolve hresolved, ?_⟩
    intro again later hsame second
    rw [← hrun] at hsame ⊢
    obtain ⟨hcalls, path, store, behind, hstore, hignores, hagain⟩ :=
      resolve_repeated hresolved hsame
    have hsecond : second = _ := runAfter_resolveInPlace config resolved again later
    rw [hsecond, Run.calls_lent, hcalls, hagain]
    exact ⟨rfl, rfl, path, store, behind, hstore, hignores, rfl⟩
  · refine ⟨?_, ?_, ?_⟩
    · rintro _ ⟨⟩
    · rintro _ _ ⟨⟩
      exact ⟨rfl, lacksStore_of_resolve hpath⟩
    · rintro _ ⟨⟩
  · refine ⟨?_, ?_, ?_⟩
    · rintro _ ⟨⟩
    · rintro _ _ ⟨⟩
    · rintro _ ⟨⟩

/-- The card with the clashing driver is resolved, and resolved again on the same platform, which
answers from a script. On a platform without any services it stays as it is. -/
theorem resolveInPlace_twice_clashingDriver :
    let respond := clashingDriver.platform.respond
    let first := ((resolveInPlace (.default none)).on renderCard).runAfter respond []
    let second := ((resolveInPlace (.default none)).on clashingCard).runAfter respond []
    let failing :=
      ((resolveInPlace (.default none)).on renderCard).runAfter Platform.unsupported.respond []
    (first.outcome = .value (.ok (), clashingCard) ∧
      renderCard.Extends clashingCard ∧ second.outcome = .value (.ok (), clashingCard) ∧
      second.calls = first.calls) ∧
    ∃ error, failing.outcome = .value (.error error, renderCard) ∧
      LacksStore (.default none) renderCard
        (exchangesAfter Platform.unsupported.respond [] failing.calls) error := by
  intro respond first second failing
  have hfirst : first.outcome = .value (.ok (), clashingCard) := by
    rw [show first = _ from runAfter_resolveInPlace (.default none) renderCard respond [],
      Run.outcome_lent_eq_ok_iff]
    decide +kernel
  have hfailing : failing.outcome = .value (.error (.wrapped
      ("opening adapter with LUID " ++ renderCard.adapter.luid.text) .unsupportedPlatform),
      renderCard) := rfl
  obtain ⟨-, -, -, hadds⟩ := resolveInPlace_twice (.default none) renderCard respond []
  obtain ⟨hextends, hrepeated⟩ := hadds clashingCard hfirst
  obtain ⟨hsecond, hcalls, -⟩ := hrepeated respond [] rfl
  obtain ⟨-, -, hfails, -⟩ :=
    resolveInPlace_twice (.default none) renderCard Platform.unsupported.respond []
  obtain ⟨-, hlacks⟩ := hfails _ _ hfailing
  exact ⟨⟨hfirst, hextends, hsecond, hcalls⟩, _, hfailing, hlacks⟩

end DeviceRecord

end GpuDiscovery
