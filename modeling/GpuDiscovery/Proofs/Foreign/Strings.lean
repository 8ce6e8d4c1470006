import GpuDiscovery.Foreign.Library
import GpuDiscovery.Proofs.Session.Devices
import GpuDiscovery.Proofs.Text.Utf16
import Mathlib.Data.List.Induction

/-!
# The texts of an instance

An instance holds its devices twice, in its session and as wide texts, and the two are renewed at
different points of a call. Foreign callers ask the session whether there is an answer and get it
from the texts. Here the two copies are shown to be in step whenever a call has returned, also when
it failed or was cut off (`InStep`), and what follows for the callers: they are given a text exactly
if the session has one, and read back the text that the session has (`Mirrors`).
-/

namespace GpuDiscovery

open Text

/-- A call of a function on an instance, on whatever the platform has become. -/
structure ForeignCall where
  platform : Platform
  function : ForeignFunction
  arguments : ForeignArguments

/-! ## Accessors of a session -/

namespace Session

variable {session : Session} {index : Nat}

theorem device_eq_ok_iff {device : DeviceRecord} :
    session.device index = .ok device ↔ (session.devices.getD [])[index]? = some device := by
  rw [Session.device, found]
  rcases session.devices with _ | devices
  · refine iff_of_false ?_ (by simp)
    rintro ⟨⟩
  · rw [Option.getD_some]
    simp only [bind, Except.bind]
    rcases devices[index]? with _ | found
    · simp only [reduceCtorEq]
    · simp only [pure, Except.pure, Except.ok.injEq, Option.some.injEq]

theorem deviceField_eq_ok_iff {field : DeviceField} {value : DeviceFieldValue} :
    session.deviceField index field = .ok value ↔
      ∃ device, session.device index = .ok device ∧ device.field field = value := by
  rw [deviceField]
  rcases session.device index with error | device
  · simp only [reduceCtorEq, false_and, exists_false, iff_false]
    rintro ⟨⟩
  · change Except.ok (device.field field) = .ok value ↔ _
    simp only [Except.ok.injEq, exists_eq_left']

theorem runtimeFile_eq_ok_iff {list : RuntimeFileList} {fileIndex : Nat} {file : RuntimeFile} :
    session.runtimeFile index list fileIndex = .ok file ↔
      ∃ device, session.device index = .ok device ∧
        (device.files list)[fileIndex]? = some file := by
  rw [runtimeFile]
  rcases session.device index with error | device
  · simp only [reduceCtorEq, false_and, exists_false, iff_false]
    rintro ⟨⟩
  · simp only [Except.ok.injEq, exists_eq_left', bind, Except.bind]
    rcases (device.files list)[fileIndex]? with _ | found
    · simp only [reduceCtorEq]
    · simp only [pure, Except.pure, Except.ok.injEq, Option.some.injEq]

@[simp] theorem devices_track {α : Type} (session : Session) (result : Except DiscoveryError α) :
    (session.track result).devices = session.devices := by
  rcases result with error | value
  · rfl
  · rfl

end Session

/-! ## Texts of a device -/

namespace DeviceStrings

/-- Of the fields that are texts, all are there. -/
theorem text?_ofDevice (device : DeviceRecord) {field : DeviceField} (h : field ∈ textFields) :
    ∃ text, device.field field = .text text ∧ (ofDevice device).text? field = some (wide text) := by
  simp only [textFields, List.mem_cons, List.not_mem_nil, or_false] at h
  rcases h with rfl | rfl | rfl | rfl | rfl | rfl
  all_goals exact ⟨_, rfl, rfl⟩

theorem files_ofDevice (device : DeviceRecord) (list : RuntimeFileList) :
    (ofDevice device).files list = (device.files list).map ofFile := by
  rcases list with _ | _
  · rfl
  · rfl

end DeviceStrings

namespace Instance

/-! ## The two copies -/

/-- The instance after some calls, one after the other. -/
def after (inst : Instance) (calls : List ForeignCall) : Instance :=
  calls.foldl (fun inst call =>
    (Library.callInstance call.platform call.arguments inst call.function).1) inst

/-- The texts are those of the devices. -/
def InStep (inst : Instance) : Prop :=
  inst.strings = (inst.session.devices.getD []).map DeviceStrings.ofDevice

theorem InStep.track {α : Type} {inst : Instance} (h : inst.InStep)
    (result : Except DiscoveryError α) : (inst.track result).InStep := by
  rw [InStep, Instance.track, Session.devices_track]
  exact h

/-- Completing a success renews the texts, whatever they were. -/
theorem inStep_complete_ok {inst : Instance} {devices : List DeviceRecord}
    (h : inst.session.devices = some devices) : (inst.complete (.ok ())).1.InStep := by
  have hstrings : stringsOf inst.session = .ok (devices.map DeviceStrings.ofDevice) := by
    rw [stringsOf, Session.allDevices, Session.found, h]
    rfl
  rw [complete, hstrings]
  apply InStep.track
  rw [InStep, h]
  rfl

theorem InStep.discover {inst : Instance} (h : inst.InStep) (platform : Platform)
    (filterCode : Int32) (includeIntegrated includeDetachable : Bool) :
    (inst.discover platform filterCode includeIntegrated includeDetachable).1.InStep := by
  have htracked := h.track (CapabilityFilter.ofCode filterCode)
  rw [Instance.discover]
  generalize CapabilityFilter.ofCode filterCode = lookup at htracked ⊢
  rcases lookup with error | filter
  · exact htracked
  · have hvalue := (inst.track (.ok filter)).session.devices_discover_of_value platform
      ⟨filter, includeIntegrated, includeDetachable⟩
    have hne := (inst.track (.ok filter)).session.devices_discover_of_ne platform
      ⟨filter, includeIntegrated, includeDetachable⟩
    dsimp only
    generalize (inst.track (.ok filter)).session.discover platform
      ⟨filter, includeIntegrated, includeDetachable⟩ = discovered at hvalue hne ⊢
    rcases discovered with ⟨session, outcome, events⟩
    -- The session has devices of its own already; what is left is what became of the texts.
    rcases outcome with ⟨⟨⟩⟩ | error | _
    · obtain ⟨devices, -, hdevices⟩ := hvalue rfl
      exact inStep_complete_ok hdevices
    · apply InStep.track
      rw [InStep, hne nofun]
      exact htracked
    · rw [InStep, hne nofun]
      exact htracked

/-- **Every call keeps the two copies in step.** -/
theorem InStep.call {inst : Instance} (h : inst.InStep) (platform : Platform)
    (arguments : ForeignArguments) (function : ForeignFunction) :
    (Library.callInstance platform arguments inst function).1.InStep := by
  cases function with
  | discoverDevices => exact h.discover platform _ _ _
  | numDevices => exact h.track _
  | deviceAdapterLuid => exact h.track _
  | deviceText field => exact h.track _
  | numRuntimeFiles list => exact h.track _
  | runtimeFileSource list => exact h.track _
  | runtimeFileDestination list => exact h.track _
  | deviceFlag field => exact h.track _
  | lastErrorMessage | isRefreshRequired => exact h
  | libraryVersion | enableLogging | disableLogging | createInstance | destroyInstance => exact h

theorem inStep_after (config : Config) (calls : List ForeignCall) :
    ((new config).after calls).InStep := by
  induction calls using List.reverseRecOn with
  | nil => rfl
  | append_singleton calls call ih =>
    rw [after, List.foldl_append]
    exact ih.call call.platform call.arguments call.function

/-! ## What foreign callers get -/

/-- The texts of the instance are those of its session, and the callers get them. -/
structure Mirrors (inst : Instance) : Prop where
  /-- There is one entry for each device, and none before any device was found. -/
  length_eq : inst.strings.length = (inst.session.devices.getD []).length
  texts : ∀ (index : Nat) strings, inst.strings[index]? = some strings → ∀ field ∈ textFields,
    ∃ text, inst.session.deviceField index field = .ok (.text text) ∧
      strings.text? field = some (Utf16.encode text ++ [0])
  files : ∀ (index : Nat) strings, inst.strings[index]? = some strings →
    ∃ device, inst.session.device index = .ok device ∧ ∀ list, strings.files list =
      (device.files list).map fun file =>
        ⟨Utf16.encode file.sourcePath ++ [0], Utf16.encode file.destinationName ++ [0]⟩
  /-- Where the session has a field, its text is found and handed out. -/
  text_of_ok : ∀ index, ∀ field ∈ textFields, ∀ value,
    inst.session.deviceField index field = .ok value →
      ∃ text strings units, value = .text text ∧ inst.strings[index]? = some strings ∧
        strings.text? field = some units ∧ (inst.deviceText index field).2 = some units ∧
        ('\x00' ∉ text.toList → Utf16.decode? (Utf16.beforeZero units) = some text)
  text_of_error : ∀ index field error, inst.session.deviceField index field = .error error →
    (inst.deviceText index field).2 = none
  /-- Where the session has a runtime file, its texts are found and handed out. -/
  file_of_ok : ∀ index list fileIndex file,
    inst.session.runtimeFile index list fileIndex = .ok file →
      ∃ strings units, inst.strings[index]? = some strings ∧
        (strings.files list)[fileIndex]? = some units ∧
        (inst.runtimeFile index list fileIndex).2 = some units ∧
        ('\x00' ∉ file.sourcePath.toList →
          Utf16.decode? (Utf16.beforeZero units.source) = some file.sourcePath) ∧
        ('\x00' ∉ file.destinationName.toList →
          Utf16.decode? (Utf16.beforeZero units.destination) = some file.destinationName)
  file_of_error : ∀ index list fileIndex error,
    inst.session.runtimeFile index list fileIndex = .error error →
      (inst.runtimeFile index list fileIndex).2 = none

variable {inst : Instance}

/-- The entry with an index is that of the device with it. -/
theorem InStep.getElem?_eq_some_iff (h : inst.InStep) {index : Nat} {strings : DeviceStrings} :
    inst.strings[index]? = some strings ↔
      ∃ device, inst.session.device index = .ok device ∧
        DeviceStrings.ofDevice device = strings := by
  rw [h, List.getElem?_map, Option.map_eq_some_iff]
  simp only [Session.device_eq_ok_iff]

theorem deviceText_of_ok {index : Nat} {field : DeviceField} {value : DeviceFieldValue}
    (h : inst.session.deviceField index field = .ok value) :
    (inst.deviceText index field).2 = (inst.strings[index]?).bind fun strings =>
      strings.text? field := by
  rw [deviceText, h]

theorem runtimeFile_of_ok {index fileIndex : Nat} {list : RuntimeFileList} {file : RuntimeFile}
    (h : inst.session.runtimeFile index list fileIndex = .ok file) :
    (inst.runtimeFile index list fileIndex).2 = (inst.strings[index]?).bind fun strings =>
      (strings.files list)[fileIndex]? := by
  rw [runtimeFile, h]

/-- **What follows from the two copies being in step.** -/
theorem InStep.mirrors (h : inst.InStep) : inst.Mirrors := by
  refine ⟨?_, ?_, ?_, ?_, ?_, ?_, ?_⟩
  · rw [h, List.length_map]
  · intro index strings hstrings field hfield
    obtain ⟨device, hdevice, rfl⟩ := h.getElem?_eq_some_iff.1 hstrings
    obtain ⟨text, hvalue, htext⟩ := DeviceStrings.text?_ofDevice device hfield
    exact ⟨text, Session.deviceField_eq_ok_iff.2 ⟨device, hdevice, hvalue⟩, htext⟩
  · intro index strings hstrings
    obtain ⟨device, hdevice, rfl⟩ := h.getElem?_eq_some_iff.1 hstrings
    exact ⟨device, hdevice, DeviceStrings.files_ofDevice device⟩
  · intro index field hfield value hvalue
    obtain ⟨device, hdevice, rfl⟩ := Session.deviceField_eq_ok_iff.1 hvalue
    obtain ⟨text, hfieldText, htext⟩ := DeviceStrings.text?_ofDevice device hfield
    have hstrings := h.getElem?_eq_some_iff.2 ⟨device, hdevice, rfl⟩
    refine ⟨text, _, _, hfieldText, hstrings, htext, ?_, Utf16.decode?_beforeZero⟩
    rw [deviceText_of_ok hvalue, hstrings, Option.bind_some]
    exact htext
  · intro index field error herror
    rw [deviceText, herror]
  · intro index list fileIndex file hfile
    obtain ⟨device, hdevice, hmem⟩ := Session.runtimeFile_eq_ok_iff.1 hfile
    have hstrings := h.getElem?_eq_some_iff.2 ⟨device, hdevice, rfl⟩
    have hunits : ((DeviceStrings.ofDevice device).files list)[fileIndex]? =
        some (DeviceStrings.ofFile file) := by
      rw [DeviceStrings.files_ofDevice, List.getElem?_map, hmem, Option.map_some]
    refine ⟨_, _, hstrings, hunits, ?_, Utf16.decode?_beforeZero, Utf16.decode?_beforeZero⟩
    rw [runtimeFile_of_ok hfile, hstrings, Option.bind_some]
    exact hunits
  · intro index list fileIndex error herror
    rw [runtimeFile, herror]

/-- **The texts mirror the session**, after any calls on any platforms, whether they succeeded,
failed, or were cut off. -/
theorem mirrors_after (config : Config) (calls : List ForeignCall) :
    ((new config).after calls).Mirrors :=
  (inStep_after config calls).mirrors

/-- The device of the workstation, asked for with anything but a filter and then with one. -/
def workstationCalls : List ForeignCall :=
  [⟨Session.workstation.platform, .discoverDevices, ⟨0, 0, 0, 6, 1, 1⟩⟩,
    ⟨Session.workstation.platform, .discoverDevices, ⟨0, 0, 0, 0, 1, 1⟩⟩]

/-- Callers get the driver store of the workstation's device. -/
theorem mirrors_workstation :
    ((new (.default none)).after workstationCalls).Mirrors ∧
      (((new (.default none)).after workstationCalls).deviceText 0 .driverStorePath).2 =
        some (wide "C:\\Windows\\HostDriverStore") := by
  refine ⟨mirrors_after _ _, ?_⟩
  decide +kernel

end Instance

namespace Library

/-! ## All instances of a library -/

/-- The library after some calls, one after the other. -/
def after (library : Library) (calls : List ForeignCall) : Library :=
  calls.foldl (fun library call =>
    (library.call call.platform call.function call.arguments).1) library

/-- The texts of every instance are those of its devices. -/
def InStep (library : Library) : Prop :=
  ∀ number inst, library.instance? number = some inst → inst.InStep

variable {library : Library}

/-- A place for an instance that is in step, or for none at all. -/
theorem InStep.set (h : library.InStep) (number : Nat) {inst? : Option Instance}
    (hinst : ∀ inst, inst? = some inst → inst.InStep) :
    ({ library with instances := library.instances.set number inst? } : Library).InStep := by
  intro other found hfound
  rw [instance?] at hfound
  dsimp only at hfound
  by_cases hnumber : number = other
  · rw [← hnumber, List.getElem?_set_self'] at hfound
    generalize library.instances[number]? = before at hfound
    rcases before with _ | before
    · exact absurd hfound nofun
    · exact hinst found hfound
  · rw [List.getElem?_set_ne hnumber] at hfound
    exact h other found hfound

theorem InStep.createInstance (h : library.InStep) :
    ({ library with
      instances := library.instances ++ [some (newInstance library.environmentRoot)] } :
        Library).InStep := by
  intro number found hfound
  rw [instance?] at hfound
  dsimp only at hfound
  by_cases hnumber : number < library.instances.length
  · rw [List.getElem?_append_left hnumber] at hfound
    exact h number found hfound
  · rw [List.getElem?_append_right (by omega)] at hfound
    generalize number - library.instances.length = place at hfound
    rcases place with _ | place
    · rw [← Option.some.inj hfound]
      rfl
    · exact absurd hfound nofun

theorem InStep.call (h : library.InStep) (platform : Platform) (function : ForeignFunction)
    (arguments : ForeignArguments) : (library.call platform function arguments).1.InStep := by
  unfold Library.call
  split
  · exact h
  · exact h
  · exact h
  · exact h.createInstance
  · exact h.set arguments.inst nofun
  · split
    · exact h
    · rename_i inst hinst
      apply h.set
      intro changed hchanged
      rw [← Option.some.inj hchanged]
      exact (h _ inst hinst).call platform arguments _

/-- Whatever is called of the library, the texts of all its instances mirror their sessions. -/
theorem mirrors_of_instance? (environmentRoot : Option String) (calls : List ForeignCall)
    {number : Nat} {inst : Instance}
    (h : ((initial environmentRoot).after calls).instance? number = some inst) :
    inst.Mirrors := by
  have hsteps : ((initial environmentRoot).after calls).InStep := by
    clear h
    induction calls using List.reverseRecOn with
    | nil =>
      intro other found hfound
      rcases other with _ | other
      · rw [← Option.some.inj hfound]
        rfl
      · exact absurd hfound nofun
    | append_singleton calls call ih =>
      rw [after, List.foldl_append]
      exact ih.call call.platform call.function call.arguments
  exact (hsteps number inst h).mirrors

end Library

end GpuDiscovery
