import GpuDiscovery.Platform.Script
import GpuDiscovery.Proofs.Registry.Path
import GpuDiscovery.Proofs.Session.Calls

/-!
# Which keys of the registry are opened

The driver's key of a device is the text among its properties behind the key of all driver classes.
Such a key can always be parsed, and so can every key below it, so the keys that are opened for a
device are known from that text alone: one for each subkey with runtime files, in their order. They
are read off the course of a resolution. `Course.Opens` says that a part of it opens some keys, all
of them if it is gone through and the first of them if it is broken off.
-/

namespace GpuDiscovery

open Procedure

/-- The key that a call opens. -/
def PlatformCall.openedKey? : PlatformCall → Option RegistryPath
  | .openKey path => some path
  | _ => none

/-- The keys that calls open, in their order. -/
def openedKeys (calls : List PlatformCall) : List RegistryPath :=
  calls.filterMap PlatformCall.openedKey?

theorem openedKeys_append (xs ys : List PlatformCall) :
    openedKeys (xs ++ ys) = openedKeys xs ++ openedKeys ys :=
  List.filterMap_append

/-- Keys are opened in the registry stage only. -/
theorem openedKeys_eq_nil {talk : Talk} (h : ∀ exchange ∈ talk, exchange.call.stage = .stores) :
    openedKeys (talk.map Exchange.call) = [] := by
  rw [openedKeys, List.filterMap_map]
  have hview : ∀ exchange : Exchange platformSystem, exchange.call.stage ≠ .registry →
      (PlatformCall.openedKey? ∘ Exchange.call) exchange = none := by
    rintro ⟨call, answer⟩ hstage
    rcases call with _ | _ | _ | _ | _ | _ | _ | path | _
    case openKey => exact absurd rfl hstage
    all_goals rfl
  refine filterMap_eq_nil_of_stage hview fun exchange hmem => ?_
  rw [h exchange hmem]
  decide

namespace Course

/-- The part opens these keys, or the first of them if it is broken off. -/
structure Opens (course : Course) (keys : List RegistryPath) : Prop where
  whole : ∀ talk, course.Whole talk → openedKeys (talk.map Exchange.call) = keys
  broken : ∀ talk, course.Broken talk → openedKeys (talk.map Exchange.call) <+: keys

theorem opens_nothing : nothing.Opens [] where
  whole := by
    rintro _ rfl
    rfl
  broken _ h := h.elim

theorem opens_single (call : PlatformCall) (lets : Outcome call.Result → Prop) :
    (single call lets).Opens (openedKeys [call]) where
  whole := by
    rintro _ ⟨answer, rfl, -⟩
    rfl
  broken := by
    rintro _ ⟨answer, rfl, -⟩
    exact List.prefix_rfl

/-- What comes behind a part opens its keys behind those of the part. -/
theorem Opens.andThen {first : Course} {next : Talk → Course} {keys others : List RegistryPath}
    (hfirst : first.Opens keys) (hnext : ∀ before, (next before).Opens others) :
    (first.andThen next).Opens (keys ++ others) where
  whole := by
    rintro _ ⟨before, after, rfl, hbefore, hafter⟩
    rw [List.map_append, openedKeys_append, hfirst.whole _ hbefore, (hnext before).whole _ hafter]
  broken := by
    rintro talk (hbroken | ⟨before, after, rfl, hbefore, hbroken⟩)
    · exact (hfirst.broken talk hbroken).trans (List.prefix_append _ _)
    · rw [List.map_append, openedKeys_append, hfirst.whole _ hbefore,
        List.prefix_append_right_inj]
      exact (hnext before).broken after hbroken

theorem opens_inOrder {α : Type} {course : α → Course} {key : α → RegistryPath}
    (h : ∀ part, (course part).Opens [key part]) (parts : List α) :
    (inOrder (parts.map course)).Opens (parts.map key) := by
  induction parts with
  | nil => exact opens_nothing
  | cons part rest ih => exact (h part).andThen fun _ => ih

theorem opens_registryKey (path : RegistryPath) : (registryKey path).Opens [path] := by
  have hreading : ∀ opening : Talk,
      (if opening.all Exchange.isSuccess then single (.readKey path) (· ≠ .crashed)
        else nothing).Opens [] := by
    intro opening
    split
    · exact opens_single _ _
    · exact opens_nothing
  exact (opens_single (.openKey path) (· ≠ .crashed)).andThen hreading

theorem opens_subkey {driverKey : String} {key : RegistryPath}
    (h : RegistryPath.parse driverKey = .ok key) (name : String) :
    (subkey driverKey name).Opens [key.join name] := by
  rw [subkey, h]
  exact opens_registryKey _

/-- The subkeys of a driver's key are opened one after the other. -/
theorem opens_registry {driverKey : String} {key : RegistryPath}
    (h : RegistryPath.parse driverKey = .ok key) :
    (registry driverKey).Opens (runtimeFileSubkeys.map fun sub => key.join sub.name) := by
  have hsub : ∀ sub : RuntimeFileSubkey, (subkey driverKey sub.name).Opens [key.join sub.name] :=
    fun sub => opens_subkey h sub.name
  exact opens_inOrder hsub runtimeFileSubkeys

end Course

/-- Of the keys the first were opened, and all of them if the resolution came to its end. In the
store of a host none is opened. -/
structure OpensUnlessHosted {α : Type} (opened keys : List α) (outcome : Outcome DeviceRecord) :
    Prop where
  inOrder : opened <+: keys
  all : ∀ resolved, outcome = .value resolved →
    opened = if isHostStore resolved.driverStorePath then [] else keys

theorem OpensUnlessHosted.map {α β : Type} {opened keys : List α} {outcome : Outcome DeviceRecord}
    (h : OpensUnlessHosted opened keys outcome) (use : α → β) :
    OpensUnlessHosted (opened.map use) (keys.map use) outcome where
  inOrder := h.inOrder.map use
  all resolved houtcome := by
    rw [h.all resolved houtcome]
    split
    · rfl
    · rfl

namespace DeviceRecord

variable {device : DeviceRecord} {key : RegistryPath} {talk : Talk}
  {outcome : Outcome DeviceRecord}

theorem opens_of_resolveAt {path : String}
    (hparse : RegistryPath.parse device.driverRegistryKey = .ok key)
    (h : (device.resolveAt path).Path talk outcome) :
    OpensUnlessHosted (openedKeys (talk.map Exchange.call))
      (runtimeFileSubkeys.map fun sub => key.join sub.name) outcome := by
  rw [resolveAt] at h
  by_cases hhost : isHostStore path = true
  · rw [if_pos hhost, path_info_bind_iff] at h
    obtain ⟨rfl, rfl⟩ := path_pure_iff.1 h
    refine ⟨List.nil_prefix, ?_⟩
    rintro _ ⟨⟩
    exact (if_pos hhost).symm
  · rw [if_neg hhost] at h
    have hopens := Course.opens_registry hparse
    have hallows := keeps_addSubkeys runtimeFileSubkeys _ talk outcome h
    rcases outcome with resolved | error | _
    · have hkeys := hopens.whole talk hallows
      refine ⟨hkeys ▸ List.prefix_rfl, ?_⟩
      rintro _ ⟨⟩
      obtain ⟨-, hpath, -⟩ := path_addSubkeys h
      rw [hpath, if_neg hhost]
      exact hkeys
    · refine ⟨hopens.broken talk hallows, ?_⟩
      rintro _ ⟨⟩
    · refine ⟨hopens.broken talk hallows, ?_⟩
      rintro _ ⟨⟩

/-- A resolution opens the subkeys of the driver's key behind the queries for the store. -/
theorem opens_of_resolve {config : Config}
    (hparse : RegistryPath.parse device.driverRegistryKey = .ok key)
    (h : (device.resolve config).Path talk outcome) :
    OpensUnlessHosted (openedKeys (talk.map Exchange.call))
      (runtimeFileSubkeys.map fun sub => key.join sub.name) outcome := by
  have hstores := staysIn_findDriverStore config device
  rw [resolve_eq, path_info_bind_iff] at h
  rcases path_bind_iff.1 h with
    ⟨path, store, registry, rfl, hstore, hregistry⟩ | ⟨error, hstore, rfl⟩ | ⟨hstore, rfl⟩
  · rw [List.map_append, openedKeys_append, openedKeys_eq_nil (hstores.of_path hstore),
      List.nil_append]
    exact opens_of_resolveAt hparse hregistry
  · rw [openedKeys_eq_nil (hstores.of_path hstore)]
    refine ⟨List.nil_prefix, ?_⟩
    rintro _ ⟨⟩
  · rw [openedKeys_eq_nil (hstores.of_path hstore)]
    refine ⟨List.nil_prefix, ?_⟩
    rintro _ ⟨⟩

end DeviceRecord

/-! ## Drivers of devices -/

/-- Below the key of all driver classes any text is a key. -/
theorem parse_driverClassKey (driver : String) :
    ∃ key, RegistryPath.parse (driverClassKey ++ driver) = .ok key ∧
      key.text = driverClassKey ++ driver := by
  have hclass : driverClassKey =
      RegistryRoot.localMachine.name ++ "\\" ++
        "SYSTEM\\CurrentControlSet\\Control\\Class\\" := by
    decide
  have htext : RegistryPath.text
      ⟨.localMachine, "SYSTEM\\CurrentControlSet\\Control\\Class\\" ++ driver⟩ =
        driverClassKey ++ driver := by
    rw [hclass, String.append_assoc]
    rfl
  refine ⟨_, ?_, htext⟩
  rw [← htext]
  refine RegistryPath.parse_text fun hempty => ?_
  exact absurd (String.append_eq_empty_iff.1 hempty).1 (by decide)

theorem driverRegistryKey_of_readDevice {bag : PropertyBag} {properties : DeviceProperties}
    {driver : String} (hread : bag.readDevice = .value properties)
    (hdriver : bag PropertyName.driver = .value (some (.string driver))) :
    properties.driverRegistryKey = driverClassKey ++ driver := by
  have hkey := ((PropertyBag.describes_of_readDevice hread).2 default).driverRegistryKey
  rw [PropertyBag.property?, hdriver] at hkey
  exact hkey

/-- The subkeys with runtime files below the key of a driver, as they are written. -/
def writtenSubkeys (driver : String) : List String :=
  runtimeFileSubkeys.map fun sub => driverClassKey ++ driver ++ "\\" ++ sub.name

/-- What is opened for a device is below the text that its bag has for the driver. -/
theorem opens_of_driver {bag : PropertyBag} {properties : DeviceProperties} {driver : String}
    (hread : bag.readDevice = .value properties)
    (hdriver : bag PropertyName.driver = .value (some (.string driver)))
    (adapter : AdapterRecord) (config : Config) (platform : Platform) :
    let run := ((properties.toDevice adapter).resolve config).run platform.respond
    OpensUnlessHosted ((openedKeys run.calls).map RegistryPath.text) (writtenSubkeys driver)
      run.outcome := by
  obtain ⟨key, hparse, htext⟩ := parse_driverClassKey driver
  rw [← driverRegistryKey_of_readDevice hread hdriver] at hparse
  have hwritten : (runtimeFileSubkeys.map fun sub => key.join sub.name).map RegistryPath.text =
      writtenSubkeys driver := by
    simp only [List.map_map, writtenSubkeys, Function.comp_def, RegistryPath.text_join, htext]
  have hpath := path_run platform.respond ((properties.toDevice adapter).resolve config)
  have hopens := (DeviceRecord.opens_of_resolve hparse hpath).map RegistryPath.text
  rwa [hwritten, Run.exchanges, map_call_exchangesAfter] at hopens

/-- **Paths of the registry are read as they are written.** A text can be parsed exactly if it is a
root's name, a backslash and anything more, and the path is then written as the text again. A path
with something below its root is read back, and so is what is joined to it. So the key of any driver
can be parsed, and the keys that are opened for a device are the subkeys of its driver's key. -/
theorem registryPaths_roundTrip :
    (∀ text : String,
      ((∃ path, RegistryPath.parse text = .ok path) ↔
        ∃ name ∈ rootNames, ∃ subkey, subkey ≠ "" ∧ text = name ++ "\\" ++ subkey) ∧
      ∀ path, RegistryPath.parse text = .ok path → path.text = text) ∧
    (∀ path : RegistryPath, path.subkey ≠ "" →
      RegistryPath.parse path.text = .ok path ∧
      ∀ children : List String,
        (children.foldl RegistryPath.join path).text =
          path.text ++ String.join (children.map ("\\" ++ ·)) ∧
        RegistryPath.parse (children.foldl RegistryPath.join path).text =
          .ok (children.foldl RegistryPath.join path)) ∧
    ∀ driver : String,
      (∃ key, RegistryPath.parse (driverClassKey ++ driver) = .ok key) ∧
      ∀ (bag : PropertyBag) (properties : DeviceProperties),
        bag.readDevice = .value properties →
        bag PropertyName.driver = .value (some (.string driver)) →
        properties.driverRegistryKey = driverClassKey ++ driver ∧
        ∀ (adapter : AdapterRecord) (config : Config) (platform : Platform),
          let run := ((properties.toDevice adapter).resolve config).run platform.respond
          OpensUnlessHosted ((openedKeys run.calls).map RegistryPath.text) (writtenSubkeys driver)
            run.outcome := by
  refine ⟨fun text => ⟨RegistryPath.exists_parse_iff, fun path h => ?_⟩, fun path h => ?_,
    fun driver => ⟨?_, fun bag properties hread hdriver => ?_⟩⟩
  · exact (RegistryPath.parse_eq_ok_iff.1 h).1.symm
  · refine ⟨RegistryPath.parse_text h, fun children => ⟨path.text_foldl_join children, ?_⟩⟩
    exact RegistryPath.parse_text (RegistryPath.subkey_foldl_join_ne_empty h children)
  · obtain ⟨key, hparse, -⟩ := parse_driverClassKey driver
    exact ⟨key, hparse⟩
  · exact ⟨driverRegistryKey_of_readDevice hread hdriver, opens_of_driver hread hdriver⟩

/-- A device whose driver has a backslash at either end of its text. -/
def slashedDevice : PropertyBag :=
  PropertyMap.bag (.ofList [(PropertyName.deviceId, .string "PCI"),
    (PropertyName.driver, .string "\\8\\")])

/-- What is read of the device. -/
def slashedProperties : DeviceProperties :=
  ⟨"PCI", driverClassKey ++ "\\8\\", "", none, "", ""⟩

/-- A platform that knows the driver store of the device, and no keys. -/
def slashedScript : Script :=
  { Script.empty with
    stores := .ofList [(0, { opening := none, replies := [.path "C:\\amd"] })] }

/-- Backslashes at the ends are read back, and written in front of the subkeys. -/
theorem registryPaths_roundTrip_slashed :
    let run := ((slashedProperties.toDevice default).resolve (.default none)).run
      slashedScript.platform.respond
    RegistryPath.parse "HKEY_USERS\\\\8\\" = .ok ⟨.users, "\\8\\"⟩ ∧
      slashedDevice.readDevice = .value slashedProperties ∧
      (∃ resolved, run.outcome = .value resolved ∧ isHostStore resolved.driverStorePath = false) ∧
      (openedKeys run.calls).map RegistryPath.text = writtenSubkeys "\\8\\" := by
  intro run
  have hread : slashedDevice.readDevice = .value slashedProperties := by
    rfl
  obtain ⟨-, hpaths, hdrivers⟩ := registryPaths_roundTrip
  obtain ⟨-, hopens⟩ :=
    (hdrivers "\\8\\").2 slashedDevice slashedProperties hread rfl
  have hrun : run.outcome = .value
      { slashedProperties.toDevice default with driverStorePath := "C:\\amd" } := by
    decide +kernel
  have hhost : isHostStore "C:\\amd" = false := by
    decide
  refine ⟨(hpaths ⟨.users, "\\8\\"⟩ (by decide)).1, hread, ⟨_, hrun, hhost⟩, ?_⟩
  have hall := (hopens default (.default none) slashedScript.platform).all _ hrun
  rw [if_neg (Bool.eq_false_iff.1 hhost)] at hall
  exact hall

end GpuDiscovery
