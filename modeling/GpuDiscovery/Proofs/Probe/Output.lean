import GpuDiscovery.Platform.Script
import GpuDiscovery.Probe.Report
import GpuDiscovery.Proofs.Json.Device
import GpuDiscovery.Proofs.Session.Pipeline

/-!
# What the probe writes

The probe ends as its discovery does: after a failure or a crash it has written nothing, and after a
success it writes the devices of the session. As JSON these can be read back from what was written,
one from each object of an array, in their order and with all their fields
(`DeviceRecord.ofJson?_toJson`), so different devices are never written alike.
-/

namespace GpuDiscovery

/-! ## Devices as JSON -/

/-- The text is JSON for an array of objects, one for each of the devices, in their order, from
which the devices can be read. -/
def TellsDevices (output : String) (devices : List DeviceRecord) : Prop :=
  ∃ objects, Json.read? output = some (.array objects) ∧
    objects.map DeviceRecord.ofJson? = devices.map some

variable {output : String} {devices others : List DeviceRecord}

/-- A text tells of one list of devices. -/
theorem TellsDevices.unique (h : TellsDevices output devices)
    (hothers : TellsDevices output others) : devices = others := by
  obtain ⟨objects, hread, hdevices⟩ := h
  obtain ⟨same, hsame, hothers⟩ := hothers
  obtain rfl : objects = same := by
    rw [hread] at hsame
    exact Json.array.inj (Option.some.inj hsame)
  rw [hdevices] at hothers
  exact List.map_injective_iff.2 (fun _ _ => Option.some.inj) hothers

/-- What is written about devices as JSON tells of them. The line end behind it is white space. -/
theorem tellsDevices_render (devices : List DeviceRecord) :
    TellsDevices (render devices .json) devices := by
  refine ⟨devices.map DeviceRecord.toJson, ?_, ?_⟩
  · have hend : ∀ c ∈ "\n".toList, Json.isSpace c = true := List.forall_mem_singleton.2 rfl
    exact Json.read?_pretty (devicesToJson devices) hend
  · rw [List.map_map]
    exact List.map_congr_left fun device _ => device.ofJson?_toJson

/-- **Different devices are written differently.** -/
theorem render_json_inj (h : render devices .json = render others .json) : devices = others :=
  (tellsDevices_render devices).unique (h ▸ tellsDevices_render others)

/-! ## How a probe ends -/

namespace ProbeOptions

variable (options : ProbeOptions) (platform : Platform) (session : Session)

/-- A probe ends as its discovery does. After a success there are devices, and they are written. -/
theorem discoverAndRender_cases :
    (∃ devices, (session.discover platform options.selection).2.outcome = .value () ∧
      (session.discover platform options.selection).1.devices = some devices ∧
      (options.discoverAndRender platform session).outcome =
        .value (render devices (options.format.getD .text))) ∨
    (∃ error, (session.discover platform options.selection).2.outcome = .failed error ∧
      (options.discoverAndRender platform session).outcome = .failed error) ∨
    (session.discover platform options.selection).2.outcome = .crashed ∧
      (options.discoverAndRender platform session).outcome = .crashed := by
  have hprobed : (options.discoverAndRender platform session).outcome =
      (session.discover platform options.selection).2.outcome.bind fun _ =>
        (Outcome.ofExcept (session.discover platform options.selection).1.allDevices).bind
          fun devices => .value (render devices (options.format.getD .text)) := rfl
  rw [hprobed]
  rcases houtcome : (session.discover platform options.selection).2.outcome with ⟨⟩ | error | _
  · obtain ⟨devices, -, hdevices⟩ :=
      session.devices_discover_of_value platform options.selection houtcome
    refine .inl ⟨devices, rfl, hdevices, ?_⟩
    rw [Session.allDevices, Session.found, hdevices]
    rfl
  · exact .inr (.inl ⟨error, rfl, rfl⟩)
  · exact .inr (.inr ⟨rfl, rfl⟩)

end ProbeOptions

/-- **What a probe writes.** It fails if its discovery fails, and only then, with the same error.
If the discovery fails or crashes, nothing is written and the exit code says so. After a success the
devices of the session are written, and as JSON they can be read back from what was written, in
their order and with all their fields. So different devices are never written alike. -/
theorem probe_tellsDevices :
    (∀ (options : ProbeOptions) (platform : Platform) (session : Session),
      let discovered := session.discover platform options.selection
      let probed := options.discoverAndRender platform session
      (∀ error, probed.outcome = .failed error ↔ discovered.2.outcome = .failed error) ∧
      (probed.outcome = .crashed ↔ discovered.2.outcome = .crashed) ∧
      (discovered.2.outcome = .value () → ∃ devices output,
        discovered.1.devices = some devices ∧ probed.outcome = .value output ∧
          (options.format = some .json → TellsDevices output devices))) ∧
    (∀ arguments platform environmentRoot options,
      ProbeRequest.ofArguments arguments = .discover options →
      let discovered := (Session.new (.default environmentRoot)).discover platform options.selection
      let result := runProbe arguments platform environmentRoot
      (discovered.2.outcome ≠ .value () → result.output = "" ∧ result.exitCode ≠ 0) ∧
      (discovered.2.outcome = .value () → result.exitCode = 0 ∧ ∃ devices,
        discovered.1.devices = some devices ∧
          (options.format = some .json → TellsDevices result.output devices))) ∧
    ∀ devices others, render devices .json = render others .json → devices = others := by
  refine ⟨?_, ?_, fun _ _ => render_json_inj⟩
  · intro options platform session discovered probed
    rcases options.discoverAndRender_cases platform session with
      ⟨devices, hvalue, hdevices, hprobed⟩ | ⟨error, hfailed, hprobed⟩ | ⟨hcrashed, hprobed⟩
    · rw [hvalue, hprobed]
      refine ⟨fun error => iff_of_false nofun nofun, iff_of_false nofun nofun, fun _ => ?_⟩
      refine ⟨devices, _, hdevices, rfl, fun hformat => ?_⟩
      rw [hformat]
      exact tellsDevices_render devices
    · rw [hfailed, hprobed]
      exact ⟨fun other => by rw [Outcome.failed.injEq, Outcome.failed.injEq],
        iff_of_false nofun nofun, nofun⟩
    · rw [hcrashed, hprobed]
      exact ⟨fun error => iff_of_false nofun nofun, iff_of_true rfl rfl, nofun⟩
  · intro arguments platform environmentRoot options harguments discovered result
    have hresult : result = runProbe arguments platform environmentRoot := rfl
    rw [runProbe, harguments] at hresult
    dsimp only at hresult
    rcases options.discoverAndRender_cases platform (.new (.default environmentRoot)) with
      ⟨devices, hvalue, hdevices, hprobed⟩ | ⟨error, hfailed, hprobed⟩ | ⟨hcrashed, hprobed⟩
    all_goals
      rw [hprobed] at hresult
      dsimp only at hresult
      rw [hresult]
    · refine ⟨fun hne => absurd hvalue hne, fun _ => ⟨rfl, devices, hdevices, fun hformat => ?_⟩⟩
      rw [hformat]
      exact tellsDevices_render devices
    · have hcode : (1 : UInt32) ≠ 0 := by decide
      rw [hfailed]
      exact ⟨fun _ => ⟨rfl, hcode⟩, nofun⟩
    · have hcode : (101 : UInt32) ≠ 0 := by decide
      rw [hcrashed]
      exact ⟨fun _ => ⟨rfl, hcode⟩, nofun⟩

/-- A card with the least of all identifiers, and a device with texts that are not easy to write. -/
def quotedCard : Script :=
  { Script.empty with
    adapters := [.card (-0x8000000000000000) ⟨0x10DE, 0x2204, 0xFFFFFFFF, 0xA1⟩ [.graphics11]]
    devices := [
      { properties := .ofList [
          (PropertyName.deviceId, .string "PCI\\VEN_10DE&DEV_2204&SUBSYS_FFFFFFFF&REV_A1\\0"),
          (PropertyName.description, .string "8\" \x01😀\n"),
          (PropertyName.driver, .string "nv"),
          (PropertyName.adapterLuid, .int64 (-0x8000000000000000))]
        faults := .empty }]
    stores := .ofList [(-0x8000000000000000, { opening := none, replies := [.path "D:\\nv"] })]
    keys := .ofList [
      (driverClassKey ++ "nv\\CopyToVmWhenNewerWow64",
        { opening := none
          reading := none
          values := .ofList [("1", ["x86\\nv.dll"]), ("2", ["b/\x1f.dll", "\\"])] })] }

/-- What is found of the card. -/
def quotedDevice : DeviceRecord where
  adapter :=
    { luid := -0x8000000000000000
      hardwareId := ⟨0x10DE, 0x2204, 0xFFFFFFFF, 0xA1⟩
      isHardware := true
      isIntegrated := false
      isDetachable := false
      supportsDisplay := true
      supportsCompute := false }
  id := "PCI\\VEN_10DE&DEV_2204&SUBSYS_FFFFFFFF&REV_A1\\0"
  description := "8\" \x01😀\n"
  vendor := ""
  driverRegistryKey := driverClassKey ++ "nv"
  driverStorePath := "D:\\nv"
  locationPath := ""
  runtimeFiles := []
  runtimeFilesWow64 := [⟨"x86\\nv.dll", "nv.dll"⟩, ⟨"b/\x1f.dll", "\\"⟩]

/-- The device can be read back from what is written about it. Where there are no services nothing
is written. -/
theorem probe_tells_quotedDevice :
    let arguments := ["--format", "json"]
    let options : ProbeOptions := { ProbeOptions.none with format := some .json }
    let session : Session := .new (.default none)
    ProbeRequest.ofArguments arguments = .discover options ∧
      (session.discover quotedCard.platform options.selection).2.outcome = .value () ∧
      (∃ output,
        (options.discoverAndRender quotedCard.platform session).outcome = .value output ∧
          TellsDevices output [quotedDevice]) ∧
      TellsDevices (runProbe arguments quotedCard.platform none).output [quotedDevice] ∧
      (runProbe arguments .unsupported none).output = "" ∧
      render [quotedDevice] .json ≠ render [] .json := by
  intro arguments options session
  have harguments : ProbeRequest.ofArguments arguments = .discover options := by decide +kernel
  have hfound : (session.discover quotedCard.platform options.selection).1.devices =
      some [quotedDevice] := by decide +kernel
  have hvalue : (session.discover quotedCard.platform options.selection).2.outcome =
      .value () := by
    -- Otherwise the session would have no devices still.
    by_contra hne
    rw [session.devices_discover_of_ne _ _ hne] at hfound
    cases hfound
  have hnone : (session.discover .unsupported options.selection).2.outcome ≠ .value () := by
    decide +kernel
  obtain ⟨hprobed, hran, hrendered⟩ := probe_tellsDevices
  refine ⟨harguments, hvalue, ?_, ?_, ?_, ?_⟩
  · obtain ⟨-, -, hsuccess⟩ := hprobed options quotedCard.platform session
    obtain ⟨devices, output, hdevices, houtput, htells⟩ := hsuccess hvalue
    obtain rfl := Option.some.inj (hdevices.symm.trans hfound)
    exact ⟨output, houtput, htells rfl⟩
  · obtain ⟨-, hsuccess⟩ := hran arguments quotedCard.platform none options harguments
    obtain ⟨-, devices, hdevices, htells⟩ := hsuccess hvalue
    obtain rfl := Option.some.inj (hdevices.symm.trans hfound)
    exact htells rfl
  · exact ((hran arguments .unsupported none options harguments).1 hnone).1
  · intro hsame
    cases hrendered _ _ hsame

end GpuDiscovery
