import GpuDiscovery.Proofs.Foreign.Strings

/-!
# What foreign callers learn of a failure

A foreign caller gets a number for a discovery and can ask for the text of the last error. The text
is remembered at three points of the call: when the filter is looked up, when the session has
discovered, and when the texts of the devices are made. A discovery that fails has something to say
whatever its cause, because every stage puts a context of its own around the cause
(`failsOnly_pipeline`). A crash leaves between the first point and the second one, so all that is
remembered of it is that the filter was known.
-/

namespace GpuDiscovery

open Procedure Text

/-! ## Errors that have something to say -/

/-- The text has a first character, and one that does not end a wide text. -/
def Text.BeginsVisibly (text : String) : Prop :=
  ∃ c rest, text.toList = c :: rest ∧ c ≠ '\x00'

theorem Text.BeginsVisibly.append {text : String} (h : BeginsVisibly text) (more : String) :
    BeginsVisibly (text ++ more) := by
  obtain ⟨c, rest, htext, hc⟩ := h
  exact ⟨c, rest ++ more.toList, by rw [String.toList_append, htext]; rfl, hc⟩

/-- Of a text that begins visibly, a foreign caller reads something. -/
theorem beforeZero_wide_ne_nil {text : String} (h : BeginsVisibly text) :
    Utf16.beforeZero (wide text) ≠ [] := by
  obtain ⟨c, rest, htext, hc⟩ := h
  have hzero := Utf16.zero_notMem_encodeChar hc
  rw [Utf16.beforeZero, wide, Utf16.encode, htext, List.flatMap_cons]
  -- A character has one unit or two, and none of them is zero.
  rcases hunits : Utf16.encodeChar c with _ | ⟨unit, units⟩
  · rw [Utf16.encodeChar] at hunits
    split at hunits
    · exact absurd hunits (List.cons_ne_nil _ _)
    · exact absurd hunits (List.cons_ne_nil _ _)
  · rw [hunits, List.mem_cons, not_or] at hzero
    rw [List.cons_append, List.cons_append, List.takeWhile_cons_of_pos]
    · exact List.cons_ne_nil _ _
    · rw [bne_iff_ne]
      exact Ne.symm hzero.1

/-- The error has a text that a foreign caller can read. -/
def DiscoveryError.IsVisible (error : DiscoveryError) : Prop :=
  BeginsVisibly error.text

/-- A context that begins visibly makes every cause visible. -/
theorem DiscoveryError.isVisible_wrapped {context : String} (h : BeginsVisibly context)
    (cause : DiscoveryError) : (wrapped context cause).IsVisible :=
  (h.append ": ").append cause.text

theorem DiscoveryError.isVisible_invalidFilter (code : Int32) :
    (invalidFilter code).IsVisible :=
  BeginsVisibly.append ⟨'u', _, rfl, by decide⟩ _

theorem failsOnly_constructServices : constructServices.FailsOnly DiscoveryError.IsVisible := by
  refine FailsOnly.bind (FailsOnly.context ?_ _) fun _ => ?_
  · exact DiscoveryError.isVisible_wrapped ⟨'c', _, rfl, by decide⟩
  refine FailsOnly.bind (FailsOnly.context ?_ _) fun _ => FailsOnly.context ?_ _
  · exact DiscoveryError.isVisible_wrapped ⟨'c', _, rfl, by decide⟩
  · exact DiscoveryError.isVisible_wrapped ⟨'c', _, rfl, by decide⟩

theorem failsOnly_resolveDevices (config : Config) (devices : List DeviceRecord) :
    (resolveDevices config devices).FailsOnly DiscoveryError.IsVisible := by
  induction devices with
  | nil => exact FailsOnly.pure _
  | cons device rest ih =>
    refine FailsOnly.bind (FailsOnly.context ?_ _) fun resolved => ?_
    · exact DiscoveryError.isVisible_wrapped (BeginsVisibly.append ⟨'r', _, rfl, by decide⟩ _)
    · exact ih.bind fun others => FailsOnly.pure _

/-- **Whatever stage fails has something to say.** -/
theorem failsOnly_pipeline (config : Config) (selection : Selection) (present : Bool) :
    (pipeline config selection present).FailsOnly DiscoveryError.IsVisible := by
  refine FailsOnly.bind ?_ fun enumerated => ?_
  · refine FailsOnly.bind ?_ fun _ => FailsOnly.context ?_ _
    · rw [openServices]
      split
      · exact FailsOnly.pure _
      · exact failsOnly_constructServices
    · exact DiscoveryError.isVisible_wrapped ⟨'e', _, rfl, by decide⟩
  · refine FailsOnly.bind (FailsOnly.context ?_ _) fun devices => failsOnly_resolveDevices _ _
    exact DiscoveryError.isVisible_wrapped ⟨'r', _, rfl, by decide⟩

theorem Discovery.FailsWith.isVisible {discovery : Discovery} {error : DiscoveryError}
    (h : discovery.FailsWith error) : error.IsVisible := by
  have hpath := path_run discovery.platform.respond
    (pipeline discovery.config discovery.selection discovery.resumed)
  rw [Discovery.FailsWith, Discovery.run] at h
  rw [h] at hpath
  exact failsOnly_pipeline _ _ _ _ _ hpath

namespace Instance

/-- The answer to a call. -/
def reply (inst : Instance) (call : ForeignCall) : ForeignValue :=
  (Library.callInstance call.platform call.arguments inst call.function).2.1

/-- The platform crashes in the discovery that the instance is asked for. -/
def CrashesIn (inst : Instance) (platform : Platform) (arguments : ForeignArguments) : Prop :=
  ∃ filter, CapabilityFilter.ofCode arguments.filter = .ok filter ∧
    (inst.session.asked platform ⟨filter, arguments.includeIntegrated != 0,
      arguments.includeDetachable != 0⟩).Crashes

/-- What a discovery answers, and what it leaves to be said of it: nothing after a success or a
crash, and something that begins visibly after anything else. -/
theorem discover_signal (inst : Instance) (platform : Platform) (arguments : ForeignArguments) :
    ∃ (signal : Int) (said : String),
      inst.reply ⟨platform, .discoverDevices, arguments⟩ = .integer signal ∧
      (inst.after [⟨platform, .discoverDevices, arguments⟩]).session.lastError = said ∧
      (signal = 0 ∧ said = "" ∧ ¬ inst.CrashesIn platform arguments ∨
        signal = -1 ∧ said = "" ∧ inst.CrashesIn platform arguments ∨
        signal = -1 ∧ BeginsVisibly said ∧ ¬ inst.CrashesIn platform arguments) := by
  simp only [reply, after, List.foldl_cons, List.foldl_nil, Library.callInstance, Instance.discover,
    CrashesIn]
  rcases hlookup : CapabilityFilter.ofCode arguments.filter with error | filter
  · refine ⟨-1, error.text, rfl, rfl, .inr (.inr ⟨rfl, ?_, ?_⟩)⟩
    · rw [CapabilityFilter.ofCode] at hlookup
      split at hlookup
      · cases hlookup
      · rw [← Except.error.inj hlookup]
        exact DiscoveryError.isVisible_invalidFilter _
    · simp only [reduceCtorEq, false_and, exists_false, not_false_eq_true]
  simp only [Except.ok.injEq, exists_eq_left']
  generalize Selection.mk filter (arguments.includeIntegrated != 0)
    (arguments.includeDetachable != 0) = selection
  -- The lookup left no error behind, and the discovery is the same with or without one.
  rcases (inst.session.asked platform selection).finds_or_failsWith_or_crashes with
    ⟨devices, hfinds⟩ | ⟨error, hfails⟩ | hcrashes
  · obtain ⟨enumerated, -, hsession, hreply⟩ :=
      (inst.track (.ok filter)).session.discover_of_finds platform selection hfinds
    rw [hsession, hreply]
    refine ⟨0, "", rfl, rfl, .inl ⟨rfl, rfl, hfinds.not_crashes⟩⟩
  · obtain ⟨kept, hsession, hreply, -⟩ :=
      (inst.track (.ok filter)).session.discover_of_failsWith platform selection hfails
    rw [hsession, hreply]
    exact ⟨-1, error.text, rfl, rfl, .inr (.inr ⟨rfl, hfails.isVisible, hfails.not_crashes⟩)⟩
  · obtain ⟨hsession, hreply⟩ :=
      (inst.track (.ok filter)).session.discover_of_crashes platform selection hcrashes
    rw [hsession, hreply]
    exact ⟨-1, "", rfl, rfl, .inr (.inl ⟨rfl, rfl, hcrashes⟩)⟩

/-- **What a foreign caller learns of a discovery.** The number is 0 or -1, and the text that the
caller reads for the last error right afterwards is empty after 0, and empty after -1 exactly if the
platform crashed. -/
theorem signal_of_discoverDevices (inst : Instance) (platform later : Platform)
    (arguments others : ForeignArguments) :
    ∃ (signal : Int) (units : List UInt16),
      inst.reply ⟨platform, .discoverDevices, arguments⟩ = .integer signal ∧
      (inst.after [⟨platform, .discoverDevices, arguments⟩]).reply
        ⟨later, .lastErrorMessage, others⟩ = .text units ∧
      (signal = 0 ∨ signal = -1) ∧
      (signal = 0 → Utf16.beforeZero units = []) ∧
      (signal = -1 → (Utf16.beforeZero units = [] ↔ inst.CrashesIn platform arguments)) ∧
      (inst.CrashesIn platform arguments → signal = -1) := by
  obtain ⟨signal, said, hsignal, hsaid, hcases⟩ := inst.discover_signal platform arguments
  refine ⟨signal, wide said, hsignal,
    congrArg (fun said => ForeignValue.text (wide said)) hsaid, ?_⟩
  have hnothing : Utf16.beforeZero (wide "") = [] := rfl
  rcases hcases with ⟨rfl, rfl, hcalm⟩ | ⟨rfl, rfl, hcrashes⟩ | ⟨rfl, hvisible, hcalm⟩
  · exact ⟨.inl rfl, fun _ => hnothing, nofun, fun hcrashes => absurd hcrashes hcalm⟩
  · exact ⟨.inr rfl, nofun, fun _ => iff_of_true hnothing hcrashes, fun _ => rfl⟩
  · exact ⟨.inr rfl, nofun,
      fun _ => iff_of_false (beforeZero_wide_ne_nil hvisible) hcalm, fun _ => rfl⟩

/-- A platform that crashes when it is asked for the service that lists adapters. -/
def brokenService : Script :=
  { Script.empty with adapterService := some .crash }

/-- A crash is signalled and nothing is said of it. -/
theorem nothing_said_of_crash :
    ¬ ∀ (config : Config) (calls : List ForeignCall) (platform later : Platform)
      (arguments others : ForeignArguments), ∃ (signal : Int) (units : List UInt16),
        ((new config).after calls).reply ⟨platform, .discoverDevices, arguments⟩ =
          .integer signal ∧
        (((new config).after calls).after [⟨platform, .discoverDevices, arguments⟩]).reply
          ⟨later, .lastErrorMessage, others⟩ = .text units ∧
        (signal = -1 ∧ Utf16.beforeZero units ≠ [] ∨ signal = 0 ∧ Utf16.beforeZero units = []) := by
  intro h
  obtain ⟨signal, units, hsignal, hunits, hcases⟩ := h (.default none) [] brokenService.platform
    brokenService.platform ⟨0, 0, 0, 0, 1, 1⟩ ⟨0, 0, 0, 0, 1, 1⟩
  rw [← ForeignValue.integer.inj hsignal, ← ForeignValue.text.inj hunits] at hcases
  rcases hcases with ⟨-, hunits⟩ | ⟨hsignal, -⟩
  · exact hunits rfl
  · exact absurd hsignal (by decide)

end Instance

end GpuDiscovery
