import GpuDiscovery.Proofs.Session.Devices

/-!
# Discoveries do not depend on the past

A session carries a catalog, devices and the text of an error from one discovery to the next, and
whether its services are there decides which calls a discovery begins with. None of this has any
influence on what the discovery finds or how it fails. The catalog is no input of the straight line
at all, so the one thing to be shown is that the services may as well have been there: on a platform
that can construct them, and that answers no differently once it has, the straight line ends in the
same way with and without them (`outcome_openServices_bind`).
-/

namespace GpuDiscovery

open Procedure

/-- The platform can construct the services, and its answers to other calls are the same whether
they were just constructed or not. -/
structure Platform.IsSteady (platform : Platform) : Prop where
  adapters : ∀ past, platform.respond past .provideAdapters = .value ()
  devices : ∀ past, platform.respond past .provideDevices = .value ()
  drivers : ∀ past, platform.respond past .provideDrivers = .value ()
  forgets : ∀ (past : List PlatformCall) (call : PlatformCall),
    platform.respond (past ++ [.provideDrivers, .provideDevices, .provideAdapters]) call =
      platform.respond past call

/-- A procedure runs in the same way behind calls that no answer depends on. -/
theorem Procedure.runAfter_of_forgets {S : System} {α : Type} {respond : S.Responder}
    {earlier : List S.Call}
    (h : ∀ past call, respond (past ++ earlier) call = respond past call)
    (body : Procedure S α) (past : List S.Call) :
    body.runAfter respond (past ++ earlier) = body.runAfter respond past := by
  induction body generalizing past with
  | ends outcome => rfl
  | calls call next ih =>
    rw [runAfter, runAfter, h, ← List.cons_append, ih]
  | informs text next ih => rw [runAfter, runAfter, ih]
  | warns text next ih => rw [runAfter, runAfter, ih]

namespace Platform.IsSteady

variable {platform : Platform} (h : platform.IsSteady)

include h

/-- The services are constructed by three calls, and that is all that happens. -/
theorem runAfter_constructServices :
    constructServices.runAfter platform.respond [] =
      ⟨.value (),
        [.called .provideAdapters, .called .provideDevices, .called .provideDrivers]⟩ := by
  have hadapters : ((ask .provideAdapters).context "creating adapter enumeration backend").runAfter
      platform.respond [] = ⟨.value (), [.called .provideAdapters]⟩ := by
    rw [runAfter_context, runAfter_ask, h.adapters]
    rfl
  have hdevices : ∀ past, ((ask .provideDevices).context "creating PnP device backend").runAfter
      platform.respond past = ⟨.value (), [.called .provideDevices]⟩ := by
    intro past
    rw [runAfter_context, runAfter_ask, h.devices]
    rfl
  have hdrivers : ∀ past, ((ask .provideDrivers).context "creating driver query backend").runAfter
      platform.respond past = ⟨.value (), [.called .provideDrivers]⟩ := by
    intro past
    rw [runAfter_context, runAfter_ask, h.drivers]
    rfl
  rw [constructServices, runAfter_bind, hadapters]
  dsimp only
  rw [runAfter_bind, hdevices]
  dsimp only
  rw [hdrivers]
  rfl

/-- Whether the services are there makes no difference to how a procedure ends that needs them. -/
theorem outcome_openServices_bind {α : Type} (present : Bool)
    (next : Unit → Procedure platformSystem α) :
    ((openServices present >>= next).runAfter platform.respond []).outcome =
      ((next ()).runAfter platform.respond []).outcome := by
  cases present with
  | true => rfl
  | false =>
    rw [openServices, if_neg Bool.false_ne_true, runAfter_bind, h.runAfter_constructServices]
    dsimp only
    exact congrArg Run.outcome (runAfter_of_forgets h.forgets (next ()) [])

end Platform.IsSteady

/-- The queries of a store are counted from the opening on, and no construction is one. -/
theorem queriesSinceOpening_append_services (past : List PlatformCall) :
    queriesSinceOpening (past ++ [.provideDrivers, .provideDevices, .provideAdapters]) =
      queriesSinceOpening past := by
  rw [queriesSinceOpening, queriesSinceOpening, List.takeWhile_append]
  split
  · rename_i hall
    rw [(List.takeWhile_prefix _).eq_of_length hall, List.countP_append]
    rfl
  · rfl

/-- A platform that answers from a script is steady if the script has the services. -/
theorem Script.isSteady {script : Script} (hadapters : script.adapterService = none)
    (hdevices : script.deviceService = none) (hdrivers : script.driverService = none) :
    script.platform.IsSteady where
  adapters past := congrArg (Outcome.unless ()) hadapters
  devices past := congrArg (Outcome.unless ()) hdevices
  drivers past := congrArg (Outcome.unless ()) hdrivers
  forgets past call := by
    cases call with
    | queryStorePath luid capacity =>
      exact congrArg (script.storeAnswer luid · capacity) (queriesSinceOpening_append_services past)
    | _ => rfl

namespace Session

variable {platform : Platform}

/-- Two sessions with one configuration ask for discoveries that list and end alike. -/
theorem outcomes_asked_eq (h : platform.IsSteady) {one other : Session}
    (hconfig : one.config = other.config) (selection : Selection) :
    (one.asked platform selection).listing.outcome =
        (other.asked platform selection).listing.outcome ∧
      (one.asked platform selection).run.outcome =
        (other.asked platform selection).run.outcome := by
  have hpipeline : ∀ config present, pipeline config selection present =
      openServices present >>= fun _ => pipeline config selection true := by
    intro config present
    simp only [pipeline, enumeration, bind_assoc]
    rfl
  simp only [asked, Discovery.listing, Discovery.run, run_eq_runAfter, enumeration, hconfig]
  refine ⟨?_, ?_⟩
  · rw [h.outcome_openServices_bind, h.outcome_openServices_bind]
  · rw [hpipeline _ one.catalog.isSome, hpipeline _ other.catalog.isSome,
      h.outcome_openServices_bind, h.outcome_openServices_bind]

/-- Sessions with one configuration get the same answer, and become the same by a success. -/
theorem discover_eq_of_config_eq (h : platform.IsSteady) {one other : Session}
    (hconfig : one.config = other.config) (selection : Selection) :
    (one.discover platform selection).2.outcome = (other.discover platform selection).2.outcome ∧
      ((one.discover platform selection).2.outcome = .value () →
        (one.discover platform selection).1 = (other.discover platform selection).1) := by
  obtain ⟨hlisting, hrun⟩ := outcomes_asked_eq h hconfig selection
  refine ⟨?_, ?_⟩
  · rw [discover_outcome, discover_outcome, hrun]
  · intro hsuccess
    rw [discover_outcome] at hsuccess
    obtain ⟨devices, hfinds, -⟩ := Outcome.bind_eq_value_iff.1 hsuccess
    obtain ⟨catalog, hlisted, hone, -⟩ := one.discover_of_finds platform selection hfinds
    obtain ⟨again, hrelisted, hother, -⟩ :=
      other.discover_of_finds platform selection (hrun ▸ hfinds)
    rw [hlisting, hrelisted] at hlisted
    rw [hone, hother, Outcome.value.inj hlisted, hconfig]

@[simp] theorem config_discover (session : Session) (platform : Platform)
    (selection : Selection) : (session.discover platform selection).1.config = session.config := by
  rcases (session.asked platform selection).finds_or_failsWith_or_crashes with
    ⟨devices, hfinds⟩ | ⟨error, hfails⟩ | hcrashes
  · obtain ⟨enumerated, -, hsession, -⟩ := session.discover_of_finds platform selection hfinds
    rw [hsession]
  · obtain ⟨kept, hsession, -⟩ := session.discover_of_failsWith platform selection hfails
    rw [hsession]
  · obtain ⟨hsession, -⟩ := session.discover_of_crashes platform selection hcrashes
    rw [hsession]

/-- No use of a session changes its configuration. -/
theorem config_after (session : Session) (steps : List SessionStep) :
    (session.after steps).config = session.config := by
  induction steps using List.reverseRecOn with
  | nil => rfl
  | append_singleton steps step ih =>
    rw [after_concat, ← ih]
    rcases step with ⟨platform, selection⟩ | query | (error | value)
    · exact config_discover _ _ _
    · rfl
    · rfl
    · rfl

/-- **A discovery does not depend on the past.** -/
theorem discover_after_eq_discover_new (config : Config) (steps : List SessionStep)
    (selection : Selection) (h : platform.IsSteady) :
    (((new config).after steps).discover platform selection).2.outcome =
        ((new config).discover platform selection).2.outcome ∧
      ((((new config).after steps).discover platform selection).2.outcome = .value () →
        (((new config).after steps).discover platform selection).1 =
          ((new config).discover platform selection).1) :=
  discover_eq_of_config_eq h (config_after (new config) steps) selection

/-- A past with a service that was not there, a crash of the platform, and a failure behind the
enumeration of other adapters. -/
def troubledPast : List SessionStep :=
  [.discover ({ outage with driverService := some (.error .unsupportedPlatform) } : Script).platform
      ⟨.all, true, true⟩,
    .discover ({ workstation with queryFault := some .crash } : Script).platform ⟨.all, true, true⟩,
    .discover outage.platform ⟨.displayOnly, true, true⟩]

/-- The troubled past leaves a catalog behind, and still the device of the workstation is found as
if there had been none. -/
theorem discover_after_troubledPast :
    workstation.platform.IsSteady ∧
      (((new (.default none)).after troubledPast).catalog.map fun catalog =>
        catalog.adapters.size) = some 1 ∧
      ((new (.default none)).after troubledPast).state = .failed ∧
      (((new (.default none)).after troubledPast).discover workstation.platform
        ⟨.computeSupported, true, true⟩).2.outcome = .value () ∧
      (((new (.default none)).after troubledPast).discover workstation.platform
        ⟨.computeSupported, true, true⟩).1 =
          ((new (.default none)).discover workstation.platform
            ⟨.computeSupported, true, true⟩).1 := by
  have hsteady : workstation.platform.IsSteady := Script.isSteady rfl rfl rfl
  have hsuccess : ((new (.default none)).discover workstation.platform
      ⟨.computeSupported, true, true⟩).2.outcome = .value () := by decide +kernel
  obtain ⟨houtcome, hsession⟩ := discover_after_eq_discover_new (.default none) troubledPast
    ⟨.computeSupported, true, true⟩ hsteady
  rw [hsuccess] at houtcome
  exact ⟨hsteady, by decide +kernel, by decide +kernel, houtcome, hsession houtcome⟩

end Session

end GpuDiscovery
