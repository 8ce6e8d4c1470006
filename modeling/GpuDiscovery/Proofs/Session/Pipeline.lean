import GpuDiscovery.Proofs.Catalog.Enumeration

/-!
# A discovery as a straight line of stages

`discovery` carries the catalog through its stages and hands errors on as results, because a
session has to keep what was reached before a stage failed. What it finds, and how it fails, is
simpler to say: construct the services if they are not there, enumerate, find the devices, and stop
at the first error. `pipeline` is that straight line.

`Settles` is the inversion of a discovery: the four ways in which the catalog and the result of
`discovery` can come out, given how the straight line and its enumeration went. Everything that a
session shows after a discovery is read off these four cases, and none of the proofs about sessions
opens the stages again.
-/

namespace GpuDiscovery

open Procedure

/-! ## The straight line -/

/-- Constructs the services, unless they are there. -/
def openServices (present : Bool) : Procedure platformSystem Unit :=
  if present then return () else constructServices

/-- A discovery up to the end of its enumeration. -/
def enumeration (selection : Selection) (present : Bool) : Procedure platformSystem Catalog := do
  openServices present
  (Catalog.enumerate selection).context "enumerating DirectX adapters"

/-- A discovery, stage after stage, up to the first error. -/
def pipeline (config : Config) (selection : Selection) (present : Bool) :
    Procedure platformSystem (List DeviceRecord) := do
  let enumerated ← enumeration selection present
  findDevices config enumerated.adapters

theorem staysIn_openServices (present : Bool) : (openServices present).StaysIn .services := by
  rw [openServices]
  by_cases hpresent : present = true
  · rw [if_pos hpresent]
    trivial
  · rw [if_neg hpresent]
    exact staysIn_constructServices

/-- What is enumerated does not depend on whether the services had to be constructed for it. -/
theorem path_enumeration {selection : Selection} {present : Bool} {enumerated : Catalog}
    {talk : List (Exchange platformSystem)}
    (h : (enumeration selection present).Path talk (.value enumerated)) :
    enumerated.lists = createdLists talk ∧
      enumerated.adapters = (listedAdapters talk).foldl (AdapterSet.keep selection) .empty ∧
      enumerated.enumerated = true := by
  obtain ⟨⟨⟩, before, after, rfl, hservices, henumerate⟩ := path_bind_value_iff.1 h
  have hbefore : listsIn before = [] := by
    apply listsIn_eq_nil
    intro exchange hmem
    rw [(staysIn_openServices present).of_path hservices exchange hmem]
    decide
  rw [createdLists, listedAdapters, listsIn_append, hbefore, List.nil_append]
  exact Catalog.path_enumerate (path_context_value_iff.1 henumerate)

/-- How a discovery comes out that began with the catalog `catalog`, given how its enumeration and
the whole straight line ended. -/
inductive Settles (catalog : Option Catalog) :
    Outcome Catalog → Outcome (List DeviceRecord) →
      Outcome (Option Catalog × Except DiscoveryError (List DeviceRecord)) → Prop where
  /-- A stage crashed. Nothing is left, the services neither. -/
  | crashed (listed : Outcome Catalog) : Settles catalog listed .crashed .crashed
  /-- All stages succeeded. -/
  | found (enumerated : Catalog) (devices : List DeviceRecord) :
      Settles catalog (.value enumerated) (.value devices)
        (.value (some enumerated, .ok devices))
  /-- A stage behind the enumeration failed. The catalog is already the new one. -/
  | abandoned (enumerated : Catalog) (error : DiscoveryError) :
      Settles catalog (.value enumerated) (.failed error)
        (.value (some enumerated, .error error))
  /-- The enumeration failed, or the services before it. The catalog is the old one; where there
  was none, there may be one now in which nothing was ever enumerated. -/
  | unlisted (kept : Option Catalog) (error : DiscoveryError)
      (h : kept = catalog ∨ catalog = none ∧ kept = some .initial) :
      Settles catalog (.failed error) (.failed error) (.value (kept, .error error))

section Stages

variable (respond : platformSystem.Responder) (past : List PlatformCall) (config : Config)
  (selection : Selection)

/-- The stages behind the services, settled from the catalog that is at hand. -/
theorem runStages_settles (catalog : Catalog) :
    let listed := (enumeration selection true).runAfter respond past
    let whole := (pipeline config selection true).runAfter respond past
    let staged := (runStages config selection catalog).runAfter respond past
    staged.events = whole.events ∧
      Settles (some catalog) listed.outcome whole.outcome
        (staged.outcome >>= fun pair => .value (some pair.1, pair.2)) := by
  simp only [enumeration, pipeline, openServices, runStages, if_true, pure_bind, runAfter_bind,
    runAfter_attempt]
  generalize ((Catalog.enumerate selection).context "enumerating DirectX adapters").runAfter
    respond past = listed
  rcases listed with ⟨enumerated | error | _, events⟩
  · simp only [runAfter_bind, runAfter_attempt]
    generalize (findDevices config enumerated.adapters).runAfter respond
      ((callsOf events).reverse ++ past) = found
    rcases found with ⟨devices | error | _, foundEvents⟩
    · simp only [runAfter_pure, List.append_nil, Outcome.bind_value, true_and]
      exact .found enumerated devices
    · simp only [runAfter_pure, List.append_nil, Outcome.bind_value, true_and]
      exact .abandoned enumerated error
    · simp only [Outcome.bind_crashed, true_and]
      exact .crashed _
  · simp only [runAfter_pure, List.append_nil, Outcome.bind_value, true_and]
    exact .unlisted _ error (.inl rfl)
  · simp only [Outcome.bind_crashed, true_and]
    exact .crashed _

/-- A catalog in which nothing was enumerated is no more than none at all. -/
theorem Settles.of_initial {listed : Outcome Catalog} {whole : Outcome (List DeviceRecord)}
    {settled : Outcome (Option Catalog × Except DiscoveryError (List DeviceRecord))}
    (h : Settles (some .initial) listed whole settled) : Settles none listed whole settled := by
  cases h with
  | crashed => exact .crashed _
  | found => exact .found _ _
  | abandoned => exact .abandoned _ _
  | unlisted kept error h =>
    rcases h with rfl | ⟨h, -⟩
    · exact .unlisted _ error (.inr ⟨rfl, rfl⟩)
    · exact absurd h (Option.some_ne_none _)

/-- The stages with the services in front of them. -/
theorem runPipeline_settles (catalog : Option Catalog) :
    let listed := (enumeration selection catalog.isSome).runAfter respond past
    let whole := (pipeline config selection catalog.isSome).runAfter respond past
    let ran := (runPipeline config selection catalog).runAfter respond past
    ran.events = whole.events ∧ Settles catalog listed.outcome whole.outcome ran.outcome := by
  cases catalog with
  | some catalog =>
    obtain ⟨hevents, hsettles⟩ := runStages_settles respond past config selection catalog
    simp only [runPipeline, Option.isSome_some, runAfter_bind]
    generalize (runStages config selection catalog).runAfter respond past = staged at *
    rcases staged with ⟨⟨kept, result⟩ | error | _, events⟩
    · simp only [runAfter_pure, List.append_nil]
      exact ⟨hevents, hsettles⟩
    · exact ⟨hevents, hsettles⟩
    · exact ⟨hevents, hsettles⟩
  | none =>
    -- The services come in front of both, and their failure is the one case that is new.
    have hlisted : enumeration selection false =
        constructServices >>= fun _ => enumeration selection true := by
      simp only [enumeration, openServices, if_true, Bool.false_eq_true, if_false, pure_bind]
    have hwhole : pipeline config selection false =
        constructServices >>= fun _ => pipeline config selection true := by
      simp only [pipeline, hlisted, bind_assoc]
    simp only [Option.isSome_none, hlisted, hwhole, runPipeline, runAfter_bind, runAfter_attempt]
    generalize constructServices.runAfter respond past = opened
    rcases opened with ⟨⟨⟩ | error | _, events⟩
    · obtain ⟨hevents, hsettles⟩ := runStages_settles respond
        ((callsOf events).reverse ++ past) config selection .initial
      simp only [runAfter_bind, List.append_cancel_left_eq]
      generalize (runStages config selection .initial).runAfter respond
        ((callsOf events).reverse ++ past) = staged at *
      rcases staged with ⟨⟨kept, result⟩ | error | _, stagedEvents⟩
      · simp only [runAfter_pure, List.append_nil]
        exact ⟨hevents, hsettles.of_initial⟩
      · exact ⟨hevents, hsettles.of_initial⟩
      · exact ⟨hevents, hsettles.of_initial⟩
    · simp only [runAfter_pure, List.append_nil, true_and]
      exact .unlisted _ error (.inl rfl)
    · simp only [true_and]
      exact .crashed _

/-- **How a discovery settles.** It makes the calls of the straight line, and its outcome is one of
the four that the straight line and the enumeration in it allow. -/
theorem discovery_settles (catalog : Option Catalog) :
    let listed := (enumeration selection catalog.isSome).runAfter respond past
    let whole := (pipeline config selection catalog.isSome).runAfter respond past
    let settled := (discovery config selection catalog).runAfter respond past
    settled.calls = whole.calls ∧
      Settles catalog listed.outcome whole.outcome settled.outcome := by
  obtain ⟨hevents, hsettles⟩ := runPipeline_settles respond past config selection catalog
  simp only [discovery, runAfter_bind, runAfter_info]
  -- A note is no call, so the stages begin with the same past.
  have hpast : (callsOf [Event.info (beginNote selection)]).reverse ++ past = past := rfl
  rw [hpast]
  generalize (runPipeline config selection catalog).runAfter respond past = ran at *
  rcases ran with ⟨⟨kept, result⟩ | error | _, events⟩
  · refine ⟨?_, hsettles⟩
    simp only [Run.calls, ← hevents, runAfter_pure, callsOf_append]
    simp [callsOf]
  · refine ⟨?_, hsettles⟩
    simp only [Run.calls, ← hevents, callsOf_append]
    simp [callsOf]
  · refine ⟨?_, hsettles⟩
    simp only [Run.calls, ← hevents, callsOf_append]
    simp [callsOf]

end Stages

/-! ## One discovery of a session -/

/-- A discovery that a session is asked for. -/
structure Discovery where
  config : Config
  platform : Platform
  selection : Selection
  /-- The services are there from an earlier discovery. -/
  resumed : Bool

namespace Discovery

/-- The straight line of the discovery on its platform. -/
def run (discovery : Discovery) : Run PlatformCall (List DeviceRecord) :=
  (pipeline discovery.config discovery.selection discovery.resumed).run
    discovery.platform.respond

/-- The part of it that ends with the enumeration. -/
def listing (discovery : Discovery) : Run PlatformCall Catalog :=
  (enumeration discovery.selection discovery.resumed).run discovery.platform.respond

/-- What was exchanged with the platform. -/
def talk (discovery : Discovery) : List (Exchange platformSystem) :=
  discovery.run.exchanges discovery.platform.respond

/-- The devices that it found, if it came that far. -/
def devices? (discovery : Discovery) : Option (List DeviceRecord) :=
  discovery.run.outcome.value?

/-- The discovery found devices, and these. -/
def Finds (discovery : Discovery) (devices : List DeviceRecord) : Prop :=
  discovery.run.outcome = .value devices

/-- All stages succeeded. -/
def Succeeds (discovery : Discovery) : Prop :=
  ∃ devices, discovery.Finds devices

/-- Some stage failed, with this error. -/
def FailsWith (discovery : Discovery) (error : DiscoveryError) : Prop :=
  discovery.run.outcome = .failed error

/-- The platform crashed in some stage. -/
def Crashes (discovery : Discovery) : Prop :=
  discovery.run.outcome = .crashed

/-- The enumeration succeeded, whatever came of the stages behind it. -/
def Enumerates (discovery : Discovery) : Prop :=
  ∃ enumerated, discovery.listing.outcome = .value enumerated

theorem devices?_eq_some_iff {discovery : Discovery} {devices : List DeviceRecord} :
    discovery.devices? = some devices ↔ discovery.Finds devices :=
  Outcome.value?_eq_some_iff

theorem devices?_eq_none_iff {discovery : Discovery} :
    discovery.devices? = none ↔ ¬ discovery.Succeeds := by
  rw [Succeeds, Option.eq_none_iff_forall_ne_some, not_exists]
  exact forall_congr' fun devices => not_congr devices?_eq_some_iff

/-- A discovery that succeeds has enumerated. -/
theorem Succeeds.enumerates {discovery : Discovery} (h : discovery.Succeeds) :
    discovery.Enumerates := by
  obtain ⟨devices, hdevices⟩ := h
  rw [Finds, run, run_eq_runAfter] at hdevices
  rw [Enumerates, listing, run_eq_runAfter]
  exact exists_value_of_bind hdevices

theorem Finds.outcome_eq {discovery : Discovery} {devices : List DeviceRecord}
    (h : discovery.Finds devices) : discovery.run.outcome = .value devices := h

theorem FailsWith.outcome_eq {discovery : Discovery} {error : DiscoveryError}
    (h : discovery.FailsWith error) : discovery.run.outcome = .failed error := h

theorem Crashes.outcome_eq {discovery : Discovery} (h : discovery.Crashes) :
    discovery.run.outcome = .crashed := h

theorem Finds.not_crashes {discovery : Discovery} {devices : List DeviceRecord}
    (h : discovery.Finds devices) : ¬ discovery.Crashes := by
  rw [Crashes, h.outcome_eq]
  exact nofun

theorem FailsWith.not_crashes {discovery : Discovery} {error : DiscoveryError}
    (h : discovery.FailsWith error) : ¬ discovery.Crashes := by
  rw [Crashes, h.outcome_eq]
  exact nofun

theorem FailsWith.not_succeeds {discovery : Discovery} {error : DiscoveryError}
    (h : discovery.FailsWith error) : ¬ discovery.Succeeds := by
  rintro ⟨devices, hfinds⟩
  have houtcomes := h.outcome_eq
  rw [Finds.outcome_eq hfinds] at houtcomes
  exact absurd houtcomes nofun

theorem Crashes.not_succeeds {discovery : Discovery} (h : discovery.Crashes) :
    ¬ discovery.Succeeds := by
  rintro ⟨devices, hfinds⟩
  exact hfinds.not_crashes h

/-- There is no fourth way for a discovery to end. -/
theorem finds_or_failsWith_or_crashes (discovery : Discovery) :
    (∃ devices, discovery.Finds devices) ∨ (∃ error, discovery.FailsWith error) ∨
      discovery.Crashes := by
  rw [Crashes]
  simp only [Finds, FailsWith]
  rcases discovery.run.outcome with devices | error | _
  · exact .inl ⟨devices, rfl⟩
  · exact .inr (.inl ⟨error, rfl⟩)
  · exact .inr (.inr rfl)

end Discovery

namespace Session

variable (session : Session) (platform : Platform) (selection : Selection)

/-- The discovery that the session makes when it is asked for one. -/
def asked : Discovery :=
  ⟨session.config, platform, selection, session.catalog.isSome⟩

/-- The session after a discovery, and the answer to who asked for it, in the four cases of
`Settles`. -/
theorem discover_settles :
    ∃ settled, Settles session.catalog (session.asked platform selection).listing.outcome
        (session.asked platform selection).run.outcome settled ∧
      (session.discover platform selection).1 = session.settle settled ∧
      (session.discover platform selection).2.outcome = verdict settled := by
  obtain ⟨-, hsettles⟩ :=
    discovery_settles platform.respond [] session.config selection session.catalog
  rw [asked, Discovery.listing, Discovery.run, discover]
  simp only [run_eq_runAfter]
  exact ⟨_, hsettles, rfl, rfl⟩

/-- A discovery that succeeds replaces catalog and devices. -/
theorem discover_of_finds {devices : List DeviceRecord}
    (h : (session.asked platform selection).Finds devices) :
    ∃ enumerated, (session.asked platform selection).listing.outcome = .value enumerated ∧
      (session.discover platform selection).1 =
        { session with
          catalog := some enumerated, devices := some devices, state := .ready, lastError := "" } ∧
      (session.discover platform selection).2.outcome = .value () := by
  obtain ⟨settled, hsettles, hsession, hverdict⟩ := session.discover_settles platform selection
  rw [hsession, hverdict]
  rw [h.outcome_eq] at hsettles
  generalize (session.asked platform selection).listing.outcome = listed at hsettles ⊢
  cases hsettles with
  | found enumerated devices => exact ⟨enumerated, rfl, rfl, rfl⟩

/-- A discovery that fails replaces no devices. It replaces the catalog if it got so far, and where
it did not, it may leave one in which nothing was enumerated where there was none. -/
theorem discover_of_failsWith {error : DiscoveryError}
    (h : (session.asked platform selection).FailsWith error) :
    ∃ kept, (session.discover platform selection).1 =
        { session with catalog := kept, state := .failed, lastError := error.text } ∧
      (session.discover platform selection).2.outcome = .failed error ∧
      ((∃ enumerated, (session.asked platform selection).listing.outcome = .value enumerated ∧
          kept = some enumerated) ∨
        (¬ (session.asked platform selection).Enumerates ∧
          (kept = session.catalog ∨ session.catalog = none ∧ kept = some .initial))) := by
  obtain ⟨settled, hsettles, hsession, hverdict⟩ := session.discover_settles platform selection
  rw [hsession, hverdict, Discovery.Enumerates]
  rw [h.outcome_eq] at hsettles
  generalize (session.asked platform selection).listing.outcome = listed at hsettles ⊢
  cases hsettles with
  | abandoned enumerated error => exact ⟨_, rfl, rfl, .inl ⟨enumerated, rfl, rfl⟩⟩
  | unlisted kept error hkept =>
    refine ⟨kept, rfl, rfl, .inr ⟨?_, hkept⟩⟩
    simp only [reduceCtorEq, exists_false, not_false_eq_true]

/-- A discovery that crashes takes the catalog along, and is never heard of. -/
theorem discover_of_crashes (h : (session.asked platform selection).Crashes) :
    (session.discover platform selection).1 =
        { session with catalog := none, state := .discovering } ∧
      (session.discover platform selection).2.outcome = .crashed := by
  obtain ⟨settled, hsettles, hsession, hverdict⟩ := session.discover_settles platform selection
  rw [hsession, hverdict]
  rw [h.outcome_eq] at hsettles
  generalize (session.asked platform selection).listing.outcome = listed at hsettles
  cases hsettles with
  | crashed => exact ⟨rfl, rfl⟩

/-- Who asks for a discovery is told how the straight line ended. -/
theorem discover_outcome :
    (session.discover platform selection).2.outcome =
      ((session.asked platform selection).run.outcome >>= fun _ => .value ()) := by
  rcases (session.asked platform selection).finds_or_failsWith_or_crashes with
    ⟨devices, hfinds⟩ | ⟨error, hfails⟩ | hcrashes
  · obtain ⟨-, -, -, hreply⟩ := session.discover_of_finds platform selection hfinds
    rw [hreply, hfinds.outcome_eq, Outcome.bind_value]
  · obtain ⟨-, -, hreply, -⟩ := session.discover_of_failsWith platform selection hfails
    rw [hreply, hfails.outcome_eq, Outcome.bind_failed]
  · obtain ⟨-, hreply⟩ := session.discover_of_crashes platform selection hcrashes
    rw [hreply, hcrashes.outcome_eq, Outcome.bind_crashed]

/-- **No devices change but by a success**, whatever happened instead and in whatever stage. -/
theorem devices_discover_of_ne (h : (session.discover platform selection).2.outcome ≠ .value ()) :
    (session.discover platform selection).1.devices = session.devices := by
  rcases (session.asked platform selection).finds_or_failsWith_or_crashes with
    ⟨devices, hfinds⟩ | ⟨error, hfails⟩ | hcrashes
  · obtain ⟨-, -, -, hreply⟩ := session.discover_of_finds platform selection hfinds
    exact absurd hreply h
  · obtain ⟨kept, hsession, -⟩ := session.discover_of_failsWith platform selection hfails
    rw [hsession]
  · obtain ⟨hsession, -⟩ := session.discover_of_crashes platform selection hcrashes
    rw [hsession]

/-- A success leaves devices, if only an empty list of them. -/
theorem devices_discover_of_value
    (h : (session.discover platform selection).2.outcome = .value ()) :
    ∃ devices, (session.asked platform selection).Finds devices ∧
      (session.discover platform selection).1.devices = some devices := by
  rw [discover_outcome] at h
  obtain ⟨devices, hfinds, -⟩ := Outcome.bind_eq_value_iff.1 h
  obtain ⟨enumerated, -, hsession, -⟩ := session.discover_of_finds platform selection hfinds
  refine ⟨devices, hfinds, ?_⟩
  rw [hsession]

end Session

end GpuDiscovery
