import GpuDiscovery.Platform.Script
import GpuDiscovery.Proofs.Session.Pipeline
import Mathlib.Data.List.Induction

/-!
# The history of a session

A session is used step by step: it is asked for discoveries, each time on whatever the platform has
become, asked about devices, and told of results of which it remembers the error. Of all that
happened it keeps three things: a state, the devices, and the text of an error. Here they are read
off the history. The state is that of the latest discovery, the devices are those of the latest
successful one, and the text is that of the latest result that the session was told of
(`Reflects`).

One step appends at most one discovery and one result to the history (`Reflects.step`), which is
why the runs are taken apart from their end.
-/

namespace GpuDiscovery

/-- What can be asked of a session about its devices. -/
inductive SessionQuery where
  | devices
  | deviceCount
  | device (index : Nat)
  | deviceField (index : Nat) (field : DeviceField)
  | runtimeFileCount (index : Nat) (list : RuntimeFileList)
  | runtimeFile (index : Nat) (list : RuntimeFileList) (fileIndex : Nat)

/-- What a session replies if it can. -/
@[reducible] def SessionQuery.Reply : SessionQuery → Type
  | devices => List DeviceRecord
  | deviceCount | runtimeFileCount _ _ => Nat
  | device _ => DeviceRecord
  | deviceField _ _ => DeviceFieldValue
  | runtimeFile _ _ _ => RuntimeFile

/-- One use of a session. A result that the session is told of may be that of anything. -/
inductive SessionStep : Type 1 where
  | discover (platform : Platform) (selection : Selection)
  | access (query : SessionQuery)
  | track {α : Type} (result : Except DiscoveryError α)

/-- The state in which the discovery leaves a session. -/
def Discovery.ending (discovery : Discovery) : SessionState :=
  match discovery.run.outcome with
  | .value _ => .ready
  | .failed _ => .failed
  | .crashed => .discovering

/-- What a session has to say about a result. -/
def reportText : Except DiscoveryError Unit → String
  | .ok () => ""
  | .error error => error.text

namespace Discovery

variable {discovery : Discovery}

theorem ending_eq_ready_iff : discovery.ending = .ready ↔ discovery.Succeeds := by
  rw [ending, Succeeds]
  simp only [Finds]
  rcases discovery.run.outcome with devices | error | _ <;> simp

theorem ending_eq_failed_iff :
    discovery.ending = .failed ↔ ∃ error, discovery.FailsWith error := by
  rw [ending]
  simp only [FailsWith]
  rcases discovery.run.outcome with devices | error | _ <;> simp

theorem ending_eq_discovering_iff : discovery.ending = .discovering ↔ discovery.Crashes := by
  rw [ending, Crashes]
  rcases discovery.run.outcome with devices | error | _ <;> simp

theorem ending_ne_uninitialized : discovery.ending ≠ .uninitialized := by
  rw [ending]
  rcases discovery.run.outcome with devices | error | _ <;> simp

/-- The discoveries that find nothing leave the devices to the one before. -/
theorem found_concat_of_not_succeeds {made : List Discovery} (h : ¬ discovery.Succeeds) :
    (made ++ [discovery]).filterMap devices? = made.filterMap devices? := by
  rw [List.filterMap_append, List.filterMap_cons_none (devices?_eq_none_iff.2 h),
    List.filterMap_nil, List.append_nil]

/-- The last devices found are those of a discovery behind which none succeeded. -/
theorem getLast?_found_eq_some_iff {made : List Discovery} {devices : List DeviceRecord} :
    (made.filterMap devices?).getLast? = some devices ↔
      ∃ earlier latest later, made = earlier ++ latest :: later ∧ latest.Finds devices ∧
        ∀ discovery ∈ later, ¬ discovery.Succeeds := by
  rw [List.getLast?_eq_some_iff]
  constructor
  · rintro ⟨before, hfound⟩
    obtain ⟨first, rest, rfl, -, hrest⟩ := List.filterMap_eq_append_iff.1 hfound
    obtain ⟨middle, latest, later, rfl, hmiddle, hlatest, hlater⟩ :=
      List.filterMap_eq_cons_iff.1 hrest
    refine ⟨first ++ middle, latest, later, (List.append_assoc _ _ _).symm,
      devices?_eq_some_iff.1 hlatest, ?_⟩
    intro discovery hmem
    exact devices?_eq_none_iff.1 (List.filterMap_eq_nil_iff.1 hlater discovery hmem)
  · rintro ⟨earlier, latest, later, rfl, hlatest, hlater⟩
    refine ⟨earlier.filterMap devices?, ?_⟩
    have hnone : later.filterMap devices? = [] := by
      rw [List.filterMap_eq_nil_iff]
      exact fun discovery hmem => devices?_eq_none_iff.2 (hlater discovery hmem)
    rw [List.filterMap_append, List.filterMap_cons_some (devices?_eq_some_iff.2 hlatest), hnone]

theorem getLast?_found_eq_none_iff {made : List Discovery} :
    (made.filterMap devices?).getLast? = none ↔ ∀ discovery ∈ made, ¬ discovery.Succeeds := by
  rw [List.getLast?_eq_none_iff, List.filterMap_eq_nil_iff]
  simp only [devices?_eq_none_iff]

end Discovery

namespace Session

/-- The reply to a query. -/
def answer (session : Session) : (query : SessionQuery) → Except DiscoveryError query.Reply
  | .devices => session.allDevices
  | .deviceCount => session.deviceCount
  | .device index => session.device index
  | .deviceField index field => session.deviceField index field
  | .runtimeFileCount index list => session.runtimeFileCount index list
  | .runtimeFile index list fileIndex => session.runtimeFile index list fileIndex

/-- The session after one use of it. -/
def step (session : Session) : SessionStep → Session
  | .discover platform selection => (session.discover platform selection).1
  | .access _ => session
  | .track result => session.track result

/-- The session after some uses of it, one after the other. -/
def after (session : Session) (steps : List SessionStep) : Session :=
  steps.foldl step session

/-! ## What happens in a run -/

/-- What is seen of the steps of a run, if of each step one thing can be seen. -/
def collect {α : Type} (view : Session → SessionStep → Option α) :
    Session → List SessionStep → List α
  | _, [] => []
  | session, step :: rest =>
    (view session step).toList ++ collect view (session.step step) rest

/-- The discovery that is made in a step. -/
def discoveryOf (session : Session) : SessionStep → Option Discovery
  | .discover platform selection => some (session.asked platform selection)
  | .access _ | .track _ => none

/-- The result that the session is told of in a step. That of a discovery is what the session
answers itself; if the discovery is cut off, there is no answer. -/
def reportOf (session : Session) : SessionStep → Option (Except DiscoveryError Unit)
  | .discover platform selection =>
    match (session.discover platform selection).2.outcome with
    | .value () => some (.ok ())
    | .failed error => some (.error error)
    | .crashed => none
  | .access _ => none
  | .track result => some (result.map fun _ => ())

/-- The discoveries of a run, oldest first. -/
def discoveries : Session → List SessionStep → List Discovery :=
  collect discoveryOf

/-- The results that the session is told of in a run, oldest first. -/
def reports : Session → List SessionStep → List (Except DiscoveryError Unit) :=
  collect reportOf

theorem after_concat (session : Session) (steps : List SessionStep) (step : SessionStep) :
    session.after (steps ++ [step]) = (session.after steps).step step := by
  rw [after, List.foldl_append]
  rfl

theorem collect_concat {α : Type} (view : Session → SessionStep → Option α) (session : Session)
    (steps : List SessionStep) (step : SessionStep) :
    collect view session (steps ++ [step]) =
      collect view session steps ++ (view (session.after steps) step).toList := by
  induction steps generalizing session with
  | nil => rw [List.nil_append, collect, collect, collect, List.append_nil, List.nil_append, after,
      List.foldl_nil]
  | cons first rest ih =>
    rw [List.cons_append, collect, collect, ih, List.append_assoc]
    rfl

theorem discoveries_concat (session : Session) (steps : List SessionStep) (step : SessionStep) :
    session.discoveries (steps ++ [step]) =
      session.discoveries steps ++ ((session.after steps).discoveryOf step).toList :=
  collect_concat discoveryOf session steps step

theorem reports_concat (session : Session) (steps : List SessionStep) (step : SessionStep) :
    session.reports (steps ++ [step]) =
      session.reports steps ++ ((session.after steps).reportOf step).toList :=
  collect_concat reportOf session steps step

/-! ## The session and its history -/

/-- The session shows of a history what is to be shown of it. -/
structure Reflects (session : Session) (discoveries : List Discovery)
    (reports : List (Except DiscoveryError Unit)) : Prop where
  state_eq : session.state = discoveries.getLast?.elim .uninitialized Discovery.ending
  devices_eq : session.devices = (discoveries.filterMap Discovery.devices?).getLast?
  lastError_eq : session.lastError = reports.getLast?.elim "" reportText

variable {session : Session} {made : List Discovery} {told : List (Except DiscoveryError Unit)}

theorem Reflects.track {α : Type} (h : session.Reflects made told)
    (result : Except DiscoveryError α) :
    (session.track result).Reflects made (told ++ [result.map fun _ => ()]) := by
  rcases result with error | value
  · refine ⟨h.state_eq, h.devices_eq, ?_⟩
    rw [List.getLast?_concat]
    rfl
  · refine ⟨h.state_eq, h.devices_eq, ?_⟩
    rw [List.getLast?_concat]
    rfl

theorem Reflects.discover (h : session.Reflects made told) (platform : Platform)
    (selection : Selection) :
    (session.discover platform selection).1.Reflects (made ++ [session.asked platform selection])
      (told ++ (session.reportOf (.discover platform selection)).toList) := by
  rw [reportOf]
  rcases (session.asked platform selection).finds_or_failsWith_or_crashes with
    ⟨devices, hfinds⟩ | ⟨error, hfails⟩ | hcrashes
  · obtain ⟨enumerated, -, hsession, hreply⟩ := session.discover_of_finds platform selection hfinds
    rw [hsession, hreply]
    refine ⟨?_, ?_, ?_⟩
    · rw [List.getLast?_concat, Option.elim_some, Discovery.ending_eq_ready_iff.2 ⟨_, hfinds⟩]
    · rw [List.filterMap_append, List.filterMap_cons_some (Discovery.devices?_eq_some_iff.2 hfinds),
        List.filterMap_nil, List.getLast?_concat]
    · rw [Option.toList_some, List.getLast?_concat]
      rfl
  · obtain ⟨kept, hsession, hreply, -⟩ := session.discover_of_failsWith platform selection hfails
    rw [hsession, hreply]
    refine ⟨?_, ?_, ?_⟩
    · rw [List.getLast?_concat, Option.elim_some, Discovery.ending_eq_failed_iff.2 ⟨_, hfails⟩]
    · rw [Discovery.found_concat_of_not_succeeds hfails.not_succeeds]
      exact h.devices_eq
    · rw [Option.toList_some, List.getLast?_concat]
      rfl
  -- A crash is the one end of which the session is not told.
  · obtain ⟨hsession, hreply⟩ := session.discover_of_crashes platform selection hcrashes
    rw [hsession, hreply]
    refine ⟨?_, ?_, ?_⟩
    · rw [List.getLast?_concat, Option.elim_some, Discovery.ending_eq_discovering_iff.2 hcrashes]
    · rw [Discovery.found_concat_of_not_succeeds hcrashes.not_succeeds]
      exact h.devices_eq
    · rw [Option.toList_none, List.append_nil]
      exact h.lastError_eq

/-- One use of a session extends its history by what happened in it. -/
theorem Reflects.step (h : session.Reflects made told) (step : SessionStep) :
    (session.step step).Reflects (made ++ (session.discoveryOf step).toList)
      (told ++ (session.reportOf step).toList) := by
  rcases step with ⟨platform, selection⟩ | query | result
  · exact h.discover platform selection
  · simp only [discoveryOf, reportOf, Option.toList_none, List.append_nil]
    exact h
  · simp only [discoveryOf, Option.toList_none, List.append_nil]
    exact h.track result

/-- **A session reflects its history**, whether or not it was cut off in it. -/
theorem reflects_after (config : Config) (steps : List SessionStep) :
    ((new config).after steps).Reflects ((new config).discoveries steps)
      ((new config).reports steps) := by
  induction steps using List.reverseRecOn with
  | nil => exact ⟨rfl, rfl, rfl⟩
  | append_singleton steps step ih =>
    rw [after_concat, discoveries_concat, reports_concat]
    exact ih.step step

/-! ## What a session that was never cut off shows -/

/-- What a session shows, given the discoveries that it made and the results that it was told of,
and what it will answer next. -/
structure Shows (session : Session) (discoveries : List Discovery)
    (reports : List (Except DiscoveryError Unit)) : Prop where
  uninitialized_iff : session.state = .uninitialized ↔ discoveries = []
  ready_iff : session.state = .ready ↔
    ∃ latest, discoveries.getLast? = some latest ∧ latest.Succeeds
  failed_iff : session.state = .failed ↔
    ∃ latest error, discoveries.getLast? = some latest ∧ latest.FailsWith error
  never_discovering : session.state ≠ .discovering
  /-- The devices are those that the latest successful discovery found. -/
  devices_iff : ∀ devices, session.devices = some devices ↔
    ∃ earlier latest later, discoveries = earlier ++ latest :: later ∧ latest.Finds devices ∧
      ∀ discovery ∈ later, ¬ discovery.Succeeds
  no_devices_iff : session.devices = none ↔ ∀ discovery ∈ discoveries, ¬ discovery.Succeeds
  /-- The text is that of the latest error, unless a later result had none. -/
  lastError_eq : session.lastError = reports.getLast?.elim "" reportText
  /-- Who asks for a discovery is told how the straight line ended. -/
  reply_eq : ∀ platform selection, (session.discover platform selection).2.outcome =
    ((session.asked platform selection).run.outcome >>= fun _ => .value ())
  /-- Whatever the stage and the error, a discovery that fails changes no answer. -/
  answer_discover : ∀ platform selection error,
    (session.discover platform selection).2.outcome = .failed error → ∀ query,
      (session.discover platform selection).1.answer query = session.answer query

/-- Answers depend on the devices and on nothing else. -/
theorem answer_congr {one other : Session} (h : one.devices = other.devices)
    (query : SessionQuery) : one.answer query = other.answer query := by
  -- Every accessor begins with `found`, and most of them with `device` behind it.
  have hfound : one.found = other.found := by
    funext subject
    rw [found, found, h]
  have hdevice : one.device = other.device := by
    funext index
    rw [device, device, hfound]
  rcases query with _ | _ | _ | _ | _ | _
  · rw [answer, answer, allDevices, allDevices, hfound]
  · rw [answer, answer, deviceCount, deviceCount, hfound]
  · rw [answer, answer, hdevice]
  · rw [answer, answer, deviceField, deviceField, hdevice]
  · rw [answer, answer, runtimeFileCount, runtimeFileCount, hdevice]
  · rw [answer, answer, runtimeFile, runtimeFile, hdevice]

/-- **The history of a session is what it shows**, after any sequence of uses on any platforms,
as long as no discovery was cut off by a crash of the platform. -/
theorem shows_after (config : Config) (steps : List SessionStep)
    (h : ∀ discovery ∈ (new config).discoveries steps, ¬ discovery.Crashes) :
    ((new config).after steps).Shows ((new config).discoveries steps)
      ((new config).reports steps) := by
  have hreflects := reflects_after config steps
  generalize (new config).after steps = session at hreflects ⊢
  generalize (new config).discoveries steps = made at h hreflects ⊢
  have hstate := hreflects.state_eq
  refine ⟨?_, ?_, ?_, ?_, ?_, ?_, hreflects.lastError_eq, session.discover_outcome, ?_⟩
  · rw [hstate, ← List.getLast?_eq_none_iff]
    rcases made.getLast? with _ | latest
    · exact iff_of_true rfl rfl
    · exact iff_of_false Discovery.ending_ne_uninitialized (Option.some_ne_none latest)
  · rw [hstate]
    rcases made.getLast? with _ | latest
    · simp only [Option.elim_none, reduceCtorEq, false_and, exists_false]
    · simp only [Option.elim_some, Option.some.injEq, exists_eq_left',
        Discovery.ending_eq_ready_iff]
  · rw [hstate]
    rcases made.getLast? with _ | latest
    · simp only [Option.elim_none, reduceCtorEq, false_and, exists_false]
    · simp only [Option.elim_some, Option.some.injEq, exists_and_left, exists_eq_left',
        Discovery.ending_eq_failed_iff]
  · rw [hstate]
    -- The state alone does not exclude this: the latest discovery has to be one of the run.
    rcases hlatest : made.getLast? with _ | latest
    · simp only [Option.elim_none, ne_eq, reduceCtorEq, not_false_eq_true]
    · intro hcrashes
      exact h latest (List.mem_of_getLast? hlatest) (Discovery.ending_eq_discovering_iff.1 hcrashes)
  · intro devices
    rw [hreflects.devices_eq]
    exact Discovery.getLast?_found_eq_some_iff
  · rw [hreflects.devices_eq]
    exact Discovery.getLast?_found_eq_none_iff
  · intro platform selection error hfailed query
    have hne : (session.discover platform selection).2.outcome ≠ .value () := by
      rw [hfailed]
      exact nofun
    exact answer_congr (devices_discover_of_ne _ _ _ hne) query

/-- A platform with one adapter, which can drive a display and not compute, and with no access to
plug-and-play devices. -/
def outage : Script :=
  { Script.empty with
    adapters := [
      { luid := 1
        hardwareId := ⟨0x10DE, 0x2204, 0x14671458, 0xA1⟩
        isHardware := true
        isIntegrated := false
        isDetachable := false
        attributes := [.graphics11]
        listedUnder := [.graphics11]
        faults := ⟨none, none, none, none, none, none⟩ }]
    queryFault := some (.error (.win32 "SetupDiGetClassDevsW" 13)) }

/-- Asks for devices that compute, of which there are none, and then for those that do not, which
cannot be found. -/
def throughOutage : List SessionStep :=
  [.discover outage.platform ⟨.computeOnly, true, true⟩, .access .deviceCount,
    .discover outage.platform ⟨.displayOnly, true, true⟩]

/-- Through the outage the session keeps its empty list of devices, and tells of the failure. -/
theorem shows_throughOutage :
    (∀ discovery ∈ (new (.default none)).discoveries throughOutage, ¬ discovery.Crashes) ∧
      ((new (.default none)).after throughOutage).Shows
        ((new (.default none)).discoveries throughOutage)
        ((new (.default none)).reports throughOutage) ∧
      ((new (.default none)).after throughOutage).state = .failed ∧
      ((new (.default none)).after throughOutage).devices = some [] := by
  have hmade : (new (.default none)).discoveries throughOutage =
      [⟨.default none, outage.platform, ⟨.computeOnly, true, true⟩, false⟩,
        ⟨.default none, outage.platform, ⟨.displayOnly, true, true⟩, true⟩] := rfl
  have hcalm : ∀ discovery ∈ (new (.default none)).discoveries throughOutage,
      ¬ discovery.Crashes := by
    rw [hmade]
    simp only [List.forall_mem_cons]
    refine ⟨?_, ?_, fun _ hmem => absurd hmem List.not_mem_nil⟩
    · intro hcrashes
      cases hcrashes
    · intro hcrashes
      cases hcrashes
  exact ⟨hcalm, shows_after _ _ hcalm, rfl, rfl⟩

end Session

end GpuDiscovery
