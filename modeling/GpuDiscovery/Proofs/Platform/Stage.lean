import GpuDiscovery.Proofs.Procedure.Path
import GpuDiscovery.Session

/-!
# Which calls belong to which stage

Every call of the platform belongs to one stage of discovery, and every stage makes calls of its
own only. So whatever is read off the exchanges of a whole discovery by looking for the calls of one
stage is read off the exchanges of that stage; the parts before and behind it contribute nothing.
-/

namespace GpuDiscovery

open Procedure

/-- The stages of a discovery, by the part of the platform that they talk to. -/
inductive PlatformStage where
  | services
  | listing
  | querying
  | stores
  | registry
  deriving DecidableEq, Repr

/-- The stage that a call belongs to. -/
def PlatformCall.stage : PlatformCall → PlatformStage
  | provideAdapters | provideDevices | provideDrivers => .services
  | listAdapters _ => .listing
  | queryDevices _ => .querying
  | openAdapter _ | queryStorePath _ _ => .stores
  | openKey _ | readKey _ => .registry

/-- A call of one of two stages belongs to no third one. -/
theorem stage_ne_of_or {call : PlatformCall} {one other stage : PlatformStage}
    (h : call.stage = one ∨ call.stage = other) (hone : one ≠ stage) (hother : other ≠ stage) :
    call.stage ≠ stage := by
  rcases h with h | h
  · rw [h]
    exact hone
  · rw [h]
    exact hother

/-- The procedure talks to one part of the platform only. -/
abbrev Procedure.StaysIn {α : Type} (body : Procedure platformSystem α) (stage : PlatformStage) :
    Prop :=
  body.CallsOnly fun call : PlatformCall => call.stage = stage

/-! ## Asking the platform -/

/-- A call of the platform runs as that call and ends as it is answered. -/
theorem runAfter_ask (respond : platformSystem.Responder) (call : PlatformCall)
    (past : List PlatformCall) :
    (ask call).runAfter respond past = ⟨respond past call, [.called call]⟩ := by
  rw [ask, runAfter_bind, runAfter_perform]
  rfl

/-- A call of the platform is one exchange, and its answer is how it ends. -/
theorem path_ask_iff {call : PlatformCall} {talk : List (Exchange platformSystem)}
    {outcome : Outcome call.Result} :
    (ask call).Path talk outcome ↔ talk = [⟨call, outcome⟩] := by
  rw [ask, path_perform_bind_iff]
  constructor
  · rintro ⟨answer, behind, rfl, hanswer⟩
    obtain ⟨rfl, rfl⟩ := path_ofOutcome_iff.1 hanswer
    rfl
  · rintro rfl
    exact ⟨outcome, [], rfl, path_ofOutcome_iff.2 ⟨rfl, rfl⟩⟩

/-- A call and the reading of its result are one exchange if no calls are made to read it. -/
theorem exchange_of_ask_bind {α : Type} {call : PlatformCall} {text : String}
    {reading : call.Result → Procedure platformSystem α} {ending : call.Result → Outcome α}
    (hreading : ∀ result, (reading result).EndsAs (ending result))
    {talk : List (Exchange platformSystem)} {outcome : Outcome α}
    (h : ((ask call).context text >>= reading).Path talk outcome) :
    ∃ answer, talk = [⟨call, answer⟩] ∧ outcome = (answer.context text >>= ending) := by
  rcases path_bind_iff.1 h with
    ⟨result, before, after, rfl, hasked, hread⟩ | ⟨error, hasked, rfl⟩ | ⟨hasked, rfl⟩
  · rw [path_context_value_iff, path_ask_iff] at hasked
    obtain ⟨rfl, rfl⟩ := hreading result after outcome hread
    exact ⟨.value result, by rw [hasked, List.append_nil], rfl⟩
  · obtain ⟨answer, hasked, hfailed⟩ := path_context_iff.1 hasked
    exact ⟨answer, path_ask_iff.1 hasked, by rw [← hfailed]; rfl⟩
  · obtain ⟨answer, hasked, hcrashed⟩ := path_context_iff.1 hasked
    exact ⟨answer, path_ask_iff.1 hasked, by rw [← hcrashed]; rfl⟩

theorem staysIn_ask {call : PlatformCall} {stage : PlatformStage} (h : call.stage = stage) :
    (ask call).StaysIn stage :=
  ⟨h, fun _ => trivial⟩

/-! ## The stages -/

theorem staysIn_constructServices : constructServices.StaysIn .services := by
  refine CallsOnly.bind (CallsOnly.context (staysIn_ask rfl) _) fun _ => ?_
  refine CallsOnly.bind (CallsOnly.context (staysIn_ask rfl) _) fun _ => ?_
  exact CallsOnly.context (staysIn_ask rfl) _

namespace Catalog

end Catalog

namespace AdapterSet

theorem staysIn_matchDevice (adapters : AdapterSet) (properties : DeviceProperties) :
    (matchDevice adapters properties).StaysIn .querying := by
  rw [matchDevice]
  split
  · trivial
  · split <;> trivial

/-- Reading devices that were found makes no calls at all. -/
theorem staysIn_matchDevices (adapters : AdapterSet) (index : Nat) (bags : List PropertyBag) :
    (matchDevices adapters index bags).StaysIn .querying := by
  induction bags generalizing index with
  | nil => trivial
  | cons bag rest ih =>
    refine CallsOnly.bind trivial fun properties => ?_
    refine (staysIn_matchDevice adapters properties).bind fun device? => ?_
    exact (ih (index + 1)).bind fun _ => trivial

theorem staysIn_correlate (adapters : AdapterSet) : (correlate adapters).StaysIn .querying := by
  rw [correlate]
  split
  · trivial
  · refine CallsOnly.bind trivial fun _ => ?_
    refine CallsOnly.bind (CallsOnly.context (staysIn_ask rfl) _) fun bags => ?_
    exact staysIn_matchDevices adapters 0 bags

end AdapterSet

/-- A query that grows makes the calls of its single attempts. -/
theorem callsOnly_growFrom {S : System} {allowed : S.Call → Prop}
    {query : Nat → Procedure S BufferAnswer} (h : ∀ capacity, (query capacity).CallsOnly allowed)
    (maxAttempts attempts capacity : Nat) :
    (growFrom query maxAttempts attempts capacity).CallsOnly allowed := by
  induction attempts generalizing capacity with
  | zero => trivial
  | succ attempts ih =>
    refine (h capacity).bind fun answer => ?_
    cases answer with
    | complete text => trivial
    | overflow required =>
      dsimp only
      split
      · trivial
      · exact ih required

namespace DeviceRecord

theorem staysIn_findDriverStore (config : Config) (device : DeviceRecord) :
    (device.findDriverStore config).StaysIn .stores := by
  refine CallsOnly.bind (CallsOnly.context (staysIn_ask rfl) _) fun _ => ?_
  refine CallsOnly.bind (CallsOnly.context ?_ _) fun _ => trivial
  exact callsOnly_growFrom (fun _ => staysIn_ask rfl) _ _ _

theorem staysIn_readSubkeyIfPossible (device : DeviceRecord) (subkey : String) :
    (device.readSubkeyIfPossible subkey).StaysIn .registry := by
  have hread : (device.readSubkey subkey).StaysIn .registry := by
    refine CallsOnly.bind trivial fun driverKey => ?_
    refine CallsOnly.bind (CallsOnly.context (staysIn_ask rfl) _) fun _ => ?_
    exact CallsOnly.bind (CallsOnly.context (staysIn_ask rfl) _) fun _ => trivial
  refine hread.attempt.bind fun result => ?_
  cases result <;> trivial

/-- Noting what is ignored makes no calls at all. -/
theorem callsOnly_noteIgnored {allowed : PlatformCall → Prop} (subkey : String)
    (files : List RuntimeFile) : (noteIgnored subkey files).CallsOnly allowed := by
  induction files with
  | nil => trivial
  | cons file rest ih => exact CallsOnly.bind trivial fun _ => ih

theorem staysIn_addSubkeys (subkeys : List RuntimeFileSubkey) (device : DeviceRecord) :
    (addSubkeys subkeys device).StaysIn .registry := by
  induction subkeys generalizing device with
  | nil => trivial
  | cons subkey rest ih =>
    refine (device.staysIn_readSubkeyIfPossible subkey.name).bind fun files => ?_
    exact CallsOnly.bind (callsOnly_noteIgnored _ _) fun _ => ih _

/-- Whatever is asked about a driver is asked of its store or of the registry. -/
theorem callsOnly_resolve (config : Config) (device : DeviceRecord) :
    (device.resolve config).CallsOnly fun call : PlatformCall =>
      call.stage = .stores ∨ call.stage = .registry := by
  refine CallsOnly.bind trivial fun _ => ?_
  refine ((device.staysIn_findDriverStore config).mono fun _ => Or.inl).bind fun path => ?_
  dsimp only
  split
  · trivial
  · exact (staysIn_addSubkeys _ _).mono fun _ => Or.inr

end DeviceRecord

theorem callsOnly_resolveDevices (config : Config) (devices : List DeviceRecord) :
    (resolveDevices config devices).CallsOnly fun call : PlatformCall =>
      call.stage = .stores ∨ call.stage = .registry := by
  induction devices with
  | nil => trivial
  | cons device rest ih =>
    refine ((device.callsOnly_resolve config).context _).bind fun resolved => ?_
    exact ih.bind fun _ => trivial

/-- The stages behind the enumeration list no adapters. -/
theorem callsOnly_findDevices (config : Config) (adapters : AdapterSet) :
    (findDevices config adapters).CallsOnly fun call : PlatformCall => call.stage ≠ .listing := by
  refine CallsOnly.bind (CallsOnly.context ?_ _) fun devices => ?_
  · refine (AdapterSet.staysIn_correlate adapters).mono fun call hstage => ?_
    rw [hstage]
    decide
  · refine (callsOnly_resolveDevices config devices).mono fun call hstage => ?_
    exact stage_ne_of_or hstage (by decide) (by decide)

/-! ## Views of a discovery -/

/-- What is read off the calls of one stage is not there if no call belongs to it. -/
theorem filterMap_eq_nil_of_stage {α : Type} {stage : PlatformStage}
    {view : Exchange platformSystem → Option α}
    (hview : ∀ exchange, exchange.call.stage ≠ stage → view exchange = none)
    {talk : List (Exchange platformSystem)}
    (h : ∀ exchange ∈ talk, exchange.call.stage ≠ stage) : talk.filterMap view = [] := by
  rw [List.filterMap_eq_nil_iff]
  intro exchange hmem
  exact hview exchange (h exchange hmem)

end GpuDiscovery
