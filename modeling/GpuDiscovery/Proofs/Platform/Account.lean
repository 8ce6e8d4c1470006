import GpuDiscovery.Proofs.Catalog.Enumeration
import GpuDiscovery.Proofs.Device.Correlation

/-!
# Accounts of a discovery

A discovery is a sequence of steps, each of which may end it: calls of the platform, the reading of
what it handed out, and the discovery's own judgement of what was read. An account lists the steps
with how each of them went, in the order in which they are taken (`Step`, `Entry`), and whoever goes
through it comes to the same end as the discovery (`replay`). What is said of a failure depends on
the step alone, and all that is ever said is in one table (`Step.contexts`).
-/

namespace GpuDiscovery

open Procedure Text

/-! ## Outcomes without their values -/

namespace Outcome

variable {α β : Type}

/-- How a step ended, whatever its value. -/
def void (outcome : Outcome α) : Outcome Unit :=
  outcome >>= fun _ => .value ()

/-- Says of an error in which steps it happened, the outermost first. -/
def within (contexts : List String) : Outcome α → Outcome α
  | failed error => failed (error.within contexts)
  | other => other

/-- An error that does not matter. -/
def forgive : Outcome Unit → Outcome Unit
  | failed _ => value ()
  | other => other

theorem within_context (contexts : List String) (text : String) (outcome : Outcome α) :
    (outcome.context text).within contexts = outcome.within (contexts ++ [text]) := by
  rcases outcome with result | error | _
  · rfl
  · simp only [context, within, DiscoveryError.within, List.foldr_append, List.foldr_cons,
      List.foldr_nil]
  · rfl

end Outcome

/-! ## Steps -/

/-- A property that is read of a listed adapter. -/
inductive AdapterProperty where
  | luid
  | hardwareId
  | isHardware
  | isIntegrated
  | isDetachable
  deriving DecidableEq, Repr

/-- What error texts call the property. -/
def AdapterProperty.text : AdapterProperty → String
  | luid => "instance LUID"
  | hardwareId => "hardware ID"
  | isHardware => "hardware flag"
  | isIntegrated => "integrated flag"
  | isDetachable => "detachable flag"

/-- A step of a discovery. -/
inductive Step where
  | provideAdapters
  | provideDevices
  | provideDrivers
  /-- A list of adapters is created. -/
  | createList (group : AdapterAttribute)
  /-- The adapter at a place of a list is fetched. -/
  | fetchAdapter (group : AdapterAttribute) (index : Nat)
  /-- A property of the adapter at a place of a list is read. -/
  | readAdapter (group : AdapterAttribute) (index : Nat) (property : AdapterProperty)
  | queryDevices
  /-- A property of a plug-and-play device is read. -/
  | readProperty (index : Nat) (name : String)
  /-- A property that was read is taken for what it should be. -/
  | useProperty (index : Nat) (name : String)
  /-- A property must be there. -/
  | requireProperty (index : Nat) (name : String)
  | openAdapter (device : DeviceRecord)
  | queryStore (device : DeviceRecord) (room : Nat)
  /-- The queries for a driver store have come to an end. -/
  | useStore (device : DeviceRecord)
  | openKey (path : RegistryPath)
  | readKey (path : RegistryPath)
  deriving DecidableEq

namespace Step

/-- What is said of a failure of the step, outermost first. -/
def contexts : Step → List String
  | provideAdapters => ["creating adapter enumeration backend"]
  | provideDevices => ["creating PnP device backend"]
  | provideDrivers => ["creating driver query backend"]
  | createList group =>
    ["enumerating DirectX adapters", "creating adapter list for attribute " ++ group.name]
  | fetchAdapter group index =>
    ["enumerating DirectX adapters", "retrieving adapter " ++ Catalog.placeText index group]
  | readAdapter group index property =>
    ["enumerating DirectX adapters",
      "reading properties of adapter " ++ Catalog.placeText index group,
      "reading " ++ property.text]
  | queryDevices =>
    ["retrieving PnP devices for DirectX adapters",
      "querying PnP devices for the enumerated adapters"]
  | readProperty index _ | useProperty index _ | requireProperty index _ =>
    ["retrieving PnP devices for DirectX adapters",
      "reading properties of PnP device " ++ decimal index]
  | openAdapter device =>
    ["retrieving driver details for device " ++ device.id,
      "opening adapter with LUID " ++ device.adapter.luid.text]
  | queryStore device _ | useStore device =>
    ["retrieving driver details for device " ++ device.id, "querying " ++ storePathSubject]
  | openKey _ | readKey _ => []

/-- A failure of the step ends nothing. -/
def isTolerated : Step → Bool
  | openKey _ | readKey _ => true
  | _ => false

end Step

/-- A step that was taken, and how it went. -/
structure Entry where
  step : Step
  outcome : Outcome Unit

namespace Entry

/-- What the step comes to for the discovery. -/
def result (entry : Entry) : Outcome Unit :=
  if entry.step.isTolerated then entry.outcome.forgive
  else entry.outcome.within entry.step.contexts

/-- The step ends nothing. -/
def Passes (entry : Entry) : Prop :=
  entry.outcome = .value () ∨ entry.step.isTolerated = true ∧ entry.outcome ≠ .crashed

end Entry

/-- How an account ends: as the first of its steps that ends anything. -/
def replay : List Entry → Outcome Unit
  | [] => .value ()
  | entry :: rest => do
    entry.result
    replay rest

theorem replay_append (xs ys : List Entry) :
    replay (xs ++ ys) = (replay xs >>= fun _ => replay ys) := by
  induction xs with
  | nil => rfl
  | cons entry rest ih =>
    rw [List.cons_append, replay, replay, ih, bind_assoc]

namespace Outcome

variable {α β : Type}

/-- The account ends as the outcome does in these contexts. -/
def AccountedBy (outcome : Outcome α) (contexts : List String) (entries : List Entry) : Prop :=
  replay entries = (outcome.within contexts).void

variable {contexts : List String}

theorem accountedBy_value (result : α) : (value result).AccountedBy contexts [] := rfl

theorem AccountedBy.bind {first : Outcome α} {next : α → Outcome β} {xs ys : List Entry}
    (hfirst : first.AccountedBy contexts xs)
    (hnext : ∀ result, first = value result → (next result).AccountedBy contexts ys) :
    (first >>= next).AccountedBy contexts (xs ++ ys) := by
  rw [AccountedBy, replay_append, hfirst]
  rcases first with result | error | _
  · exact hnext result rfl
  · rfl
  · rfl

/-- What stops is accounted for where it stops. -/
theorem AccountedBy.of_stopsAs {outcome : Outcome α} {stopped : Outcome β} {entries : List Entry}
    (h : outcome.AccountedBy contexts entries) (hstops : outcome.StopsAs stopped) :
    stopped.AccountedBy contexts entries := by
  cases hstops with
  | failed error => exact h
  | crashed => exact h

theorem AccountedBy.context {text : String} {outcome : Outcome α} {entries : List Entry}
    (h : outcome.AccountedBy (contexts ++ [text]) entries) :
    (outcome.context text).AccountedBy contexts entries := by
  rw [AccountedBy, within_context]
  exact h

theorem AccountedBy.cons {first : Outcome α} {next : α → Outcome β} {entry : Entry}
    {entries : List Entry} (hfirst : first.AccountedBy contexts [entry])
    (hnext : ∀ result, first = value result → (next result).AccountedBy contexts entries) :
    (first >>= next).AccountedBy contexts (entry :: entries) :=
  hfirst.bind hnext

/-- What is made of a result is no step. -/
theorem AccountedBy.map {outcome : Outcome α} {entries : List Entry}
    (h : outcome.AccountedBy contexts entries) (use : α → β) :
    (outcome >>= fun result => value (use result)).AccountedBy contexts entries := by
  rw [← List.append_nil entries]
  exact h.bind fun result _ => accountedBy_value (use result)

end Outcome

/-! ## What is read of lists and bags -/

/-- The fetching of an adapter and the reading of its properties. -/
def placeEntries (group : AdapterAttribute) (index : Nat) (fetched : Outcome AdapterInfo) :
    List Entry :=
  ⟨.fetchAdapter group index, fetched.void⟩ ::
    match fetched with
    | .value info => [
        ⟨.readAdapter group index .luid, info.luid.void⟩,
        ⟨.readAdapter group index .hardwareId, info.hardwareId.void⟩,
        ⟨.readAdapter group index .isHardware, info.isHardware.void⟩,
        ⟨.readAdapter group index .isIntegrated, info.isIntegrated.void⟩,
        ⟨.readAdapter group index .isDetachable, info.isDetachable.void⟩]
    | .failed _ | .crashed => []

/-- A property that is there has to be what it should be. -/
def PropertyBag.judge {α : Type} (bag : PropertyBag) (name : String)
    (read : String → PropertyValue → Except DiscoveryError α) : Outcome Unit :=
  match bag name with
  | .value (some found) => (Outcome.ofExcept (read name found)).void
  | _ => .value ()

/-- The reading of a property. -/
def propertyEntries {α : Type} (bag : PropertyBag) (index : Nat) (name : String)
    (read : String → PropertyValue → Except DiscoveryError α) : List Entry :=
  [⟨.readProperty index name, (bag name).void⟩, ⟨.useProperty index name, bag.judge name read⟩]

/-- The device identifier has to be there. -/
def PropertyBag.judgeId (bag : PropertyBag) : Outcome Unit :=
  match bag PropertyName.deviceId with
  | .value none => .failed (.message ("device has no " ++ PropertyName.deviceId ++ " property"))
  | _ => .value ()

/-- The reading of the properties of a plug-and-play device. -/
def bagEntries (index : Nat) (bag : PropertyBag) : List Entry :=
  propertyEntries bag index PropertyName.deviceId PropertyValue.asString ++
    (⟨.requireProperty index PropertyName.deviceId, bag.judgeId⟩ ::
      (propertyEntries bag index PropertyName.driver PropertyValue.asString ++
        (propertyEntries bag index PropertyName.locationPaths PropertyValue.asStringList ++
          (propertyEntries bag index PropertyName.adapterLuid PropertyValue.asInt64 ++
            (propertyEntries bag index PropertyName.description PropertyValue.asString ++
              propertyEntries bag index PropertyName.manufacturer PropertyValue.asString)))))

end GpuDiscovery
