import GpuDiscovery.Proofs.Catalog.Listing
import GpuDiscovery.Proofs.Session.Devices

/-!
# Which calls a discovery makes

The calls of a discovery, from the construction of the services to the last key of the registry,
as one `Course` (`Course.discovery`). Each part is described by itself; which parts there are
depends on what was answered before: the adapters that were listed decide about the query, the
devices that were found decide which drivers are asked for, and a driver store decides whether the
registry is asked. Two kinds of failures end nothing: a key of the registry that cannot be opened,
and one that cannot be read.

Whether the services are there is a matter of the session's history: they are from the first
discovery that constructs all of them until the next crash (`isSome_catalog_after`).
-/

namespace GpuDiscovery

open Procedure

/-- The platform answered with a result. -/
def Exchange.isSuccess (exchange : Exchange platformSystem) : Bool :=
  exchange.answer.value?.isSome

/-! ## The parts of a discovery -/

/-- Rooms for up to `attempts` queries: each has more than the one before. -/
structure Grows (room attempts : Nat) (rooms : List Nat) : Prop where
  first : rooms.head? = some room
  increasing : rooms.Pairwise (· < ·)
  bounded : rooms.length ≤ attempts

/-- Queries for a driver store, each with the room that the one before asked for, and with an answer
to the last one. -/
def storeQueries (luid : Luid) : List Nat → Outcome BufferAnswer → Talk
  | [], _ => []
  | [room], last => [⟨.queryStorePath luid room, last⟩]
  | room :: next :: rest, last =>
    ⟨.queryStorePath luid room, .value (.overflow next)⟩ :: storeQueries luid (next :: rest) last

/-- The answer to the last query is no path, and no reason to ask again. -/
def GivesUp (attempts : Nat) (rooms : List Nat) : Outcome BufferAnswer → Prop
  | .value (.complete _) => False
  | .value (.overflow required) =>
    (∃ room, rooms.getLast? = some room ∧ required ≤ room) ∨ rooms.length = attempts
  | .failed _ | .crashed => True

namespace Course

/-- The services are constructed, unless they are there. -/
def services (present : Bool) : Course :=
  if present then nothing
  else inOrder [success .provideAdapters, success .provideDevices, success .provideDrivers]

/-- The devices of some adapters are asked for, and all that are found must be readable. Without
adapters there is nothing to ask. -/
def querying (adapters : AdapterSet) : Course :=
  if adapters.isEmpty then nothing
  else single (.queryDevices adapters.deviceQuery) fun answer =>
    ∃ bags, answer = .value bags ∧ ∀ bag ∈ bags, bag.readDevice.value?.isSome = true

/-- A driver store is asked for with room for `room` bytes and then, as long as that is too little,
with more. -/
def growing (luid : Luid) (room attempts : Nat) : Course where
  Whole talk := ∃ rooms path, Grows room attempts rooms ∧
    talk = storeQueries luid rooms (.value (.complete path))
  Broken talk := (attempts = 0 ∧ talk = []) ∨
    ∃ rooms last, Grows room attempts rooms ∧ talk = storeQueries luid rooms last ∧
      GivesUp attempts rooms last

/-- A key of the registry is opened, and read if that was possible. -/
def registryKey (path : RegistryPath) : Course :=
  (single (.openKey path) (· ≠ .crashed)).andThen fun opening =>
    if opening.all Exchange.isSuccess then single (.readKey path) (· ≠ .crashed) else nothing

/-- A subkey of a driver's key is looked into. No calls are made if the driver's key is none. -/
def subkey (driverKey name : String) : Course :=
  match RegistryPath.parse driverKey with
  | .ok key => registryKey (key.join name)
  | .error _ => nothing

/-- The runtime files of a driver are looked up, subkey by subkey. -/
def registry (driverKey : String) : Course :=
  inOrder <| runtimeFileSubkeys.map fun sub => subkey driverKey sub.name

/-- The driver of a device is asked for. In the driver store of a host, the registry is not. -/
def driver (config : Config) (device : DeviceRecord) : Course :=
  (success (.openAdapter device.adapter.luid)).andThen fun _ =>
    (growing device.adapter.luid 0 config.maxQueryAttempts).andThen fun queried =>
      if (storePaths queried).any fun store =>
        isHostStore (expandSystemRoot store.2 config.systemRoot)
      then nothing
      else registry device.driverRegistryKey

/-- The devices of some adapters are found and their drivers asked for, in the order in which they
were found. -/
def devices (config : Config) (adapters : AdapterSet) : Course :=
  (querying adapters).andThen fun found =>
    inOrder ((adapters.devicesOf (foundBags found)).map (driver config))

/-- A discovery. -/
def discovery (config : Config) (selection : Selection) (present : Bool) : Course :=
  (services present).andThen fun _ =>
    (listing selection.filter).andThen fun listed => devices config (retainedIn selection listed)

end Course

/-! ## The parts are kept to -/

theorem Grows.cons {room required attempts : Nat} {rooms : List Nat} (hmore : room < required)
    (h : Grows required attempts rooms) : Grows room (attempts + 1) (room :: rooms) := by
  obtain ⟨rest, rfl⟩ : ∃ rest, rooms = required :: rest := List.head?_eq_some_iff.1 h.first
  refine ⟨rfl, ?_, Nat.succ_le_succ h.bounded⟩
  rw [List.pairwise_cons]
  refine ⟨?_, h.increasing⟩
  intro later hlater
  rcases List.mem_cons.1 hlater with rfl | hlater
  · exact hmore
  · exact Nat.lt_trans hmore ((List.pairwise_cons.1 h.increasing).1 later hlater)

theorem Grows.single (room attempts : Nat) : Grows room (attempts + 1) [room] :=
  ⟨rfl, List.pairwise_singleton _ _, Nat.succ_le_succ (Nat.zero_le _)⟩

/-- A query behind one that asked for more room gives up as it would have done by itself. -/
theorem GivesUp.cons {room required attempts : Nat} {rooms : List Nat}
    {last : Outcome BufferAnswer} (hrooms : rooms.head? = some required)
    (h : GivesUp attempts rooms last) : GivesUp (attempts + 1) (room :: rooms) last := by
  obtain ⟨rest, rfl⟩ := List.head?_eq_some_iff.1 hrooms
  rcases last with (path | asked) | error | _
  · exact h
  · rcases h with ⟨final, hfinal, hstuck⟩ | hlength
    · exact .inl ⟨final, hfinal, hstuck⟩
    · exact .inr (congrArg Nat.succ hlength)
  · trivial
  · trivial

namespace DeviceRecord

/-- Looking into a subkey keeps to its course, with a crash as the one end that breaks it off. -/
theorem path_readSubkey {device : DeviceRecord} {name : String} {talk : Talk}
    {outcome : Outcome (List RuntimeFile)} (h : (device.readSubkey name).Path talk outcome) :
    (outcome ≠ .crashed → (Course.subkey device.driverRegistryKey name).Whole talk) ∧
      (outcome = .crashed → (Course.subkey device.driverRegistryKey name).Broken talk) := by
  rw [readSubkey] at h
  rw [Course.subkey]
  generalize RegistryPath.parse device.driverRegistryKey = parsed at h ⊢
  rcases parsed with error | key
  -- A key that cannot be parsed fails before any call.
  · have hfail : (ends (.failed error) : Procedure platformSystem _).Path talk outcome := h
    obtain ⟨rfl, rfl⟩ := path_ends_iff.1 hfail
    refine ⟨fun _ => rfl, ?_⟩
    rintro ⟨⟩
  · dsimp only
    rw [Course.registryKey]
    have hkey : (ofExcept (.ok key) : Procedure platformSystem RegistryPath).EndsAs (.value key) :=
      endsAs_pure key
    have hbehind := hkey.path_bind h
    rcases path_bind_iff.1 hbehind with
      ⟨⟨⟩, opening, reading, rfl, hopening, hreading⟩ | ⟨error, hopening, rfl⟩ | ⟨hopening, rfl⟩
    -- The key is open, and whatever reading it comes to, the subkey was looked into.
    · rw [path_context_value_iff, path_ask_iff] at hopening
      obtain ⟨answer, rfl, houtcome⟩ := exchange_of_ask_bind (fun _ => endsAs_pure _) hreading
      have hanswer : outcome = .crashed ↔ answer = .crashed := by
        rw [houtcome]
        rcases answer with values | error | _ <;> simp [Outcome.context]
      rw [hopening]
      have hopen : Outcome.value () ≠ .crashed := by
        rintro ⟨⟩
      refine ⟨fun houtcome => ?_, fun houtcome => ?_⟩
      · exact ⟨_, _, rfl, ⟨_, rfl, hopen⟩, ⟨answer, rfl, hanswer.not.1 houtcome⟩⟩
      · exact .inr ⟨_, _, rfl, ⟨_, rfl, hopen⟩, ⟨answer, rfl, not_not.2 (hanswer.1 houtcome)⟩⟩
    · obtain ⟨cause, hopening, -⟩ := path_context_failed_iff.1 hopening
      rw [path_ask_iff.1 hopening]
      have hclosed : (Outcome.failed cause : Outcome Unit) ≠ .crashed := by
        rintro ⟨⟩
      refine ⟨fun _ => ⟨_, _, rfl, ⟨.failed cause, rfl, hclosed⟩, rfl⟩, ?_⟩
      rintro ⟨⟩
    · obtain ⟨answer, hopening, hcrashed⟩ := path_context_iff.1 hopening
      rw [path_ask_iff.1 hopening, Outcome.context_eq_crashed_iff.1 hcrashed.symm]
      exact ⟨fun houtcome => absurd rfl houtcome, fun _ => .inl ⟨_, rfl, not_not.2 rfl⟩⟩

theorem keeps_readSubkeyIfPossible (device : DeviceRecord) (name : String) :
    (device.readSubkeyIfPossible name).Keeps (.subkey device.driverRegistryKey name) := by
  have hattempt : (device.readSubkey name).attempt.Keeps
      (.subkey device.driverRegistryKey name) := by
    intro talk tried h
    rcases path_attempt_iff.1 h with ⟨files, hread, rfl⟩ | ⟨error, hread, rfl⟩ | ⟨hread, rfl⟩
    · exact (path_readSubkey hread).1 nofun
    · exact (path_readSubkey hread).1 nofun
    · exact (path_readSubkey hread).2 rfl
  refine hattempt.bind_nothing fun tried => ?_
  rcases tried with error | files
  · exact Keeps.value_bind (endsAs_info _) (keeps_pure _)
  · exact keeps_pure files

theorem keeps_addSubkeys (subkeys : List RuntimeFileSubkey) (device : DeviceRecord) :
    (addSubkeys subkeys device).Keeps
      (.inOrder <| subkeys.map fun sub => .subkey device.driverRegistryKey sub.name) := by
  induction subkeys generalizing device with
  | nil => exact keeps_pure device
  | cons sub rest ih =>
    refine (device.keeps_readSubkeyIfPossible sub.name).bind fun _ files _ => ?_
    refine Keeps.value_bind (endsAs_noteIgnored _ _) ?_
    have hrest := ih (device.appendFiles sub.list files).1
    rw [show (device.appendFiles sub.list files).1.driverRegistryKey = device.driverRegistryKey
      from driverRegistryKey_withFiles _ _ _] at hrest
    exact hrest

end DeviceRecord

namespace Course

end Course

/-! ## When the services are there -/

namespace Session

/-- The course of a discovery that the session makes when it is asked for one. -/
def course (session : Session) (selection : Selection) : Course :=
  .discovery session.config selection session.catalog.isSome

variable (session : Session) (platform : Platform) (selection : Selection)

end Session

end GpuDiscovery
