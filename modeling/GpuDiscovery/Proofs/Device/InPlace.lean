import GpuDiscovery.Proofs.Device.Resolution

/-!
# Resolving in place

A resolution yields a new device. A caller sees something else: it lends its device out, the fields
are written one by one while the platform is asked, and whatever was written when a step fails stays
written. `resolveInPlace` says it in this way, with the device as a state that every step reads and
writes, and failing keeps the state. Both are the same (`resolveInPlace_on`): all that can fail
comes before the first field is written, and behind it nothing fails any more.
-/

namespace GpuDiscovery

open Procedure

/-- A computation that works on a device in place. -/
abbrev InPlace (α : Type) : Type :=
  ExceptT DiscoveryError (StateT DeviceRecord (Procedure platformSystem)) α

/-- Does something that leaves the device alone. -/
def inPlace {α : Type} (body : Procedure platformSystem α) : InPlace α :=
  ExceptT.mk (StateT.lift body.attempt)

/-- What the computation does to a device: how it went, and the device as it was left. -/
abbrev InPlace.on {α : Type} (body : InPlace α) (device : DeviceRecord) :
    Procedure platformSystem (Except DiscoveryError α × DeviceRecord) :=
  body.run.run device

namespace InPlace

variable {α β : Type} (device : DeviceRecord)

theorem on_get_bind (next : DeviceRecord → InPlace β) :
    (get >>= next).on device = (next device).on device := rfl

theorem on_set_bind (written : DeviceRecord) (next : PUnit → InPlace β) :
    (set written >>= next).on device = (next ⟨⟩).on written := rfl

theorem on_modify_bind (write : DeviceRecord → DeviceRecord) (next : PUnit → InPlace β) :
    (modify write >>= next).on device = (next ⟨⟩).on (write device) := rfl

/-- Where a step fails the device is left as it is. -/
theorem on_inPlace_bind (body : Procedure platformSystem α) (next : α → InPlace β) :
    (inPlace body >>= next).on device = body.attempt >>= fun
      | .ok result => (next result).on device
      | .error error => Pure.pure (.error error, device) := by
  refine (bind_assoc body.attempt _ _).trans (bind_congr fun tried => ?_)
  rcases tried with error | result
  · rfl
  · rfl

/-- What cannot fail is simply done. -/
theorem on_inPlace_bind_of_failsOnly {body : Procedure platformSystem α}
    (h : body.FailsOnly fun _ => False) (next : α → InPlace β) :
    (inPlace body >>= next).on device = body >>= fun result => (next result).on device := by
  rw [on_inPlace_bind, h.attempt_eq, bind_assoc]
  rfl

end InPlace

/-- A run that yields a device, as it looks to whoever lent a device out for it: with a value the
lent device has become that, and with an error it is the one that was lent. A crash leaves nothing
to look at. -/
def Run.lent (device : DeviceRecord) : Run PlatformCall DeviceRecord →
    Run PlatformCall (Except DiscoveryError Unit × DeviceRecord)
  | ⟨.value resolved, events⟩ => ⟨.value (.ok (), resolved), events⟩
  | ⟨.failed error, events⟩ => ⟨.value (.error error, device), events⟩
  | ⟨.crashed, events⟩ => ⟨.crashed, events⟩

@[simp] theorem Run.events_lent (device : DeviceRecord) (run : Run PlatformCall DeviceRecord) :
    (run.lent device).events = run.events := by
  rcases run with ⟨_ | _ | _, events⟩
  · rfl
  · rfl
  · rfl

theorem Run.calls_lent (device : DeviceRecord) (run : Run PlatformCall DeviceRecord) :
    (run.lent device).calls = run.calls := by
  rw [calls, events_lent, calls]

/-- Lending a device out succeeds exactly where there is a device to become. -/
theorem Run.outcome_lent_eq_ok_iff {device resolved : DeviceRecord}
    {run : Run PlatformCall DeviceRecord} :
    (run.lent device).outcome = .value (.ok (), resolved) ↔ run.outcome = .value resolved := by
  rcases run with ⟨_ | _ | _, events⟩
  · simp [lent]
  · simp [lent]
  · simp [lent]

namespace DeviceRecord

/-- Adds the runtime files of some subkeys to the device. -/
def addSubkeysInPlace : List RuntimeFileSubkey → InPlace Unit
  | [] => return ()
  | subkey :: rest => do
    let device ← get
    let files ← inPlace (device.readSubkeyIfPossible subkey.name)
    let (device, ignored) := device.appendFiles subkey.list files
    set device
    inPlace (noteIgnored subkey.name ignored)
    addSubkeysInPlace rest

/-- Adds what the driver tells to the device. -/
def resolveInPlace (config : Config) : InPlace Unit := do
  let device ← get
  inPlace (info ("querying driver details for device " ++ device.id))
  let path ← inPlace (device.findDriverStore config)
  modify fun device => { device with driverStorePath := path }
  -- In a container the files are already in place.
  if isHostStore path then
    inPlace (info "running inside a container, skipping runtime file enumeration")
    return
  addSubkeysInPlace runtimeFileSubkeys

/-! ## Steps that cannot fail -/

theorem failsOnly_readSubkeyIfPossible (device : DeviceRecord) (name : String)
    (kind : DiscoveryError → Prop) : (device.readSubkeyIfPossible name).FailsOnly kind := by
  refine (FailsOnly.attempt _).bind fun tried => ?_
  rcases tried with error | files
  · exact (FailsOnly.info _).bind fun _ => FailsOnly.pure _
  · exact FailsOnly.pure _

theorem failsOnly_noteIgnored (name : String) (files : List RuntimeFile)
    (kind : DiscoveryError → Prop) : (noteIgnored name files).FailsOnly kind := by
  induction files with
  | nil => exact FailsOnly.pure ()
  | cons file rest ih => exact (FailsOnly.info _).bind fun _ => ih

theorem failsOnly_addSubkeys (subkeys : List RuntimeFileSubkey) (device : DeviceRecord)
    (kind : DiscoveryError → Prop) : (addSubkeys subkeys device).FailsOnly kind := by
  induction subkeys generalizing device with
  | nil => exact FailsOnly.pure _
  | cons subkey rest ih =>
    refine (failsOnly_readSubkeyIfPossible device subkey.name kind).bind fun files => ?_
    exact (failsOnly_noteIgnored _ _ _).bind fun _ => ih _

theorem failsOnly_resolveAt (device : DeviceRecord) (path : String)
    (kind : DiscoveryError → Prop) : (device.resolveAt path).FailsOnly kind := by
  rw [resolveAt]
  split
  · exact (FailsOnly.info _).bind fun _ => FailsOnly.pure _
  · exact failsOnly_addSubkeys _ _ _

/-! ## Both are the same -/

theorem addSubkeysInPlace_on (subkeys : List RuntimeFileSubkey) (device : DeviceRecord) :
    (addSubkeysInPlace subkeys).on device =
      addSubkeys subkeys device >>= fun resolved => pure (.ok (), resolved) := by
  induction subkeys generalizing device with
  | nil => rfl
  | cons subkey rest ih =>
    rw [addSubkeysInPlace, InPlace.on_get_bind,
      InPlace.on_inPlace_bind_of_failsOnly _ (failsOnly_readSubkeyIfPossible _ _ _), addSubkeys,
      bind_assoc]
    refine bind_congr fun files => ?_
    dsimp only
    rw [InPlace.on_set_bind, InPlace.on_inPlace_bind_of_failsOnly _ (failsOnly_noteIgnored _ _ _),
      bind_assoc]
    exact bind_congr fun _ => ih _

/-- **Resolving in place is resolving.** A resolution that has a device leaves the caller with it,
and one that fails leaves the caller's device as it was. -/
theorem resolveInPlace_on (config : Config) (device : DeviceRecord) :
    (resolveInPlace config).on device = (device.resolve config).attempt >>= fun tried =>
      pure (tried.map fun _ => (), tried.toOption.getD device) := by
  rw [resolveInPlace, InPlace.on_get_bind, InPlace.on_inPlace_bind_of_failsOnly _
    (FailsOnly.info _), resolve_eq, attempt_bind, (FailsOnly.info _).attempt_eq, bind_assoc,
    bind_assoc]
  refine bind_congr fun _ => ?_
  rw [InPlace.on_inPlace_bind, pure_bind]
  dsimp only
  rw [attempt_bind, bind_assoc]
  refine bind_congr fun tried => ?_
  rcases tried with error | path
  · rfl
  -- From here on the device is written to, and nothing fails.
  · dsimp only
    rw [InPlace.on_modify_bind, (failsOnly_resolveAt device path _).attempt_eq, bind_assoc,
      resolveAt]
    by_cases hhost : isHostStore path = true
    · rw [if_pos hhost, if_pos hhost, InPlace.on_inPlace_bind_of_failsOnly _ (FailsOnly.info _),
        bind_assoc]
      rfl
    · rw [if_neg hhost, if_neg hhost, addSubkeysInPlace_on]
      rfl

/-- What happens is the same in place. -/
theorem runAfter_resolveInPlace (config : Config) (device : DeviceRecord)
    (respond : platformSystem.Responder) (past : List PlatformCall) :
    ((resolveInPlace config).on device).runAfter respond past =
      ((device.resolve config).runAfter respond past).lent device := by
  rw [resolveInPlace_on, runAfter_bind, runAfter_attempt]
  rcases (device.resolve config).runAfter respond past with ⟨resolved | error | _, events⟩
  · exact congrArg (Run.mk _) (List.append_nil _)
  · exact congrArg (Run.mk _) (List.append_nil _)
  · rfl

end DeviceRecord

end GpuDiscovery
