import GpuDiscovery.Proofs.Platform.Stage
import GpuDiscovery.Proofs.Procedure.Handle
import GpuDiscovery.Windows.DeviceSet
import GpuDiscovery.Windows.KernelAdapter
import GpuDiscovery.Windows.RegistryKey

/-!
# The handles of the system

Three things of the system are opened for a while: a set of devices, a registry key, and an adapter
in the kernel. Each of them is a handle, and whoever opens one keeps it (`handles_kept`). What is
left to be shown of each use is that it stays away from the two calls that open and close.
-/

namespace GpuDiscovery.Windows

open Procedure

/-! ## Checks make no calls -/

section Checks

variable {S : System} {α : Type} {allowed : S.Call → Prop}

theorem callsOnly_check (operation : String) (result : Except UInt32 α) :
    (check operation result : Procedure S α).CallsOnly allowed := by
  rcases result with code | value
  · trivial
  · trivial

theorem callsOnly_checkStatus (operation : String) (status : UInt32) :
    (checkStatus operation status : Procedure S Unit).CallsOnly allowed := by
  rw [checkStatus]
  split
  · trivial
  · trivial

theorem callsOnly_checkKernel (operation : String) (status : Int32) :
    (checkKernel operation status : Procedure S Unit).CallsOnly allowed := by
  rw [checkKernel]
  split
  · trivial
  · trivial

end Checks

/-! ## Sets of devices -/

namespace DeviceSet

/-- The set of the devices that a query is made for. -/
def handle (query : DeviceQuery) : Handle deviceSetSystem where
  opening := .openSet pciEnumerator (openFlags query.presentOnly)
  refusal
    | .ok () => none
    | .error code => some (.win32 "SetupDiGetClassDevsW" code)
  closing := .destroySet
  complaint
    | .ok () => none
    | .error code => some (releaseFailure "SetupDiDestroyDeviceInfoList" code)
  uses
    | .openSet _ _ | .destroySet => False
    | _ => True
  not_uses_opening := id
  not_uses_closing := id
  opening_ne_closing := nofun

/-- To find devices is to read them from a set that is opened for it. -/
theorem queryDevices_eq (query : DeviceQuery) :
    queryDevices query = (handle query).during (readDevices query indexCount 0) := by
  have hcheck : ∀ answer : Except UInt32 Unit,
      (check "SetupDiGetClassDevsW" answer : Procedure deviceSetSystem Unit) =
        ((handle query).refusal answer).elim (pure ()) fail := by
    rintro (code | ⟨⟩)
    · rfl
    · rfl
  have hnote : ∀ answer : Except UInt32 Unit,
      (noteRelease "SetupDiDestroyDeviceInfoList" answer : Procedure deviceSetSystem Unit) =
        ((handle query).complaint answer).elim (pure ()) error := by
    rintro (code | ⟨⟩)
    · rfl
    · rfl
  rw [queryDevices, Handle.during, Handle.acquire, Handle.release, bind_assoc]
  simp only [hcheck, destroy, hnote]
  rfl

variable {allowed : DeviceSetCall → Prop}

theorem callsOnly_acceptSize (operation : String) (error : Option UInt32) :
    (acceptSize operation error).CallsOnly allowed := by
  rcases error with _ | code
  · trivial
  · rw [acceptSize]
    split
    · trivial
    · trivial

theorem callsOnly_readInstanceId {index : Nat} (hsize : allowed (.idSize index))
    (hread : ∀ capacity, allowed (.readId index capacity)) :
    (readInstanceId index).CallsOnly allowed := by
  refine (callsOnly_perform hsize).bind fun reported => ?_
  refine (callsOnly_acceptSize _ _).bind fun _ => ?_
  refine (callsOnly_perform (hread _)).bind fun answer => ?_
  refine (callsOnly_check _ _).bind fun units => ?_
  split
  · trivial
  · trivial

theorem callsOnly_readProperty {index : Nat} {key : PropertyKey}
    (hsize : allowed (.propertySize index key))
    (hread : ∀ capacity, allowed (.readProperty index key capacity)) :
    (readProperty index key).CallsOnly allowed := by
  refine (callsOnly_perform hsize).bind fun reported => ?_
  split
  · trivial
  · refine (callsOnly_acceptSize _ _).bind fun _ => ?_
    refine CallsOnly.bind ?_ fun value => trivial
    refine (callsOnly_perform (hread _)).bind fun answer => ?_
    exact (callsOnly_check _ _).bind fun property => trivial

theorem callsOnly_readProperties {index : Nat} {keys : List (String × PropertyKey)}
    (hsize : ∀ key, allowed (.propertySize index key))
    (hread : ∀ key capacity, allowed (.readProperty index key capacity))
    (properties : PropertyMap) : (readProperties index keys properties).CallsOnly allowed := by
  induction keys generalizing properties with
  | nil => trivial
  | cons entry rest ih =>
    refine (callsOnly_readProperty (hsize _) (hread _)).bind fun value? => ?_
    rcases value? with _ | value
    · exact ih _
    · exact ih _

theorem callsOnly_readDevices (query : DeviceQuery) (indicesLeft index : Nat) :
    (readDevices query indicesLeft index).CallsOnly (handle query).uses := by
  induction indicesLeft generalizing index with
  | zero => trivial
  | succ indicesLeft ih =>
    refine (callsOnly_perform trivial).bind fun taken => ?_
    rcases taken with code | ⟨⟩
    · dsimp only
      split
      · trivial
      · trivial
    · refine CallsOnly.bind (callsOnly_readInstanceId trivial fun _ => trivial)
        fun id => ?_
      split
      · refine CallsOnly.bind (CallsOnly.context ?_ _) fun device => ?_
        · exact callsOnly_readProperties (fun _ => trivial) (fun _ _ => trivial) _
        · exact (ih _).bind fun others => trivial
      · exact ih _

end DeviceSet

/-! ## Registry keys -/

namespace RegistryKey

/-- The key at a path. -/
def handle (path : RegistryPath) : Handle registrySystem where
  opening := .openKey (predefinedKey path.root) (Text.Utf16.encode path.subkey ++ [0])
  refusal status := if status = 0 then none else some (.win32 "RegOpenKeyExW" status)
  closing := .closeKey
  complaint status := if status = 0 then none else some (releaseFailure "RegCloseKey" status)
  uses
    | .openKey _ _ | .closeKey => False
    | _ => True
  not_uses_opening := id
  not_uses_closing := id
  opening_ne_closing := nofun

/-- To read the key at a path is to open it for its values. -/
theorem readPath_eq (path : RegistryPath) :
    readPath path = (handle path).during multiStringValues := by
  have hopen : openPath path = (handle path).acquire := by
    simp only [openPath, checkStatus, Handle.acquire, handle, Handle.elim_ite]
    rfl
  have hclose : close = (handle path).release := by
    simp only [close, noteStatus, Handle.release, handle, Handle.elim_ite]
    rfl
  rw [readPath, Handle.during, hopen, hclose]

/-- All values are read with the same lengths, because the buffers stay as long as they are. -/
theorem callsOnly_readValues {allowed : RegistryCall → Prop} {buffers : Buffers}
    (henum : ∀ index, allowed (.enumValue index buffers.announcedName buffers.announcedData))
    (valuesLeft index : Nat) (values : RegistryValues) :
    (readValues buffers valuesLeft index values).CallsOnly allowed := by
  induction valuesLeft generalizing buffers index values with
  | zero => trivial
  | succ valuesLeft ih =>
    refine CallsOnly.bind (callsOnly_perform (henum index)) fun answer => ?_
    dsimp only
    split
    · trivial
    · refine (callsOnly_checkStatus _ _).bind fun _ => ?_
      refine CallsOnly.bind trivial fun entry => ?_
      exact @ih (buffers.receive answer.2) henum _ _

theorem callsOnly_multiStringValues (path : RegistryPath) :
    multiStringValues.CallsOnly (handle path).uses := by
  refine (callsOnly_perform trivial).bind fun answer => ?_
  refine (callsOnly_checkStatus _ _).bind fun _ => ?_
  exact callsOnly_readValues (fun _ => trivial) _ _ _

end RegistryKey

/-! ## Adapters -/

namespace KernelAdapter

/-- The adapter with an identifier. -/
def handle (luid : Luid) : Handle kernelSystem where
  opening := .openAdapter (luidLow luid) (luidHigh luid)
  refusal status := if status = 0 then none else some (.ntStatus "D3DKMTOpenAdapterFromLuid" status)
  closing := .closeAdapter
  complaint status :=
    if status = 0 then none
    else some ("D3DKMTCloseAdapter" ++ " failed with NTSTATUS 0x" ++
      Text.upperHex 1 status.toUInt32.toNat)
  uses
    | .openAdapter _ _ | .closeAdapter => False
    | .query _ _ _ _ => True
  not_uses_opening := id
  not_uses_closing := id
  opening_ne_closing := nofun

/-- To find a driver store is to open the adapter for queries. -/
theorem findStorePath_eq (luid : Luid) (maxAttempts : Nat) :
    findStorePath luid maxAttempts = (handle luid).during (queryGrowing queryPath maxAttempts) := by
  have hopen : openLuid luid = (handle luid).acquire := by
    simp only [openLuid, checkKernel, Handle.acquire, handle, Handle.elim_ite]
    rfl
  have hclose : close = (handle luid).release := by
    simp only [close, noteKernelRelease, Handle.release, handle, Handle.elim_ite]
    rfl
  rw [findStorePath, Handle.during, hopen, hclose]

theorem callsOnly_queryPath (luid : Luid) (capacity : Nat) :
    (queryPath capacity).CallsOnly (handle luid).uses := by
  refine (callsOnly_perform trivial).bind fun answer => ?_
  exact (callsOnly_checkKernel _ _).bind fun _ => trivial

end KernelAdapter

/-- **Handles are kept.** However the system answers, the set of devices, the key and the adapter
are closed once if they were opened, behind the last call that uses them, and nothing is closed that
was not opened; a failing closing is noted and changes no result. -/
theorem handles_kept :
    (∀ query, (DeviceSet.handle query).KeptBy (DeviceSet.queryDevices query)) ∧
      (∀ path, (RegistryKey.handle path).KeptBy (RegistryKey.readPath path)) ∧
      ∀ luid maxAttempts,
        (KernelAdapter.handle luid).KeptBy (KernelAdapter.findStorePath luid maxAttempts) := by
  refine ⟨?_, ?_, ?_⟩
  · intro query
    rw [DeviceSet.queryDevices_eq]
    exact Handle.keptBy_during _ (DeviceSet.callsOnly_readDevices query _ _)
  · intro path
    rw [RegistryKey.readPath_eq]
    exact Handle.keptBy_during _ (RegistryKey.callsOnly_multiStringValues path)
  · intro luid maxAttempts
    rw [KernelAdapter.findStorePath_eq]
    exact Handle.keptBy_during _
      (callsOnly_growFrom (KernelAdapter.callsOnly_queryPath luid) _ _ _)

end GpuDiscovery.Windows
