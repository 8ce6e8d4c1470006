import GpuDiscovery.Proofs.Device.RuntimeFiles
import GpuDiscovery.Proofs.Procedure.Agreement
import GpuDiscovery.Proofs.Windows.RegistryValues

/-!
# The order in which a key lists its values

A system may list the values of a key in any order, and in another one the next time. What is read
of a key does not depend on it, as long as no two names are read as the same text
(`Holds.outcome_eq_of_perm`): the map that is handed on is sorted, and what a longer value leaves
behind in the buffers does no harm to a shorter one that comes after it. If a value is not a list of
strings, the reading fails in every order. The error names the first such value, and which one this
is does depend on the order.

So two platforms that list the values of their keys in different orders may differ in these errors
and in nothing else (`DifferInReadErrors`). A resolution makes a note of such an error and goes on
without the subkey, and therefore it finds the same runtime files in the same order with both.
-/

namespace GpuDiscovery

open Procedure

/-! ## Platforms that give different reasons -/

/-- Two platforms answer alike, except that they may give different reasons why the values of a key
cannot be read. -/
structure DifferInReadErrors (respond again : platformSystem.Responder) : Prop where
  same (past : List PlatformCall) (call : PlatformCall) (h : ∀ path, call ≠ .readKey path) :
    respond past call = again past call
  alike (past : List PlatformCall) (path : RegistryPath) :
    (respond past (.readKey path)).Alike (fun _ _ => True) (again past (.readKey path))

namespace DifferInReadErrors

variable {respond again : platformSystem.Responder}

/-- What reads no values is the same with both. -/
theorem agreesOn {α : Type} {related : DiscoveryError → DiscoveryError → Prop}
    {body : Procedure platformSystem α} (h : DifferInReadErrors respond again)
    (hrelated : ∀ error, related error error)
    (hbody : body.CallsOnly fun call : PlatformCall => ∀ path, call ≠ .readKey path) :
    body.AgreesOn related respond again :=
  .of_callsOnly hrelated hbody h.same

theorem agreesOn_readKey (h : DifferInReadErrors respond again) (path : RegistryPath) :
    (ask (.readKey path)).AgreesOn (fun _ _ => True) respond again := by
  intro past
  rw [runAfter_ask, runAfter_ask]
  exact ⟨h.alike past path, rfl⟩

variable (h : DifferInReadErrors respond again)

include h

/-- Reading a subkey may fail for different reasons. -/
theorem agreesOn_readSubkey (device : DeviceRecord) (name : String) :
    (device.readSubkey name).AgreesOn (fun _ _ => True) respond again := by
  rw [DeviceRecord.readSubkey]
  -- Parsing the path and opening the key come to the same, and only then the values are read.
  refine .bind (h.agreesOn (fun _ => trivial) trivial) fun key => ?_
  refine .bind (h.agreesOn (fun _ => trivial) (.context ?_ _)) fun _ => ?_
  · exact ⟨nofun, fun _ => trivial⟩
  refine .bind (.context (fun _ _ _ _ => trivial) (h.agreesOn_readKey _) _) fun values => ?_
  exact h.agreesOn (fun _ => trivial) trivial

/-- The reasons end up in a note. -/
theorem agreesOn_readSubkeyIfPossible (device : DeviceRecord) (name : String) :
    (device.readSubkeyIfPossible name).AgreesOn Eq respond again := by
  rw [DeviceRecord.readSubkeyIfPossible]
  refine .attempt_bind (h.agreesOn_readSubkey device name) (fun files => ?_) ?_
  · exact h.agreesOn (fun _ => rfl) trivial
  -- There are no files then, whatever the error, and a note is no call.
  · intro past error other
    exact ⟨.value [], rfl⟩

theorem agreesOn_addSubkeys (subkeys : List RuntimeFileSubkey) (device : DeviceRecord) :
    (DeviceRecord.addSubkeys subkeys device).AgreesOn Eq respond again := by
  induction subkeys generalizing device with
  | nil => exact h.agreesOn (fun _ => rfl) trivial
  | cons subkey rest ih =>
    refine .bind (h.agreesOn_readSubkeyIfPossible device subkey.name) fun files => ?_
    exact .bind (h.agreesOn (fun _ => rfl) (DeviceRecord.callsOnly_noteIgnored _ _)) fun _ => ih _

/-- A resolution comes to the same with both, with the same calls. -/
theorem agreesOn_resolve (config : Config) (device : DeviceRecord) :
    (device.resolve config).AgreesOn Eq respond again := by
  rw [DeviceRecord.resolve_eq]
  refine .bind (h.agreesOn (fun _ => rfl) trivial) fun _ => ?_
  refine .bind (h.agreesOn (fun _ => rfl) ?_) fun path => ?_
  · apply (DeviceRecord.staysIn_findDriverStore config device).mono
    intro call hstage path hread
    rw [hread] at hstage
    cases hstage
  · rw [DeviceRecord.resolveAt]
    by_cases hhost : isHostStore path = true
    · rw [if_pos hhost]
      exact h.agreesOn (fun _ => rfl) trivial
    · rw [if_neg hhost]
      exact h.agreesOn_addSubkeys runtimeFileSubkeys _

end DifferInReadErrors

namespace Windows

open Text RegistryKey

/-! ## One key -/

section

variable {one other : registrySystem.Responder} {values others : List KeyValue}

/-- Lists of strings come to the same map, or are not read for the same reason. -/
theorem Holds.outcome_eq_of_perm (hone : Holds one values) (hother : Holds other others)
    (hperm : values.Perm others) (htypes : ∀ value ∈ values, value.type = multiStringType)
    (htexts : (values.map KeyValue.text).Nodup) (past later : List RegistryCall) :
    (multiStringValues.runAfter one past).outcome =
      (multiStringValues.runAfter other later).outcome := by
  have hotherTypes : ∀ value ∈ others, value.type = multiStringType :=
    fun value hmem => htypes value (hperm.mem_iff.2 hmem)
  have htoldIff : (∀ value ∈ values, value.CanBeTold) ↔ ∀ value ∈ others, value.CanBeTold :=
    forall_congr' fun value => imp_congr_left hperm.mem_iff
  by_cases htold : ∀ value ∈ values, value.CanBeTold
  · have hmaps : SortedMap.ofList (values.map KeyValue.entry) =
        SortedMap.ofList (others.map KeyValue.entry) := by
      apply SortedMap.ofList_eq_of_perm (hperm.map KeyValue.entry)
      rw [map_fst_entry]
      exact htexts
    rw [(hone.outcome_multiStringValues_eq_value_iff htypes past).2 ⟨htold, rfl⟩, hmaps]
    exact ((hother.outcome_multiStringValues_eq_value_iff hotherTypes later).2
      ⟨htoldIff.1 htold, rfl⟩).symm
  · have huntold : ¬∀ value ∈ others, value.CanBeTold := mt htoldIff.2 htold
    rw [hone.outcome_of_untold htypes htold past]
    exact (hother.outcome_of_untold hotherTypes huntold later).symm

/-- A value that is no list of strings makes the reading fail, wherever it stands. -/
theorem Holds.exists_failed_of_type (h : Holds one values)
    (htype : ∃ value ∈ values, value.type ≠ multiStringType) (past : List RegistryCall) :
    ∃ error, (multiStringValues.runAfter one past).outcome = .failed error := by
  obtain ⟨value, hmem, hvalue⟩ := htype
  apply h.exists_failed past
  intro map hmap
  obtain ⟨⟨-, htypes⟩, -⟩ := (h.outcome_eq_value_iff past).1 hmap
  exact hvalue (htypes value hmem)

/-- Both systems hold the same values, in any two orders, and if these are lists of strings, no two
of their names are read as the same text. -/
def HoldSame (one other : registrySystem.Responder) : Prop :=
  ∃ values others, Holds one values ∧ Holds other others ∧ values.Perm others ∧
    ((∀ value ∈ values, value.type = multiStringType) → (values.map KeyValue.text).Nodup)

theorem HoldSame.alike (h : HoldSame one other) (past later : List RegistryCall) :
    (multiStringValues.runAfter one past).outcome.Alike (fun _ _ => True)
      (multiStringValues.runAfter other later).outcome := by
  obtain ⟨values, others, hone, hother, hperm, htexts⟩ := h
  by_cases htypes : ∀ value ∈ values, value.type = multiStringType
  · rw [hone.outcome_eq_of_perm hother hperm htypes (htexts htypes) past later]
    exact .refl (fun _ => trivial) _
  -- The errors tell of the first wrong value, which need not be the same.
  · push Not at htypes
    obtain ⟨error, herror⟩ := hone.exists_failed_of_type htypes past
    obtain ⟨value, hmem, htype⟩ := htypes
    obtain ⟨cause, hcause⟩ :=
      hother.exists_failed_of_type ⟨value, hperm.mem_iff.1 hmem, htype⟩ later
    rw [herror, hcause]
    exact .failed trivial

end

/-! ## All keys of a platform -/

/-- The platform that answers as another one does, but for the values of opened keys: these are read
from systems of which there is one for each key. -/
def readingKeys (respond : platformSystem.Responder)
    (keys : RegistryPath → registrySystem.Responder) (past : List PlatformCall) :
    (call : PlatformCall) → Outcome call.Result
  | .readKey path =>
    (multiStringValues.runAfter (keys path)
      [.openKey (predefinedKey path.root) (Utf16.encode path.subkey ++ [0])]).outcome
  | call => respond past call

theorem differInReadErrors_readingKeys {keys again : RegistryPath → registrySystem.Responder}
    (h : ∀ path, HoldSame (keys path) (again path)) (respond : platformSystem.Responder) :
    DifferInReadErrors (readingKeys respond keys) (readingKeys respond again) where
  same past call hcall := by
    cases call with
    | readKey path => exact absurd rfl (hcall path)
    | _ => rfl
  alike past path := (h path).alike _ _

/-- **The order in which values are listed makes no difference.** Two systems list the same values,
each in an order of its own. If all of them are lists of strings, and no two names are read as the
same text, then the same comes of reading them, and it is a map exactly if all lengths can be told;
if one of them is no list of strings, the reading fails in both orders. And where all keys of a
platform list their values in other orders, the same comes of resolving a device, with the same
calls: the same runtime files in the same order, or the same error. -/
theorem multiStringValues_resolve_of_perm :
    (∀ (one other : registrySystem.Responder) (values others : List KeyValue),
      Holds one values → Holds other others → values.Perm others → ∀ past later,
        ((∀ value ∈ values, value.type = multiStringType) → (values.map KeyValue.text).Nodup →
          (multiStringValues.runAfter one past).outcome =
              (multiStringValues.runAfter other later).outcome ∧
            ∀ map, (multiStringValues.runAfter one past).outcome = .value map ↔
              (∀ value ∈ values, value.CanBeTold) ∧
                map = SortedMap.ofList (values.map KeyValue.entry)) ∧
        ((∃ value ∈ values, value.type ≠ multiStringType) →
          (∃ error, (multiStringValues.runAfter one past).outcome = .failed error) ∧
            ∃ error, (multiStringValues.runAfter other later).outcome = .failed error)) ∧
    ∀ (config : Config) (device : DeviceRecord) (respond : platformSystem.Responder)
      (keys again : RegistryPath → registrySystem.Responder),
      (∀ path, HoldSame (keys path) (again path)) → ∀ past,
        ((device.resolve config).runAfter (readingKeys respond keys) past).outcome =
            ((device.resolve config).runAfter (readingKeys respond again) past).outcome ∧
          ((device.resolve config).runAfter (readingKeys respond keys) past).calls =
            ((device.resolve config).runAfter (readingKeys respond again) past).calls := by
  constructor
  · intro one other values others hone hother hperm past later
    constructor
    · intro htypes htexts
      exact ⟨hone.outcome_eq_of_perm hother hperm htypes htexts past later,
        fun map => hone.outcome_multiStringValues_eq_value_iff htypes past⟩
    · rintro ⟨value, hmem, htype⟩
      exact ⟨hone.exists_failed_of_type ⟨value, hmem, htype⟩ past,
        hother.exists_failed_of_type ⟨value, hperm.mem_iff.1 hmem, htype⟩ later⟩
  · intro config device respond keys again hkeys past
    obtain ⟨houtcome, hcalls⟩ :=
      (differInReadErrors_readingKeys hkeys respond).agreesOn_resolve config device past
    exact ⟨Outcome.alike_eq_iff.1 houtcome, hcalls⟩

/-- Three lists of strings. The second has no end and comes behind longer data. -/
def clashingValues : List KeyValue :=
  [⟨Utf16.encode "10", multiStringType,
      bytesOfUnits (MultiString.encode ["x64\\new.dll", "hip.dll"])⟩,
    ⟨Utf16.encode "2", multiStringType, bytesOfUnits (Utf16.encode "x64\\hip.dll")⟩,
    ⟨Utf16.encode "3", multiStringType, bytesOfUnits (MultiString.encode ["x64\\ocl.dll"])⟩]

/-- Two values that are no lists of strings, of two types. -/
def mistypedValues : List KeyValue :=
  [⟨Utf16.encode "1", 1, bytesOfUnits (Utf16.encode "a")⟩, ⟨Utf16.encode "2", 4, [1, 0, 0, 0]⟩]

/-- The values of two subkeys of a driver. No other key has values. -/
def driverValues (path : RegistryPath) : List KeyValue :=
  if path = ⟨.users, "amd\\CopyToVmOverwrite"⟩ then clashingValues
  else if path = ⟨.users, "amd\\CopyToVmWhenNewer"⟩ then mistypedValues
  else []

/-- A system that lists the values as they stand here, and one that lists them backwards. -/
theorem holds_bothWays {values : List KeyValue} (hcount : values.length < UInt32.size)
    (hlengths : ∀ value ∈ values,
      value.name.length < UInt32.size ∧ value.data.length < UInt32.size) :
    Holds (keyWith values) values ∧ Holds (keyWith values.reverse) values.reverse := by
  refine ⟨holds_keyWith hcount hlengths, holds_keyWith ?_ fun value hmem => ?_⟩
  · rw [List.length_reverse]
    exact hcount
  · exact hlengths value (List.mem_reverse.1 hmem)

theorem holds_driverValues (path : RegistryPath) :
    Holds (keyWith (driverValues path)) (driverValues path) ∧
      Holds (keyWith (driverValues path).reverse) (driverValues path).reverse := by
  rw [driverValues]
  split
  · exact holds_bothWays (by decide) (by decide)
  · split
    · exact holds_bothWays (by decide) (by decide)
    · exact holds_bothWays (by decide) (by decide)

theorem nodup_texts_driverValues (path : RegistryPath) :
    ((driverValues path).map KeyValue.text).Nodup := by
  rw [driverValues]
  split
  · decide
  · split
    · decide
    · exact List.nodup_nil

/-- Of two files with one destination the same is taken in both orders, and the subkey with values
of other types comes to nothing in both. -/
theorem resolve_of_driverValues :
    let respond := DeviceRecord.clashingDriver.platform.respond
    let keys := fun path => keyWith (driverValues path)
    let again := fun path => keyWith (driverValues path).reverse
    let resolved := { DeviceRecord.clashingCard with runtimeFilesWow64 := [] }
    (∀ path, HoldSame (keys path) (again path)) ∧
      ((DeviceRecord.renderCard.resolve (.default none)).runAfter
        (readingKeys respond keys) []).outcome = .value resolved ∧
      ((DeviceRecord.renderCard.resolve (.default none)).runAfter
        (readingKeys respond again) []).outcome = .value resolved ∧
      (multiStringValues.runAfter (keyWith clashingValues.reverse) []).outcome =
        .value (.ofList [("10", ["x64\\new.dll", "hip.dll"]), ("2", ["x64\\hip.dll"]),
          ("3", ["x64\\ocl.dll"])]) ∧
      ∃ error, (multiStringValues.runAfter (keyWith mistypedValues.reverse) []).outcome =
        .failed error := by
  intro respond keys again resolved
  have hsame : ∀ path, HoldSame (keys path) (again path) := by
    intro path
    obtain ⟨hkey, hagain⟩ := holds_driverValues path
    exact ⟨_, _, hkey, hagain, (List.reverse_perm _).symm, fun _ => nodup_texts_driverValues path⟩
  have hresolved : ((DeviceRecord.renderCard.resolve (.default none)).runAfter
      (readingKeys respond keys) []).outcome = .value resolved := by
    decide +kernel
  obtain ⟨hreading, hresolving⟩ := multiStringValues_resolve_of_perm
  obtain ⟨houtcome, -⟩ := hresolving (.default none) DeviceRecord.renderCard respond keys again
    hsame []
  refine ⟨hsame, hresolved, houtcome ▸ hresolved, ?_, ?_⟩
  · obtain ⟨hkey, hagain⟩ := @holds_bothWays clashingValues (by decide) (by decide)
    obtain ⟨hlists, -⟩ := hreading _ _ _ _ hkey hagain (List.reverse_perm _).symm [] []
    obtain ⟨hreversed, -⟩ := hlists (by decide) (by decide)
    rw [← hreversed]
    decide +kernel
  · obtain ⟨hkey, hagain⟩ := @holds_bothWays mistypedValues (by decide) (by decide)
    obtain ⟨-, hfails⟩ := hreading _ _ _ _ hkey hagain (List.reverse_perm _).symm [] []
    exact (hfails (by decide)).2

end Windows

end GpuDiscovery
