import GpuDiscovery.Proofs.Windows.Handles
import GpuDiscovery.Proofs.Windows.RegistryValues
import GpuDiscovery.Windows.KernelTable

/-!
# Sizes that the system is told

The system writes into memory, and it is told the size of this memory as a number of 32 bits. What
it asked for is a number of 32 bits itself, and a header, a terminator or some rounding is added to
it. Where the sum has more than 32 bits, the upper ones are lost, and the system is told of little
memory although there is much.

So the system is told the size as it is exactly if what it asked for stays clear of the upper end of
the range: by the header for the path of a driver store, by one unit for the longest name of a key,
and by three bytes for the longest data (`announcedSizes_iff`). The memory itself is never smaller
than what the system is told, nor than what it asked for, so nothing is written behind its end.
-/

namespace GpuDiscovery.Windows

open Procedure

/-- There is as much memory as the system is told of, and as it asked for. -/
structure Covers (told : UInt32) (asked allocated : Nat) : Prop where
  told_le : told.toNat ≤ allocated
  asked_le : asked ≤ allocated

/-- Losing upper bits makes no size greater. -/
theorem covers_ofNat {size asked allocated : Nat} (hsize : size ≤ allocated)
    (hasked : asked ≤ allocated) : Covers (UInt32.ofNat size) asked allocated := by
  refine ⟨?_, hasked⟩
  rw [UInt32.toNat_ofNat']
  exact Nat.le_trans (Nat.mod_le _ _) hsize

/-- A size is told as it is exactly if it is a number of 32 bits. -/
theorem toNat_ofNat_eq_iff {size : Nat} :
    (UInt32.ofNat size).toNat = size ↔ size < UInt32.size := by
  rw [UInt32.toNat_ofNat', Nat.mod_eq_iff_lt (by decide)]

/-! ## Driver stores -/

namespace KernelAdapter

/-- The query for the path of a driver store, with room for so many bytes. -/
def pathQuery (room : Nat) : KernelCall :=
  .query registryInfo storePathQuery (UInt32.ofNat (blockSize room)) (allocatedSize room)

/-- The size in the answer to a query. -/
def answeredSize? : Exchange kernelSystem → Option UInt32
  | ⟨.query _ _ _ _, answer⟩ => some answer.outputSize
  | _ => none

/-- The room that the last query asked for in its answer, or this one if there was none. -/
def roomAfter (room : UInt32) (talk : List (Exchange kernelSystem)) : UInt32 :=
  (talk.filterMap answeredSize?).getLastD room

theorem roomAfter_cons (room : UInt32) (asked : Nat) (answer : KernelAnswer)
    (rest : List (Exchange kernelSystem)) :
    roomAfter room (⟨pathQuery asked, answer⟩ :: rest) = roomAfter answer.outputSize rest :=
  List.getLastD_cons

variable {talk before after : List (Exchange kernelSystem)} {query : Exchange kernelSystem}

/-- A query is one exchange, and the room it asks for stands in the answer. -/
theorem path_queryPath {room : Nat} {outcome : Outcome BufferAnswer}
    (h : (queryPath room).Path talk outcome) :
    ∃ answer : KernelAnswer, talk = [⟨pathQuery room, answer⟩] ∧
      ∀ required, outcome = .value (.overflow required) → required = answer.outputSize.toNat := by
  obtain ⟨answer, behind, rfl, hbehind⟩ := path_perform_bind_iff.1 h
  refine ⟨answer, ?_⟩
  rw [checkKernel] at hbehind
  by_cases hcall : answer.callStatus = 0
  · rw [if_pos hcall, pure_bind] at hbehind
    obtain ⟨rfl, rfl⟩ := path_ofOutcome_iff.1 hbehind
    refine ⟨rfl, fun required hoverflow => ?_⟩
    rw [interpret] at hoverflow
    -- Of the three kinds of status, one asks for room.
    split at hoverflow
    · split at hoverflow
      · cases hoverflow
      · cases hoverflow
    · split at hoverflow
      · cases hoverflow
        rfl
      · cases hoverflow
  · rw [if_neg hcall] at hbehind
    obtain ⟨rfl, rfl⟩ := path_ends_iff.1 hbehind
    refine ⟨rfl, fun required hoverflow => ?_⟩
    cases hoverflow

/-- The queries are made one after the other, the first with this room, and each other one with the
room that the answer before it asked for. -/
inductive MeetsDemands : (room : UInt32) → List (Exchange kernelSystem) → Prop where
  | nil {room : UInt32} : MeetsDemands room []
  | cons {room : UInt32} {rest : List (Exchange kernelSystem)} (answer : KernelAnswer)
      (hrest : MeetsDemands answer.outputSize rest) :
      MeetsDemands room (⟨pathQuery room.toNat, answer⟩ :: rest)

/-- Growing queries are made so. -/
theorem meetsDemands_of_path_growFrom {maxAttempts attempts : Nat} {room : UInt32}
    {outcome : Outcome String}
    (h : (growFrom queryPath maxAttempts attempts room.toNat).Path talk outcome) :
    MeetsDemands room talk := by
  induction attempts generalizing room talk with
  | zero =>
    obtain ⟨rfl, -⟩ := path_ends_iff.1 h
    exact .nil
  | succ attempts ih =>
    -- However the query goes, it was made; another one follows only if it asks for more.
    rcases path_bind_cases h with ⟨found, asked, behind, rfl, hasked, hbehind⟩ | ⟨ending, hasked, -⟩
    · obtain ⟨answer, rfl, hrequired⟩ := path_queryPath hasked
      rcases found with path | required
      · obtain ⟨rfl, -⟩ := path_pure_iff.1 hbehind
        exact .cons answer .nil
      · rw [hrequired required rfl] at hbehind
        dsimp only at hbehind
        split at hbehind
        · obtain ⟨rfl, -⟩ := path_ends_iff.1 hbehind
          exact .cons answer .nil
        · exact .cons answer (ih hbehind)
    · obtain ⟨answer, rfl, -⟩ := path_queryPath hasked
      exact .cons answer .nil

theorem MeetsDemands.call_eq {room : UInt32} (h : MeetsDemands room (before ++ query :: after)) :
    query.call = pathQuery (roomAfter room before).toNat := by
  induction before generalizing room with
  | nil =>
    cases h
    rfl
  | cons first rest ih =>
    cases h with
    | cons answer hrest =>
      rw [ih hrest, roomAfter_cons]

/-- The block is allocated in whole groups of eight bytes, and the header is a part of it. A size
that is not told as it is comes out below that of the header alone. -/
theorem announced_pathQuery (room : UInt32) :
    let told := UInt32.ofNat (blockSize room.toNat)
    Covers told (queryHeaderSize + room.toNat) (allocatedSize room.toNat) ∧
      (told.toNat = queryHeaderSize + room.toNat ↔
        room.toNat < UInt32.size - queryHeaderSize) ∧
      (told.toNat ≠ queryHeaderSize + room.toNat → told.toNat < queryHeaderSize) := by
  intro told
  have hallocated : blockSize room.toNat ≤ allocatedSize room.toNat := by
    rw [allocatedSize]
    omega
  have hheader : queryHeaderSize < UInt32.size := by decide
  have hroom : room.toNat < UInt32.size := room.toNat_lt_size
  have htold : told.toNat = (queryHeaderSize + room.toNat) % UInt32.size :=
    UInt32.toNat_ofNat'
  have hexact : told.toNat = queryHeaderSize + room.toNat ↔
      queryHeaderSize + room.toNat < UInt32.size := toNat_ofNat_eq_iff
  refine ⟨covers_ofNat hallocated hallocated, ?_, ?_⟩
  · rw [hexact]
    omega
  · intro hwraps
    rw [Ne, hexact, Nat.not_lt] at hwraps
    rw [htold, Nat.mod_eq_sub_mod hwraps, Nat.mod_eq_of_lt (by omega)]
    omega

end KernelAdapter

/-! ## Values of registry keys -/

namespace RegistryKey

/-- Behind the question about the values, every call reads a value with the lengths of the buffers
that are made by the answer. -/
theorem lengths_of_mem_calls {respond : registrySystem.Responder} {past : List RegistryCall}
    {index : Nat} {nameLength dataLength : UInt32}
    (hmem : RegistryCall.enumValue index nameLength dataLength ∈
      (multiStringValues.runAfter respond past).calls) :
    nameLength = (Buffers.ofInfo (respond past .queryInfo).2).announcedName ∧
      dataLength = (Buffers.ofInfo (respond past .queryInfo).2).announcedData := by
  generalize hanswer : respond past .queryInfo = answer
  obtain ⟨status, info⟩ := answer
  -- The buffers are used again for every value, and writing into them leaves their lengths alone.
  have hvalues : (readValues (.ofInfo info) info.valueCount.toNat 0 .empty).CallsOnly
      fun call : RegistryCall => ∃ index, call = .enumValue index
        (Buffers.ofInfo info).announcedName (Buffers.ofInfo info).announcedData :=
    callsOnly_readValues (fun index => ⟨index, rfl⟩) _ _ _
  have hbehind := (callsOnly_checkStatus "RegQueryInfoKeyW" status).bind fun _ => hvalues
  rw [multiStringValues, callRegistry, runAfter_bind, runAfter_perform, hanswer] at hmem
  rcases List.mem_cons.1 hmem with hfirst | hrest
  · cases hfirst
  · obtain ⟨_, hlengths⟩ := hbehind.of_mem_calls hrest
    cases hlengths
    exact ⟨rfl, rfl⟩

/-- A name is written with one unit behind it, and data is rounded up to whole units, with one more
of them. -/
theorem announced_ofInfo (info : KeyInfo) :
    (Covers (Buffers.ofInfo info).announcedName info.maxNameLength.toNat
        (Buffers.ofInfo info).name.capacity ∧
      ((Buffers.ofInfo info).announcedName.toNat = (Buffers.ofInfo info).name.capacity ↔
        info.maxNameLength.toNat < 0xFFFFFFFF)) ∧
    (Covers (Buffers.ofInfo info).announcedData info.maxDataLength.toNat
        (Buffers.ofInfo info).data.capacity ∧
      ((Buffers.ofInfo info).announcedData.toNat = (Buffers.ofInfo info).data.capacity ↔
        info.maxDataLength.toNat ≤ 0xFFFFFFFC)) := by
  rw [Buffers.announcedName, Buffers.announcedData, toNat_ofNat_eq_iff, toNat_ofNat_eq_iff]
  have hname : (Buffers.ofInfo info).name.capacity = info.maxNameLength.toNat + 1 := rfl
  have hdata : (Buffers.ofInfo info).data.capacity =
      2 * ((info.maxDataLength.toNat + 1) / 2 + 1) := rfl
  have hlimit : UInt32.size = 0x100000000 := rfl
  rw [hname, hdata]
  refine ⟨⟨covers_ofNat (Nat.le_refl _) ?_, ?_⟩, covers_ofNat (Nat.le_refl _) ?_, ?_⟩
  · omega
  · omega
  · omega
  · omega

end RegistryKey

open KernelAdapter RegistryKey

/-- **Which sizes are told as they are.** With every query for the path of a driver store the kernel
is told the size of the block, which is the header and the room that it asked for last, exactly if
that room leaves space for the header in 32 bits; otherwise it is told of less than a header.
Whenever a value of a key is read, the system is told the lengths of the two buffers exactly if the
longest name leaves space for one more unit, and the longest data for three more bytes. There is
always as much memory as the system is told of, and as it asked for. -/
theorem announcedSizes_iff (maxAttempts : Nat) (kernel : kernelSystem.Responder)
    (asked : List KernelCall) (registry : registrySystem.Responder) (read : List RegistryCall) :
    (∀ before query after,
      exchangesAfter kernel asked
          ((queryGrowing queryPath maxAttempts).runAfter kernel asked).calls =
        before ++ query :: after →
      let room := (roomAfter 0 before).toNat
      ∃ told allocated, query.call = .query registryInfo storePathQuery told allocated ∧
        Covers told (queryHeaderSize + room) allocated ∧
        (told.toNat = queryHeaderSize + room ↔ room < UInt32.size - queryHeaderSize) ∧
        (told.toNat ≠ queryHeaderSize + room → told.toNat < queryHeaderSize)) ∧
    ∀ index nameLength dataLength,
      RegistryCall.enumValue index nameLength dataLength ∈
        (multiStringValues.runAfter registry read).calls →
      let info := (registry read .queryInfo).2
      let buffers := Buffers.ofInfo info
      (Covers nameLength info.maxNameLength.toNat buffers.name.capacity ∧
        (nameLength.toNat = buffers.name.capacity ↔ info.maxNameLength.toNat < 0xFFFFFFFF)) ∧
      (Covers dataLength info.maxDataLength.toNat buffers.data.capacity ∧
        (dataLength.toNat = buffers.data.capacity ↔ info.maxDataLength.toNat ≤ 0xFFFFFFFC)) := by
  constructor
  · intro before query after htalk room
    have hpath := path_runAfter kernel (queryGrowing queryPath maxAttempts) asked
    rw [htalk] at hpath
    have hmeets : MeetsDemands 0 (before ++ query :: after) := meetsDemands_of_path_growFrom hpath
    exact ⟨_, _, hmeets.call_eq, announced_pathQuery (roomAfter 0 before)⟩
  · intro index nameLength dataLength hmem info buffers
    obtain ⟨rfl, rfl⟩ := lengths_of_mem_calls hmem
    exact announced_ofInfo info

/-- A kernel that asks for so much room and then has a path. -/
def kernelAskingFor (size : UInt32) : KernelTable :=
  ⟨0, 0, [.status 1 size, .path (Text.Utf16.encode "C:\\s")]⟩

/-- The calls by which the path is found. -/
abbrev callsAskingFor (size : UInt32) : List KernelCall :=
  ((queryGrowing queryPath 8).runAfter (kernelAskingFor size).respond []).calls

/-- Room for 100 bytes is told as it is, and so are the lengths for names of two units and data of
ten bytes. -/
theorem announcedSizes_of_short :
    (∃ first second told allocated,
      exchangesAfter (kernelAskingFor 100).respond [] (callsAskingFor 100) = [first, second] ∧
      (roomAfter 0 [first]).toNat = 100 ∧
      second.call = .query registryInfo storePathQuery told allocated ∧
      told.toNat = queryHeaderSize + 100 ∧ Covers told (queryHeaderSize + 100) allocated) ∧
    RegistryCall.enumValue 1 3 12 ∈ (multiStringValues.runAfter (keyWith fileValues) []).calls ∧
      Covers 3 2 3 ∧ Covers 12 10 12 := by
  obtain ⟨hqueries, hreadings⟩ :=
    announcedSizes_iff 8 (kernelAskingFor 100).respond [] (keyWith fileValues) []
  constructor
  · have hcalls : callsAskingFor 100 = [pathQuery 0, pathQuery 100] := by
      decide +kernel
    obtain ⟨first, second, htalk, hroom⟩ : ∃ first second,
        exchangesAfter (kernelAskingFor 100).respond [] (callsAskingFor 100) = [first, second] ∧
          (roomAfter 0 [first]).toNat = 100 := by
      rw [hcalls]
      exact ⟨_, _, rfl, by decide +kernel⟩
    obtain ⟨told, allocated, hquery, hcovers, htold, -⟩ := hqueries [first] second [] htalk
    rw [hroom] at hcovers htold
    exact ⟨_, _, told, allocated, htalk, hroom, hquery, htold.2 (by decide), hcovers⟩
  · have hmem : RegistryCall.enumValue 1 3 12 ∈
        (multiStringValues.runAfter (keyWith fileValues) []).calls := by
      decide +kernel
    obtain ⟨⟨hname, -⟩, hdata, -⟩ := hreadings _ _ _ hmem
    exact ⟨hmem, hname, hdata⟩

/-- **The greatest size wraps.** The kernel asks for as much room as it can ask for, gets it, and is
told of a block that is smaller than the header. -/
theorem announcedSizes_of_greatest :
    ∃ first second, exchangesAfter (kernelAskingFor 0xFFFFFFFF).respond []
        (callsAskingFor 0xFFFFFFFF) = [first, second] ∧
      (roomAfter 0 [first]).toNat = 0xFFFFFFFF ∧
      second.call = .query registryInfo storePathQuery 551 (queryHeaderSize + 0x100000000) ∧
      (551 : UInt32).toNat ≠ queryHeaderSize + 0xFFFFFFFF := by
  have hcalls : callsAskingFor 0xFFFFFFFF = [pathQuery 0, pathQuery 0xFFFFFFFF] := by
    decide +kernel
  rw [hcalls]
  exact ⟨_, _, rfl, by decide +kernel, by decide +kernel, by decide⟩

end GpuDiscovery.Windows
