import GpuDiscovery.Proofs.Platform.Stage
import Mathlib.Data.List.Induction

/-!
# What an enumeration comes to

An enumeration visits the places of several lists in one loop, with a map that later occurrences
overwrite. Here the loop is taken out of it: from the exchanges of a successful enumeration one can
read the lists that the platform handed out (`listsIn`) and all adapters in them, in the order in
which they were read (`listedAdapters`). The catalog is then the fold of `AdapterSet.keep` over
that one sequence (`path_enumerate`), and a fold that overwrites holds, under every identifier, the
last selected occurrence of it (`get?_foldl_keep`).

The sequence makes no difference between an adapter met again in a later list and one met again in
the same list, which is why nothing below speaks of groups.
-/

namespace GpuDiscovery

open Procedure

/-! ## What was listed -/

/-- The list that the platform handed out in an exchange. -/
def Exchange.list? : Exchange platformSystem → Option AdapterList
  | ⟨.listAdapters _, .value list⟩ => some list
  | _ => none

/-- The lists that the platform handed out, oldest first. -/
def listsIn (talk : List (Exchange platformSystem)) : List AdapterList :=
  talk.filterMap Exchange.list?

/-- The record of what is at a place of a list, if it can be fetched and read. -/
def recordAt (fetched : Outcome AdapterInfo) : Option AdapterRecord :=
  (fetched >>= AdapterInfo.read).value?

/-- The adapters of the lists that the platform handed out, in the order of listing. An adapter
occurs as often as it is listed. -/
def listedAdapters (talk : List (Exchange platformSystem)) : List AdapterRecord :=
  (listsIn talk).flatMap fun list => list.adapters.filterMap recordAt

/-- By which the platform knows the lists that it handed out. -/
def createdLists (talk : List (Exchange platformSystem)) : List Nat :=
  (listsIn talk).map AdapterList.id

theorem listsIn_append (xs ys : List (Exchange platformSystem)) :
    listsIn (xs ++ ys) = listsIn xs ++ listsIn ys :=
  List.filterMap_append

theorem listedAdapters_append (xs ys : List (Exchange platformSystem)) :
    listedAdapters (xs ++ ys) = listedAdapters xs ++ listedAdapters ys := by
  rw [listedAdapters, listsIn_append, List.flatMap_append]
  rfl

theorem createdLists_append (xs ys : List (Exchange platformSystem)) :
    createdLists (xs ++ ys) = createdLists xs ++ createdLists ys := by
  rw [createdLists, listsIn_append, List.map_append]
  rfl

/-- Lists are handed out in the listing stage only. -/
theorem listsIn_eq_nil {talk : List (Exchange platformSystem)}
    (h : ∀ exchange ∈ talk, exchange.call.stage ≠ .listing) : listsIn talk = [] := by
  refine filterMap_eq_nil_of_stage ?_ h
  rintro ⟨call, answer⟩ hstage
  rcases call with _ | _ | _ | group | _ | _ | _ | _ | _
  case listAdapters => exact absurd rfl hstage
  all_goals rfl

/-! ## What a selection retains -/

/-- The selection has no objection to the adapter. -/
structure AdapterRecord.Passes (selection : Selection) (adapter : AdapterRecord) : Prop where
  hardware : adapter.isHardware = true
  filter : adapter.isExcludedBy selection.filter = false
  integrated : adapter.isIntegrated = true → selection.includeIntegrated = true
  detachable : adapter.isDetachable = true → selection.includeDetachable = true

theorem AdapterRecord.passes_of_isSelectedBy {selection : Selection} {adapter : AdapterRecord}
    (h : adapter.isSelectedBy selection = true) : adapter.Passes selection := by
  simp only [isSelectedBy, Bool.and_eq_true, Bool.not_eq_true', Bool.and_eq_false_iff,
    Bool.not_eq_false'] at h
  obtain ⟨⟨⟨hhardware, hfilter⟩, hintegrated⟩, hdetachable⟩ := h
  refine ⟨hhardware, hfilter, ?_, ?_⟩
  · intro hgate
    rcases hintegrated with hnot | hincluded
    · rw [hnot] at hgate
      exact absurd hgate Bool.false_ne_true
    · exact hincluded
  · intro hgate
    rcases hdetachable with hnot | hincluded
    · rw [hnot] at hgate
      exact absurd hgate Bool.false_ne_true
    · exact hincluded

/-! ## The fold -/

/-- The retained adapters once one more was read. -/
def AdapterSet.keep (selection : Selection) (retained : AdapterSet) (adapter : AdapterRecord) :
    AdapterSet :=
  if adapter.isSelectedBy selection then retained.insert adapter.luid adapter else retained

/-- The last occurrence of an identifier that the selection retains. -/
def lastSelected (selection : Selection) (adapters : List AdapterRecord) (luid : Luid) :
    Option AdapterRecord :=
  (adapters.filter fun adapter => adapter.isSelectedBy selection && adapter.luid = luid).getLast?

/-- What the last selected occurrence is: a listed adapter, selected, with that identifier. -/
theorem of_lastSelected {selection : Selection} {adapters : List AdapterRecord} {luid : Luid}
    {adapter : AdapterRecord} (h : lastSelected selection adapters luid = some adapter) :
    adapter ∈ adapters ∧ adapter.isSelectedBy selection = true ∧ adapter.luid = luid := by
  have hmem := List.mem_of_getLast? h
  rw [List.mem_filter, Bool.and_eq_true, decide_eq_true_eq] at hmem
  exact hmem

/-- There is a last selected occurrence exactly if there is any. -/
theorem isSome_lastSelected {selection : Selection} {adapters : List AdapterRecord} {luid : Luid} :
    (lastSelected selection adapters luid).isSome =
      adapters.any fun adapter => adapter.isSelectedBy selection && adapter.luid = luid := by
  rw [Bool.eq_iff_iff, lastSelected, List.getLast?_isSome, List.any_eq_true, ne_eq,
    List.filter_eq_nil_iff]
  simp only [not_forall, not_not, exists_prop]

/-- **The last selected occurrence stands.** Reading adapters onto a set leaves, under every
identifier, its last selected occurrence, or what was there before if none was selected. The
induction is from the right, so that its step is one insertion. -/
theorem get?_foldl_keep (selection : Selection) (adapters : List AdapterRecord)
    (retained : AdapterSet) (luid : Luid) :
    (adapters.foldl (AdapterSet.keep selection) retained).get? luid =
      (lastSelected selection adapters luid).or (retained.get? luid) := by
  induction adapters using List.reverseRecOn with
  | nil => rfl
  | append_singleton adapters adapter ih =>
    rw [List.foldl_append, List.foldl_cons, List.foldl_nil, AdapterSet.keep, lastSelected,
      List.filter_append]
    by_cases hselected : adapter.isSelectedBy selection = true
    · rw [if_pos hselected, SortedMap.get?_insert]
      by_cases hluid : luid = adapter.luid
      · rw [if_pos hluid, List.filter_cons_of_pos (by simp [hselected, hluid]), List.filter_nil,
          List.getLast?_concat]
        rfl
      · rw [if_neg hluid, List.filter_cons_of_neg (by simp [Ne.symm hluid]), List.filter_nil,
          List.append_nil]
        exact ih
    · rw [if_neg hselected, List.filter_cons_of_neg (by simp [hselected]), List.filter_nil,
        List.append_nil]
      exact ih

theorem get?_foldl_keep_empty (selection : Selection) (adapters : List AdapterRecord)
    (luid : Luid) :
    (adapters.foldl (AdapterSet.keep selection) .empty).get? luid =
      lastSelected selection adapters luid := by
  rw [get?_foldl_keep, SortedMap.get?_empty, Option.or_none]

/-- The adapters that a selection retains of what was listed. -/
def retainedIn (selection : Selection) (talk : List (Exchange platformSystem)) : AdapterSet :=
  (listedAdapters talk).foldl (AdapterSet.keep selection) .empty

namespace Catalog

variable {selection : Selection} {talk : List (Exchange platformSystem)}

/-- What is read at a place does not depend on which place it is. -/
theorem value?_readPlace (group : AdapterAttribute) (index : Nat)
    (fetched : Outcome AdapterInfo) :
    (readPlace group index fetched).value? = recordAt fetched := by
  rw [readPlace, recordAt]
  rcases fetched with info | error | _
  · exact Outcome.value?_context _ _
  · rfl
  · rfl

/-- The records of the adapters at the places of a list, from `index` on. -/
def records (group : AdapterAttribute) (index : Nat) (places : List (Outcome AdapterInfo)) :
    Outcome (List AdapterRecord) :=
  (places.zipIdx index).mapM fun place => readPlace group place.2 place.1

/-- The adapters at the places of a list can be read exactly if each of them can. -/
theorem exists_records_iff {group : AdapterAttribute} {index : Nat}
    {places : List (Outcome AdapterInfo)} :
    (∃ adapters, records group index places = .value adapters) ↔
      ∀ place ∈ places, (recordAt place).isSome = true := by
  rw [records, Outcome.exists_mapM_eq_value_iff]
  simp only [value?_readPlace]
  exact forall_mem_zipIdx_fst (p := fun place => (recordAt place).isSome = true)

/-- What is read is what can be read. -/
theorem records_eq {group : AdapterAttribute} {index : Nat}
    {places : List (Outcome AdapterInfo)} {adapters : List AdapterRecord}
    (h : records group index places = .value adapters) : adapters = places.filterMap recordAt := by
  rw [← Outcome.filterMap_value?_of_mapM h]
  simp only [value?_readPlace]
  exact filterMap_zipIdx_fst recordAt places index

/-- Retaining makes no calls, and what it does is one step of the fold. -/
theorem endsAs_retain (selection : Selection) (group : AdapterAttribute) (adapter : AdapterRecord)
    (retained : AdapterSet) :
    (retain selection group adapter retained).EndsAs
      (.value (retained.keep selection adapter)) := by
  rw [retain, AdapterSet.keep]
  by_cases hselected : adapter.isSelectedBy selection = true
  · rw [hselected, Bool.not_true, if_neg Bool.false_ne_true, if_pos rfl]
    by_cases hagain : retained.contains adapter.luid = true
    · rw [if_pos hagain]
      refine EndsAs.value_bind (endsAs_info _) ?_
      exact endsAs_pure _
    · rw [if_neg hagain]
      exact endsAs_pure _
  · rw [Bool.eq_false_iff.2 hselected, Bool.not_false, if_pos rfl, if_neg Bool.false_ne_true]
    refine EndsAs.value_bind (endsAs_info _) ?_
    exact endsAs_pure _

/-- The loop over the places of a list makes no calls. It reads all of them, and folds what is
read. -/
theorem endsAs_readPlaces (selection : Selection) (group : AdapterAttribute) (index : Nat)
    (places : List (Outcome AdapterInfo)) (retained : AdapterSet) :
    (readPlaces selection group index places retained).EndsAs
      (records group index places >>= fun adapters =>
        .value (adapters.foldl (AdapterSet.keep selection) retained)) := by
  induction places generalizing index retained with
  | nil => exact endsAs_pure retained
  | cons fetched rest ih =>
    rw [records, List.zipIdx_cons, List.mapM_cons, bind_assoc]
    refine (endsAs_ofOutcome _).bind fun adapter => ?_
    simp only [bind_assoc, pure_bind]
    exact (endsAs_retain selection group adapter retained).value_bind (ih (index + 1) _)

/-- Reads a list that was handed out, and hands it on with the adapters retained so far. -/
def readList (selection : Selection) (group : AdapterAttribute) (retained : AdapterSet)
    (list : AdapterList) : Procedure platformSystem (AdapterList × AdapterSet) := do
  info (Text.decimal list.adapters.length ++ " adapters support " ++ group.name)
  let kept ← readPlaces selection group 0 list.adapters retained
  return (list, kept)

theorem endsAs_readList (selection : Selection) (group : AdapterAttribute)
    (retained : AdapterSet) (list : AdapterList) :
    (readList selection group retained list).EndsAs
      (records group 0 list.adapters >>= fun adapters =>
        .value (list, adapters.foldl (AdapterSet.keep selection) retained)) := by
  refine EndsAs.value_bind (endsAs_info _) ?_
  have hread := (endsAs_readPlaces selection group 0 list.adapters retained).bind fun kept =>
    endsAs_pure (list, kept)
  simp only [bind_assoc, Outcome.bind_value] at hread
  exact hread

/-- The lists are asked for and read one by one. -/
theorem readGroups_cons (selection : Selection) (group : AdapterAttribute)
    (rest : List AdapterAttribute) (lists : List Nat) (retained : AdapterSet) :
    readGroups selection (group :: rest) lists retained =
      (((ask (.listAdapters group)).context
          ("creating adapter list for attribute " ++ group.name) >>=
        readList selection group retained) >>= fun read =>
          readGroups selection rest (lists ++ [read.1.id]) read.2) := by
  simp only [readGroups, readList, bind_assoc, pure_bind]

theorem path_readPlaces {group : AdapterAttribute} {index : Nat}
    {places : List (Outcome AdapterInfo)} {retained result : AdapterSet}
    (h : (readPlaces selection group index places retained).Path talk (.value result)) :
    talk = [] ∧
      result = (places.filterMap recordAt).foldl (AdapterSet.keep selection) retained := by
  obtain ⟨rfl, hresult⟩ := endsAs_readPlaces selection group index places retained talk _ h
  obtain ⟨adapters, hadapters, hfold⟩ := Outcome.bind_eq_value_iff.1 hresult.symm
  rw [← records_eq hadapters]
  exact ⟨rfl, (Outcome.value.inj hfold).symm⟩

theorem path_readGroups {groups : List AdapterAttribute} {lists : List Nat}
    {retained : AdapterSet} {catalog : Catalog}
    (h : (readGroups selection groups lists retained).Path talk (.value catalog)) :
    catalog.lists = lists ++ createdLists talk ∧
      catalog.adapters = (listedAdapters talk).foldl (AdapterSet.keep selection) retained ∧
      catalog.enumerated = true := by
  induction groups generalizing lists retained talk with
  | nil =>
    obtain ⟨rfl, hcatalog⟩ := path_pure_iff.1 h
    rw [Outcome.value.inj hcatalog]
    exact ⟨(List.append_nil _).symm, rfl, rfl⟩
  | cons group rest ih =>
    obtain ⟨list, asked, _, rfl, hasked, hbehind⟩ := path_bind_value_iff.1 h
    rw [path_context_value_iff, path_ask_iff] at hasked
    rw [path_info_bind_iff] at hbehind
    obtain ⟨kept, _, talk, rfl, hplaces, hrest⟩ := path_bind_value_iff.1 hbehind
    obtain ⟨rfl, rfl⟩ := path_readPlaces hplaces
    obtain ⟨hlists, hadapters, henumerated⟩ := ih hrest
    rw [List.nil_append, createdLists_append, listedAdapters_append, List.foldl_append, hlists,
      hadapters, hasked]
    refine ⟨?_, ?_, henumerated⟩
    · rw [List.append_assoc]
      rfl
    · simp [listedAdapters, listsIn, Exchange.list?]

/-- **What a successful enumeration holds.** The lists that were handed out, and the fold of what
is in them. -/
theorem path_enumerate {catalog : Catalog}
    (h : (enumerate selection).Path talk (.value catalog)) :
    catalog.lists = createdLists talk ∧
      catalog.adapters = (listedAdapters talk).foldl (AdapterSet.keep selection) .empty ∧
      catalog.enumerated = true := by
  obtain ⟨read, before, after, rfl, hread, hnote⟩ := path_bind_value_iff.1 h
  rw [path_info_bind_iff] at hnote
  obtain ⟨rfl, hcatalog⟩ := path_pure_iff.1 hnote
  rw [Outcome.value.inj hcatalog, List.append_nil]
  exact path_readGroups hread

end Catalog

end GpuDiscovery
