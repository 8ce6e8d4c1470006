import GpuDiscovery.Platform.Script
import GpuDiscovery.Proofs.Catalog.Listing

/-!
# Lists that need not be read

An enumeration leaves out the lists of some attributes, depending on the filter. Nothing is lost by
that. Of an adapter in a list that is left out there are two cases: the filter excludes it, or the
adapter is listed again in a later list that is read (`supports_coreCompute_of_skipped`). The second
case occurs for one filter only, but it is the one that needs care, because the place at which an
adapter is read decides which of several records under one identifier stands. As the later
occurrence is behind everything in the list that was left out, it stands either way.

So the lists can be left out one by one from the front (`lastSelected_prune`), and a platform that
lists every adapter under exactly the attributes it supports yields the same set as if all lists
had been read (`renewed_eq_ofAllLists`).
-/

namespace GpuDiscovery

/-! ## Which lists are left out -/

/-- A selected adapter from a list that is left out is also in the list of adapters that compute,
which is another one. -/
theorem AdapterRecord.supports_coreCompute_of_skipped {filter : CapabilityFilter}
    {group : AdapterAttribute} {info : AdapterInfo} {record : AdapterRecord}
    (hskipped : group.isReadFor filter = false) (hsupports : info.supports group = true)
    (hread : info.read = .value record) (hkept : record.isExcludedBy filter = false) :
    group ≠ .coreCompute ∧ info.supports .coreCompute = true := by
  obtain ⟨-, hdisplay, hcompute⟩ := AdapterInfo.read_eq_value_iff.1 hread
  -- No adapter from a graphics list is left for a filter that excludes adapters that display.
  have hgraphics : (info.supports .graphics11 || info.supports .graphics12) = true →
      filter ≠ .computeOnly := by
    rintro hsome rfl
    rw [← hdisplay] at hsome
    exact Bool.false_ne_true (hkept.symm.trans hsome)
  cases group with
  | graphics11 =>
    refine ⟨nofun, ?_⟩
    have hne := hgraphics (Bool.or_eq_true_iff.2 (.inl hsupports))
    have hboth : filter = .displayAndCompute := by
      rw [AdapterAttribute.isReadFor, Bool.and_eq_false_iff, bne_eq_false_iff_eq,
        bne_eq_false_iff_eq] at hskipped
      exact hskipped.resolve_left hne
    subst hboth
    obtain ⟨-, hcomputes⟩ := Bool.or_eq_false_iff.1 hkept
    rw [Bool.not_eq_false', hcompute] at hcomputes
    exact hcomputes
  | graphics12 =>
    rw [AdapterAttribute.isReadFor, bne_eq_false_iff_eq] at hskipped
    exact absurd hskipped (hgraphics (Bool.or_eq_true_iff.2 (.inr hsupports)))
  | coreCompute =>
    rw [AdapterAttribute.isReadFor, bne_eq_false_iff_eq] at hskipped
    subst hskipped
    exact absurd (hkept.symm.trans (hcompute.trans hsupports)) Bool.false_ne_true

/-- The list of adapters that compute is the last one. -/
theorem AdapterAttribute.coreCompute_mem_after {before after : List AdapterAttribute}
    {group : AdapterAttribute} (h : every = before ++ group :: after) (hne : group ≠ .coreCompute) :
    .coreCompute ∈ after := by
  have hlast : (group :: after).getLast? = some .coreCompute := by
    rw [← List.getLast?_append_of_ne_nil before (List.cons_ne_nil group after), ← h]
    rfl
  exact (List.mem_cons.1 (List.mem_of_getLast? hlast)).resolve_left (Ne.symm hne)

/-! ## The last occurrence without them -/

variable {selection : Selection}

/-- The last selected occurrence is in the rear part, unless nothing there is selected. -/
theorem lastSelected_append (front rear : List AdapterRecord) (luid : Luid) :
    lastSelected selection (front ++ rear) luid =
      (lastSelected selection rear luid).or (lastSelected selection front luid) := by
  rw [lastSelected, List.filter_append, List.getLast?_append]
  rfl

/-- What is selected at the front and occurs again at the rear need not be read at the front. -/
theorem lastSelected_append_of_covered {front rear : List AdapterRecord}
    (h : ∀ record ∈ front, record.isSelectedBy selection = true → record ∈ rear) (luid : Luid) :
    lastSelected selection (front ++ rear) luid = lastSelected selection rear luid := by
  rw [lastSelected_append]
  rcases hrear : lastSelected selection rear luid with _ | record
  · rw [Option.none_or]
    rcases hfront : lastSelected selection front luid with _ | record
    · rfl
    · obtain ⟨hmem, hselected, hluid⟩ := of_lastSelected hfront
      have hsome : (lastSelected selection rear luid).isSome = true := by
        rw [isSome_lastSelected, List.any_eq_true]
        exact ⟨record, h record hmem hselected, by rw [hselected, decide_eq_true hluid]; rfl⟩
      rw [hrear] at hsome
      exact absurd hsome Bool.false_ne_true
  · rfl

/-- Lists can be left out if what is selected in each of them occurs again in a later one, left out
or not. The induction is from the front: by the time a list is dropped, leaving out some of those
behind it makes no difference any more. -/
theorem lastSelected_prune {adaptersUnder : AdapterAttribute → List AdapterRecord}
    {isRead : AdapterAttribute → Bool} {groups : List AdapterAttribute}
    (h : ∀ before group after, groups = before ++ group :: after → isRead group = false →
      ∀ record ∈ adaptersUnder group, record.isSelectedBy selection = true →
        ∃ later ∈ after, record ∈ adaptersUnder later) (luid : Luid) :
    lastSelected selection ((groups.filter isRead).flatMap adaptersUnder) luid =
      lastSelected selection (groups.flatMap adaptersUnder) luid := by
  induction groups with
  | nil => rfl
  | cons group rest ih =>
    have hrest := ih fun before skipped after hsplit =>
      h (group :: before) skipped after (congrArg (group :: ·) hsplit)
    rw [List.flatMap_cons]
    by_cases hread : isRead group = true
    · rw [List.filter_cons_of_pos hread, List.flatMap_cons, lastSelected_append,
        lastSelected_append, hrest]
    · rw [List.filter_cons_of_neg hread, hrest, lastSelected_append_of_covered]
      intro record hmem hselected
      have hskipped := Bool.eq_false_iff.2 hread
      exact List.mem_flatMap.2 (h [] group rest rfl hskipped record hmem hselected)

/-! ## All lists -/

/-- The records of the adapters that support an attribute. -/
def recordsUnder (adapters : List AdapterInfo) (group : AdapterAttribute) : List AdapterRecord :=
  (adapters.filter fun info => info.supports group).filterMap fun info => info.read.value?

theorem mem_recordsUnder {adapters : List AdapterInfo} {group : AdapterAttribute}
    {record : AdapterRecord} :
    record ∈ recordsUnder adapters group ↔
      ∃ info ∈ adapters, info.supports group = true ∧ info.read = .value record := by
  simp only [recordsUnder, List.mem_filterMap, List.mem_filter, Outcome.value?_eq_some_iff,
    and_assoc]

/-- The lists of all attributes in reading order, with every selected adapter kept as it is met. -/
def AdapterSet.ofAllLists (selection : Selection) (adapters : List AdapterInfo) : AdapterSet :=
  AdapterAttribute.every.foldl (fun kept group =>
    (recordsUnder adapters group).foldl (AdapterSet.keep selection) kept) .empty

/-- The lists that are left out for a filter can be left out. -/
theorem lastSelected_groupsFor (adapters : List AdapterInfo) (luid : Luid) :
    lastSelected selection
        ((AdapterAttribute.groupsFor selection.filter).flatMap (recordsUnder adapters)) luid =
      lastSelected selection (AdapterAttribute.every.flatMap (recordsUnder adapters)) luid := by
  refine lastSelected_prune ?_ luid
  intro before group after hsplit hskipped record hmem hselected
  obtain ⟨info, hinfo, hsupports, hread⟩ := mem_recordsUnder.1 hmem
  obtain ⟨hne, hcomputes⟩ := AdapterRecord.supports_coreCompute_of_skipped hskipped
    hsupports hread (AdapterRecord.passes_of_isSelectedBy hselected).filter
  exact ⟨.coreCompute, AdapterAttribute.coreCompute_mem_after hsplit hne,
    mem_recordsUnder.2 ⟨info, hinfo, hcomputes, hread⟩⟩

/-! ## Platforms that list by support -/

/-- The platform knows these adapters. It lists, in this order, exactly those that support an
attribute, and nothing fails about it. -/
structure Platform.ListsBySupport (platform : Platform) (adapters : List AdapterInfo) : Prop where
  lists : ∀ past group, ∃ id, platform.respond past (.listAdapters group) =
    .value ⟨id, (adapters.filter fun info => info.supports group).map .value⟩
  readable : ∀ group, ∀ info ∈ adapters, info.supports group = true → info.IsReadable

/-- A script in which nothing fails is such a platform if its adapters are listed under the
attributes that they have. -/
theorem Script.listsBySupport {script : Script} (hlists : ∀ group, script.listFaults group = none)
    (hadapters : ∀ adapter ∈ script.adapters, adapter.listedUnder = adapter.attributes ∧
      adapter.faults = ⟨none, none, none, none, none, none⟩) :
    script.platform.ListsBySupport (script.adapters.map ScriptedAdapter.info) := by
  refine ⟨?_, ?_⟩
  · intro past group
    refine ⟨AdapterAttribute.every.idxOf group, Outcome.unless_eq_value_iff.2 ⟨hlists group, ?_⟩⟩
    rw [Script.list, List.filter_map, List.map_map]
    have hsame : script.adapters.filter (fun adapter => adapter.listedUnder.contains group) =
        script.adapters.filter ((fun info => info.supports group) ∘ ScriptedAdapter.info) := by
      refine List.filter_congr fun adapter hmem => ?_
      rw [(hadapters adapter hmem).1]
      rfl
    rw [hsame]
    refine congrArg (AdapterList.mk _) (List.map_congr_left fun adapter hmem => ?_)
    rw [(hadapters adapter (List.mem_of_mem_filter hmem)).2]
    rfl
  · intro group info hmem _
    obtain ⟨adapter, hadapter, rfl⟩ := List.mem_map.1 hmem
    obtain ⟨-, hfaults⟩ := hadapters adapter hadapter
    rw [ScriptedAdapter.info, hfaults]
    exact ⟨⟨_, rfl⟩, ⟨_, rfl⟩, ⟨_, rfl⟩, ⟨_, rfl⟩, ⟨_, rfl⟩⟩

/-- An enumeration that got one list for each attribute listed what was in them. -/
theorem listedAdapters_eq_flatMap {adaptersUnder : AdapterAttribute → List AdapterRecord}
    {groups : List AdapterAttribute} {talk : List (Exchange platformSystem)}
    (hcalls : talk.map Exchange.call = groups.map .listAdapters)
    (hanswers : ∀ exchange ∈ talk, ∀ group, exchange.call = .listAdapters group →
      listedAdapters [exchange] = adaptersUnder group) :
    listedAdapters talk = groups.flatMap adaptersUnder := by
  induction groups generalizing talk with
  | nil =>
    rw [List.map_eq_nil_iff.1 hcalls]
    rfl
  | cons group rest ih =>
    obtain ⟨exchange, behind, rfl, hcall, hbehind⟩ := List.map_eq_cons_iff.1 hcalls
    rw [List.forall_mem_cons] at hanswers
    rw [← List.singleton_append, listedAdapters_append, List.flatMap_cons,
      hanswers.1 group hcall, ih hbehind hanswers.2]

namespace Platform.ListsBySupport

variable {made : Enumeration} {adapters : List AdapterInfo}

/-- On such a platform every enumeration succeeds. -/
theorem succeeds (h : made.platform.ListsBySupport adapters) : made.Succeeds := by
  rw [Enumeration.succeeds_iff]
  intro exchange hmem
  obtain ⟨past, group, -, rfl⟩ := Enumeration.exists_of_mem_answers hmem
  obtain ⟨id, hanswer⟩ := h.lists past group
  refine ⟨_, by rw [hanswer]; rfl, ?_⟩
  intro place hplace
  obtain ⟨info, hinfo, rfl⟩ := List.mem_map.1 hplace
  obtain ⟨hknown, hsupports⟩ := List.mem_filter.1 hinfo
  exact ⟨info, rfl, h.readable group info hknown hsupports⟩

/-- What an enumeration lists are the adapters that support the attributes it asks for. -/
theorem listed_eq (h : made.platform.ListsBySupport adapters) :
    made.listed =
      (AdapterAttribute.groupsFor made.selection.filter).flatMap (recordsUnder adapters) := by
  refine listedAdapters_eq_flatMap (map_call_exchangesAfter _ _ _) ?_
  intro exchange hmem group hcall
  obtain ⟨past, asked, -, rfl⟩ := Enumeration.exists_of_mem_answers hmem
  rw [← PlatformCall.listAdapters.inj hcall]
  obtain ⟨id, hanswer⟩ := h.lists past asked
  rw [hanswer, recordsUnder]
  simp only [listedAdapters, listsIn, List.filterMap_cons, Exchange.list?, List.filterMap_nil,
    List.flatMap_cons, List.flatMap_nil, List.append_nil, List.filterMap_map]
  rfl

end Platform.ListsBySupport

namespace Catalog

/-- **Nothing is lost by the lists that are not read.** On a platform that lists its adapters by
what they support, an enumeration succeeds, reads the lists of the filter's attributes only, and
returns what reading all lists would have led to, with the same record under every identifier. -/
theorem renewed_eq_ofAllLists (catalog : Catalog) (made : Enumeration)
    (adapters : List AdapterInfo) (h : made.platform.ListsBySupport adapters) :
    made.run.outcome = .value (catalog.renewed made) ∧
      made.run.calls =
        (AdapterAttribute.groupsFor made.selection.filter).map .listAdapters ∧
      (catalog.renewed made).adapters = AdapterSet.ofAllLists made.selection adapters := by
  refine ⟨catalog.outcome_eq_renewed h.succeeds, h.succeeds.calls_eq, ?_⟩
  obtain ⟨-, hadapters, -⟩ := catalog.renewed_eq_foldl h.succeeds
  rw [hadapters, h.listed_eq, AdapterSet.ofAllLists, ← List.foldl_flatMap]
  refine SortedMap.ext_get? fun luid => ?_
  rw [get?_foldl_keep, get?_foldl_keep, lastSelected_groupsFor]

/-- A platform with two adapters under one identifier, of which the first is also listed under an
attribute that is left out when both capabilities are asked for. -/
def sharedIdentifier : Script :=
  { Script.empty with
    adapters := [
      .card 5 ⟨0x10DE, 0x2204, 0x14671458, 1⟩ [.graphics11, .coreCompute],
      .card 5 ⟨0x10DE, 0x2204, 0x14671458, 2⟩ [.graphics12, .coreCompute],
      .card 6 ⟨0x10DE, 0x2204, 0x14671458, 3⟩ [.graphics11]] }

/-- Asking it for adapters with both capabilities. -/
def sharedAsked : Enumeration :=
  ⟨sharedIdentifier.platform, ⟨.displayAndCompute, true, true⟩⟩

/-- The second of the two stands, and the third is not selected, as if all lists had been read. -/
theorem renewed_of_sharedAsked :
    sharedAsked.platform.ListsBySupport
        (sharedIdentifier.adapters.map ScriptedAdapter.info) ∧
      (initial.renewed sharedAsked).adapters = AdapterSet.ofAllLists sharedAsked.selection
        (sharedIdentifier.adapters.map ScriptedAdapter.info) ∧
      (initial.renewed sharedAsked).adapters.values.map
        (fun adapter => (adapter.luid, adapter.hardwareId.revision)) = [(5, 2)] := by
  have hlists : sharedAsked.platform.ListsBySupport
      (sharedIdentifier.adapters.map ScriptedAdapter.info) := by
    refine Script.listsBySupport (fun _ => rfl) ?_
    simp only [sharedIdentifier, List.forall_mem_cons]
    exact ⟨⟨rfl, rfl⟩, ⟨rfl, rfl⟩, ⟨rfl, rfl⟩, List.forall_mem_nil _⟩
  obtain ⟨-, -, hadapters⟩ := renewed_eq_ofAllLists initial sharedAsked _ hlists
  exact ⟨hlists, hadapters, by decide +kernel⟩

end Catalog

end GpuDiscovery
