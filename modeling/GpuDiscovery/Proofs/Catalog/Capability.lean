import GpuDiscovery.Platform.Script
import GpuDiscovery.Proofs.Catalog.Listing

/-!
# Filters and capabilities

A filter names a capability that adapters have or lack (`AdapterRecord.HasCapability`). Whether the
adapters in a catalog are of that kind is decided in two places: by which attributes are listed,
and by what `isExcludedBy` makes of the adapters in the lists. A filter that speaks of both
capabilities has a rule of its own there. The two that ask for one capability, whatever the other,
have none, and for them all attributes are listed: a list of adapters that can do what is asked for,
and one of adapters that need not.

`retained_capable_iff` draws the line. Under every other filter the adapters in the catalog are of
the kind that the filter names. Under these two they are unless some adapter can only do what was
not asked for.
-/

namespace GpuDiscovery

/-! ## What a filter names -/

/-- The adapter has the capability that the filter names, and lacks what the filter says it should
lack. -/
def AdapterRecord.HasCapability (adapter : AdapterRecord) : CapabilityFilter → Prop
  | .all => True
  | .displaySupported => adapter.supportsDisplay = true
  | .computeSupported => adapter.supportsCompute = true
  | .displayOnly => adapter.supportsDisplay = true ∧ adapter.supportsCompute = false
  | .computeOnly => adapter.supportsCompute = true ∧ adapter.supportsDisplay = false
  | .displayAndCompute => adapter.supportsDisplay = true ∧ adapter.supportsCompute = true

/-- The capability that an adapter has by having an attribute. -/
def AdapterAttribute.capability : AdapterAttribute → CapabilityFilter
  | graphics11 | graphics12 => .displaySupported
  | coreCompute => .computeSupported

namespace AdapterRecord

variable {adapter : AdapterRecord}

/-- What is read of an adapter agrees with the attributes it supports. -/
theorem hasCapability_of_read {info : AdapterInfo} {group : AdapterAttribute}
    (hread : info.read = .value adapter) (hsupports : info.supports group = true) :
    adapter.HasCapability group.capability := by
  obtain ⟨-, hdisplay, hcompute⟩ := AdapterInfo.read_eq_value_iff.1 hread
  cases group with
  | graphics11 => exact hdisplay.trans (Bool.or_eq_true_iff.2 (.inl hsupports))
  | graphics12 => exact hdisplay.trans (Bool.or_eq_true_iff.2 (.inr hsupports))
  | coreCompute => exact hcompute.trans hsupports

/-- An adapter from one of the lists that are read for a filter, and not excluded by it, has the
capability that the filter names, or the filter has no rule and the adapter can only do what was not
asked for. -/
theorem hasCapability_or_of_listed {filter : CapabilityFilter} {group : AdapterAttribute}
    (hread : group.isReadFor filter = true) (hlisted : adapter.HasCapability group.capability)
    (hkept : adapter.isExcludedBy filter = false) :
    adapter.HasCapability filter ∨
      filter = .displaySupported ∧ adapter.HasCapability .computeOnly ∨
      filter = .computeSupported ∧ adapter.HasCapability .displayOnly := by
  cases filter with
  | all => exact .inl trivial
  -- Nothing is excluded here, so it depends on the list that the adapter is from.
  | displaySupported =>
    by_cases hdisplay : adapter.supportsDisplay = true
    · exact .inl hdisplay
    · cases group with
      | graphics11 => exact absurd hlisted hdisplay
      | graphics12 => exact absurd hlisted hdisplay
      | coreCompute => exact .inr (.inl ⟨rfl, hlisted, Bool.eq_false_iff.2 hdisplay⟩)
  | computeSupported =>
    by_cases hcompute : adapter.supportsCompute = true
    · exact .inl hcompute
    · cases group with
      | graphics11 => exact .inr (.inr ⟨rfl, hlisted, Bool.eq_false_iff.2 hcompute⟩)
      | graphics12 => exact .inr (.inr ⟨rfl, hlisted, Bool.eq_false_iff.2 hcompute⟩)
      | coreCompute => exact absurd hlisted hcompute
  | displayOnly =>
    cases group with
    | graphics11 => exact .inl ⟨hlisted, hkept⟩
    | graphics12 => exact .inl ⟨hlisted, hkept⟩
    | coreCompute => exact absurd hread Bool.false_ne_true
  | computeOnly =>
    cases group with
    | graphics11 => exact absurd hread Bool.false_ne_true
    | graphics12 => exact absurd hread Bool.false_ne_true
    | coreCompute => exact .inl ⟨hlisted, hkept⟩
  | displayAndCompute =>
    obtain ⟨hdisplay, hcompute⟩ := Bool.or_eq_false_iff.1 hkept
    rw [Bool.not_eq_false'] at hdisplay hcompute
    exact .inl ⟨hdisplay, hcompute⟩

end AdapterRecord

/-! ## What is listed -/

/-- Whatever is listed under an attribute supports it. -/
def Platform.ListsTruly (platform : Platform) : Prop :=
  ∀ past group list, platform.respond past (.listAdapters group) = .value list →
    ∀ info, .value info ∈ list.adapters → info.supports group = true

/-- A script is truthful if its adapters have the attributes under which they are listed. -/
theorem Script.listsTruly {script : Script}
    (h : ∀ adapter ∈ script.adapters, adapter.listedUnder ⊆ adapter.attributes) :
    script.platform.ListsTruly := by
  intro past group list hlist info hinfo
  obtain ⟨-, rfl⟩ := Outcome.unless_eq_value_iff.1 hlist
  obtain ⟨adapter, hmem, hfetched⟩ := List.mem_map.1 hinfo
  obtain ⟨hadapter, hunder⟩ := List.mem_filter.1 hmem
  obtain ⟨-, rfl⟩ := Outcome.unless_eq_value_iff.1 hfetched
  exact List.elem_eq_true_of_mem (h adapter hadapter (List.mem_of_elem_eq_true hunder))

namespace Enumeration

variable {made : Enumeration} {record : AdapterRecord}

/-- What is listed was read from an adapter under an attribute that the filter calls for. -/
theorem exists_group_of_mem_listed (htruly : made.platform.ListsTruly)
    (hmem : record ∈ made.listed) :
    ∃ group : AdapterAttribute, group.isReadFor made.selection.filter = true ∧
      record.HasCapability group.capability := by
  obtain ⟨list, hlist, hplaced⟩ := List.mem_flatMap.1 hmem
  obtain ⟨place, hplace, hrecord⟩ := List.mem_filterMap.1 hplaced
  obtain ⟨info, rfl, hread⟩ := recordAt_eq_some_iff.1 hrecord
  obtain ⟨exchange, hexchange, hanswered⟩ := List.mem_filterMap.1 hlist
  obtain ⟨past, group, hgroup, rfl⟩ := exists_of_mem_answers hexchange
  have hanswer := Exchange.list?_eq_some_iff.1 hanswered
  have hsupports := htruly past group list hanswer info hplace
  exact ⟨group, hgroup, AdapterRecord.hasCapability_of_read hread hsupports⟩

theorem IsLastSelected.mem_listed (h : made.IsLastSelected record) : record ∈ made.listed := by
  obtain ⟨before, after, hlisted, -⟩ := h
  rw [hlisted]
  exact List.mem_append_right before (List.mem_cons_self ..)

theorem IsLastSelected.isSelectedBy (h : made.IsLastSelected record) :
    record.isSelectedBy made.selection = true := by
  obtain ⟨before, after, -, hselected, -⟩ := h
  exact hselected

/-- What the catalog holds of a truthful enumeration is what the selection retains; and it has the
capability that the filter names, or can only do what was not asked for. -/
theorem IsLastSelected.hasCapability_or (hlast : made.IsLastSelected record)
    (htruly : made.platform.ListsTruly) :
    record.HasCapability made.selection.filter ∨
      made.selection.filter = .displaySupported ∧ record.HasCapability .computeOnly ∨
      made.selection.filter = .computeSupported ∧ record.HasCapability .displayOnly := by
  obtain ⟨group, hread, hlisted⟩ := exists_group_of_mem_listed htruly hlast.mem_listed
  have hpasses := AdapterRecord.passes_of_isSelectedBy hlast.isSelectedBy
  exact AdapterRecord.hasCapability_or_of_listed hread hlisted hpasses.filter

end Enumeration

namespace Catalog

/-- **What a filter guarantees.** After a successful enumeration of a truthful platform, every
adapter in the catalog is hardware and passes both gates. All of them are of the kind that the
filter names exactly unless it is one of the two that exclude nothing, and some adapter that is
retained can only do what was not asked for. -/
theorem retained_capable_iff (catalog : Catalog) (made : Enumeration)
    (htruly : made.platform.ListsTruly) (h : made.Succeeds) :
    (∀ luid record, (catalog.renewed made).adapters.get? luid = some record →
      record.Passes made.selection) ∧
    ((∀ luid record, (catalog.renewed made).adapters.get? luid = some record →
        record.HasCapability made.selection.filter) ↔
      ∀ record, made.IsLastSelected record →
        ¬ (made.selection.filter = .displaySupported ∧ record.HasCapability .computeOnly) ∧
        ¬ (made.selection.filter = .computeSupported ∧ record.HasCapability .displayOnly)) := by
  have hholds := catalog.renewed_of_succeeds h
  simp only [hholds.get?_eq_some_iff]
  refine ⟨?_, ?_, ?_⟩
  · rintro luid record ⟨-, hlast⟩
    exact AdapterRecord.passes_of_isSelectedBy hlast.isSelectedBy
  · intro hcapable record hlast
    have hhas := hcapable record.luid record ⟨rfl, hlast⟩
    refine ⟨?_, ?_⟩
    · rintro ⟨hfilter, -, hlacks⟩
      rw [hfilter] at hhas
      exact Bool.false_ne_true (hlacks.symm.trans hhas)
    · rintro ⟨hfilter, -, hlacks⟩
      rw [hfilter] at hhas
      exact Bool.false_ne_true (hlacks.symm.trans hhas)
  · rintro hnone luid record ⟨-, hlast⟩
    obtain ⟨hdisplay, hcompute⟩ := hnone record hlast
    rcases hlast.hasCapability_or htruly with hhas | hopposite | hopposite
    · exact hhas
    · exact absurd hopposite hdisplay
    · exact absurd hopposite hcompute

/-- A platform with one adapter that computes and one that displays. -/
def twoCards : Script :=
  { Script.empty with
    adapters := [
      .card 7 ⟨0x10DE, 0x20B0, 0x14671458, 0xA1⟩ [.coreCompute],
      .card 9 ⟨0x10DE, 0x2204, 0x14671458, 0xA1⟩ [.graphics11, .graphics12]] }

theorem twoCards_listsTruly : twoCards.platform.ListsTruly := by
  refine Script.listsTruly fun adapter hmem => ?_
  rcases List.mem_cons.1 hmem with rfl | hmem
  · exact List.Subset.refl _
  · rw [List.mem_singleton.1 hmem]
    exact List.Subset.refl _

/-- Who asks for adapters that compute and do not display gets the one, and no other. -/
theorem computeOnly_of_twoCards :
    twoCards.platform.ListsTruly ∧
      (⟨twoCards.platform, ⟨.computeOnly, true, true⟩⟩ : Enumeration).Succeeds ∧
      (initial.renewed ⟨twoCards.platform, ⟨.computeOnly, true, true⟩⟩).adapters.keys = [7] ∧
      ∀ luid record, (initial.renewed
          ⟨twoCards.platform, ⟨.computeOnly, true, true⟩⟩).adapters.get? luid = some record →
        record.Passes ⟨.computeOnly, true, true⟩ ∧ record.HasCapability .computeOnly := by
  have hsucceeds : (⟨twoCards.platform, ⟨.computeOnly, true, true⟩⟩ : Enumeration).Succeeds :=
    ⟨_, rfl⟩
  obtain ⟨hpasses, hcapable⟩ := retained_capable_iff initial _ twoCards_listsTruly hsucceeds
  refine ⟨twoCards_listsTruly, hsucceeds, rfl, ?_⟩
  intro luid record hget
  exact ⟨hpasses luid record hget, hcapable.2 (fun _ _ => ⟨nofun, nofun⟩) luid record hget⟩

/-- Who asks for adapters that display also gets the one that only computes. -/
theorem displaySupported_of_twoCards :
    ¬ ∀ (catalog : Catalog) (made : Enumeration), made.platform.ListsTruly → made.Succeeds →
      ∀ luid record, (catalog.renewed made).adapters.get? luid = some record →
        record.Passes made.selection ∧ record.HasCapability made.selection.filter := by
  intro h
  have hsucceeds : (⟨twoCards.platform, ⟨.displaySupported, true, true⟩⟩ : Enumeration).Succeeds :=
    ⟨_, rfl⟩
  obtain ⟨-, hdisplay⟩ := h initial _ twoCards_listsTruly hsucceeds 7
    ⟨7, ⟨0x10DE, 0x20B0, 0x14671458, 0xA1⟩, true, false, false, false, true⟩ rfl
  exact Bool.false_ne_true hdisplay

end Catalog

end GpuDiscovery
