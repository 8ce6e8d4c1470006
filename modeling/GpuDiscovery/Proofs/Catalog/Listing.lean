import GpuDiscovery.Proofs.Catalog.Enumeration
import GpuDiscovery.Proofs.Platform.Course

/-!
# One enumeration

An enumeration asks for the list of one attribute after the other, and reads all of a list before
it asks for the next. That is its course (`Course.listing`), and it is kept to whatever the answers
are. What the answers are, if all lists are asked for, is a matter of the platform and the filter
alone (`Enumeration.answers`), and it decides everything: an enumeration goes through these answers
up to the first that cannot be read (`Enumeration.reads_or_stops`), and succeeds exactly if there is
none (`Enumeration.succeeds_iff`). Only then the catalog changes, and it holds what was last
selected of each identifier among all that the answers list (`Catalog.renewed_of_succeeds`).

Nothing that a catalog holds has any influence on how an enumeration goes, which is why an
`Enumeration` consists of a platform and a selection alone.
-/

namespace GpuDiscovery

open Procedure

/-! ## The course of an enumeration -/

namespace Course

/-- Adapters are listed attribute by attribute, and all that are listed must be readable. -/
def listings (groups : List AdapterAttribute) : Course :=
  inOrder <| groups.map fun group =>
    single (.listAdapters group) fun answer =>
      ∃ list, answer = .value list ∧ ∀ place ∈ list.adapters, (recordAt place).isSome = true

/-- The attributes are those that the filter calls for. -/
def listing (filter : CapabilityFilter) : Course :=
  listings (AdapterAttribute.groupsFor filter)

end Course

namespace Catalog

theorem keeps_readGroups (selection : Selection) (groups : List AdapterAttribute)
    (lists : List Nat) (retained : AdapterSet) :
    (readGroups selection groups lists retained).Keeps (.listings groups) := by
  induction groups generalizing lists retained with
  | nil => exact keeps_pure _
  | cons group rest ih =>
    have hgroup := @keeps_ask_bind _ (.listAdapters group)
      (fun list => ∀ place ∈ list.adapters, (recordAt place).isSome = true) _ _
      (endsAs_readList selection group retained) ?_
      ("creating adapter list for attribute " ++ group.name)
    · rw [readGroups_cons]
      exact hgroup.bind fun _ read _ => ih _ _
    · intro list
      rw [← @exists_records_iff group 0 list.adapters]
      rcases records group 0 list.adapters with adapters | error | _ <;> simp

theorem keeps_enumerate (selection : Selection) :
    (enumerate selection).Keeps (.listing selection.filter) := by
  refine (keeps_readGroups _ _ _ _).bind_nothing fun catalog => ?_
  exact Keeps.value_bind (endsAs_info _) (keeps_pure _)

end Catalog

/-! ## What can be read -/

/-- Each property of the adapter can be read. -/
structure AdapterInfo.IsReadable (info : AdapterInfo) : Prop where
  luid : ∃ luid, info.luid = .value luid
  hardwareId : ∃ hardwareId, info.hardwareId = .value hardwareId
  isHardware : ∃ flag, info.isHardware = .value flag
  isIntegrated : ∃ flag, info.isIntegrated = .value flag
  isDetachable : ∃ flag, info.isDetachable = .value flag

/-- What is read of an adapter: its five properties, and the capabilities that follow from the
attributes it supports. -/
theorem AdapterInfo.read_eq_value_iff {info : AdapterInfo} {record : AdapterRecord} :
    info.read = .value record ↔
      (info.luid = .value record.luid ∧ info.hardwareId = .value record.hardwareId ∧
        info.isHardware = .value record.isHardware ∧
        info.isIntegrated = .value record.isIntegrated ∧
        info.isDetachable = .value record.isDetachable) ∧
      record.supportsDisplay = (info.supports .graphics11 || info.supports .graphics12) ∧
      record.supportsCompute = info.supports .coreCompute := by
  obtain ⟨luid, hardwareId, isHardware, isIntegrated, isDetachable, display, compute⟩ := record
  simp only [read, Outcome.bind_eq_value_iff, Outcome.context_eq_value_iff, Outcome.pure_eq,
    Outcome.value.injEq, AdapterRecord.mk.injEq]
  constructor
  · rintro ⟨_, hluid, _, hid, _, hhardware, _, hintegrated, _, hdetachable,
      rfl, rfl, rfl, rfl, rfl, rfl, rfl⟩
    exact ⟨⟨hluid, hid, hhardware, hintegrated, hdetachable⟩, rfl, rfl⟩
  · rintro ⟨⟨hluid, hid, hhardware, hintegrated, hdetachable⟩, rfl, rfl⟩
    exact ⟨_, hluid, _, hid, _, hhardware, _, hintegrated, _, hdetachable,
      rfl, rfl, rfl, rfl, rfl, rfl, rfl⟩

/-- An adapter has a record exactly if each of its properties can be read. -/
theorem AdapterInfo.exists_read_iff {info : AdapterInfo} :
    (∃ record, info.read = .value record) ↔ info.IsReadable := by
  simp only [read_eq_value_iff]
  constructor
  · rintro ⟨record, ⟨hluid, hid, hhardware, hintegrated, hdetachable⟩, -⟩
    exact ⟨⟨_, hluid⟩, ⟨_, hid⟩, ⟨_, hhardware⟩, ⟨_, hintegrated⟩, ⟨_, hdetachable⟩⟩
  · rintro ⟨⟨_, hluid⟩, ⟨_, hid⟩, ⟨_, hhardware⟩, ⟨_, hintegrated⟩, ⟨_, hdetachable⟩⟩
    exact ⟨⟨_, _, _, _, _, _, _⟩, ⟨hluid, hid, hhardware, hintegrated, hdetachable⟩, rfl, rfl⟩

theorem recordAt_eq_some_iff {fetched : Outcome AdapterInfo} {record : AdapterRecord} :
    recordAt fetched = some record ↔
      ∃ info, fetched = .value info ∧ info.read = .value record := by
  rw [recordAt, Outcome.value?_eq_some_iff, Outcome.bind_eq_value_iff]

theorem isSome_recordAt_iff {fetched : Outcome AdapterInfo} :
    (recordAt fetched).isSome = true ↔ ∃ info, fetched = .value info ∧ info.IsReadable := by
  simp only [Option.isSome_iff_exists, recordAt_eq_some_iff, ← AdapterInfo.exists_read_iff]
  constructor
  · rintro ⟨record, info, hfetched, hread⟩
    exact ⟨info, hfetched, record, hread⟩
  · rintro ⟨info, hfetched, record, hread⟩
    exact ⟨record, info, hfetched, hread⟩

/-- The list handed out for an attribute is the answer, if that is one. -/
theorem Exchange.list?_eq_some_iff {group : AdapterAttribute} {answer : Outcome AdapterList}
    {list : AdapterList} :
    Exchange.list? ⟨.listAdapters group, answer⟩ = some list ↔ answer = .value list := by
  rcases answer with result | error | _
  · simp only [list?, Option.some.injEq, Outcome.value.injEq]
  · simp only [list?, reduceCtorEq]
  · simp only [list?, reduceCtorEq]

/-- The platform answered with a list of adapters. Each of them can be fetched, and each of its
properties can be read. -/
def Exchange.IsReadable (exchange : Exchange platformSystem) : Prop :=
  ∃ list, exchange.list? = some list ∧
    ∀ place ∈ list.adapters, ∃ info, place = .value info ∧ info.IsReadable

/-- One part of the listing is gone through exactly with a readable answer. -/
theorem Exchange.isReadable_iff {group : AdapterAttribute} {answer : Outcome AdapterList} :
    Exchange.IsReadable ⟨.listAdapters group, answer⟩ ↔
      ∃ list, answer = .value list ∧ ∀ place ∈ list.adapters, (recordAt place).isSome = true := by
  simp only [IsReadable, isSome_recordAt_iff, list?_eq_some_iff]

namespace Course

variable {groups : List AdapterAttribute} {talk : Talk}

/-- Who gets through the listing asked for all lists and could read all of them. -/
theorem readable_of_whole
    (h : (listings groups).Whole talk) :
    talk.map Exchange.call = groups.map .listAdapters ∧
      ∀ exchange ∈ talk, exchange.IsReadable := by
  induction groups generalizing talk with
  | nil =>
    rw [show talk = [] from h]
    exact ⟨rfl, List.forall_mem_nil _⟩
  | cons group rest ih =>
    obtain ⟨_, behind, rfl, ⟨answer, rfl, hanswer⟩, hbehind⟩ := h
    obtain ⟨hcalls, hreadable⟩ := ih hbehind
    refine ⟨congrArg (PlatformCall.listAdapters group :: ·) hcalls, ?_⟩
    rw [List.singleton_append, List.forall_mem_cons]
    exact ⟨Exchange.isReadable_iff.2 hanswer, hreadable⟩

/-- Who does not asked for the lists up to the first that could not be read. -/
theorem unreadable_of_broken
    (h : (listings groups).Broken talk) :
    ∃ front last later, talk = front ++ [last] ∧
      groups.map .listAdapters = talk.map Exchange.call ++ later ∧
      (∀ exchange ∈ front, exchange.IsReadable) ∧ ¬ last.IsReadable := by
  induction groups generalizing talk with
  | nil => exact h.elim
  | cons group rest ih =>
    rcases h with ⟨answer, rfl, hanswer⟩ | ⟨_, behind, rfl, ⟨answer, rfl, hanswer⟩, hbehind⟩
    · exact ⟨[], _, rest.map .listAdapters, rfl, rfl, List.forall_mem_nil _,
        fun hread => hanswer (Exchange.isReadable_iff.1 hread)⟩
    · obtain ⟨front, last, later, rfl, hcalls, hfront, hlast⟩ := ih hbehind
      refine ⟨⟨.listAdapters group, answer⟩ :: front, last, later, rfl, ?_, ?_, hlast⟩
      · rw [List.map_cons, hcalls]
        rfl
      · rw [List.forall_mem_cons]
        exact ⟨Exchange.isReadable_iff.2 hanswer, hfront⟩

end Course

/-! ## One enumeration -/

/-- An enumeration that a catalog is asked for. -/
structure Enumeration where
  platform : Platform
  selection : Selection

namespace Enumeration

/-- How the enumeration goes. -/
def run (made : Enumeration) : Run PlatformCall Catalog :=
  (Catalog.enumerate made.selection).run made.platform.respond

/-- What was exchanged with the platform. -/
def talk (made : Enumeration) : Talk :=
  made.run.exchanges made.platform.respond

/-- What the platform answers if all lists that the filter calls for are asked for, one after the
other. -/
def answers (made : Enumeration) : Talk :=
  exchangesAfter made.platform.respond []
    ((AdapterAttribute.groupsFor made.selection.filter).map .listAdapters)

/-- The adapters in these lists, in the order of listing. -/
def listed (made : Enumeration) : List AdapterRecord :=
  listedAdapters made.answers

/-- By which the platform knows these lists. -/
def lists (made : Enumeration) : List Nat :=
  createdLists made.answers

/-- All lists could be read. -/
def Succeeds (made : Enumeration) : Prop :=
  ∃ enumerated, made.run.outcome = .value enumerated

/-- A selected occurrence of an adapter that no selected occurrence follows. -/
def IsLastSelected (made : Enumeration) (record : AdapterRecord) : Prop :=
  ∃ before after, made.listed = before ++ record :: after ∧
    record.isSelectedBy made.selection = true ∧
    ∀ other ∈ after, other.luid = record.luid → other.isSelectedBy made.selection = false

variable {made : Enumeration}

theorem path_run (made : Enumeration) :
    (Catalog.enumerate made.selection).Path made.talk made.run.outcome :=
  Procedure.path_run _ _

/-- Each answer is what the platform says at some time to who asks for a list that the filter calls
for. -/
theorem exists_of_mem_answers {exchange : Exchange platformSystem} (h : exchange ∈ made.answers) :
    ∃ past, ∃ group : AdapterAttribute, group.isReadFor made.selection.filter = true ∧
      exchange = ⟨.listAdapters group, made.platform.respond past (.listAdapters group)⟩ := by
  obtain ⟨past, hanswer⟩ := exists_past_of_mem_exchangesAfter h
  have hcall := List.mem_map_of_mem (f := Exchange.call) h
  rw [answers, map_call_exchangesAfter] at hcall
  obtain ⟨group, hgroup, hcall⟩ := List.mem_map.1 hcall
  obtain ⟨call, answer⟩ := exchange
  cases hcall
  exact ⟨past, group, (List.mem_filter.1 hgroup).2, congrArg (Exchange.mk _) hanswer⟩

/-- What was exchanged is the beginning of the answers if the calls are the first of those for the
lists. -/
theorem answers_eq_append {later : List PlatformCall}
    (h : (AdapterAttribute.groupsFor made.selection.filter).map .listAdapters =
      made.talk.map Exchange.call ++ later) :
    ∃ behind, made.answers = made.talk ++ behind ∧ behind.map Exchange.call = later := by
  rw [talk, Run.exchanges, map_call_exchangesAfter] at h
  rw [answers, h, exchangesAfter_append]
  exact ⟨_, rfl, map_call_exchangesAfter _ _ _⟩

/-- The enumeration ended with the first answer that cannot be read. -/
def Stops (made : Enumeration) : Prop :=
  ∃ front last behind, made.answers = front ++ last :: behind ∧ made.talk = front ++ [last] ∧
    (∀ exchange ∈ front, exchange.IsReadable) ∧ ¬ last.IsReadable

/-- **How an enumeration goes.** It gets all answers, can read them and succeeds, or it stops at the
first that it cannot read. -/
theorem reads_or_stops (made : Enumeration) :
    (made.Succeeds ∧ made.talk = made.answers ∧ ∀ exchange ∈ made.answers, exchange.IsReadable) ∨
      ¬ made.Succeeds ∧ made.Stops := by
  have hkeeps := Catalog.keeps_enumerate _ _ _ made.path_run
  have hbroken (h : (Course.listing made.selection.filter).Broken made.talk) : made.Stops := by
    obtain ⟨front, last, later, htalk, hcalls, hfront, hlast⟩ := Course.unreadable_of_broken h
    obtain ⟨behind, hanswers, -⟩ := answers_eq_append hcalls
    rw [htalk, List.append_assoc] at hanswers
    exact ⟨front, last, behind, hanswers, htalk, hfront, hlast⟩
  rw [Succeeds]
  rcases houtcome : made.run.outcome with enumerated | error | _
  · rw [houtcome] at hkeeps
    obtain ⟨hcalls, hreadable⟩ := Course.readable_of_whole hkeeps
    obtain ⟨behind, hanswers, hbehind⟩ :=
      answers_eq_append (hcalls.symm.trans (List.append_nil _).symm)
    rw [List.map_eq_nil_iff.1 hbehind, List.append_nil] at hanswers
    rw [hanswers]
    exact .inl ⟨⟨enumerated, rfl⟩, rfl, hreadable⟩
  · rw [houtcome] at hkeeps
    exact .inr ⟨nofun, hbroken hkeeps⟩
  · rw [houtcome] at hkeeps
    exact .inr ⟨nofun, hbroken hkeeps⟩

/-- **When an enumeration succeeds**: exactly if every answer of the platform is a list of which
everything can be read, whatever the attribute and the place. -/
theorem succeeds_iff : made.Succeeds ↔ ∀ exchange ∈ made.answers, exchange.IsReadable := by
  rcases made.reads_or_stops with ⟨hsucceeds, -, hreadable⟩ | ⟨hfails, hstops⟩
  · exact iff_of_true hsucceeds hreadable
  · obtain ⟨front, last, behind, hanswers, -, -, hlast⟩ := hstops
    refine iff_of_false hfails fun hreadable => hlast (hreadable last ?_)
    rw [hanswers]
    exact List.mem_append_right front List.mem_cons_self

theorem stops_of_not_succeeds (h : ¬ made.Succeeds) : made.Stops := by
  rcases made.reads_or_stops with ⟨hsucceeds, -⟩ | ⟨-, hstops⟩
  · exact absurd hsucceeds h
  · exact hstops

/-- A success went through the lists of all attributes that the filter calls for. -/
theorem Succeeds.talk_eq (h : made.Succeeds) : made.talk = made.answers := by
  rcases made.reads_or_stops with ⟨-, htalk, -⟩ | ⟨hfails, -⟩
  · exact htalk
  · exact absurd h hfails

theorem Succeeds.calls_eq (h : made.Succeeds) :
    made.run.calls = (AdapterAttribute.groupsFor made.selection.filter).map .listAdapters := by
  have hcalls := congrArg (List.map Exchange.call) h.talk_eq
  rwa [talk, Run.exchanges, answers, map_call_exchangesAfter, map_call_exchangesAfter] at hcalls

/-- The last selected occurrence of an identifier, without the list that was sifted for it. -/
theorem lastSelected_eq_some_iff {luid : Luid} {record : AdapterRecord} :
    lastSelected made.selection made.listed luid = some record ↔
      record.luid = luid ∧ made.IsLastSelected record := by
  rw [lastSelected, List.getLast?_eq_some_iff, IsLastSelected]
  constructor
  · rintro ⟨earlier, hsifted⟩
    obtain ⟨first, rest, hlisted, -, hrest⟩ := List.filter_eq_append_iff.1 hsifted
    obtain ⟨middle, after, rfl, -, hrecord, hafter⟩ := List.filter_eq_cons_iff.1 hrest
    rw [Bool.and_eq_true, decide_eq_true_eq] at hrecord
    obtain ⟨hselected, rfl⟩ := hrecord
    refine ⟨rfl, first ++ middle, after, by rw [hlisted, List.append_assoc], hselected, ?_⟩
    intro other hmem hluid
    have hnone := List.filter_eq_nil_iff.1 hafter other hmem
    rw [hluid, decide_eq_true rfl, Bool.and_true] at hnone
    exact Bool.eq_false_iff.2 hnone
  · rintro ⟨rfl, before, after, hlisted, hselected, hafter⟩
    -- Behind the occurrence nothing is left to be sifted out.
    have hnone : after.filter (fun adapter =>
        adapter.isSelectedBy made.selection && adapter.luid = record.luid) = [] := by
      rw [List.filter_eq_nil_iff]
      intro other hmem hsifted
      rw [Bool.and_eq_true, decide_eq_true_eq] at hsifted
      rw [hafter other hmem hsifted.2] at hsifted
      exact Bool.false_ne_true hsifted.1
    rw [hlisted, List.filter_append, List.filter_cons_of_pos (by simp [hselected]), hnone]
    exact ⟨_, rfl⟩

end Enumeration

/-! ## The catalog behind it -/

namespace Catalog

variable {made : Enumeration}

/-- The catalog after one more enumeration. -/
def renewed (catalog : Catalog) (made : Enumeration) : Catalog :=
  (catalog.renew made.platform made.selection).1

/-- What a catalog holds of an enumeration. -/
structure Holds (catalog : Catalog) (made : Enumeration) : Prop where
  /-- The identifiers are those of which some listed occurrence is selected. -/
  contains_iff : ∀ luid, catalog.adapters.contains luid = true ↔
    ∃ adapter ∈ made.listed, adapter.isSelectedBy made.selection = true ∧ adapter.luid = luid
  /-- Under each of them stands its last selected occurrence, also where an occurrence that is not
  selected follows. -/
  get?_eq_some_iff : ∀ luid record, catalog.adapters.get? luid = some record ↔
    record.luid = luid ∧ made.IsLastSelected record
  lists_eq : catalog.lists = made.lists
  enumerated : catalog.enumerated = true

/-- A successful enumeration returns the catalog that it leaves. -/
theorem outcome_eq_renewed (catalog : Catalog) (h : made.Succeeds) :
    made.run.outcome = .value (catalog.renewed made) := by
  obtain ⟨enumerated, houtcome⟩ := h
  rw [renewed, renew]
  rw [Enumeration.run] at houtcome ⊢
  rw [houtcome]

/-- After a success the catalog is the fold of what was listed, whatever it was before. -/
theorem renewed_eq_foldl (catalog : Catalog) (h : made.Succeeds) :
    (catalog.renewed made).lists = made.lists ∧
      (catalog.renewed made).adapters =
        made.listed.foldl (AdapterSet.keep made.selection) .empty ∧
      (catalog.renewed made).enumerated = true := by
  have hpath := made.path_run
  rw [catalog.outcome_eq_renewed h, h.talk_eq] at hpath
  exact path_enumerate hpath

/-- A successful enumeration leaves a catalog that holds it. -/
theorem renewed_of_succeeds (catalog : Catalog) (h : made.Succeeds) :
    (catalog.renewed made).Holds made := by
  obtain ⟨hlists, hadapters, henumerated⟩ := catalog.renewed_eq_foldl h
  have hlookup : ∀ luid, (catalog.renewed made).adapters.get? luid =
      lastSelected made.selection made.listed luid := by
    intro luid
    rw [hadapters, get?_foldl_keep_empty]
  refine ⟨?_, ?_, hlists, henumerated⟩
  · intro luid
    rw [SortedMap.contains, hlookup, isSome_lastSelected, List.any_eq_true]
    simp only [Bool.and_eq_true, decide_eq_true_eq]
  · intro luid record
    rw [hlookup]
    exact Enumeration.lastSelected_eq_some_iff

/-- Any other leaves the catalog as it was. -/
theorem renewed_of_not_succeeds (catalog : Catalog) (h : ¬ made.Succeeds) :
    catalog.renewed made = catalog := by
  rw [Enumeration.Succeeds, Enumeration.run, not_exists] at h
  rw [renewed, renew]
  generalize (enumerate made.selection).run made.platform.respond = ran at h ⊢
  rcases ran with ⟨enumerated | error | _, events⟩
  · exact absurd rfl (h enumerated)
  · rfl
  · rfl

end Catalog

end GpuDiscovery
