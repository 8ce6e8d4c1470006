import GpuDiscovery.Platform.Script
import GpuDiscovery.Proofs.Catalog.Listing

/-!
# A catalog over its enumerations

A catalog is asked for one enumeration after the other, by different selections and while the
platform changes; whether an enumeration succeeds may change each time. What the catalog knows is
always of one enumeration as a whole, the latest that succeeded: its adapters are what was last
selected in the lists that the platform has for its filter, and these lists are the ones that make
it stale. Enumerations that failed since have left no trace, wherever in which list they failed.

None of this is said in terms of what an enumeration happened to ask. Its lists are those that the
platform answers with to who asks for all of them, and that an enumeration does ask for them is part
of what is proved (`Catalog.Follows`).
-/

namespace GpuDiscovery

/-- Some enumeration is the latest that succeeded, unless none did. -/
theorem Enumeration.exists_latest_or (made : List Enumeration) :
    (∀ other ∈ made, ¬ other.Succeeds) ∨
      ∃ earlier latest later, made = earlier ++ latest :: later ∧ latest.Succeeds ∧
        ∀ other ∈ later, ¬ other.Succeeds := by
  induction made using List.reverseRecOn with
  | nil => exact .inl (List.forall_mem_nil _)
  | append_singleton made last ih =>
    by_cases hlast : last.Succeeds
    · exact .inr ⟨made, last, [], rfl, hlast, List.forall_mem_nil _⟩
    · have hbehind : ∀ other ∈ [last], ¬ other.Succeeds := by
        intro other hmem
        rw [List.mem_singleton.1 hmem]
        exact hlast
      rcases ih with hnone | ⟨earlier, latest, later, rfl, hlatest, hlater⟩
      · exact .inl (List.forall_mem_append.2 ⟨hnone, hbehind⟩)
      · refine .inr ⟨earlier, latest, later ++ [last], ?_, hlatest,
          List.forall_mem_append.2 ⟨hlater, hbehind⟩⟩
        rw [List.append_assoc, List.cons_append]

namespace Catalog

/-- The catalog after some enumerations, oldest first. -/
def after (catalog : Catalog) (made : List Enumeration) : Catalog :=
  made.foldl renewed catalog

/-- Enumerations that fail change nothing. -/
theorem after_of_forall_not_succeeds (catalog : Catalog) {made : List Enumeration}
    (h : ∀ other ∈ made, ¬ other.Succeeds) : catalog.after made = catalog := by
  induction made with
  | nil => rfl
  | cons first rest ih =>
    rw [List.forall_mem_cons] at h
    rw [after, List.foldl_cons, catalog.renewed_of_not_succeeds h.1]
    exact ih h.2

/-- The catalog holds the latest enumeration that succeeded, whatever it held before. -/
theorem holds_latest (catalog : Catalog) {earlier later : List Enumeration} {latest : Enumeration}
    (hlatest : latest.Succeeds) (hlater : ∀ other ∈ later, ¬ other.Succeeds) :
    (catalog.after (earlier ++ latest :: later)).Holds latest := by
  have hsplit : catalog.after (earlier ++ latest :: later) =
      ((catalog.after earlier).renewed latest).after later := by
    rw [after, List.foldl_append, List.foldl_cons]
    rfl
  rw [hsplit, after_of_forall_not_succeeds _ hlater]
  exact renewed_of_succeeds _ hlatest

/-- A catalog that holds an enumeration is stale as soon as one of its lists is. -/
theorem Holds.isStale_iff {catalog : Catalog} {made : Enumeration} (h : catalog.Holds made)
    (now : Platform) :
    catalog.isStale now = true ↔ ∃ list ∈ made.lists, now.isStale list = true := by
  rw [isStale, h.enumerated, Bool.not_true, Bool.false_or, List.any_eq_true, h.lists_eq]

/-- What a catalog is by the enumerations it was asked for, and what becomes of it with one more. -/
structure Follows (catalog : Catalog) (made : List Enumeration) : Prop where
  /-- If none succeeded the catalog is as at the start. -/
  eq_initial : (∀ other ∈ made, ¬ other.Succeeds) → catalog = initial
  /-- Otherwise it holds the latest that did. -/
  holds : ∀ earlier latest later, made = earlier ++ latest :: later → latest.Succeeds →
    (∀ other ∈ later, ¬ other.Succeeds) → catalog.Holds latest
  /-- It is stale if none succeeded, or a list created for the latest that did is. -/
  isStale_iff : ∀ now, catalog.isStale now = true ↔
    (∀ other ∈ made, ¬ other.Succeeds) ∨
      ∃ earlier latest later, made = earlier ++ latest :: later ∧ latest.Succeeds ∧
        (∀ other ∈ later, ¬ other.Succeeds) ∧ ∃ list ∈ latest.lists, now.isStale list = true
  /-- One more succeeds exactly if the lists for its filter are all created and everything in them
  can be read. -/
  succeeds_iff : ∀ next : Enumeration,
    next.Succeeds ↔ ∀ exchange ∈ next.answers, exchange.IsReadable
  /-- If it succeeds it asked for each of these lists, in order, and for nothing else. -/
  calls_eq : ∀ next : Enumeration, next.Succeeds → next.run.calls =
    (AdapterAttribute.groupsFor next.selection.filter).map .listAdapters
  /-- What it was told are all the answers of the platform, -/
  talk_eq : ∀ next : Enumeration, next.Succeeds → next.talk = next.answers
  /-- and the catalog then holds it. -/
  renewed_holds : ∀ next : Enumeration, next.Succeeds → (catalog.renewed next).Holds next
  /-- If it does not succeed it ended with the first list that cannot be created or read. -/
  stops : ∀ next : Enumeration, ¬ next.Succeeds → next.Stops
  /-- The catalog then stays as it is. -/
  renewed_eq : ∀ next : Enumeration, ¬ next.Succeeds → catalog.renewed next = catalog

/-- **A catalog follows its enumerations.** -/
theorem follows_after (made : List Enumeration) : (initial.after made).Follows made := by
  have hholds : ∀ earlier latest later, made = earlier ++ latest :: later → latest.Succeeds →
      (∀ other ∈ later, ¬ other.Succeeds) → (initial.after made).Holds latest := by
    rintro earlier latest later rfl hlatest hlater
    exact initial.holds_latest hlatest hlater
  refine ⟨initial.after_of_forall_not_succeeds, hholds, ?_,
    fun _ => Enumeration.succeeds_iff, fun _ => Enumeration.Succeeds.calls_eq,
    fun _ => Enumeration.Succeeds.talk_eq, fun _ => renewed_of_succeeds _,
    fun _ => Enumeration.stops_of_not_succeeds, fun _ => renewed_of_not_succeeds _⟩
  intro now
  rcases Enumeration.exists_latest_or made with
    hnone | ⟨earlier, latest, later, hmade, hlatest, hlater⟩
  · rw [initial.after_of_forall_not_succeeds hnone]
    exact iff_of_true rfl (.inl hnone)
  · constructor
    · intro hstale
      have hlist := ((hholds earlier latest later hmade hlatest hlater).isStale_iff now).1 hstale
      exact .inr ⟨earlier, latest, later, hmade, hlatest, hlater, hlist⟩
    -- Any split at a latest success will do, so the two need not be shown to be the same.
    · rintro (hnone | ⟨earlier', latest', later', hmade', hlatest', hlater', hlist⟩)
      · have hmem : latest ∈ made := by
          rw [hmade]
          exact List.mem_append_right earlier (List.mem_cons_self ..)
        exact absurd hlatest (hnone latest hmem)
      · exact ((hholds earlier' latest' later' hmade' hlatest' hlater').isStale_iff now).2 hlist

/-- A platform whose lists disagree about an adapter. The occurrence that is not selected is in the
later one. -/
def disagreeing : Script :=
  { Script.empty with
    adapters := [
      .card 5 ⟨0x10DE, 0x2204, 0x14671458, 1⟩ [.graphics11],
      { ScriptedAdapter.card 5 ⟨0x10DE, 0x2204, 0x14671458, 2⟩ [.coreCompute] with
        isHardware := false }] }

/-- Asking it for all adapters. -/
def disagreementAsked : Enumeration :=
  ⟨disagreeing.platform, ⟨.all, true, true⟩⟩

/-- Asking again after an adapter was added that cannot be read, in the second of three lists. -/
def unreadableAsked : Enumeration :=
  let unreadable :=
    { ScriptedAdapter.card 6 ⟨0x10DE, 0x2204, 0x14671458, 3⟩ [.graphics12] with
      faults := ⟨none, none, some (.error .unsupportedPlatform), none, none, none⟩ }
  let enlarged := { disagreeing with adapters := disagreeing.adapters ++ [unreadable] }
  ⟨enlarged.platform, ⟨.all, true, true⟩⟩

/-- The second enumeration ends with the list that it cannot read, and the catalog still holds the
first one, in which the earlier occurrence of the adapter stands. It is stale once a list of the
first one is. -/
theorem follows_after_unreadableAsked :
    let made := [disagreementAsked, unreadableAsked]
    let changed := { disagreeing with staleLists := [.coreCompute] }.platform
    disagreementAsked.Succeeds ∧ ¬ unreadableAsked.Succeeds ∧
      disagreementAsked.run.calls =
        [.listAdapters .graphics11, .listAdapters .graphics12, .listAdapters .coreCompute] ∧
      unreadableAsked.Stops ∧
      unreadableAsked.run.calls = [.listAdapters .graphics11, .listAdapters .graphics12] ∧
      (initial.after made).Holds disagreementAsked ∧
      (initial.after made).adapters.values.map
        (fun adapter => (adapter.luid, adapter.hardwareId.revision)) = [(5, 1)] ∧
      (initial.after made).isStale disagreeing.platform = false ∧
      (initial.after made).isStale changed = true := by
  intro made changed
  have hsucceeds : disagreementAsked.Succeeds := ⟨_, rfl⟩
  have hfailed : ∃ error, unreadableAsked.run.outcome = .failed error := ⟨_, rfl⟩
  have hfails : ¬ unreadableAsked.Succeeds := by
    obtain ⟨error, hfailed⟩ := hfailed
    rintro ⟨enumerated, hvalue⟩
    rw [hfailed] at hvalue
    cases hvalue
  have hlater : ∀ other ∈ [unreadableAsked], ¬ other.Succeeds := List.forall_mem_singleton.2 hfails
  have hstale : ∃ list ∈ disagreementAsked.lists, changed.isStale list = true :=
    ⟨2, by decide +kernel, rfl⟩
  have hfollows := follows_after made
  have hholds := hfollows.holds [] disagreementAsked [unreadableAsked] rfl hsucceeds hlater
  refine ⟨hsucceeds, hfails, hfollows.calls_eq _ hsucceeds, hfollows.stops _ hfails,
    by decide +kernel, hholds, by decide +kernel, by decide +kernel, ?_⟩
  exact (hfollows.isStale_iff changed).2 (.inr
    ⟨[], disagreementAsked, [unreadableAsked], rfl, hsucceeds, hlater, hstale⟩)

end Catalog

end GpuDiscovery
