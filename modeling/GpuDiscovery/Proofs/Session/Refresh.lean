import GpuDiscovery.Proofs.Session.History

/-!
# When a refresh is due

A session keeps two things of its discoveries, and not always of the same one: the devices are
those of the latest discovery that succeeded, while the lists that are asked whether they are stale
are those of the latest one that got through its enumeration. As long as every enumeration leads to
a success the two go together. Where a stage behind the enumeration fails they come apart: the
lists are replaced, the devices are not, and from then on the session no longer looks at the lists
that its devices come from.

`isRefreshRequired_after` says exactly when this shows, for any run: a session with a stale device
list asks for no refresh if and only if its lists were superseded by fresh ones in this way.
-/

namespace GpuDiscovery

open Procedure

namespace Discovery

/-- The lists that the platform handed out to the discovery. -/
def lists (discovery : Discovery) : List Nat :=
  createdLists discovery.talk

/-- What a discovery enumerates holds the lists that were handed out in the whole of it. -/
theorem lists_eq {discovery : Discovery} {enumerated : Catalog}
    (h : discovery.listing.outcome = .value enumerated) :
    enumerated.lists = discovery.lists ∧ enumerated.enumerated = true := by
  rw [listing, run_eq_runAfter] at h
  have hpath := path_runAfter discovery.platform.respond
    (enumeration discovery.selection discovery.resumed) []
  rw [h] at hpath
  obtain ⟨hlists, -, henumerated⟩ := path_enumeration hpath
  refine ⟨?_, henumerated⟩
  -- The exchanges of the straight line are those of the enumeration and, behind them, others.
  have htalk := exchanges_bind_of_value
    (fun enumerated => findDevices discovery.config enumerated.adapters) h
  have hbehind := path_runAfter discovery.platform.respond
    (findDevices discovery.config enumerated.adapters)
    (((enumeration discovery.selection discovery.resumed).runAfter
      discovery.platform.respond []).calls.reverse ++ [])
  have hnone := listsIn_eq_nil ((callsOnly_findDevices _ _).of_path hbehind)
  rw [lists, talk, Run.exchanges, run, run_eq_runAfter, pipeline, htalk, createdLists_append,
    createdLists, createdLists, hnone, List.map_nil, List.append_nil]
  exact hlists

/-- The lists that are looked at after the discovery, given those that were before. -/
def watch (watched : Option (List Nat)) (discovery : Discovery) : Option (List Nat) :=
  match discovery.run.outcome, discovery.listing.outcome with
  | .crashed, _ => none
  | _, .value _ => some discovery.lists
  | _, _ => watched

theorem watch_of_crashes {discovery : Discovery} (h : discovery.Crashes)
    (watched : Option (List Nat)) : discovery.watch watched = none := by
  rw [watch, h.outcome_eq]

theorem watch_of_enumerates {discovery : Discovery} (h : discovery.Enumerates)
    (hcrashes : ¬ discovery.Crashes) (watched : Option (List Nat)) :
    discovery.watch watched = some discovery.lists := by
  obtain ⟨enumerated, henumerated⟩ := h
  rw [Crashes] at hcrashes
  rw [watch, henumerated]
  generalize discovery.run.outcome = outcome at hcrashes ⊢
  rcases outcome with devices | error | _
  · rfl
  · rfl
  · exact absurd rfl hcrashes

theorem watch_of_not_enumerates {discovery : Discovery} (h : ¬ discovery.Enumerates)
    (hcrashes : ¬ discovery.Crashes) (watched : Option (List Nat)) :
    discovery.watch watched = watched := by
  rw [Enumerates, not_exists] at h
  rw [Crashes] at hcrashes
  rw [watch]
  generalize discovery.run.outcome = outcome at hcrashes ⊢
  generalize discovery.listing.outcome = listed at h ⊢
  rcases listed with enumerated | error | _
  · exact absurd rfl (h enumerated)
  · rcases outcome with devices | error | _
    · rfl
    · rfl
    · exact absurd rfl hcrashes
  · rcases outcome with devices | error | _
    · rfl
    · rfl
    · exact absurd rfl hcrashes

/-- What one discovery says of the lists that are looked at after it. -/
theorem watch_eq_some_iff {discovery : Discovery} {watched : Option (List Nat)} {lists : List Nat} :
    discovery.watch watched = some lists ↔
      ¬ discovery.Crashes ∧ (discovery.Enumerates ∧ discovery.lists = lists ∨
        ¬ discovery.Enumerates ∧ watched = some lists) := by
  by_cases hcrashes : discovery.Crashes
  · rw [watch_of_crashes hcrashes]
    simp only [hcrashes, reduceCtorEq, not_true_eq_false, false_and]
  · by_cases henumerates : discovery.Enumerates
    · rw [watch_of_enumerates henumerates hcrashes]
      simp only [hcrashes, henumerates, Option.some.injEq, not_false_eq_true, true_and,
        not_true_eq_false, false_and, or_false]
    · rw [watch_of_not_enumerates henumerates hcrashes]
      simp only [hcrashes, henumerates, not_false_eq_true, true_and, false_and, false_or]

/-- The lists that are looked at after some discoveries are those of the last one that enumerated,
or those from before if none did; and nothing may have crashed since. -/
theorem foldl_watch_eq_some_iff {made : List Discovery} {watched : Option (List Nat)}
    {lists : List Nat} :
    made.foldl watch watched = some lists ↔
      (∃ between last after, made = between ++ last :: after ∧ last.Enumerates ∧
        last.lists = lists ∧ ¬ last.Crashes ∧
        ∀ discovery ∈ after, ¬ discovery.Enumerates ∧ ¬ discovery.Crashes) ∨
      watched = some lists ∧ ∀ discovery ∈ made, ¬ discovery.Enumerates ∧ ¬ discovery.Crashes := by
  -- The induction is from the front, where one discovery changes what the others start with.
  induction made generalizing watched with
  | nil => simp only [List.foldl_nil, List.nil_eq_append_iff, reduceCtorEq, and_false, false_and,
      exists_false, false_or, List.not_mem_nil, false_implies, implies_true, and_true]
  | cons first rest ih =>
    rw [List.foldl_cons, ih, watch_eq_some_iff]
    constructor
    · rintro (⟨between, last, after, rfl, hlast⟩ | ⟨⟨hcrashes, hfirst⟩, hrest⟩)
      · exact .inl ⟨first :: between, last, after, rfl, hlast⟩
      · rcases hfirst with ⟨henumerates, hlists⟩ | ⟨henumerates, hwatched⟩
        · exact .inl ⟨[], first, rest, rfl, henumerates, hlists, hcrashes, hrest⟩
        · exact .inr ⟨hwatched, List.forall_mem_cons.2 ⟨⟨henumerates, hcrashes⟩, hrest⟩⟩
    · rintro (⟨between, last, after, hmade, henumerates, hlists, hcrashes, hafter⟩ |
        ⟨hwatched, hmade⟩)
      · rcases List.cons_eq_append_iff.1 hmade with ⟨rfl, hsplit⟩ | ⟨between, rfl, rfl⟩
        · obtain ⟨rfl, rfl⟩ := List.cons.inj hsplit
          exact .inr ⟨⟨hcrashes, .inl ⟨henumerates, hlists⟩⟩, hafter⟩
        · exact .inl ⟨between, last, after, rfl, henumerates, hlists, hcrashes, hafter⟩
      · obtain ⟨⟨henumerates, hcrashes⟩, hrest⟩ := List.forall_mem_cons.1 hmade
        exact .inr ⟨⟨hcrashes, .inr ⟨henumerates, hwatched⟩⟩, hrest⟩

end Discovery

namespace Session

/-- The lists that the session looks at, if something was enumerated since it last had no
services. -/
def watched (session : Session) : Option (List Nat) :=
  (session.catalog.filter Catalog.enumerated).map Catalog.lists

/-- A session asks for a refresh unless it has devices and looks at fresh lists. -/
theorem isRefreshRequired_eq_false_iff {session : Session} {platform : Platform} :
    session.isRefreshRequired platform = false ↔
      session.devices ≠ none ∧
        ∃ lists, session.watched = some lists ∧ ∀ list ∈ lists, platform.isStale list = false := by
  rw [isRefreshRequired, watched]
  rcases session.devices with _ | devices
  · simp only [Bool.true_eq_false, ne_eq, not_true_eq_false, false_and]
  · rcases session.catalog with _ | catalog
    · simp only [Bool.true_eq_false, Option.filter_none, Option.map_none, reduceCtorEq, false_and,
        exists_false, and_false]
    · by_cases henumerated : catalog.enumerated = true
      · simp [Catalog.isStale, henumerated]
      · simp [Catalog.isStale, henumerated]

/-- A discovery changes the lists that the session looks at as `Discovery.watch` says. -/
theorem watched_discover (session : Session) (platform : Platform) (selection : Selection) :
    (session.discover platform selection).1.watched =
      (session.asked platform selection).watch session.watched := by
  -- Both a success and a failure behind the enumeration leave a catalog of this kind.
  have hlisted : ∀ enumerated,
      (session.asked platform selection).listing.outcome = .value enumerated →
        ((some enumerated).filter Catalog.enumerated).map Catalog.lists =
          some (session.asked platform selection).lists := by
    intro enumerated hlisting
    obtain ⟨hlists, henumerated⟩ := Discovery.lists_eq hlisting
    rw [Option.filter_some, if_pos henumerated, Option.map_some, hlists]
  rcases (session.asked platform selection).finds_or_failsWith_or_crashes with
    ⟨devices, hfinds⟩ | ⟨error, hfails⟩ | hcrashes
  · obtain ⟨enumerated, hlisting, hsession, -⟩ :=
      session.discover_of_finds platform selection hfinds
    rw [hsession, Discovery.watch_of_enumerates ⟨enumerated, hlisting⟩ hfinds.not_crashes]
    exact hlisted enumerated hlisting
  · obtain ⟨kept, hsession, -, ⟨enumerated, hlisting, rfl⟩ | ⟨henumerates, hkept⟩⟩ :=
      session.discover_of_failsWith platform selection hfails
    · rw [hsession, Discovery.watch_of_enumerates ⟨enumerated, hlisting⟩ hfails.not_crashes]
      exact hlisted enumerated hlisting
    · rw [hsession, Discovery.watch_of_not_enumerates henumerates hfails.not_crashes]
      rcases hkept with rfl | ⟨hnone, rfl⟩
      · rfl
      -- A first catalog in which nothing was enumerated is not looked at.
      · rw [watched, watched, hnone]
        rfl
  · obtain ⟨hsession, -⟩ := session.discover_of_crashes platform selection hcrashes
    rw [hsession, Discovery.watch_of_crashes hcrashes]
    rfl

theorem watched_after (config : Config) (steps : List SessionStep) :
    ((new config).after steps).watched =
      ((new config).discoveries steps).foldl Discovery.watch none := by
  induction steps using List.reverseRecOn with
  | nil => rfl
  | append_singleton steps step ih =>
    rw [after_concat, discoveries_concat, List.foldl_append, ← ih]
    rcases step with ⟨platform, selection⟩ | query | result
    · exact watched_discover _ platform selection
    · rfl
    · rcases result with error | value
      · rfl
      · rfl

/-- Some of the discoveries got through its enumeration, on a platform that still holds all its
lists for fresh, and nothing was enumerated or crashed since. -/
def Superseded (later : List Discovery) (now : Platform) : Prop :=
  ∃ between last after, later = between ++ last :: after ∧ last.Enumerates ∧ ¬ last.Crashes ∧
    (∀ list ∈ last.lists, now.isStale list = false) ∧
    ∀ discovery ∈ after, ¬ discovery.Enumerates ∧ ¬ discovery.Crashes

/-- **When a refresh is due.** Before the first success it always is. After it, a list of the latest
success that is stale makes it due, unless later discoveries, none of which succeeded, superseded
the lists. -/
theorem isRefreshRequired_after (config : Config) (steps : List SessionStep) (now : Platform) :
    ((∀ discovery ∈ (new config).discoveries steps, ¬ discovery.Succeeds) →
      ((new config).after steps).isRefreshRequired now = true) ∧
    ∀ earlier latest later, (new config).discoveries steps = earlier ++ latest :: later →
      latest.Succeeds → (∀ discovery ∈ later, ¬ discovery.Succeeds) →
        (∃ list ∈ latest.lists, now.isStale list = true) →
          (((new config).after steps).isRefreshRequired now = true ↔ ¬ Superseded later now) := by
  have hdevices := (reflects_after config steps).devices_eq
  have hwatched := watched_after config steps
  generalize (new config).after steps = session at hdevices hwatched ⊢
  generalize (new config).discoveries steps = made at hdevices hwatched ⊢
  rw [← Bool.not_eq_false, isRefreshRequired_eq_false_iff]
  refine ⟨?_, ?_⟩
  · rintro hnone ⟨hsome, -⟩
    rw [hdevices] at hsome
    exact hsome (Discovery.getLast?_found_eq_none_iff.2 hnone)
  · rintro earlier latest later rfl ⟨devices, hfinds⟩ hlater ⟨stale, hmem, hstale⟩
    have hsome : session.devices = some devices := by
      rw [hdevices]
      exact Discovery.getLast?_found_eq_some_iff.2 ⟨earlier, latest, later, rfl, hfinds, hlater⟩
    have henumerates : latest.Enumerates := Discovery.Succeeds.enumerates ⟨devices, hfinds⟩
    rw [List.foldl_append, List.foldl_cons,
      Discovery.watch_of_enumerates henumerates hfinds.not_crashes] at hwatched
    refine not_congr ?_
    rw [hsome, hwatched]
    simp only [Discovery.foldl_watch_eq_some_iff]
    constructor
    · rintro ⟨-, lists, ⟨between, last, after, rfl, hlast, rfl, hcrashes, hafter⟩ |
        ⟨hlists, -⟩, hfresh⟩
      · exact ⟨between, last, after, rfl, hlast, hcrashes, hfresh, hafter⟩
      -- Had nothing been enumerated since, the stale list would still be looked at.
      · rw [Option.some.inj hlists] at hmem
        rw [hfresh stale hmem] at hstale
        exact absurd hstale Bool.false_ne_true
    · rintro ⟨between, last, after, rfl, hlast, hcrashes, hfresh, hafter⟩
      exact ⟨Option.some_ne_none devices, last.lists,
        .inl ⟨between, last, after, rfl, hlast, rfl, hcrashes, hafter⟩, hfresh⟩

/-- The platform of the outage once its adapters that compute are no longer what they were. -/
def changedOutage : Platform :=
  { outage with staleLists := [.coreCompute] }.platform

/-- Asking for devices that compute, which succeeds. -/
def computeDiscovery : Discovery :=
  ⟨.default none, outage.platform, ⟨.computeOnly, true, true⟩, false⟩

/-- Asking for devices that do not, which fails behind the enumeration. -/
def displayDiscovery : Discovery :=
  ⟨.default none, outage.platform, ⟨.displayOnly, true, true⟩, true⟩

/-- After the success alone, the change makes a refresh due. -/
theorem refresh_due_after_success :
    (new (.default none)).discoveries (throughOutage.take 1) = [computeDiscovery] ∧
      computeDiscovery.Succeeds ∧
      (∃ list ∈ computeDiscovery.lists, changedOutage.isStale list = true) ∧
      ((new (.default none)).after (throughOutage.take 1)).isRefreshRequired changedOutage =
        true := by
  have hsucceeds : computeDiscovery.Succeeds := ⟨[], rfl⟩
  have hstale : ∃ list ∈ computeDiscovery.lists, changedOutage.isStale list = true :=
    ⟨2, List.mem_singleton.2 rfl, rfl⟩
  have hdue := (isRefreshRequired_after (.default none) (throughOutage.take 1) changedOutage).2
    [] computeDiscovery [] rfl hsucceeds (fun _ hmem => absurd hmem List.not_mem_nil) hstale
  refine ⟨rfl, hsucceeds, hstale, hdue.2 ?_⟩
  rintro ⟨between, last, after, hsplit, -⟩
  exact absurd hsplit (by simp)

/-- After the failure behind it, the same change goes unnoticed, though the devices are still those
of the success. -/
theorem refresh_not_due_after_failure :
    ¬ ∀ (config : Config) (steps : List SessionStep) (now : Platform)
      (earlier : List Discovery) (latest : Discovery) (later : List Discovery),
      (new config).discoveries steps = earlier ++ latest :: later → latest.Succeeds →
        (∀ discovery ∈ later, ¬ discovery.Succeeds) →
          (∃ list ∈ latest.lists, now.isStale list = true) →
            ((new config).after steps).isRefreshRequired now = true := by
  intro h
  have hfails : ∃ error, displayDiscovery.FailsWith error := ⟨_, rfl⟩
  obtain ⟨error, hfails⟩ := hfails
  have hdue := h (.default none) throughOutage changedOutage [] computeDiscovery
    [displayDiscovery] rfl ⟨[], rfl⟩
    (fun discovery hmem => by
      rw [List.mem_singleton.1 hmem]
      exact hfails.not_succeeds)
    ⟨2, List.mem_singleton.2 rfl, rfl⟩
  have hmissed :
      ((new (.default none)).after throughOutage).isRefreshRequired changedOutage = false := rfl
  rw [hmissed] at hdue
  exact absurd hdue Bool.false_ne_true

end Session

end GpuDiscovery
