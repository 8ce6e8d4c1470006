import GpuDiscovery.Outcome
import Mathlib.Data.List.Forall2

/-!
# Steps one after the other

A loop whose steps all need a result is a `mapM` in the outcomes: it has a result exactly if each of
its steps has one, and the results are those of the steps, in order. Where the steps are numbered,
the numbers are for the error texts only.
-/

namespace GpuDiscovery

namespace Outcome

variable {α β : Type}

/-- The result of a step that has one. -/
def value? : Outcome α → Option α
  | .value result => some result
  | .failed _ | .crashed => none

@[simp] theorem value?_eq_some_iff {outcome : Outcome α} {result : α} :
    outcome.value? = some result ↔ outcome = .value result := by
  cases outcome <;> simp [value?]

@[simp] theorem value?_context (outcome : Outcome α) (text : String) :
    (outcome.context text).value? = outcome.value? := by
  cases outcome <;> rfl

/-- There is a value exactly if there is one of which to read it. -/
theorem isSome_value?_iff {outcome : Outcome α} :
    outcome.value?.isSome = true ↔ ∃ result, outcome = .value result := by
  rw [Option.isSome_iff_exists]
  exact exists_congr fun result => value?_eq_some_iff

/-- An outcome without a value is also the outcome of whatever was to come behind. -/
inductive StopsAs : Outcome α → Outcome β → Prop where
  | failed (error : DiscoveryError) : StopsAs (failed error) (failed error)
  | crashed : StopsAs crashed crashed

theorem StopsAs.bind_eq {outcome : Outcome α} {stopped : Outcome β} (h : outcome.StopsAs stopped)
    (next : α → Outcome β) : (outcome >>= next) = stopped := by
  cases h with
  | failed error => rfl
  | crashed => rfl

/-- Steps that all have results have them one by one. -/
theorem mapM_eq_value_iff {f : α → Outcome β} {xs : List α} {results : List β} :
    xs.mapM f = Outcome.value results ↔
      List.Forall₂ (fun x result => f x = .value result) xs results := by
  induction xs generalizing results with
  | nil =>
    rw [List.mapM_nil, List.forall₂_nil_left_iff]
    exact ⟨fun h => (value.inj h).symm, fun h => by rw [h]; rfl⟩
  | cons x rest ih =>
    rw [List.mapM_cons, List.forall₂_cons_left_iff, bind_eq_value_iff]
    simp only [bind_eq_value_iff, ih]
    constructor
    · rintro ⟨first, hfirst, others, hothers, hresults⟩
      exact ⟨first, others, hfirst, hothers, (value.inj hresults).symm⟩
    · rintro ⟨first, others, hfirst, hothers, rfl⟩
      exact ⟨first, hfirst, others, hothers, rfl⟩

/-- Steps have results exactly if each of them has one. -/
theorem exists_mapM_eq_value_iff {f : α → Outcome β} {xs : List α} :
    (∃ results, xs.mapM f = Outcome.value results) ↔
      ∀ x ∈ xs, (f x).value?.isSome = true := by
  simp only [mapM_eq_value_iff]
  induction xs with
  | nil => exact ⟨fun _ => nofun, fun _ => ⟨[], .nil⟩⟩
  | cons x rest ih =>
    rw [List.forall_mem_cons, ← ih, isSome_value?_iff]
    simp only [List.forall₂_cons_left_iff]
    constructor
    · rintro ⟨-, first, others, hfirst, hothers, rfl⟩
      exact ⟨⟨first, hfirst⟩, others, hothers⟩
    · rintro ⟨⟨first, hfirst⟩, others, hothers⟩
      exact ⟨_, first, others, hfirst, hothers, rfl⟩

/-- Steps fail as the first of them does that has no result. Those behind it are not taken. -/
theorem mapM_eq_failed_iff {f : α → Outcome β} {xs : List α} {error : DiscoveryError} :
    xs.mapM f = Outcome.failed error ↔
      ∃ before x after, xs = before ++ x :: after ∧
        (∀ earlier ∈ before, (f earlier).value?.isSome = true) ∧ f x = .failed error := by
  induction xs with
  | nil =>
    refine iff_of_false nofun ?_
    rintro ⟨before, x, after, hxs, -⟩
    exact absurd hxs (List.append_ne_nil_of_right_ne_nil _ (List.cons_ne_nil _ _)).symm
  | cons y rest ih =>
    rw [List.mapM_cons, bind_eq_failed_iff]
    simp only [bind_eq_failed_iff, ih]
    constructor
    · rintro (hy | ⟨first, hy, ⟨before, x, after, rfl, hbefore, hx⟩ | ⟨others, -, hnone⟩⟩)
      · exact ⟨[], y, rest, rfl, List.forall_mem_nil _, hy⟩
      · refine ⟨y :: before, x, after, rfl, List.forall_mem_cons.2 ⟨?_, hbefore⟩, hx⟩
        exact isSome_value?_iff.2 ⟨first, hy⟩
      · cases hnone
    · rintro ⟨before, x, after, hxs, hbefore, hx⟩
      rcases before with _ | ⟨first, before⟩
      · obtain ⟨rfl, -⟩ := List.cons.inj hxs
        exact .inl hx
      · obtain ⟨rfl, rfl⟩ := List.cons.inj hxs
        rw [List.forall_mem_cons] at hbefore
        obtain ⟨result, hresult⟩ := isSome_value?_iff.1 hbefore.1
        exact .inr ⟨result, hresult, .inl ⟨before, x, after, rfl, hbefore.2, hx⟩⟩

/-- Where neither part crashes, both together do not. -/
theorem bind_ne_crashed {outcome : Outcome α} {next : α → Outcome β} (h : outcome ≠ crashed)
    (hnext : ∀ result, next result ≠ crashed) : (outcome >>= next) ≠ crashed := by
  rcases outcome with result | error | _
  · exact hnext result
  · exact nofun
  · exact absurd rfl h

/-- Steps that do not crash do not crash together. -/
theorem mapM_ne_crashed {f : α → Outcome β} {xs : List α} (h : ∀ x ∈ xs, f x ≠ crashed) :
    xs.mapM f ≠ Outcome.crashed := by
  induction xs with
  | nil => exact nofun
  | cons x rest ih =>
    rw [List.forall_mem_cons] at h
    rw [List.mapM_cons]
    refine bind_ne_crashed h.1 fun first => ?_
    exact bind_ne_crashed (ih h.2) fun others => nofun

/-- The results that steps have are the results of the steps that have one. -/
theorem filterMap_value?_of_mapM {f : α → Outcome β} {xs : List α} {results : List β}
    (h : xs.mapM f = Outcome.value results) : xs.filterMap (fun x => (f x).value?) = results := by
  rw [mapM_eq_value_iff] at h
  induction h with
  | nil => rfl
  | cons hfirst _ ih => simp only [List.filterMap_cons, value?_eq_some_iff.2 hfirst, ih]

end Outcome

/-! ## Numbered steps -/

/-- What is done with the members of a list does not depend on their numbers. -/
theorem filterMap_zipIdx_fst {α β : Type} (f : α → Option β) (xs : List α) (index : Nat) :
    (xs.zipIdx index).filterMap (fun x => f x.1) = xs.filterMap f := by
  conv_rhs => rw [← List.zipIdx_map_fst index xs, List.filterMap_map]
  rfl

theorem forall_mem_zipIdx_fst {α : Type} {p : α → Prop} {xs : List α} {index : Nat} :
    (∀ x ∈ xs.zipIdx index, p x.1) ↔ ∀ x ∈ xs, p x := by
  conv_rhs => rw [← List.zipIdx_map_fst index xs]
  rw [List.forall_mem_map]

end GpuDiscovery
