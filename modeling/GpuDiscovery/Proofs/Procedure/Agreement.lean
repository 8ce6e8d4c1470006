import GpuDiscovery.Proofs.Procedure.Handle

/-!
# Procedures that two systems answer alike

Two systems may answer a procedure so much alike that it makes the same calls and comes to the same
result with both, although some failure is told of in other words. `AgreesOn` says this of a
procedure, up to a relation between the errors that it may fail with: the equality where nothing
about the errors may differ, and anything where they do not matter. Compositions agree where their
parts do, and behind an attempt, where an error is a result like any other, it is up to what is made
of it whether the errors still matter (`AgreesOn.attempt_bind`).
-/

namespace GpuDiscovery

variable {S : System} {α β : Type} {related : DiscoveryError → DiscoveryError → Prop}

/-- Outcomes are the same, except for an error, for which there is a related one. -/
inductive Outcome.Alike (related : DiscoveryError → DiscoveryError → Prop) :
    Outcome α → Outcome α → Prop where
  | value (result : α) : Alike related (value result) (value result)
  | failed {error other : DiscoveryError} (h : related error other) :
      Alike related (failed error) (failed other)
  | crashed : Alike related crashed crashed

namespace Outcome

theorem Alike.refl (hrelated : ∀ error, related error error) (outcome : Outcome α) :
    outcome.Alike related outcome := by
  cases outcome with
  | value result => exact .value result
  | failed error => exact .failed (hrelated error)
  | crashed => exact .crashed

theorem alike_eq_iff {one other : Outcome α} : one.Alike Eq other ↔ one = other := by
  constructor
  · rintro (_ | rfl | _)
    · rfl
    · rfl
    · rfl
  · rintro rfl
    exact Alike.refl (fun _ => rfl) one

theorem Alike.context (hrelated : ∀ text error other, related error other →
      related (.wrapped text error) (.wrapped text other)) {one other : Outcome α}
    (h : one.Alike related other) (text : String) :
    (one.context text).Alike related (other.context text) := by
  cases h with
  | value result => exact .value result
  | failed h => exact .failed (hrelated text _ _ h)
  | crashed => exact .crashed

end Outcome

namespace Procedure

variable {respond again : S.Responder}

/-- Behind the same calls, the procedure makes the same calls with both systems, and it ends alike
with them. -/
def AgreesOn (related : DiscoveryError → DiscoveryError → Prop) (respond again : S.Responder)
    (body : Procedure S α) : Prop :=
  ∀ past, (body.runAfter respond past).outcome.Alike related (body.runAfter again past).outcome ∧
    (body.runAfter respond past).calls = (body.runAfter again past).calls

/-- What both systems answer in the same way agrees, whatever the relation. -/
theorem AgreesOn.of_callsOnly {allowed : S.Call → Prop} (hrelated : ∀ error, related error error)
    {body : Procedure S α} (h : body.CallsOnly allowed)
    (hsame : ∀ past call, allowed call → respond past call = again past call) :
    body.AgreesOn related respond again := by
  intro past
  rw [h.runAfter_congr hsame past]
  exact ⟨.refl hrelated _, rfl⟩

theorem AgreesOn.bind {first : Procedure S α} {next : α → Procedure S β}
    (hfirst : first.AgreesOn related respond again)
    (hnext : ∀ middle, (next middle).AgreesOn related respond again) :
    (first >>= next).AgreesOn related respond again := by
  intro past
  obtain ⟨houtcome, hcalls⟩ := hfirst past
  rw [runAfter_bind, runAfter_bind]
  generalize first.runAfter respond past = one at houtcome hcalls
  generalize first.runAfter again past = other at houtcome hcalls
  obtain ⟨ending, events⟩ := one
  obtain ⟨otherEnding, others⟩ := other
  change callsOf events = callsOf others at hcalls
  cases houtcome with
  | value middle =>
    obtain ⟨hrest, hbehind⟩ := hnext middle ((callsOf others).reverse ++ past)
    dsimp only
    rw [hcalls]
    refine ⟨hrest, ?_⟩
    rw [Run.calls, Run.calls, callsOf_append, callsOf_append, hcalls]
    exact congrArg (callsOf others ++ ·) hbehind
  | failed h => exact ⟨.failed h, hcalls⟩
  | crashed => exact ⟨.crashed, hcalls⟩

theorem AgreesOn.context (hrelated : ∀ text error other, related error other →
      related (.wrapped text error) (.wrapped text other)) {body : Procedure S α}
    (h : body.AgreesOn related respond again) (text : String) :
    (body.context text).AgreesOn related respond again := by
  intro past
  obtain ⟨houtcome, hcalls⟩ := h past
  rw [runAfter_context, runAfter_context]
  exact ⟨houtcome.context hrelated text, hcalls⟩

/-- Behind an attempt the errors only matter as far as something is made of them. -/
theorem AgreesOn.attempt_bind {body : Procedure S α}
    {next : Except DiscoveryError α → Procedure S β}
    (hbody : body.AgreesOn (fun _ _ => True) respond again)
    (hresult : ∀ result, (next (.ok result)).AgreesOn related respond again)
    (herror : ∀ past error other,
      ((next (.error error)).runAfter respond past).outcome.Alike related
          ((next (.error other)).runAfter again past).outcome ∧
        ((next (.error error)).runAfter respond past).calls =
          ((next (.error other)).runAfter again past).calls) :
    (body.attempt >>= next).AgreesOn related respond again := by
  intro past
  obtain ⟨houtcome, hcalls⟩ := hbody past
  rw [runAfter_bind, runAfter_bind, runAfter_attempt, runAfter_attempt]
  generalize body.runAfter respond past = one at houtcome hcalls
  generalize body.runAfter again past = other at houtcome hcalls
  obtain ⟨ending, events⟩ := one
  obtain ⟨otherEnding, others⟩ := other
  change callsOf events = callsOf others at hcalls
  -- Behind either result the rest of the run has the same calls in its past.
  have hbehind : ∀ {tried otherTried : Run S.Call β},
      tried.outcome.Alike related otherTried.outcome ∧ tried.calls = otherTried.calls →
        tried.outcome.Alike related otherTried.outcome ∧
          callsOf (events ++ tried.events) = callsOf (others ++ otherTried.events) := by
    rintro tried otherTried ⟨hrest, htail⟩
    rw [callsOf_append, callsOf_append, hcalls]
    exact ⟨hrest, congrArg (callsOf others ++ ·) htail⟩
  cases houtcome with
  | value result =>
    dsimp only
    rw [hcalls]
    exact hbehind (hresult result _)
  | failed _ =>
    dsimp only
    rw [hcalls]
    exact hbehind (herror _ _ _)
  | crashed => exact ⟨.crashed, hcalls⟩

end Procedure

end GpuDiscovery
