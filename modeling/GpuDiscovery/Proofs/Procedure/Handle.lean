import GpuDiscovery.Proofs.Procedure.Path

/-!
# Handles

Some systems give out handles: one call opens a handle, another one closes it, and what lies between
them uses it. A procedure keeps a handle (`Handle.KeptBy`) if it closes what it opened, once, behind
the last use, however the use ended, and if it closes nothing that it could not open. An answer to
the closing may be a failure; it is noted, and makes no difference to anything else.

Opening, using and closing in this way is one form of procedure (`Handle.during`), and a procedure
of this form keeps its handle as soon as the use itself neither opens nor closes (`keptBy_during`).
-/

namespace GpuDiscovery

open Procedure

variable {S : System} {α : Type}

/-- Runs of a procedure agree if the answers to the calls that it can make agree. -/
theorem Procedure.CallsOnly.runAfter_congr {allowed : S.Call → Prop} {body : Procedure S α}
    (h : body.CallsOnly allowed) {respond other : S.Responder}
    (hagree : ∀ past call, allowed call → respond past call = other past call)
    (past : List S.Call) : body.runAfter respond past = body.runAfter other past := by
  induction body generalizing past with
  | ends outcome => rfl
  | calls call next ih =>
    rw [runAfter, runAfter, hagree past call h.1, ih _ (h.2 _)]
  | informs text next ih => rw [runAfter, runAfter, ih h]
  | warns text next ih => rw [runAfter, runAfter, ih h]

/-- The calls of a run are calls that the procedure can make. -/
theorem Procedure.CallsOnly.of_mem_calls {allowed : S.Call → Prop} {body : Procedure S α}
    (h : body.CallsOnly allowed) {respond : S.Responder} {past : List S.Call} {call : S.Call}
    (hmem : call ∈ (body.runAfter respond past).calls) : allowed call := by
  rw [← map_call_exchangesAfter respond past (body.runAfter respond past).calls] at hmem
  obtain ⟨exchange, hexchange, rfl⟩ := List.mem_map.1 hmem
  exact h.of_path (path_runAfter respond body past) exchange hexchange

/-- A handle of a system. -/
structure Handle (S : System) where
  /-- The call that opens it. -/
  opening : S.Call
  /-- The error for an answer by which there is no handle. -/
  refusal : S.Answer opening → Option DiscoveryError
  /-- The call that closes it. -/
  closing : S.Call
  /-- The note about an answer by which closing failed. -/
  complaint : S.Answer closing → Option String
  /-- The calls that use it. They open nothing and close nothing. -/
  uses : S.Call → Prop
  not_uses_opening : ¬uses opening
  not_uses_closing : ¬uses closing
  opening_ne_closing : opening ≠ closing

namespace Handle

variable (handle : Handle S)

/-- Opens the handle. -/
def acquire : Procedure S Unit := do
  let answer ← perform handle.opening
  (handle.refusal answer).elim (return ()) fail

/-- Closes the handle. -/
def release : Procedure S Unit := do
  let answer ← perform handle.closing
  (handle.complaint answer).elim (return ()) error

/-- Opens the handle for the time of its use. -/
def during (use : Procedure S α) : Procedure S α := do
  handle.acquire
  ensuring use handle.release

/-- The procedure closes the handle if it opened it. -/
structure KeptBy (body : Procedure S α) : Prop where
  /-- Without a handle nothing is done, and nothing closed. -/
  refused : ∀ (respond : S.Responder) (past : List S.Call) (error : DiscoveryError),
    handle.refusal (respond past handle.opening) = some error →
      body.runAfter respond past = ⟨.failed error, [.called handle.opening]⟩
  /-- A handle is closed once, behind all that is done with it, and however that ends. -/
  opened : ∀ (respond : S.Responder) (past : List S.Call),
    handle.refusal (respond past handle.opening) = none →
      ∃ used, (∀ call ∈ callsOf used, handle.uses call) ∧
        (body.runAfter respond past).events =
          .called handle.opening :: (used ++ .called handle.closing ::
            ((handle.complaint (respond ((callsOf used).reverse ++ handle.opening :: past)
              handle.closing)).map Event.error).toList)
  /-- How the closing is answered makes no difference to the outcome, nor to what is called. -/
  unaffected : ∀ (respond other : S.Responder) (past : List S.Call),
    (∀ earlier call, call ≠ handle.closing → respond earlier call = other earlier call) →
      (body.runAfter respond past).outcome = (body.runAfter other past).outcome ∧
        (body.runAfter respond past).calls = (body.runAfter other past).calls

/-- Where one answer means success, a handle is refused by the others. -/
theorem elim_ite {p : Prop} [Decidable p] {β : Type} (reason : β) (next : β → Procedure S Unit) :
    (if p then none else some reason).elim (pure ()) next = if p then pure () else next reason := by
  split
  · rfl
  · rfl

variable (respond : S.Responder) (past : List S.Call)

theorem runAfter_acquire :
    handle.acquire.runAfter respond past =
      ⟨(handle.refusal (respond past handle.opening)).elim (.value ()) .failed,
        [.called handle.opening]⟩ := by
  rw [acquire, runAfter_bind, runAfter_perform]
  dsimp only
  generalize handle.refusal (respond past handle.opening) = refusal
  rcases refusal with _ | error
  · rfl
  · rfl

theorem runAfter_release :
    handle.release.runAfter respond past =
      ⟨.value (), .called handle.closing ::
        ((handle.complaint (respond past handle.closing)).map Event.error).toList⟩ := by
  rw [release, runAfter_bind, runAfter_perform]
  dsimp only
  generalize handle.complaint (respond past handle.closing) = complaint
  rcases complaint with _ | text
  · rfl
  · rfl

/-- A refused handle is not used. -/
theorem runAfter_during_of_refused {error : DiscoveryError}
    (h : handle.refusal (respond past handle.opening) = some error) (use : Procedure S α) :
    (handle.during use).runAfter respond past = ⟨.failed error, [.called handle.opening]⟩ := by
  rw [during, runAfter_bind, runAfter_acquire, h]
  rfl

/-- The run with an opened handle: the opening, the run of its use, and the closing. -/
theorem runAfter_during_of_opened (h : handle.refusal (respond past handle.opening) = none)
    (use : Procedure S α) :
    let used := use.runAfter respond (handle.opening :: past)
    (handle.during use).runAfter respond past =
      ⟨used.outcome, .called handle.opening :: (used.events ++ .called handle.closing ::
        ((handle.complaint (respond (used.calls.reverse ++ handle.opening :: past)
          handle.closing)).map Event.error).toList)⟩ := by
  intro used
  rw [during, runAfter_bind, runAfter_acquire, h]
  dsimp only [Option.elim, callsOf, List.filterMap, List.reverse_singleton, List.singleton_append]
  rw [ensuring_outcome, ensuring_events, runAfter_release]
  rfl

/-- The calls with an opened handle: the closing is the last one. -/
theorem calls_during_of_opened (h : handle.refusal (respond past handle.opening) = none)
    (use : Procedure S α) :
    ((handle.during use).runAfter respond past).calls =
      handle.opening :: ((use.runAfter respond (handle.opening :: past)).calls ++
        [handle.closing]) := by
  rw [handle.runAfter_during_of_opened respond past h, Run.calls]
  generalize handle.complaint _ = complaint
  rcases complaint with _ | text
  · simp [callsOf, Run.calls]
  · simp [callsOf, Run.calls]

/-- **A handle is kept by what opens it for the time of its use.** -/
theorem keptBy_during {use : Procedure S α} (h : use.CallsOnly handle.uses) :
    handle.KeptBy (handle.during use) where
  refused respond past error hrefused :=
    handle.runAfter_during_of_refused respond past hrefused use
  opened respond past hopened := by
    refine ⟨(use.runAfter respond (handle.opening :: past)).events, ?_, ?_⟩
    · intro call hmem
      exact h.of_mem_calls hmem
    · rw [handle.runAfter_during_of_opened respond past hopened]
      rfl
  unaffected respond other past hagree := by
    have hopening := hagree past handle.opening handle.opening_ne_closing
    have huse : use.runAfter respond (handle.opening :: past) =
        use.runAfter other (handle.opening :: past) := by
      apply h.runAfter_congr
      intro earlier call hcall
      apply hagree
      rintro rfl
      exact handle.not_uses_closing hcall
    rcases hrefusal : handle.refusal (respond past handle.opening) with _ | error
    · have hother : handle.refusal (other past handle.opening) = none := hopening ▸ hrefusal
      rw [handle.calls_during_of_opened respond past hrefusal,
        handle.calls_during_of_opened other past hother,
        handle.runAfter_during_of_opened respond past hrefusal,
        handle.runAfter_during_of_opened other past hother, huse]
      exact ⟨rfl, rfl⟩
    · have hother : handle.refusal (other past handle.opening) = some error := hopening ▸ hrefusal
      rw [handle.runAfter_during_of_refused respond past hrefusal,
        handle.runAfter_during_of_refused other past hother]
      exact ⟨rfl, rfl⟩

end Handle

end GpuDiscovery
