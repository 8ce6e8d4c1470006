import GpuDiscovery.Proofs.Procedure.Path

/-!
# Systems that answer a call in one way

A table answers a call in the same way whenever it is made. Then the past plays no part, and a
procedure can be evaluated: `outcomeBy` says how it ends, `callsBy` what it calls, and both go
through a composition part by part. What is evaluated is what is run (`runAfter_const`).

A procedure that stops at the first of several faults is described by the list of all of them, those
included that it no longer comes to (`Outcome.ofFaults`). Such lists are put together where the
procedures are.
-/

namespace GpuDiscovery

variable {S : System} {α β : Type}

namespace Outcome

/-- The result, or the first of some faults. -/
def ofFaults (faults : List DiscoveryError) (result : α) : Outcome α :=
  match faults with
  | [] => .value result
  | first :: _ => .failed first

@[simp] theorem ofFaults_nil (result : α) : ofFaults [] result = .value result := rfl

@[simp] theorem ofFaults_cons (fault : DiscoveryError) (rest : List DiscoveryError) (result : α) :
    ofFaults (fault :: rest) result = .failed fault := rfl

/-- The faults of a composition are those of its first part and, behind them, those of its second
part after the result of the first. -/
theorem ofFaults_bind {first second : List DiscoveryError} {middle : α} {result : β}
    {next : α → Outcome β} (h : next middle = ofFaults second result) :
    (ofFaults first middle >>= next) = ofFaults (first ++ second) result := by
  rcases first with _ | ⟨fault, rest⟩
  · exact h
  · rfl

/-- What is made of a result has no faults of its own. -/
theorem ofFaults_map (faults : List DiscoveryError) (middle : α) (use : α → β) :
    (ofFaults faults middle >>= fun result => .value (use result)) =
      ofFaults faults (use middle) := by
  rcases faults with _ | ⟨fault, rest⟩
  · rfl
  · rfl

theorem ofFaults_context (faults : List DiscoveryError) (result : α) (text : String) :
    (ofFaults faults result).context text = ofFaults (faults.map (.wrapped text)) result := by
  rcases faults with _ | ⟨fault, rest⟩
  · rfl
  · rfl

end Outcome

namespace Procedure

variable (answer : (call : S.Call) → S.Answer call)

/-- How a procedure ends if calls are answered so. -/
def outcomeBy : Procedure S α → Outcome α
  | ends outcome => outcome
  | calls call next => (next (answer call)).outcomeBy
  | informs _ next => next.outcomeBy
  | warns _ next => next.outcomeBy

/-- The calls that a procedure makes if they are answered so, oldest first. -/
def callsBy : Procedure S α → List S.Call
  | ends _ => []
  | calls call next => call :: (next (answer call)).callsBy
  | informs _ next => next.callsBy
  | warns _ next => next.callsBy

/-- **A run against answers that do not depend on the past is an evaluation.** -/
theorem runAfter_const (body : Procedure S α) (past : List S.Call) :
    (body.runAfter (fun _ => answer) past).outcome = body.outcomeBy answer ∧
      (body.runAfter (fun _ => answer) past).calls = body.callsBy answer := by
  induction body generalizing past with
  | ends outcome => exact ⟨rfl, rfl⟩
  | calls call next ih =>
    obtain ⟨houtcome, hcalls⟩ := ih (answer call) (call :: past)
    exact ⟨houtcome, congrArg (call :: ·) hcalls⟩
  | informs text next ih => exact ih past
  | warns text next ih => exact ih past

/-! ## Outcomes -/

theorem outcomeBy_onEnd (body : Procedure S α) (next : Outcome α → Procedure S β) :
    (body.onEnd next).outcomeBy answer = (next (body.outcomeBy answer)).outcomeBy answer := by
  induction body with
  | ends outcome => rfl
  | calls call rest ih => exact ih (answer call)
  | informs text rest ih => exact ih
  | warns text rest ih => exact ih

@[simp] theorem outcomeBy_bind (first : Procedure S α) (next : α → Procedure S β) :
    (first >>= next).outcomeBy answer =
      first.outcomeBy answer >>= fun middle => (next middle).outcomeBy answer := by
  refine (outcomeBy_onEnd answer first _).trans ?_
  rcases first.outcomeBy answer with middle | error | _
  · rfl
  · rfl
  · rfl

@[simp] theorem outcomeBy_pure (result : α) :
    (pure result : Procedure S α).outcomeBy answer = .value result := rfl

@[simp] theorem outcomeBy_perform (call : S.Call) :
    (perform call).outcomeBy answer = .value (answer call) := rfl

@[simp] theorem outcomeBy_fail (error : DiscoveryError) :
    (fail error : Procedure S α).outcomeBy answer = .failed error := rfl

@[simp] theorem outcomeBy_ofExcept (result : Except DiscoveryError α) :
    (ofExcept result : Procedure S α).outcomeBy answer = .ofExcept result := rfl

@[simp] theorem outcomeBy_context (text : String) (body : Procedure S α) :
    (body.context text).outcomeBy answer = (body.outcomeBy answer).context text :=
  outcomeBy_onEnd answer body _

@[simp] theorem outcomeBy_ensuring (body : Procedure S α) (release : Procedure S Unit) :
    (body.ensuring release).outcomeBy answer = body.outcomeBy answer := by
  rw [ensuring, outcomeBy_onEnd, outcomeBy_onEnd, outcomeBy]

/-! ## Calls -/

theorem callsBy_onEnd (body : Procedure S α) (next : Outcome α → Procedure S β) :
    (body.onEnd next).callsBy answer =
      body.callsBy answer ++ (next (body.outcomeBy answer)).callsBy answer := by
  induction body with
  | ends outcome => rfl
  | calls call rest ih => exact congrArg (call :: ·) (ih (answer call))
  | informs text rest ih => exact ih
  | warns text rest ih => exact ih

/-- Behind a value the second part makes its calls; behind any other end nothing is called. -/
theorem callsBy_bind (first : Procedure S α) (next : α → Procedure S β) :
    (first >>= next).callsBy answer =
      first.callsBy answer ++
        (first.outcomeBy answer).value?.elim [] fun middle => (next middle).callsBy answer := by
  refine (callsBy_onEnd answer first _).trans ?_
  rcases first.outcomeBy answer with middle | error | _
  · rfl
  · rfl
  · rfl

/-- What is made of a result is made without calls. -/
theorem callsBy_map (body : Procedure S α) (use : α → β) :
    (body >>= fun result => pure (use result)).callsBy answer = body.callsBy answer := by
  rw [callsBy_bind]
  rcases body.outcomeBy answer with middle | error | _
  · exact List.append_nil _
  · exact List.append_nil _
  · exact List.append_nil _

/-- A call of a composition is one of its parts. -/
theorem mem_callsBy_bind {first : Procedure S α} {next : α → Procedure S β} {call : S.Call} :
    call ∈ (first >>= next).callsBy answer ↔
      call ∈ first.callsBy answer ∨
        ∃ middle, first.outcomeBy answer = .value middle ∧
          call ∈ (next middle).callsBy answer := by
  rw [callsBy_bind, List.mem_append]
  rcases first.outcomeBy answer with middle | error | _
  · simp [Outcome.value?]
  · simp [Outcome.value?]
  · simp [Outcome.value?]

@[simp] theorem callsBy_perform (call : S.Call) : (perform call).callsBy answer = [call] := rfl

theorem callsBy_ensuring (body : Procedure S α) (release : Procedure S Unit) :
    (body.ensuring release).callsBy answer = body.callsBy answer ++ release.callsBy answer := by
  rw [ensuring, callsBy_onEnd, callsBy_onEnd, callsBy, List.append_nil]

variable {answer}

theorem CallsOnly.of_mem_callsBy {allowed : S.Call → Prop} {body : Procedure S α}
    (h : body.CallsOnly allowed) {call : S.Call} (hmem : call ∈ body.callsBy answer) :
    allowed call := by
  induction body with
  | ends outcome => exact absurd hmem List.not_mem_nil
  | calls made next ih =>
    rcases List.mem_cons.1 hmem with rfl | hmem
    · exact h.1
    · exact ih _ (h.2 _) hmem
  | informs text next ih => exact ih h hmem
  | warns text next ih => exact ih h hmem

/-- What is read off calls is not there if the procedure makes no calls of which to read it. -/
theorem CallsOnly.filterMap_callsBy {view : S.Call → Option β} {body : Procedure S α}
    (h : body.CallsOnly fun call => view call = none) :
    (body.callsBy answer).filterMap view = [] :=
  List.filterMap_eq_nil_iff.2 fun _ hmem => h.of_mem_callsBy hmem

end Procedure

end GpuDiscovery
