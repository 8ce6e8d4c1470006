import GpuDiscovery.Outcome

/-!
# Procedures

A procedure does its work by calling a system it knows nothing about. A *system* is a type of calls
and, for each call, the type of its answers. A procedure is the tree of all that it may come to
do: a call has one branch for each answer. A *responder* is one behaviour of the system, and it may
answer as it likes, also differently when the same call comes again, because it is given the calls
made so far. Statements about a procedure are statements about all responders.

Running a procedure against a responder follows one path of the tree and yields how it ended and
what it did: its calls, and the notes it made for the log, in order. A responder sees calls and
never notes, so notes cannot influence what happens.

`onEnd` grows a procedure on at its ends. Composing, handling errors and releasing what was
acquired are all of that form, so that `runAfter_onEnd`, which says how the run of a grown procedure
is made of two runs, gives the runs of them all.
-/

namespace GpuDiscovery

/-- The calls a system takes and the types of their answers. -/
structure System where
  Call : Type
  Answer : Call → Type

/-- A behaviour of a system: the answer to a call after the calls made so far, latest first. -/
abbrev System.Responder (S : System) := List S.Call → (call : S.Call) → S.Answer call

/-- One thing that happened during a run. -/
inductive Event (Call : Type) where
  /-- The system was called. -/
  | called (call : Call)
  /-- A note for whoever follows the steps. -/
  | info (text : String)
  /-- A note about a failure that nobody else will report. -/
  | error (text : String)
  deriving DecidableEq, Repr

/-- The calls among events. -/
def callsOf {Call : Type} (events : List (Event Call)) : List Call :=
  events.filterMap fun
    | .called call => some call
    | .info _ | .error _ => none

theorem callsOf_append {Call : Type} (xs ys : List (Event Call)) :
    callsOf (xs ++ ys) = callsOf xs ++ callsOf ys :=
  List.filterMap_append

/-- How a procedure ended and what it did, oldest event first. -/
structure Run (Call α : Type) where
  outcome : Outcome α
  events : List (Event Call)

/-- The calls of a run, oldest first. -/
def Run.calls {Call α : Type} (run : Run Call α) : List Call :=
  callsOf run.events

/-- The run in which something else happens first. -/
def Run.after {Call α : Type} (event : Event Call) (run : Run Call α) : Run Call α :=
  { run with events := event :: run.events }

/-- A computation that calls a system. -/
inductive Procedure (S : System) (α : Type) where
  /-- It is over. -/
  | ends (outcome : Outcome α)
  /-- It makes a call and goes on with the answer. -/
  | calls (call : S.Call) (next : S.Answer call → Procedure S α)
  /-- It makes an informative note and goes on. -/
  | informs (text : String) (next : Procedure S α)
  /-- It makes a note about a failure and goes on. -/
  | warns (text : String) (next : Procedure S α)

namespace Procedure

variable {S : System} {α β γ : Type}

/-- Goes on, wherever the procedure ends, with what follows from how it ended. -/
def onEnd : Procedure S α → (Outcome α → Procedure S β) → Procedure S β
  | ends outcome, next => next outcome
  | calls call rest, next => calls call fun answer => (rest answer).onEnd next
  | informs text rest, next => informs text (rest.onEnd next)
  | warns text rest, next => warns text (rest.onEnd next)

/-- Does nothing. -/
protected def pure (result : α) : Procedure S α :=
  ends (.value result)

/-- Continues after a value; any other end stands. -/
protected def bind (first : Procedure S α) (next : α → Procedure S β) : Procedure S β :=
  first.onEnd fun
    | .value result => next result
    | .failed error => ends (.failed error)
    | .crashed => ends .crashed

instance : Monad (Procedure S) where
  pure := Procedure.pure
  bind := Procedure.bind

/-- Calls the system. -/
def perform (call : S.Call) : Procedure S (S.Answer call) :=
  calls call fun answer => ends (.value answer)

/-- Makes an informative note. -/
def info (text : String) : Procedure S Unit :=
  informs text (ends (.value ()))

/-- Makes a note about a failure. -/
def error (text : String) : Procedure S Unit :=
  warns text (ends (.value ()))

/-- Ends as an outcome does. -/
def ofOutcome (outcome : Outcome α) : Procedure S α :=
  ends outcome

/-- Ends as a computation without calls does. -/
def ofExcept (result : Except DiscoveryError α) : Procedure S α :=
  ofOutcome (.ofExcept result)

/-- Fails. -/
def fail (error : DiscoveryError) : Procedure S α :=
  ofOutcome (.failed error)

/-- Says of an error in which step it happened. -/
def context (text : String) (body : Procedure S α) : Procedure S α :=
  body.onEnd fun outcome => ends (outcome.context text)

/-- Turns an error into a result. A crash is not one. -/
def attempt (body : Procedure S α) : Procedure S (Except DiscoveryError α) :=
  body.onEnd fun
    | .value result => ends (.value (.ok result))
    | .failed error => ends (.value (.error error))
    | .crashed => ends .crashed

/-- Runs `body` and then, however it ended, `release`. The outcome is that of `body`: whether the
release succeeds changes nothing. -/
def ensuring (body : Procedure S α) (release : Procedure S Unit) : Procedure S α :=
  body.onEnd fun outcome => release.onEnd fun _ => ends outcome

/-! ## Running -/

/-- The run of a procedure after the calls made so far, latest first. -/
def runAfter (respond : S.Responder) : Procedure S α → List S.Call → Run S.Call α
  | ends outcome, _ => ⟨outcome, []⟩
  | calls call next, past =>
    ((next (respond past call)).runAfter respond (call :: past)).after (.called call)
  | informs text next, past => (next.runAfter respond past).after (.info text)
  | warns text next, past => (next.runAfter respond past).after (.error text)

/-- Runs a procedure, with the calls and the events so far at hand, both latest first. -/
def runOnto (respond : S.Responder) :
    Procedure S α → List S.Call → List (Event S.Call) → Run S.Call α
  | ends outcome, _, events => ⟨outcome, events.reverse⟩
  | calls call next, past, events =>
    (next (respond past call)).runOnto respond (call :: past) (.called call :: events)
  | informs text next, past, events => next.runOnto respond past (.info text :: events)
  | warns text next, past, events => next.runOnto respond past (.error text :: events)

/-- Runs a procedure with nothing before it. -/
def run (body : Procedure S α) (respond : S.Responder) : Run S.Call α :=
  body.runOnto respond [] []

variable (respond : S.Responder)

/-- Running onto events puts the run behind them. -/
theorem runOnto_eq (body : Procedure S α) (past : List S.Call) (events : List (Event S.Call)) :
    body.runOnto respond past events =
      ⟨(body.runAfter respond past).outcome,
        events.reverse ++ (body.runAfter respond past).events⟩ := by
  induction body generalizing past events with
  | ends outcome => simp [runOnto, runAfter]
  | calls call next ih => simp [runOnto, runAfter, Run.after, ih]
  | informs text next ih => simp [runOnto, runAfter, Run.after, ih]
  | warns text next ih => simp [runOnto, runAfter, Run.after, ih]

/-- To run a procedure is to run it after no calls. -/
theorem run_eq_runAfter (body : Procedure S α) : body.run respond = body.runAfter respond [] := by
  simp [run, runOnto_eq]

/-! ## Growing on at the ends -/

@[simp] theorem onEnd_ends (body : Procedure S α) : body.onEnd ends = body := by
  induction body with
  | ends outcome => rfl
  | calls call next ih => simp [onEnd, ih]
  | informs text next ih => simp [onEnd, ih]
  | warns text next ih => simp [onEnd, ih]

theorem onEnd_onEnd (body : Procedure S α) (next : Outcome α → Procedure S β)
    (last : Outcome β → Procedure S γ) :
    (body.onEnd next).onEnd last = body.onEnd fun outcome => (next outcome).onEnd last := by
  induction body with
  | ends outcome => rfl
  | calls call rest ih => simp [onEnd, ih]
  | informs text rest ih => simp [onEnd, ih]
  | warns text rest ih => simp [onEnd, ih]

/-- The run of a grown procedure is the run of what was there, and behind it the run of what follows
from its end, with the calls of the first in the past of the second. -/
theorem runAfter_onEnd (body : Procedure S α) (next : Outcome α → Procedure S β)
    (past : List S.Call) :
    (body.onEnd next).runAfter respond past =
      let first := body.runAfter respond past
      let second := (next first.outcome).runAfter respond (first.calls.reverse ++ past)
      ⟨second.outcome, first.events ++ second.events⟩ := by
  induction body generalizing past with
  | ends outcome => rfl
  | calls call rest ih => simp [onEnd, runAfter, Run.after, Run.calls, callsOf, ih]
  | informs text rest ih => simp [onEnd, runAfter, Run.after, Run.calls, callsOf, ih]
  | warns text rest ih => simp [onEnd, runAfter, Run.after, Run.calls, callsOf, ih]

/-- Handing every value on changes nothing. -/
theorem bind_pure_eq (body : Procedure S α) : body.bind Procedure.pure = body := by
  have handOn : (fun outcome : Outcome α => match outcome with
      | .value result => Procedure.pure (S := S) result
      | .failed error => ends (.failed error)
      | .crashed => ends .crashed) = ends := by
    funext outcome
    cases outcome <;> rfl
  exact (congrArg body.onEnd handOn).trans body.onEnd_ends

instance : LawfulMonad (Procedure S) :=
  LawfulMonad.mk' (Procedure S) (fun body => body.bind_pure_eq) (fun _ _ => rfl)
    (fun body next last => by
      refine (onEnd_onEnd _ _ _).trans (congrArg body.onEnd ?_)
      funext outcome
      cases outcome <;> rfl)

/-! ## The runs of the primitive steps and of compositions -/

variable (past : List S.Call)

theorem runAfter_pure (result : α) :
    (pure result : Procedure S α).runAfter respond past = ⟨.value result, []⟩ := rfl

theorem runAfter_perform (call : S.Call) :
    (perform call).runAfter respond past = ⟨.value (respond past call), [.called call]⟩ := rfl

theorem runAfter_info (text : String) :
    (info text : Procedure S Unit).runAfter respond past = ⟨.value (), [.info text]⟩ := rfl

theorem runAfter_ofOutcome (outcome : Outcome α) :
    (ofOutcome outcome : Procedure S α).runAfter respond past = ⟨outcome, []⟩ := rfl

/-- The run of a composition: the run of the first part and, after a value, that of the second. -/
theorem runAfter_bind (first : Procedure S α) (next : α → Procedure S β) :
    (first >>= next).runAfter respond past =
      match first.runAfter respond past with
      | ⟨.value result, events⟩ =>
        let rest := (next result).runAfter respond ((callsOf events).reverse ++ past)
        ⟨rest.outcome, events ++ rest.events⟩
      | ⟨.failed error, events⟩ => ⟨.failed error, events⟩
      | ⟨.crashed, events⟩ => ⟨.crashed, events⟩ := by
  refine (runAfter_onEnd respond first _ past).trans ?_
  rcases first.runAfter respond past with ⟨_ | _ | _, events⟩ <;> simp [Run.calls, runAfter]

theorem runAfter_context (text : String) (body : Procedure S α) :
    (body.context text).runAfter respond past =
      ⟨(body.runAfter respond past).outcome.context text,
        (body.runAfter respond past).events⟩ := by
  simp [context, runAfter_onEnd, runAfter]

/-- A release changes no outcome. -/
theorem ensuring_outcome (body : Procedure S α) (release : Procedure S Unit) :
    ((body.ensuring release).runAfter respond past).outcome =
      (body.runAfter respond past).outcome := by
  simp [ensuring, runAfter_onEnd, runAfter]

/-- The release comes after everything else, once, however the body ended. -/
theorem ensuring_events (body : Procedure S α) (release : Procedure S Unit) :
    ((body.ensuring release).runAfter respond past).events =
      (body.runAfter respond past).events ++
        (release.runAfter respond
          ((body.runAfter respond past).calls.reverse ++ past)).events := by
  simp [ensuring, runAfter_onEnd, runAfter]

end Procedure

end GpuDiscovery
