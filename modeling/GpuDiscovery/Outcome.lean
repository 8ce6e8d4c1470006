import GpuDiscovery.Error

/-!
# Outcomes

How a step that depends on the platform ends: with a value, with an error that the caller can
handle, or because the code behind the platform's interface crashed. A crash is no error: no
context is added to it and no caller of a stage handles it, it ends the whole run.
-/

namespace GpuDiscovery

/-- How a step ended. -/
inductive Outcome (α : Type) where
  /-- The step has a result. -/
  | value (result : α)
  /-- The step failed. -/
  | failed (error : DiscoveryError)
  /-- The step was cut off. -/
  | crashed
  deriving DecidableEq, Repr

namespace Outcome

variable {α β : Type}

/-- Continues after a value; any other end stands. -/
protected def bind : Outcome α → (α → Outcome β) → Outcome β
  | value result, next => next result
  | failed error, _ => failed error
  | crashed, _ => crashed

instance : Monad Outcome where
  pure := value
  bind := Outcome.bind

/-- The outcome of a computation that cannot crash. -/
def ofExcept : Except DiscoveryError α → Outcome α
  | .ok result => value result
  | .error error => failed error

/-- Says of an error in which step it happened. -/
def context (text : String) : Outcome α → Outcome α
  | failed error => failed (.wrapped text error)
  | other => other

@[simp] theorem bind_value (result : α) (next : α → Outcome β) :
    (value result >>= next) = next result := rfl

@[simp] theorem bind_failed (error : DiscoveryError) (next : α → Outcome β) :
    ((failed error : Outcome α) >>= next) = failed error := rfl

@[simp] theorem bind_crashed (next : α → Outcome β) :
    ((crashed : Outcome α) >>= next) = crashed := rfl

@[simp] theorem pure_eq (result : α) : (pure result : Outcome α) = value result := rfl

instance : LawfulMonad Outcome :=
  LawfulMonad.mk' Outcome (fun x => by cases x <;> rfl) (fun _ _ => rfl)
    (fun x _ _ => by cases x <;> rfl)

/-- A composition has a value exactly if its first part has one with which the second part has
that value. -/
theorem bind_eq_value_iff {outcome : Outcome α} {next : α → Outcome β} {result : β} :
    (outcome >>= next) = value result ↔
      ∃ first, outcome = value first ∧ next first = value result := by
  cases outcome with
  | value first => simp
  | failed error => simp
  | crashed => simp

/-- A composition fails where its first part does, or else where its second part does. -/
theorem bind_eq_failed_iff {outcome : Outcome α} {next : α → Outcome β} {error : DiscoveryError} :
    (outcome >>= next) = failed error ↔
      outcome = failed error ∨ ∃ first, outcome = value first ∧ next first = failed error := by
  cases outcome with
  | value first => simp
  | failed earlier => simp
  | crashed => simp

@[simp] theorem ofExcept_eq_value_iff {result : Except DiscoveryError α} {expected : α} :
    ofExcept result = value expected ↔ result = .ok expected := by
  cases result <;> simp [ofExcept]

@[simp] theorem ofExcept_eq_failed_iff {result : Except DiscoveryError α} {error : DiscoveryError} :
    ofExcept result = failed error ↔ result = .error error := by
  cases result <;> simp [ofExcept]

/-- A context neither makes nor hides a value. -/
@[simp] theorem context_eq_value_iff {text : String} {outcome : Outcome α} {result : α} :
    outcome.context text = value result ↔ outcome = value result := by
  cases outcome <;> simp [context]

/-- An error in a context is an error without it that the context was put around. -/
theorem context_eq_failed_iff {text : String} {outcome : Outcome α} {error : DiscoveryError} :
    outcome.context text = failed error ↔
      ∃ cause, outcome = failed cause ∧ error = .wrapped text cause := by
  cases outcome with
  | value result => simp [context]
  | failed cause =>
    simp only [context, failed.injEq, exists_eq_left']
    exact eq_comm
  | crashed => simp [context]

/-- A context neither makes nor hides a crash. -/
@[simp] theorem context_eq_crashed_iff {text : String} {outcome : Outcome α} :
    outcome.context text = crashed ↔ outcome = crashed := by
  cases outcome <;> simp [context]

end Outcome

end GpuDiscovery
