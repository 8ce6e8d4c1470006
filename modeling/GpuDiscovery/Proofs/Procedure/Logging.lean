import GpuDiscovery.Logger

/-!
# Runs while a switch is turned

The notes of a procedure are logged while it runs. Each informative note looks at the logger's
switch at the moment it is made, and somebody else may turn the switch at any moment: between two
notes, or while the system is being called. `runLogged` runs a procedure in that way. Moments are
counted by what happens, one for every call and every note, and the switch is any function of them,
so that it may have been turned for any reason, also by the system itself.

All there is to say of such a run follows from the run that knows of no switch (`runLogged_eq`): it
ends in the same way after the same calls, and its lines are the notes of that run, of which the
informative ones are left out that found the switch off.
-/

namespace GpuDiscovery

/-- How a procedure ended, what it called, and what was logged of it. -/
structure LoggedRun (Call α : Type) where
  outcome : Outcome α
  /-- The calls, oldest first. -/
  calls : List Call
  /-- The lines that reached the log, oldest first. -/
  lines : List LogLine
  /-- The moment from which on nothing more happened. -/
  stop : Nat

/-- Runs a procedure from a moment on, after the calls made so far, latest first. -/
def Procedure.runLogged {S : System} {α : Type} (respond : S.Responder) (isOn : Nat → Bool) :
    Procedure S α → List S.Call → (now : Nat) → LoggedRun S.Call α
  | ends outcome, _, now => ⟨outcome, [], [], now⟩
  | calls call next, past, now =>
    let rest := (next (respond past call)).runLogged respond isOn (call :: past) (now + 1)
    { rest with calls := call :: rest.calls }
  | informs text next, past, now =>
    let rest := next.runLogged respond isOn past (now + 1)
    if isOn now then { rest with lines := ⟨.info, text⟩ :: rest.lines } else rest
  | warns text next, past, now =>
    let rest := next.runLogged respond isOn past (now + 1)
    { rest with lines := ⟨.error, text⟩ :: rest.lines }

/-- What of events is logged that begin at a moment. -/
def linesFrom {Call : Type} (isOn : Nat → Bool) : (now : Nat) → List (Event Call) → List LogLine
  | _, [] => []
  | now, event :: rest => logLines (isOn now) [event] ++ linesFrom isOn (now + 1) rest

section

variable {Call : Type} {isOn : Nat → Bool} {now : Nat} {events : List (Event Call)}

/-- An informative line found the switch on at some moment of the run. -/
theorem exists_on_of_mem_linesFrom {line : LogLine} (h : line ∈ linesFrom isOn now events)
    (hinfo : line.severity = .info) :
    ∃ moment, now ≤ moment ∧ moment < now + events.length ∧ isOn moment = true := by
  induction events generalizing now with
  | nil => exact absurd h List.not_mem_nil
  | cons event rest ih =>
    rw [List.length_cons]
    rcases List.mem_append.1 h with hfirst | hrest
    · by_cases hon : isOn now = true
      · exact ⟨now, Nat.le_refl now, by omega, hon⟩
      · rw [Bool.eq_false_iff.2 hon] at hfirst
        cases event with
        | called call => exact absurd hfirst List.not_mem_nil
        | info text => exact absurd hfirst List.not_mem_nil
        | error text =>
          rw [List.mem_singleton.1 hfirst] at hinfo
          cases hinfo
    · obtain ⟨moment, hstart, hstop, hon⟩ := ih hrest
      exact ⟨moment, by omega, by omega, hon⟩

end

/-- **The switch decides about lines and about nothing else.** -/
theorem Procedure.runLogged_eq {S : System} {α : Type} (respond : S.Responder) (isOn : Nat → Bool)
    (body : Procedure S α) (past : List S.Call) (now : Nat) :
    body.runLogged respond isOn past now =
      ⟨(body.runAfter respond past).outcome, (body.runAfter respond past).calls,
        linesFrom isOn now (body.runAfter respond past).events,
        now + (body.runAfter respond past).events.length⟩ := by
  induction body generalizing past now with
  | ends outcome => rfl
  | calls call next ih =>
    rw [runLogged, ih, runAfter, Run.after, List.length_cons, Nat.add_right_comm, Nat.add_assoc]
    rfl
  | informs text next ih =>
    rw [runLogged, ih, runAfter, Run.after, List.length_cons, Nat.add_right_comm, Nat.add_assoc]
    by_cases hon : isOn now = true
    · simp only [hon, linesFrom, logLines]
      rfl
    · simp only [hon, linesFrom, logLines]
      rfl
  | warns text next ih =>
    rw [runLogged, ih, runAfter, Run.after, List.length_cons, Nat.add_right_comm, Nat.add_assoc]
    rfl

end GpuDiscovery
