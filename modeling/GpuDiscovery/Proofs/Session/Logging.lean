import GpuDiscovery.Proofs.Procedure.Logging
import GpuDiscovery.Proofs.Session.Independence

/-!
# Sessions whose logger is turned on and off

While a session is used its logger may be turned on and off at any moment, also in the middle of a
discovery, by somebody else who holds it. `logged` is a run of a session under such circumstances.
It records of each step what can be seen of it and what was logged.

What can be seen is in every step the same as if there were no logger (`sights_logged`). The lines
are those that the switch lets through: an informative one found it on while its step lasted
(`exists_on_of_mem_logged`).
-/

namespace GpuDiscovery

open Procedure

/-- What can be seen of a step of a session: how a discovery went, the calls that were made, and
all that the session tells afterwards. -/
structure Sight where
  /-- What the caller of a discovery is told, in a step that is one. -/
  reply : Option (Outcome Unit)
  calls : List PlatformCall
  devices : Option (List DeviceRecord)
  state : SessionState
  lastError : String
  /-- The replies to all queries that could be made now. -/
  answer : (query : SessionQuery) → Except DiscoveryError query.Reply
  /-- Whether a refresh is due, whatever has become of the platform. -/
  isRefreshRequired : Platform → Bool

/-- A step of a session, from when to when it lasted, and what was logged in the meantime. -/
structure LoggedStep where
  sight : Sight
  lines : List LogLine
  start : Nat
  stop : Nat

namespace Session

/-- What can be seen once the session is in this state. -/
def sight (session : Session) (reply : Option (Outcome Unit)) (calls : List PlatformCall) :
    Sight where
  reply := reply
  calls := calls
  devices := session.devices
  state := session.state
  lastError := session.lastError
  answer := session.answer
  isRefreshRequired := session.isRefreshRequired

/-- What can be seen of a step that nothing is logged of. -/
def sightOf (session : Session) : SessionStep → Option Sight
  | .discover platform selection =>
    let (next, run) := session.discover platform selection
    some (next.sight (some run.outcome) run.calls)
  | .access _ => some (session.sight none [])
  | .track result => some ((session.track result).sight none [])

/-- What can be seen of a run that nothing is logged of. -/
def sights : Session → List SessionStep → List Sight :=
  collect sightOf

/-! ## The run with a logger -/

variable (boards : Nat → Switchboard)

/-- Discovers devices from a moment on. Each note is made through the session's logger. -/
def discoverLogged (session : Session) (platform : Platform) (selection : Selection) (now : Nat) :
    Session × LoggedRun PlatformCall Unit :=
  let result := (discovery session.config selection session.catalog).runLogged platform.respond
    (fun moment => (boards moment).isEnabled session.config.logger) [] now
  (session.settle result.outcome, { result with outcome := verdict result.outcome })

/-- One use of a session from a moment on: the session afterwards, and the record of the step. Only
discoveries call the platform and make notes, so only they take time. -/
def stepLogged (session : Session) (now : Nat) : SessionStep → Session × LoggedStep
  | .discover platform selection =>
    let (next, run) := session.discoverLogged boards platform selection now
    (next, ⟨next.sight (some run.outcome) run.calls, run.lines, now, run.stop⟩)
  | .access _ => (session, ⟨session.sight none [], [], now, now⟩)
  | .track result =>
    let next := session.track result
    (next, ⟨next.sight none [], [], now, now⟩)

/-- The records of some uses of a session, one after the other. -/
def logged : Session → (now : Nat) → List SessionStep → List LoggedStep
  | _, _, [] => []
  | session, now, step :: rest =>
    let used := session.stepLogged boards now step
    used.2 :: used.1.logged used.2.stop rest

variable {boards}

/-- A discovery that is logged is the discovery, with the notes that the switch lets through. -/
theorem discoverLogged_eq (session : Session) (platform : Platform) (selection : Selection)
    (now : Nat) :
    session.discoverLogged boards platform selection now =
      let (next, run) := session.discover platform selection
      (next, ⟨run.outcome, run.calls,
        linesFrom (fun moment => (boards moment).isEnabled session.config.logger) now run.events,
        now + run.events.length⟩) := by
  simp only [discoverLogged, runLogged_eq, discover, run_eq_runAfter]
  rfl

/-- One use of a session has the effect and the looks that it has without a logger. -/
theorem stepLogged_eq (session : Session) (now : Nat) (step : SessionStep) :
    (session.stepLogged boards now step).1 = session.step step ∧
      some (session.stepLogged boards now step).2.sight = session.sightOf step := by
  rcases step with ⟨platform, selection⟩ | query | result
  · simp only [stepLogged, discoverLogged_eq]
    exact ⟨rfl, rfl⟩
  · exact ⟨rfl, rfl⟩
  · exact ⟨rfl, rfl⟩

/-- An informative line found the session's switch on while the step lasted. -/
theorem exists_on_of_mem_stepLogged {session : Session} {now : Nat} {step : SessionStep}
    {line : LogLine} (h : line ∈ (session.stepLogged boards now step).2.lines)
    (hinfo : line.severity = .info) :
    ∃ moment, (session.stepLogged boards now step).2.start ≤ moment ∧
      moment < (session.stepLogged boards now step).2.stop ∧
      (boards moment).isEnabled session.config.logger = true := by
  rcases step with ⟨platform, selection⟩ | query | result
  · simp only [stepLogged, discoverLogged_eq] at h ⊢
    exact exists_on_of_mem_linesFrom h hinfo
  · exact absurd h List.not_mem_nil
  · exact absurd h List.not_mem_nil

/-! ## Runs -/

/-- The looks of a run are those of one without a logger. -/
theorem sights_logged (session : Session) (now : Nat) (steps : List SessionStep) :
    (session.logged boards now steps).map LoggedStep.sight = session.sights steps := by
  induction steps generalizing session now with
  | nil => rfl
  | cons step rest ih =>
    obtain ⟨hnext, hsight⟩ := @stepLogged_eq boards session now step
    rw [logged, sights, collect, ← hnext, ← hsight, List.map_cons, ih]
    rfl

/-- No step of a run is the time when a session gets another logger. -/
theorem config_step (session : Session) (step : SessionStep) :
    (session.step step).config = session.config :=
  session.config_after [step]

/-- In every step of a run an informative line found the session's switch on. -/
theorem exists_on_of_mem_logged {session : Session} {now : Nat} {steps : List SessionStep}
    {record : LoggedStep} (hrecord : record ∈ session.logged boards now steps) {line : LogLine}
    (hline : line ∈ record.lines) (hinfo : line.severity = .info) :
    ∃ moment, record.start ≤ moment ∧ moment < record.stop ∧
      (boards moment).isEnabled session.config.logger = true := by
  induction steps generalizing session now with
  | nil => exact absurd hrecord List.not_mem_nil
  | cons step rest ih =>
    rw [logged, List.mem_cons] at hrecord
    rcases hrecord with rfl | hrest
    · exact exists_on_of_mem_stepLogged hline hinfo
    · rw [(stepLogged_eq session now step).1] at hrest
      rw [← session.config_step step]
      exact ih hrest

/-- **Logging does not interfere.** However the switches are turned while a session is used, and on
whatever platforms, each step looks as it does with any other way of turning them, and as it does
without a logger. While the session's switch is off no informative line is logged. -/
theorem logging_noninterference (config : Config) (steps : List SessionStep)
    (one other : Nat → Switchboard) :
    ((new config).logged one 0 steps).map LoggedStep.sight =
        ((new config).logged other 0 steps).map LoggedStep.sight ∧
      ((new config).logged one 0 steps).map LoggedStep.sight = (new config).sights steps ∧
      ∀ record ∈ (new config).logged one 0 steps,
        (∀ moment, record.start ≤ moment → moment < record.stop →
          (one moment).isEnabled config.logger = false) →
        ∀ line ∈ record.lines, line.severity ≠ .info := by
  refine ⟨?_, sights_logged _ _ _, ?_⟩
  · rw [sights_logged, sights_logged]
  · intro record hrecord hoff line hline hinfo
    obtain ⟨moment, hstart, hstop, hon⟩ := exists_on_of_mem_logged hrecord hline hinfo
    exact Bool.false_ne_true ((hoff moment hstart hstop).symm.trans hon)

/-- The shared switch is on at first, and turned off while the first list of adapters is read. -/
def turnedOff (moment : Nat) : Switchboard :=
  ⟨[decide (moment < 6)]⟩

/-- Through the outage, the first discovery is logged until the switch is turned, and the second
not at all. Both look as if nothing had ever been logged. -/
theorem noninterference_of_turnedOff :
    ((new (.default none)).logged turnedOff 0 throughOutage).map LoggedStep.sight =
        ((new (.default none)).logged (fun _ => .initial) 0 throughOutage).map LoggedStep.sight ∧
      ((new (.default none)).logged turnedOff 0 throughOutage).map (·.lines.map LogLine.text) =
        [["discovering devices: filter=ComputeOnly include_integrated=true include_detachable=true",
          "0 adapters support DXCORE_ADAPTER_ATTRIBUTE_D3D12_CORE_COMPUTE"], [], []] ∧
      ∀ record ∈ ((new (.default none)).logged turnedOff 0 throughOutage).drop 1,
        ∀ line ∈ record.lines, line.severity ≠ .info := by
  obtain ⟨hsights, -, hsilent⟩ :=
    logging_noninterference (.default none) throughOutage turnedOff fun _ => .initial
  have hlater : ∀ record ∈ ((new (.default none)).logged turnedOff 0 throughOutage).drop 1,
      8 ≤ record.start := by decide +kernel
  refine ⟨hsights, by decide +kernel, ?_⟩
  intro record hmem
  refine hsilent record (List.mem_of_mem_drop hmem) fun moment hstart _ => ?_
  have hstarted := hlater record hmem
  exact decide_eq_false (by omega)

end Session

end GpuDiscovery
