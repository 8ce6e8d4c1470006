import GpuDiscovery.Logger
import Mathlib.Data.List.Forall2
import Mathlib.Data.List.Induction
import Mathlib.Data.List.Nodup

/-!
# Which handles share a switch

A program obtains handles of loggers in three ways. Here each handle belongs to a family that is
read off the way it was obtained, with no switch in sight: a created logger opens a family of its
own, a copy joins the family of its original, and all who ask for the shared logger are in one
family. What the handles of a family have been turned to, from whichever of them, is the history of
the family, and its `setting` is the latest entry, or the position in which it was opened.

That the switches do what the families say rests on one invariant, `LoggerTable.Ties`: each switch
belongs to one family, no two to the same, every handle is on the switch of its family, and every
switch stands at its family's setting. One step keeps it (`LoggerTable.Ties.step`), and so does a
whole history (`LoggerTable.ties_after`).
-/

namespace GpuDiscovery

/-! ## Families -/

/-- A family of handles. -/
inductive LoggerFamily where
  /-- Those who asked for the shared logger, and their copies. -/
  | shared
  /-- A logger that was created on or off, known by the number of its first handle. -/
  | opened (first : Nat) (on : Bool)
  deriving DecidableEq, Repr

namespace LoggerFamily

/-- Where the switch of a family stands before anybody turns it. -/
def initial : LoggerFamily → Bool
  | shared => false
  | opened _ on => on

/-- The families of all handles after a step, given those of the handles before it. -/
def join (families : List LoggerFamily) : LoggerStep → List LoggerFamily
  | .create on => families ++ [opened families.length on]
  | .obtainShared => families ++ [shared]
  | .copy handle => families ++ families[handle]?.toList
  | .turn _ _ => families

/-- The families of all handles after some steps, in the order of the handles. -/
def after (steps : List LoggerStep) : List LoggerFamily :=
  steps.foldl join []

/-- What a step turns a family to, given the families of the handles before it. -/
def turned (family : LoggerFamily) (families : List LoggerFamily) : LoggerStep → Option Bool
  | .turn handle on => if families[handle]? = some family then some on else none
  | .create _ | .obtainShared | .copy _ => none

/-- What a family is turned to in the course of some steps, oldest first, whichever of its handles
is used. -/
def turns (family : LoggerFamily) : (families : List LoggerFamily) → List LoggerStep → List Bool
  | _, [] => []
  | families, step :: rest =>
    (family.turned families step).toList ++ family.turns (join families step) rest

/-- Where the switch of a family has to stand after some steps: where it was turned to last, or
where it stood at first. -/
def setting (family : LoggerFamily) (steps : List LoggerStep) : Bool :=
  (family.turns [] steps).getLast?.getD family.initial

variable {family other : LoggerFamily} {steps : List LoggerStep} {step : LoggerStep}

theorem after_concat (steps : List LoggerStep) (step : LoggerStep) :
    after (steps ++ [step]) = join (after steps) step := by
  simp only [after, List.foldl_append, List.foldl_cons, List.foldl_nil]

theorem turns_append (family : LoggerFamily) (families : List LoggerFamily)
    (xs ys : List LoggerStep) :
    family.turns families (xs ++ ys) =
      family.turns families xs ++ family.turns (xs.foldl join families) ys := by
  induction xs generalizing families with
  | nil => simp only [turns, List.nil_append, List.foldl_nil]
  | cons step rest ih =>
    simp only [List.cons_append, turns, ih, List.append_assoc, List.foldl_cons]

/-- The latest step decides, if it turns the family. -/
theorem setting_concat (family : LoggerFamily) (steps : List LoggerStep) (step : LoggerStep) :
    family.setting (steps ++ [step]) =
      (family.turned (after steps) step).getD (family.setting steps) := by
  have hturns : family.turns [] (steps ++ [step]) =
      family.turns [] steps ++ (family.turned (after steps) step).toList := by
    rw [turns_append, ← after, turns, turns, List.append_nil]
  rw [setting, hturns]
  cases family.turned (after steps) step with
  | none => simp only [Option.toList_none, List.append_nil, Option.getD_none, setting]
  | some on => simp only [Option.toList_some, List.getLast?_concat, Option.getD_some]

/-- No handle ever leaves its family. -/
theorem prefix_join (families : List LoggerFamily) (step : LoggerStep) :
    families <+: join families step := by
  cases step with
  | create on => exact List.prefix_append _ _
  | obtainShared => exact List.prefix_append _ _
  | copy handle => exact List.prefix_append _ _
  | turn handle on => exact List.prefix_rfl

/-- A family is known by the number of a handle that is there. -/
theorem first_lt_of_mem_after {first : Nat} {on : Bool} (h : opened first on ∈ after steps) :
    first < (after steps).length := by
  induction steps using List.reverseRecOn with
  | nil => exact absurd h List.not_mem_nil
  | append_singleton steps step ih =>
    rw [after_concat] at h ⊢
    have hlength := (prefix_join (after steps) step).length_le
    by_cases hmem : opened first on ∈ after steps
    · have hlt := ih hmem
      omega
    · cases step with
      | create position =>
        simp only [join, List.mem_append, hmem, List.mem_singleton, opened.injEq, false_or] at h
        simp only [join, List.length_append, List.length_singleton]
        omega
      | obtainShared =>
        simp only [join, List.mem_append, hmem, List.mem_singleton, reduceCtorEq, or_self] at h
      | copy handle =>
        simp only [join, List.mem_append, hmem, Option.mem_toList, false_or] at h
        exact absurd (List.mem_of_getElem? h) hmem
      | turn handle position => exact absurd h hmem

/-- So a created logger has a family that no handle had before. -/
theorem opened_notMem_after (steps : List LoggerStep) (on : Bool) :
    opened (after steps).length on ∉ after steps :=
  fun hmem => Nat.lt_irrefl _ (first_lt_of_mem_after hmem)

/-- A family that no handle is in was never turned. -/
theorem setting_of_notMem (h : family ∉ after steps) : family.setting steps = family.initial := by
  induction steps using List.reverseRecOn with
  | nil => rfl
  | append_singleton steps step ih =>
    rw [after_concat] at h
    have hbefore : family ∉ after steps := fun hmem => h ((prefix_join _ _).subset hmem)
    have hturned : family.turned (after steps) step = none := by
      cases step with
      | turn handle on => exact if_neg fun heq => hbefore (List.mem_of_getElem? heq)
      | _ => rfl
    rw [setting_concat, hturned, Option.getD_none, ih hbefore]

end LoggerFamily

/-! ## The switches -/

namespace LoggerTable

/-- The state after some steps. -/
def after (steps : List LoggerStep) : LoggerTable :=
  steps.foldl step initial

theorem after_concat (steps : List LoggerStep) (next : LoggerStep) :
    after (steps ++ [next]) = (after steps).step next := by
  simp only [after, List.foldl_append, List.foldl_cons, List.foldl_nil]

/-- Every handle is tied to the switch of its family. The switches belong to the families of the
roster, in this order. -/
structure Ties (table : LoggerTable) (families : List LoggerFamily)
    (setting : LoggerFamily → Bool) (roster : List LoggerFamily) : Prop where
  /-- No family has two switches. -/
  nodup : roster.Nodup
  /-- The first switch is that of the shared logger. -/
  head : roster[0]? = some .shared
  /-- A family is known by the number of a handle that is there. -/
  first_lt {first : Nat} {on : Bool} (h : .opened first on ∈ roster) : first < families.length
  /-- Every switch stands where its family is set to. -/
  switches : table.board.switches = roster.map setting
  /-- Every handle is on the switch of its family. -/
  handles : List.Forall₂ (fun logger family => roster[logger.switch]? = some family)
    table.handles families

variable {table : LoggerTable} {families roster : List LoggerFamily}
  {setting : LoggerFamily → Bool}

namespace Ties

/-- A handle that is there has a family and is on its switch, and one that is not has none. -/
theorem getElem?_cases (h : table.Ties families setting roster) (handle : Nat) :
    (table.handles[handle]? = none ∧ families[handle]? = none) ∨
      ∃ logger family, table.handles[handle]? = some logger ∧ families[handle]? = some family ∧
        roster[logger.switch]? = some family := by
  have hlength := h.handles.length_eq
  by_cases hlt : handle < table.handles.length
  · have htied := h.handles.get hlt (hlength ▸ hlt)
    simp only [List.get_eq_getElem] at htied
    exact .inr ⟨_, _, List.getElem?_eq_getElem hlt, List.getElem?_eq_getElem (hlength ▸ hlt), htied⟩
  · exact .inl ⟨List.getElem?_eq_none (by omega), List.getElem?_eq_none (by omega)⟩

/-- A family opened now is none of those that have a switch. -/
theorem opened_notMem (h : table.Ties families setting roster) (on : Bool) :
    .opened families.length on ∉ roster :=
  fun hmem => Nat.lt_irrefl _ (h.first_lt hmem)

/-- A handle more, on a switch that is there. -/
theorem concat (h : table.Ties families setting roster) {logger : Logger} {family : LoggerFamily}
    (hswitch : roster[logger.switch]? = some family) :
    Ties { table with handles := table.handles ++ [logger] } (families ++ [family]) setting
      roster where
  nodup := h.nodup
  head := h.head
  first_lt hmem := by
    have hlt := h.first_lt hmem
    simp only [List.length_append, List.length_singleton]
    omega
  switches := h.switches
  handles := List.rel_append h.handles (.cons hswitch .nil)

/-- A switch more, with a handle on it that opens a family. -/
theorem create (h : table.Ties families setting roster) {on : Bool}
    (hsetting : setting (.opened families.length on) = on) :
    Ties (table.step (.create on)) (families ++ [.opened families.length on]) setting
      (roster ++ [.opened families.length on]) where
  nodup := by
    rw [← List.concat_eq_append]
    exact h.nodup.concat (h.opened_notMem on)
  head := by
    obtain ⟨hlt, -⟩ := List.getElem?_eq_some_iff.1 h.head
    rw [List.getElem?_append_left hlt]
    exact h.head
  first_lt := by
    intro first position hmem
    simp only [List.mem_append, List.mem_singleton, LoggerFamily.opened.injEq] at hmem
    simp only [List.length_append, List.length_singleton]
    rcases hmem with hmem | ⟨rfl, -⟩
    · have hlt := h.first_lt hmem
      omega
    · omega
  switches := by
    simp only [LoggerTable.step, Switchboard.create, h.switches, List.map_append, List.map_cons,
      List.map_nil, hsetting]
  handles := by
    have hlength : table.board.switches.length = roster.length := by
      rw [h.switches, List.length_map]
    refine List.rel_append (h.handles.imp ?_) (.cons ?_ .nil)
    · intro logger family hswitch
      obtain ⟨hlt, -⟩ := List.getElem?_eq_some_iff.1 hswitch
      rw [List.getElem?_append_left hlt]
      exact hswitch
    · simp only [hlength]
      exact List.getElem?_concat_length

/-- Turning a switch is turning its family. The switches of the others stay where they are, because
no other switch is that of the family. -/
theorem turn (h : table.Ties families setting roster) {logger : Logger} {family : LoggerFamily}
    (hswitch : roster[logger.switch]? = some family) (on : Bool) :
    Ties { table with board := table.board.turn logger on } families
      (fun other => if other = family then on else setting other) roster where
  nodup := h.nodup
  head := h.head
  first_lt := h.first_lt
  switches := by
    obtain ⟨hlt, hfamily⟩ := List.getElem?_eq_some_iff.1 hswitch
    simp only [Switchboard.turn, h.switches]
    apply List.ext_getElem
    · simp only [List.length_set, List.length_map]
    · intro switch hone hother
      simp only [List.length_map] at hother
      simp only [List.getElem_set, List.getElem_map, ← hfamily, h.nodup.getElem_inj_iff]
      by_cases hsame : logger.switch = switch
      · rw [if_pos hsame, if_pos hsame.symm]
      · rw [if_neg hsame, if_neg (Ne.symm hsame)]
  handles := h.handles

/-- **What one step keeps.** The families and their settings follow the step, and the handles are
tied to them again. -/
theorem step (h : table.Ties families setting roster)
    (hfresh : ∀ on, setting (.opened families.length on) = on) (next : LoggerStep) :
    ∃ roster, (table.step next).Ties (LoggerFamily.join families next)
      (fun family => (family.turned families next).getD (setting family)) roster := by
  cases next with
  | create on => exact ⟨_, h.create (hfresh on)⟩
  | obtainShared => exact ⟨roster, h.concat h.head⟩
  | copy handle =>
    rcases h.getElem?_cases handle with
      ⟨hlogger, hfamily⟩ | ⟨logger, family, hlogger, hfamily, hswitch⟩
    · refine ⟨roster, ?_⟩
      simp only [LoggerTable.step, LoggerFamily.join, hlogger, hfamily, Option.toList_none,
        List.append_nil]
      exact h
    · refine ⟨roster, ?_⟩
      simp only [LoggerTable.step, LoggerFamily.join, hlogger, hfamily, Option.toList_some]
      exact h.concat hswitch
  | turn handle on =>
    rcases h.getElem?_cases handle with
      ⟨hlogger, hfamily⟩ | ⟨logger, family, hlogger, hfamily, hswitch⟩
    · refine ⟨roster, ?_⟩
      simp only [LoggerTable.step, LoggerFamily.join, LoggerFamily.turned, hlogger, hfamily,
        reduceCtorEq, if_false, Option.getD_none]
      exact h
    · refine ⟨roster, ?_⟩
      have hsetting : (fun other => ((LoggerFamily.turned other families (.turn handle on)).getD
          (setting other))) = fun other => if other = family then on else setting other := by
        funext other
        simp only [LoggerFamily.turned, hfamily, Option.some.injEq]
        by_cases hother : other = family
        · rw [if_pos hother.symm, if_pos hother, Option.getD_some]
        · rw [if_neg (Ne.symm hother), if_neg hother, Option.getD_none]
      simp only [LoggerTable.step, LoggerFamily.join, hlogger, hsetting]
      exact h.turn hswitch on

/-- The switches of the handles stand where their families are set to. -/
theorem enabled (h : table.Ties families setting roster) :
    table.enabled = families.map setting := by
  have hanswers : List.Forall₂ (fun logger family => table.board.isEnabled logger = setting family)
      table.handles families := by
    refine h.handles.imp fun logger family hswitch => ?_
    simp only [Switchboard.isEnabled, h.switches, List.getD_eq_getElem?_getD, List.getElem?_map,
      hswitch, Option.map_some, Option.getD_some]
  rw [LoggerTable.enabled, ← List.forall₂_eq_eq_eq, List.forall₂_map_left_iff,
    List.forall₂_map_right_iff]
  exact hanswers

end Ties

/-! ## A whole history -/

/-- **What a history keeps.** Whatever a program does with its handles, they stay tied. -/
theorem ties_after (steps : List LoggerStep) :
    ∃ roster, (after steps).Ties (LoggerFamily.after steps) (fun family => family.setting steps)
      roster := by
  induction steps using List.reverseRecOn with
  | nil =>
    refine ⟨[.shared], List.nodup_singleton _, rfl, fun hmem => ?_, rfl, .nil⟩
    simp only [List.mem_singleton, reduceCtorEq] at hmem
  | append_singleton steps step ih =>
    obtain ⟨roster, hties⟩ := ih
    have hfresh : ∀ on, (LoggerFamily.opened (LoggerFamily.after steps).length on).setting steps =
        on :=
      fun on => LoggerFamily.setting_of_notMem (LoggerFamily.opened_notMem_after steps on)
    simp only [after_concat, LoggerFamily.after_concat, LoggerFamily.setting_concat]
    exact hties.step hfresh step

theorem enabled_eq_map_setting (steps : List LoggerStep) :
    (after steps).enabled = (LoggerFamily.after steps).map fun family => family.setting steps := by
  obtain ⟨_, hties⟩ := ties_after steps
  exact hties.enabled

/-- **Handles answer for their families.** After any steps, and so at every point of a history, the
switch of each handle stands where its family was turned to last, through whichever handle, or
where it stood at first if it was never turned. A created logger is in a family that no handle was
in before. And turning a handle changes no answer of a handle in another family. -/
theorem enabled_after (steps : List LoggerStep) :
    (after steps).enabled =
        ((LoggerFamily.after steps).map fun family => family.setting steps) ∧
      (∀ on, .opened (LoggerFamily.after steps).length on ∉ LoggerFamily.after steps) ∧
      ∀ (handle other : Nat) (on : Bool),
        (LoggerFamily.after steps)[handle]? ≠ (LoggerFamily.after steps)[other]? →
          (after (steps ++ [.turn handle on])).enabled[other]? = (after steps).enabled[other]? := by
  refine ⟨enabled_eq_map_setting steps, LoggerFamily.opened_notMem_after steps, ?_⟩
  intro handle other on hne
  have hfamilies : LoggerFamily.after (steps ++ [.turn handle on]) = LoggerFamily.after steps :=
    LoggerFamily.after_concat steps _
  rw [enabled_eq_map_setting, enabled_eq_map_setting, hfamilies, List.getElem?_map,
    List.getElem?_map]
  cases hfamily : (LoggerFamily.after steps)[other]? with
  | none => rfl
  | some family =>
    have hturned : family.turned (LoggerFamily.after steps) (.turn handle on) = none :=
      if_neg fun heq => hne (heq.trans hfamily.symm)
    rw [Option.map_some, Option.map_some, LoggerFamily.setting_concat, hturned, Option.getD_none]

/-- A created logger that is copied, its copy copied again after it was turned off, the shared
logger obtained twice, and another logger. -/
def mixedSteps : List LoggerStep :=
  [.create true, .obtainShared, .copy 0, .turn 2 false, .obtainShared, .copy 2, .turn 1 true,
    .create false]

/-- The created logger is off through its copy, and the shared one on for both who hold it. When the
copy of the copy is turned on, this is nothing to the others. -/
theorem enabled_after_mixedSteps :
    (after mixedSteps).enabled = [false, true, false, true, false, false] ∧
      (LoggerFamily.after mixedSteps)[4]? ≠ (LoggerFamily.after mixedSteps)[3]? ∧
      (after (mixedSteps ++ [.turn 4 true])).enabled[3]? = some true := by
  have hne : (LoggerFamily.after mixedSteps)[4]? ≠ (LoggerFamily.after mixedSteps)[3]? := by decide
  have hsettings : ((LoggerFamily.after mixedSteps).map fun family =>
      family.setting mixedSteps) = [false, true, false, true, false, false] := by
    decide
  obtain ⟨henabled, -, hframe⟩ := enabled_after mixedSteps
  rw [hsettings] at henabled
  refine ⟨henabled, hne, ?_⟩
  rw [hframe 4 3 true hne, henabled]
  rfl

end LoggerTable

end GpuDiscovery
