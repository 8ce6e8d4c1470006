import GpuDiscovery.Proofs.Device.Correlation

/-!
# Courses of calls

What is exchanged with the platform in a part of a discovery, said without the procedure that does
it. A `Course` describes a part twice: all that is exchanged in it if the discovery gets through it,
and what there is of that if an answer ends the discovery, up to and including this answer. A part
behind another one may depend on what was exchanged in the first, and begins only where the first
was gone through; that is all that `andThen` says, and it is why a course that ends early ends
directly behind the exchange that ended it.

A procedure keeps to a course if each of its paths is allowed by it (`Keeps`). The rules follow the
ways of composing procedures.
-/

namespace GpuDiscovery

open Procedure

/-- Exchanges with the platform, oldest first. -/
abbrev Talk := List (Exchange platformSystem)

/-- What may be exchanged with the platform in a part of a discovery. -/
structure Course where
  /-- All that is exchanged if the discovery gets through the part. -/
  Whole : Talk → Prop
  /-- What is exchanged if the last answer ends the discovery. -/
  Broken : Talk → Prop

namespace Course

/-- Nothing is exchanged. -/
def nothing : Course where
  Whole talk := talk = []
  Broken _ := False

/-- One call is made. The discovery goes on behind it if the answer lets it. -/
def single (call : PlatformCall) (lets : Outcome call.Result → Prop) : Course where
  Whole talk := ∃ answer, talk = [⟨call, answer⟩] ∧ lets answer
  Broken talk := ∃ answer, talk = [⟨call, answer⟩] ∧ ¬ lets answer

/-- One call is made, and the discovery goes on behind it if it succeeds. -/
def success (call : PlatformCall) : Course :=
  single call fun answer => ∃ result, answer = .value result

/-- Behind one part comes another, which depends on what was exchanged in the first. -/
def andThen (first : Course) (next : Talk → Course) : Course where
  Whole talk := ∃ before after, talk = before ++ after ∧ first.Whole before ∧
    (next before).Whole after
  Broken talk := first.Broken talk ∨
    ∃ before after, talk = before ++ after ∧ first.Whole before ∧ (next before).Broken after

/-- Parts that do not depend on each other, one behind the other. -/
def inOrder : List Course → Course
  | [] => nothing
  | first :: rest => first.andThen fun _ => inOrder rest

/-- The course allows the exchanges in a part that ended so. -/
def Allows {α : Type} (course : Course) (talk : Talk) : Outcome α → Prop
  | .value _ => course.Whole talk
  | .failed _ | .crashed => course.Broken talk

theorem single_allows {α : Type} {call : PlatformCall} {lets : Outcome call.Result → Prop}
    {answer : Outcome call.Result} {outcome : Outcome α}
    (h : lets answer ↔ ∃ result, outcome = .value result) :
    (single call lets).Allows [⟨call, answer⟩] outcome := by
  rcases outcome with result | error | _
  · exact ⟨answer, rfl, h.2 ⟨result, rfl⟩⟩
  · exact ⟨answer, rfl, fun hlets => absurd (h.1 hlets) nofun⟩
  · exact ⟨answer, rfl, fun hlets => absurd (h.1 hlets) nofun⟩

variable {α β : Type} {course : Course}

/-- A context is none of what is exchanged. -/
theorem allows_context_iff {talk : Talk} {outcome : Outcome α} {text : String} :
    course.Allows talk (outcome.context text) ↔ course.Allows talk outcome := by
  rcases outcome with result | error | _ <;> rfl

/-- Nothing behind a part makes no difference. -/
theorem allows_andThen_nothing {talk : Talk} {outcome : Outcome α} :
    (course.andThen fun _ => nothing).Allows talk outcome ↔ course.Allows talk outcome := by
  rcases outcome with result | error | _ <;> simp [Allows, andThen, nothing]

/-! ## How a course goes on -/

/-- The course can be gone through, and wherever it can be broken off it could have gone on: the
calls made until then are the beginning of a whole course. -/
structure Extends (course : Course) : Prop where
  exists_whole : ∃ whole, course.Whole whole
  of_broken : ∀ talk, course.Broken talk →
    ∃ whole, course.Whole whole ∧ talk.map Exchange.call <+: whole.map Exchange.call

theorem Extends.andThen {first : Course} {next : Talk → Course} (hfirst : first.Extends)
    (hnext : ∀ before, (next before).Extends) : (first.andThen next).Extends := by
  -- Behind every first part there is some way through.
  have hbehind : ∀ before, first.Whole before →
      ∃ after, (first.andThen next).Whole (before ++ after) := by
    intro before hbefore
    obtain ⟨after, hafter⟩ := (hnext before).exists_whole
    exact ⟨after, before, after, rfl, hbefore, hafter⟩
  obtain ⟨before, hbefore⟩ := hfirst.exists_whole
  obtain ⟨after, hwhole⟩ := hbehind before hbefore
  refine ⟨⟨_, hwhole⟩, ?_⟩
  rintro talk (hbroken | ⟨before, after, rfl, hbefore, hbroken⟩)
  · obtain ⟨before, hbefore, hprefix⟩ := hfirst.of_broken talk hbroken
    obtain ⟨after, hwhole⟩ := hbehind before hbefore
    refine ⟨_, hwhole, ?_⟩
    rw [List.map_append]
    exact hprefix.trans (List.prefix_append _ _)
  · obtain ⟨whole, hwhole, hprefix⟩ := (hnext before).of_broken after hbroken
    refine ⟨before ++ whole, ⟨before, whole, rfl, hbefore, hwhole⟩, ?_⟩
    rw [List.map_append, List.map_append, List.prefix_append_right_inj]
    exact hprefix

end Course

/-! ## Keeping to a course -/

namespace Procedure

variable {α β : Type} {course : Course}

/-- Whatever the answers are, the procedure exchanges what the course allows. -/
def Keeps (body : Procedure platformSystem α) (course : Course) : Prop :=
  ∀ talk outcome, body.Path talk outcome → course.Allows talk outcome

/-- The course of a composition is that of its first part and, behind a value, that of its
second. -/
theorem Keeps.bind {first : Procedure platformSystem α} {next : α → Procedure platformSystem β}
    {behind : Talk → Course} (hfirst : first.Keeps course)
    (hnext : ∀ before middle, first.Path before (.value middle) →
      (next middle).Keeps (behind before)) :
    (first >>= next).Keeps (course.andThen behind) := by
  intro talk outcome h
  rcases path_bind_iff.1 h with
    ⟨middle, before, after, rfl, hbefore, hafter⟩ | ⟨error, hfailed, rfl⟩ | ⟨hcrashed, rfl⟩
  · have hwhole := hfirst before _ hbefore
    have hallows := hnext before middle hbefore after outcome hafter
    rcases outcome with result | error | _
    · exact ⟨before, after, rfl, hwhole, hallows⟩
    · exact .inr ⟨before, after, rfl, hwhole, hallows⟩
    · exact .inr ⟨before, after, rfl, hwhole, hallows⟩
  · exact .inl (hfirst talk _ hfailed)
  · exact .inl (hfirst talk _ hcrashed)

/-- What makes no calls adds nothing to the course before it. -/
theorem Keeps.bind_nothing {first : Procedure platformSystem α}
    {next : α → Procedure platformSystem β} (hfirst : first.Keeps course)
    (hnext : ∀ middle, (next middle).Keeps .nothing) : (first >>= next).Keeps course := by
  have hboth : (first >>= next).Keeps (course.andThen fun _ => .nothing) :=
    hfirst.bind fun _ middle _ => hnext middle
  intro talk outcome h
  rw [← Course.allows_andThen_nothing]
  exact hboth talk outcome h

theorem keeps_pure (result : α) : (pure result : Procedure platformSystem α).Keeps .nothing := by
  intro talk outcome h
  obtain ⟨rfl, rfl⟩ := path_pure_iff.1 h
  exact rfl

theorem Keeps.context {body : Procedure platformSystem α} (h : body.Keeps course)
    (text : String) : (body.context text).Keeps course := by
  intro talk outcome hpath
  obtain ⟨first, before, after, rfl, hbefore, hafter⟩ := path_onEnd_iff.1 hpath
  obtain ⟨rfl, rfl⟩ := path_ends_iff.1 hafter
  rw [List.append_nil, Course.allows_context_iff]
  exact h before first hbefore

/-- A call and the reading of its result are one exchange, and the discovery goes on behind it if
there is a result that can be read. -/
theorem keeps_ask_bind {call : PlatformCall} {readable : call.Result → Prop}
    {next : call.Result → Procedure platformSystem α} {ending : call.Result → Outcome α}
    (hnext : ∀ result, (next result).EndsAs (ending result))
    (hreadable : ∀ result, readable result ↔ ∃ value, ending result = .value value)
    (text : String) :
    ((ask call).context text >>= next).Keeps
      (.single call fun answer => ∃ result, answer = .value result ∧ readable result) := by
  intro talk outcome h
  obtain ⟨answer, rfl, rfl⟩ := exchange_of_ask_bind hnext h
  apply Course.single_allows
  simp only [hreadable]
  rcases answer with result | error | _ <;> simp [Outcome.context]

/-- What makes no calls and has a value adds nothing in front. -/
theorem Keeps.value_bind {first : Procedure platformSystem α}
    {next : α → Procedure platformSystem β} {middle : α} (hfirst : first.EndsAs (.value middle))
    (hnext : (next middle).Keeps course) : (first >>= next).Keeps course :=
  fun talk outcome h => hnext talk outcome (hfirst.path_bind h)

end Procedure

end GpuDiscovery
