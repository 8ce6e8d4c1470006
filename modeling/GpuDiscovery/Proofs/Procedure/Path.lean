import GpuDiscovery.Procedure
import GpuDiscovery.Proofs.Procedure.Sequence

/-!
# Paths through a procedure

A run of a procedure is one path from the root of its tree to one of its ends: the calls on the way
with the answer that each of them got. `Path` says which exchanges lead to which end, for any
answers at all, so a fact about all paths is a fact about all runs (`path_runAfter`), and the calls
made before no longer have to be carried along.

The rules below take a path apart where the procedure was put together, one rule for each way of
composing. They are stated as equivalences on purpose: read from left to right they say all that a
path can have done, and that is the form in which every stage of discovery is inverted later.
-/

namespace GpuDiscovery

/-- A call of a system together with the answer it got. -/
structure Exchange (S : System) where
  call : S.Call
  answer : S.Answer call

/-- The exchanges behind calls that were made one after the other, `past` being the calls before
them, latest first. -/
def exchangesAfter {S : System} (respond : S.Responder) :
    (past calls : List S.Call) → List (Exchange S)
  | _, [] => []
  | past, call :: rest =>
    ⟨call, respond past call⟩ :: exchangesAfter respond (call :: past) rest

/-- What was exchanged in a run that nothing preceded. -/
def Run.exchanges {S : System} {α : Type} (run : Run S.Call α) (respond : S.Responder) :
    List (Exchange S) :=
  exchangesAfter respond [] run.calls

theorem exchangesAfter_append {S : System} (respond : S.Responder) (past xs ys : List S.Call) :
    exchangesAfter respond past (xs ++ ys) =
      exchangesAfter respond past xs ++ exchangesAfter respond (xs.reverse ++ past) ys := by
  induction xs generalizing past with
  | nil => rfl
  | cons call rest ih =>
    simp only [List.cons_append, exchangesAfter, ih, List.reverse_cons, List.append_assoc,
      List.nil_append]

/-- Every call is exchanged once, in order. -/
theorem map_call_exchangesAfter {S : System} (respond : S.Responder) (past calls : List S.Call) :
    (exchangesAfter respond past calls).map Exchange.call = calls := by
  induction calls generalizing past with
  | nil => rfl
  | cons call rest ih => rw [exchangesAfter, List.map_cons, ih]

/-- Where calls are answered alike, the first of them are, and the others behind these. -/
theorem exchangesAfter_append_inj {S : System} {respond again : S.Responder}
    {past later xs ys : List S.Call}
    (h : exchangesAfter again later (xs ++ ys) = exchangesAfter respond past (xs ++ ys)) :
    exchangesAfter again later xs = exchangesAfter respond past xs ∧
      exchangesAfter again (xs.reverse ++ later) ys =
        exchangesAfter respond (xs.reverse ++ past) ys := by
  rw [exchangesAfter_append, exchangesAfter_append] at h
  refine List.append_inj h ?_
  rw [← List.length_map Exchange.call, ← List.length_map Exchange.call, map_call_exchangesAfter,
    map_call_exchangesAfter]

/-- Every exchange has the answer that the responder gave to its call at some time. -/
theorem exists_past_of_mem_exchangesAfter {S : System} {respond : S.Responder}
    {past calls : List S.Call} {exchange : Exchange S}
    (h : exchange ∈ exchangesAfter respond past calls) :
    ∃ earlier, exchange.answer = respond earlier exchange.call := by
  induction calls generalizing past with
  | nil => exact absurd h List.not_mem_nil
  | cons call rest ih =>
    rcases List.mem_cons.1 h with rfl | h
    · exact ⟨past, rfl⟩
    · exact ih h

namespace Procedure

variable {S : System} {α β : Type}

/-- The exchanges lead through the procedure to the outcome. -/
inductive Path : Procedure S α → List (Exchange S) → Outcome α → Prop where
  | ends (outcome : Outcome α) : Path (ends outcome) [] outcome
  | calls {call : S.Call} {next : S.Answer call → Procedure S α} (answer : S.Answer call)
      {talk : List (Exchange S)} {outcome : Outcome α} (h : Path (next answer) talk outcome) :
      Path (calls call next) (⟨call, answer⟩ :: talk) outcome
  | informs (text : String) {next : Procedure S α} {talk : List (Exchange S)}
      {outcome : Outcome α} (h : Path next talk outcome) : Path (informs text next) talk outcome
  | warns (text : String) {next : Procedure S α} {talk : List (Exchange S)}
      {outcome : Outcome α} (h : Path next talk outcome) : Path (warns text next) talk outcome

/-- **Every run follows a path.** The exchanges are those of the run's calls, each with the answer
that the responder gave at that point. -/
theorem path_runAfter (respond : S.Responder) (body : Procedure S α) (past : List S.Call) :
    body.Path (exchangesAfter respond past (body.runAfter respond past).calls)
      (body.runAfter respond past).outcome := by
  induction body generalizing past with
  | ends outcome => exact .ends outcome
  | calls call next ih => exact .calls _ (ih _ (call :: past))
  | informs text next ih => exact .informs text (ih past)
  | warns text next ih => exact .warns text (ih past)

theorem path_run (respond : S.Responder) (body : Procedure S α) :
    body.Path ((body.run respond).exchanges respond) (body.run respond).outcome := by
  rw [run_eq_runAfter]
  exact path_runAfter respond body []

/-- **A run is made again if its calls are answered as they were.** Answers to any other calls make
no difference. -/
theorem runAfter_eq_of_exchanges (body : Procedure S α) {respond again : S.Responder}
    {past later : List S.Call}
    (h : exchangesAfter again later (body.runAfter respond past).calls =
      exchangesAfter respond past (body.runAfter respond past).calls) :
    body.runAfter again later = body.runAfter respond past := by
  induction body generalizing past later with
  | ends outcome => rfl
  | calls call next ih =>
    obtain ⟨hfirst, hrest⟩ := List.cons.inj h
    have hanswer : again later call = respond past call := eq_of_heq (Exchange.mk.inj hfirst).2
    rw [runAfter, runAfter, hanswer, ih _ hrest]
  | informs text next ih => rw [runAfter, runAfter, ih h]
  | warns text next ih => rw [runAfter, runAfter, ih h]

variable {talk : List (Exchange S)} {outcome : Outcome β}

/-! ## Paths of compositions -/

/-- A path of a grown procedure is a path to one of the old ends and, behind it, a path of what
was grown there. -/
theorem path_onEnd_iff {body : Procedure S α} {next : Outcome α → Procedure S β} :
    (body.onEnd next).Path talk outcome ↔
      ∃ first before after, talk = before ++ after ∧ body.Path before first ∧
        (next first).Path after outcome := by
  constructor
  · intro h
    induction body generalizing talk with
    | ends first => exact ⟨first, [], talk, rfl, .ends first, h⟩
    | calls call rest ih =>
      cases h with
      | calls answer h =>
        obtain ⟨first, before, after, rfl, hbefore, hafter⟩ := ih answer h
        exact ⟨first, _ :: before, after, rfl, .calls answer hbefore, hafter⟩
    | informs text rest ih =>
      cases h with
      | informs _ h =>
        obtain ⟨first, before, after, rfl, hbefore, hafter⟩ := ih h
        exact ⟨first, before, after, rfl, .informs text hbefore, hafter⟩
    | warns text rest ih =>
      cases h with
      | warns _ h =>
        obtain ⟨first, before, after, rfl, hbefore, hafter⟩ := ih h
        exact ⟨first, before, after, rfl, .warns text hbefore, hafter⟩
  · rintro ⟨first, before, after, rfl, hbefore, hafter⟩
    induction hbefore with
    | ends first => exact hafter
    | calls answer _ ih => exact .calls answer (ih hafter)
    | informs text _ ih => exact .informs text (ih hafter)
    | warns text _ ih => exact .warns text (ih hafter)

theorem path_ends_iff {first : Outcome β} :
    (ends first : Procedure S β).Path talk outcome ↔ talk = [] ∧ outcome = first := by
  constructor
  · intro h
    cases h
    exact ⟨rfl, rfl⟩
  · rintro ⟨rfl, rfl⟩
    exact .ends _

theorem path_pure_iff {result : β} :
    (pure result : Procedure S β).Path talk outcome ↔ talk = [] ∧ outcome = .value result :=
  path_ends_iff

theorem path_ofOutcome_iff {first : Outcome β} :
    (ofOutcome first : Procedure S β).Path talk outcome ↔ talk = [] ∧ outcome = first :=
  path_ends_iff

theorem path_perform_iff {call : S.Call} {result : Outcome (S.Answer call)} :
    (perform call).Path talk result ↔
      ∃ answer, talk = [⟨call, answer⟩] ∧ result = .value answer := by
  constructor
  · intro h
    cases h with
    | calls answer h =>
      cases h
      exact ⟨answer, rfl, rfl⟩
  · rintro ⟨answer, rfl, rfl⟩
    exact .calls answer (.ends _)

/-- Notes leave no trace on a path. -/
theorem path_info_iff {text : String} {result : Outcome Unit} :
    (info text : Procedure S Unit).Path talk result ↔ talk = [] ∧ result = .value () := by
  constructor
  · intro h
    cases h with
    | informs _ h =>
      cases h
      exact ⟨rfl, rfl⟩
  · rintro ⟨rfl, rfl⟩
    exact .informs text (.ends _)

/-- A composition goes on after a value and stops at any other end of its first part. -/
theorem path_bind_iff {first : Procedure S α} {next : α → Procedure S β} :
    (first >>= next).Path talk outcome ↔
      (∃ middle before after, talk = before ++ after ∧ first.Path before (.value middle) ∧
        (next middle).Path after outcome) ∨
      (∃ error, first.Path talk (.failed error) ∧ outcome = .failed error) ∨
      (first.Path talk .crashed ∧ outcome = .crashed) := by
  refine path_onEnd_iff.trans ⟨?_, ?_⟩
  · rintro ⟨_ | error | _, before, after, rfl, hbefore, hafter⟩
    · exact .inl ⟨_, before, after, rfl, hbefore, hafter⟩
    · obtain ⟨rfl, rfl⟩ := path_ends_iff.1 hafter
      exact .inr (.inl ⟨error, by rwa [List.append_nil], rfl⟩)
    · obtain ⟨rfl, rfl⟩ := path_ends_iff.1 hafter
      exact .inr (.inr ⟨by rwa [List.append_nil], rfl⟩)
  · rintro (⟨middle, before, after, rfl, hbefore, hafter⟩ | ⟨error, h, rfl⟩ | ⟨h, rfl⟩)
    · exact ⟨.value middle, before, after, rfl, hbefore, hafter⟩
    · exact ⟨.failed error, talk, [], (List.append_nil _).symm, h, .ends _⟩
    · exact ⟨.crashed, talk, [], (List.append_nil _).symm, h, .ends _⟩

/-- A composition goes on after a value, or it stops as its first part does. -/
theorem path_bind_cases {first : Procedure S α} {next : α → Procedure S β}
    (h : (first >>= next).Path talk outcome) :
    (∃ middle before after, talk = before ++ after ∧ first.Path before (.value middle) ∧
      (next middle).Path after outcome) ∨
    ∃ ending, first.Path talk ending ∧ ending.StopsAs outcome := by
  rcases path_bind_iff.1 h with hgoes | ⟨error, hfailed, rfl⟩ | ⟨hcrashed, rfl⟩
  · exact .inl hgoes
  · exact .inr ⟨_, hfailed, .failed error⟩
  · exact .inr ⟨_, hcrashed, .crashed⟩

/-- A composition has a value exactly along a path on which both parts have one. -/
theorem path_bind_value_iff {first : Procedure S α} {next : α → Procedure S β} {result : β} :
    (first >>= next).Path talk (.value result) ↔
      ∃ middle before after, talk = before ++ after ∧ first.Path before (.value middle) ∧
        (next middle).Path after (.value result) := by
  rw [path_bind_iff]
  simp only [reduceCtorEq, and_false, exists_false, or_false]

/-- A composition fails with the error of its first part, or of its second part behind a value. -/
theorem path_bind_failed_iff {first : Procedure S α} {next : α → Procedure S β}
    {error : DiscoveryError} :
    (first >>= next).Path talk (.failed error) ↔
      first.Path talk (.failed error) ∨
        ∃ middle before after, talk = before ++ after ∧ first.Path before (.value middle) ∧
          (next middle).Path after (.failed error) := by
  rw [path_bind_iff]
  simp only [Outcome.failed.injEq, exists_eq_right', reduceCtorEq, and_false, or_false]
  exact or_comm

/-- In a context a procedure goes the same paths, with the context on their ends. -/
theorem path_context_iff {text : String} {body : Procedure S β} :
    (body.context text).Path talk outcome ↔
      ∃ first, body.Path talk first ∧ outcome = first.context text := by
  rw [context, path_onEnd_iff]
  constructor
  · rintro ⟨first, before, after, rfl, hbefore, hafter⟩
    obtain ⟨rfl, rfl⟩ := path_ends_iff.1 hafter
    exact ⟨first, by rwa [List.append_nil], rfl⟩
  · rintro ⟨first, h, rfl⟩
    exact ⟨first, talk, [], (List.append_nil _).symm, h, .ends _⟩

/-- A context is invisible on a path that ends with a value. -/
theorem path_context_value_iff {text : String} {body : Procedure S β} {result : β} :
    (body.context text).Path talk (.value result) ↔ body.Path talk (.value result) := by
  rw [path_context_iff]
  constructor
  · rintro ⟨first, h, hfirst⟩
    rwa [Outcome.context_eq_value_iff.1 hfirst.symm] at h
  · intro h
    exact ⟨.value result, h, rfl⟩

/-- What fails in a context fails without it, with the cause. -/
theorem path_context_failed_iff {text : String} {body : Procedure S β} {error : DiscoveryError} :
    (body.context text).Path talk (.failed error) ↔
      ∃ cause, body.Path talk (.failed cause) ∧ error = .wrapped text cause := by
  rw [path_context_iff]
  constructor
  · rintro ⟨first, h, hfirst⟩
    obtain ⟨cause, rfl, herror⟩ := Outcome.context_eq_failed_iff.1 hfirst.symm
    exact ⟨cause, h, herror⟩
  · rintro ⟨cause, h, rfl⟩
    exact ⟨.failed cause, h, rfl⟩

/-- An attempt goes the paths of its body, with an error turned into a result. -/
theorem path_attempt_iff {body : Procedure S β} {tried : Outcome (Except DiscoveryError β)} :
    body.attempt.Path talk tried ↔
      (∃ result, body.Path talk (.value result) ∧ tried = .value (.ok result)) ∨
        (∃ error, body.Path talk (.failed error) ∧ tried = .value (.error error)) ∨
        (body.Path talk .crashed ∧ tried = .crashed) := by
  refine path_onEnd_iff.trans ⟨?_, ?_⟩
  · rintro ⟨result | error | _, before, after, rfl, hbefore, hafter⟩
    · obtain ⟨rfl, rfl⟩ := path_ends_iff.1 hafter
      exact .inl ⟨result, by rwa [List.append_nil], rfl⟩
    · obtain ⟨rfl, rfl⟩ := path_ends_iff.1 hafter
      exact .inr (.inl ⟨error, by rwa [List.append_nil], rfl⟩)
    · obtain ⟨rfl, rfl⟩ := path_ends_iff.1 hafter
      exact .inr (.inr ⟨by rwa [List.append_nil], rfl⟩)
  · rintro (⟨result, h, rfl⟩ | ⟨error, h, rfl⟩ | ⟨h, rfl⟩)
    · exact ⟨_, talk, [], (List.append_nil _).symm, h, .ends _⟩
    · exact ⟨_, talk, [], (List.append_nil _).symm, h, .ends _⟩
    · exact ⟨_, talk, [], (List.append_nil _).symm, h, .ends _⟩

/-- What is done before a note and after it is done with no note in between. -/
theorem path_info_bind_iff {text : String} {next : Unit → Procedure S β} :
    (info text >>= next).Path talk outcome ↔ (next ()).Path talk outcome := by
  refine path_onEnd_iff.trans ⟨?_, ?_⟩
  · rintro ⟨first, before, after, rfl, hbefore, hafter⟩
    obtain ⟨rfl, rfl⟩ := path_info_iff.1 hbefore
    exact hafter
  · intro h
    exact ⟨.value (), [], talk, rfl, .informs text (.ends _), h⟩

/-- A call is one exchange, and what follows it depends on the answer. -/
theorem path_perform_bind_iff {call : S.Call} {next : S.Answer call → Procedure S β} :
    (perform call >>= next).Path talk outcome ↔
      ∃ answer behind, talk = ⟨call, answer⟩ :: behind ∧ (next answer).Path behind outcome := by
  refine path_onEnd_iff.trans ⟨?_, ?_⟩
  · rintro ⟨first, before, after, rfl, hbefore, hafter⟩
    obtain ⟨answer, rfl, rfl⟩ := path_perform_iff.1 hbefore
    exact ⟨answer, after, rfl, hafter⟩
  · rintro ⟨answer, behind, rfl, h⟩
    exact ⟨.value answer, _, behind, rfl, path_perform_iff.2 ⟨answer, rfl, rfl⟩, h⟩

/-! ## Procedures that make no calls -/

/-- The procedure makes no calls, and ends so. -/
def EndsAs (body : Procedure S α) (ending : Outcome α) : Prop :=
  ∀ talk outcome, body.Path talk outcome → talk = [] ∧ outcome = ending

/-- What makes no calls ends in the same way in every run. -/
theorem EndsAs.outcome_eq {body : Procedure S α} {ending : Outcome α} (h : body.EndsAs ending)
    (respond : S.Responder) (past : List S.Call) :
    (body.runAfter respond past).outcome = ending :=
  (h _ _ (path_runAfter respond body past)).2

theorem endsAs_pure (result : α) : (pure result : Procedure S α).EndsAs (.value result) :=
  fun _ _ h => path_pure_iff.1 h

theorem endsAs_ofOutcome (ending : Outcome α) :
    (ofOutcome ending : Procedure S α).EndsAs ending :=
  fun _ _ h => path_ofOutcome_iff.1 h

theorem endsAs_info (text : String) : (info text : Procedure S Unit).EndsAs (.value ()) :=
  fun _ _ h => path_info_iff.1 h

theorem EndsAs.bind {first : Procedure S α} {next : α → Procedure S β} {middle : Outcome α}
    {ending : α → Outcome β} (hfirst : first.EndsAs middle)
    (hnext : ∀ result, (next result).EndsAs (ending result)) :
    (first >>= next).EndsAs (middle >>= ending) := by
  intro talk outcome h
  rcases path_bind_cases h with
    ⟨result, before, after, rfl, hbefore, hafter⟩ | ⟨stopped, hstopped, hstops⟩
  · obtain ⟨rfl, hresult⟩ := hfirst before _ hbefore
    obtain ⟨rfl, rfl⟩ := hnext result after outcome hafter
    rw [← hresult]
    exact ⟨rfl, rfl⟩
  · obtain ⟨rfl, rfl⟩ := hfirst talk _ hstopped
    exact ⟨rfl, (hstops.bind_eq ending).symm⟩

/-- Behind what makes no calls and has one value, a path is a path of what comes with this value. -/
theorem EndsAs.path_bind {first : Procedure S α} {next : α → Procedure S β} {middle : α}
    (hfirst : first.EndsAs (.value middle)) (h : (first >>= next).Path talk outcome) :
    (next middle).Path talk outcome := by
  rcases path_bind_cases h with
    ⟨result, before, after, rfl, hbefore, hafter⟩ | ⟨stopped, hstopped, hstops⟩
  · obtain ⟨rfl, hresult⟩ := hfirst before _ hbefore
    rw [Outcome.value.inj hresult] at hafter
    exact hafter
  · obtain ⟨rfl, rfl⟩ := hfirst talk _ hstopped
    exact absurd hstops nofun

theorem EndsAs.value_bind {first : Procedure S α} {next : α → Procedure S β} {middle : α}
    {ending : Outcome β} (hfirst : first.EndsAs (.value middle))
    (hnext : (next middle).EndsAs ending) : (first >>= next).EndsAs ending :=
  fun talk outcome h => hnext talk outcome (hfirst.path_bind h)

/-! ## Runs of compositions -/

/-- Behind a first part that ends with a value, a composition goes on as its second part does. -/
theorem runAfter_bind_of_value {respond : S.Responder} {first : Procedure S α}
    {past : List S.Call} {middle : α} (next : α → Procedure S β)
    (h : (first.runAfter respond past).outcome = .value middle) :
    (first >>= next).runAfter respond past =
      ⟨((next middle).runAfter respond
          ((first.runAfter respond past).calls.reverse ++ past)).outcome,
        (first.runAfter respond past).events ++ ((next middle).runAfter respond
          ((first.runAfter respond past).calls.reverse ++ past)).events⟩ := by
  rw [runAfter_bind]
  generalize first.runAfter respond past = ran at h
  obtain ⟨outcome, events⟩ := ran
  rw [show outcome = .value middle from h]
  rfl

/-- What is exchanged in a composition is what is exchanged in its first part and, behind its value,
in its second. -/
theorem exchanges_bind_of_value {respond : S.Responder} {first : Procedure S α}
    {past : List S.Call} {middle : α} (next : α → Procedure S β)
    (h : (first.runAfter respond past).outcome = .value middle) :
    exchangesAfter respond past ((first >>= next).runAfter respond past).calls =
      exchangesAfter respond past (first.runAfter respond past).calls ++
        exchangesAfter respond ((first.runAfter respond past).calls.reverse ++ past)
          ((next middle).runAfter respond
            ((first.runAfter respond past).calls.reverse ++ past)).calls := by
  rw [runAfter_bind_of_value next h, ← exchangesAfter_append, Run.calls, callsOf_append]
  rfl

/-- A composition that ends with a value went through a value of its first part. -/
theorem exists_value_of_bind {respond : S.Responder} {first : Procedure S α}
    {next : α → Procedure S β} {past : List S.Call} {result : β}
    (h : ((first >>= next).runAfter respond past).outcome = .value result) :
    ∃ middle, (first.runAfter respond past).outcome = .value middle := by
  rw [runAfter_bind] at h
  generalize first.runAfter respond past = ran at h
  rcases ran with ⟨middle | error | _, events⟩
  · exact ⟨middle, rfl⟩
  · cases h
  · cases h

/-- The run of an attempt is the run of its body, with an error turned into a result. -/
theorem runAfter_attempt (respond : S.Responder) (body : Procedure S α) (past : List S.Call) :
    body.attempt.runAfter respond past =
      match body.runAfter respond past with
      | ⟨.value result, events⟩ => ⟨.value (.ok result), events⟩
      | ⟨.failed error, events⟩ => ⟨.value (.error error), events⟩
      | ⟨.crashed, events⟩ => ⟨.crashed, events⟩ := by
  rw [attempt, runAfter_onEnd]
  rcases body.runAfter respond past with ⟨_ | _ | _, events⟩ <;>
    simp only [runAfter, List.append_nil]

/-! ## Which calls a procedure can make -/

/-- Whatever the answers are, the procedure makes no call but allowed ones. -/
def CallsOnly (allowed : S.Call → Prop) : Procedure S α → Prop
  | ends _ => True
  | calls call next => allowed call ∧ ∀ answer, (next answer).CallsOnly allowed
  | informs _ next => next.CallsOnly allowed
  | warns _ next => next.CallsOnly allowed

variable {allowed : S.Call → Prop}

theorem callsOnly_perform {call : S.Call} (h : allowed call) :
    (perform call).CallsOnly allowed :=
  ⟨h, fun _ => trivial⟩

/-- Growing a procedure adds the calls of what is grown. -/
theorem CallsOnly.onEnd {body : Procedure S α} {next : Outcome α → Procedure S β}
    (hbody : body.CallsOnly allowed) (hnext : ∀ first, (next first).CallsOnly allowed) :
    (body.onEnd next).CallsOnly allowed := by
  induction body with
  | ends first => exact hnext first
  | calls call rest ih => exact ⟨hbody.1, fun answer => ih answer (hbody.2 answer)⟩
  | informs text rest ih => exact ih hbody
  | warns text rest ih => exact ih hbody

theorem CallsOnly.bind {first : Procedure S α} {next : α → Procedure S β}
    (hfirst : first.CallsOnly allowed) (hnext : ∀ middle, (next middle).CallsOnly allowed) :
    (first >>= next).CallsOnly allowed := by
  refine hfirst.onEnd fun middle => ?_
  cases middle with
  | value middle => exact hnext middle
  | failed error => trivial
  | crashed => trivial

theorem CallsOnly.context {body : Procedure S α} (h : body.CallsOnly allowed) (text : String) :
    (body.context text).CallsOnly allowed :=
  h.onEnd fun _ => trivial

theorem CallsOnly.attempt {body : Procedure S α} (h : body.CallsOnly allowed) :
    body.attempt.CallsOnly allowed := by
  refine h.onEnd fun first => ?_
  cases first <;> trivial

theorem CallsOnly.mono {body : Procedure S α} {permitted : S.Call → Prop}
    (h : body.CallsOnly allowed) (himp : ∀ call, allowed call → permitted call) :
    body.CallsOnly permitted := by
  induction body with
  | ends outcome => trivial
  | calls call next ih => exact ⟨himp call h.1, fun answer => ih answer (h.2 answer)⟩
  | informs text next ih => exact ih h
  | warns text next ih => exact ih h

/-- The calls on a path are calls that the procedure can make. -/
theorem CallsOnly.of_path {body : Procedure S α} {ending : Outcome α}
    (h : body.CallsOnly allowed) (hpath : body.Path talk ending) :
    ∀ exchange ∈ talk, allowed exchange.call := by
  induction hpath with
  | ends => exact fun _ hmem => absurd hmem List.not_mem_nil
  | calls answer _ ih =>
    intro exchange hmem
    rcases List.mem_cons.1 hmem with rfl | hmem
    · exact h.1
    · exact ih (h.2 answer) exchange hmem
  | informs _ _ ih => exact ih h
  | warns _ _ ih => exact ih h

/-! ## With which errors a procedure can fail -/

/-- Whatever the answers are, the procedure fails with no error but one of this kind. -/
def FailsOnly (kind : DiscoveryError → Prop) (body : Procedure S α) : Prop :=
  ∀ talk error, body.Path talk (.failed error) → kind error

variable {kind : DiscoveryError → Prop}

theorem FailsOnly.bind {first : Procedure S α} {next : α → Procedure S β}
    (hfirst : first.FailsOnly kind) (hnext : ∀ middle, (next middle).FailsOnly kind) :
    (first >>= next).FailsOnly kind := by
  intro talk error h
  rcases path_bind_failed_iff.1 h with h | ⟨middle, before, after, rfl, -, h⟩
  · exact hfirst talk error h
  · exact hnext middle after error h

theorem FailsOnly.context {text : String} (h : ∀ cause, kind (.wrapped text cause))
    (body : Procedure S α) : (body.context text).FailsOnly kind := by
  intro talk error hpath
  obtain ⟨cause, -, rfl⟩ := path_context_failed_iff.1 hpath
  exact h cause

theorem FailsOnly.pure (result : α) : (Pure.pure result : Procedure S α).FailsOnly kind := by
  intro talk error h
  exact absurd (path_pure_iff.1 h).2 nofun

theorem FailsOnly.info (text : String) : (info text : Procedure S Unit).FailsOnly kind := by
  intro talk error h
  exact absurd (path_info_iff.1 h).2 nofun

/-- An attempt never fails. -/
theorem FailsOnly.attempt (body : Procedure S α) : body.attempt.FailsOnly kind := by
  intro talk error h
  rcases path_attempt_iff.1 h with ⟨_, -, hnone⟩ | ⟨_, -, hnone⟩ | ⟨-, hnone⟩
  all_goals cases hnone

/-- To attempt what never fails is to do it. -/
theorem FailsOnly.attempt_eq {body : Procedure S α} (h : body.FailsOnly fun _ => False) :
    body.attempt = body >>= fun result => Pure.pure (.ok result) := by
  induction body with
  | ends outcome =>
    rcases outcome with result | error | _
    · rfl
    · exact (h [] error (.ends _)).elim
    · rfl
  | calls call next ih =>
    have hnext : ∀ answer, (next answer).attempt = next answer >>= fun result =>
        Pure.pure (.ok result) :=
      fun answer => ih answer fun talk error hpath => h _ error (.calls answer hpath)
    exact congrArg (Procedure.calls call) (funext hnext)
  | informs text next ih =>
    exact congrArg (informs text) (ih fun talk error hpath => h talk error (.informs text hpath))
  | warns text next ih =>
    exact congrArg (warns text) (ih fun talk error hpath => h talk error (.warns text hpath))

/-- An attempt at a composition goes on after a result, and stops with an error. -/
theorem attempt_bind (first : Procedure S α) (next : α → Procedure S β) :
    (first >>= next).attempt = first.attempt >>= fun
      | .ok result => (next result).attempt
      | .error error => Pure.pure (.error error) := by
  refine (onEnd_onEnd _ _ _).trans (Eq.trans ?_ (onEnd_onEnd _ _ _).symm)
  congr 1
  funext outcome
  rcases outcome with result | error | _
  · rfl
  · rfl
  · rfl

end Procedure

end GpuDiscovery
