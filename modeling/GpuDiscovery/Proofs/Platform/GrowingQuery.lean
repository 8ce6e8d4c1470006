import GpuDiscovery.Proofs.Platform.Stage

/-!
# What a growing query comes to

A driver store is asked for with a room that grows, and the adapter may answer each query as it
likes. What the query comes to is said here from the side of the adapter. So long as it asks for
more than it was given (`Demands`), it is asked again with just that much; the first answer of any
other kind decides (`Decides`), and if none comes in as many attempts as there are, the query gives
up. These are all the ways of ending (`Concludes`), and each of them is taken exactly when the
adapter answers so (`queryGrowing_concludes`). That the rooms grow strictly is no assumption: an
adapter that asks for no more than it was given has decided.
-/

namespace GpuDiscovery

open Procedure

/-! ## From the side of the adapter -/

/-- Asked with this room after the calls made so far, and then each time with the room that it asked
for, the adapter asks for so many bytes, one answer after the other, and always for more. -/
inductive Demands (respond : platformSystem.Responder) (luid : Luid) :
    (past : List PlatformCall) → (room : Nat) → (demands : List Nat) → Prop where
  | nil {past : List PlatformCall} {room : Nat} : Demands respond luid past room []
  | cons {past : List PlatformCall} {room required : Nat} {rest : List Nat}
      (hanswer : respond past (.queryStorePath luid room) = .value (.overflow required))
      (hmore : room < required)
      (hrest : Demands respond luid (.queryStorePath luid room :: past) required rest) :
      Demands respond luid past room (required :: rest)

/-- The answer to a query with this room ends the asking, and so. -/
inductive Decides (room : Nat) : Outcome BufferAnswer → Outcome String → Prop where
  | complete (path : String) : Decides room (.value (.complete path)) (.value path)
  /-- More is asked for, and it is not more. -/
  | stuck {required : Nat} (h : required ≤ room) :
      Decides room (.value (.overflow required)) (.failed (stuckOverflow room required))
  | failed (error : DiscoveryError) : Decides room (.failed error) (.failed error)
  | crashed : Decides room .crashed .crashed

/-- The queries with these rooms. -/
def storeCalls (luid : Luid) (rooms : List Nat) : List PlatformCall :=
  rooms.map (.queryStorePath luid)

/-- The adapter answers so that queries with these rooms are made, from none at all on, and come to
this. -/
inductive Concludes (respond : platformSystem.Responder) (luid : Luid) (past : List PlatformCall)
    (maxAttempts : Nat) : (rooms : List Nat) → Outcome String → Prop where
  /-- As many demands as there are attempts. The last of them is not met. -/
  | exhausted {demands : List Nat} (h : Demands respond luid past 0 demands)
      (hcount : demands.length = maxAttempts) :
      Concludes respond luid past maxAttempts (0 :: demands).dropLast
        (.failed (.queryRetryLimit maxAttempts))
  /-- Fewer demands, and then an answer that decides. -/
  | decided {demands : List Nat} (h : Demands respond luid past 0 demands)
      (hcount : demands.length < maxAttempts) {outcome : Outcome String}
      (hdecides : Decides (demands.getLastD 0)
        (respond ((storeCalls luid (0 :: demands).dropLast).reverse ++ past)
          (.queryStorePath luid (demands.getLastD 0))) outcome) :
      Concludes respond luid past maxAttempts (0 :: demands) outcome

variable {respond : platformSystem.Responder} {luid : Luid} {past : List PlatformCall}

/-- Demands grow. -/
theorem Demands.pairwise {room : Nat} {demands : List Nat}
    (h : Demands respond luid past room demands) : (room :: demands).Pairwise (· < ·) := by
  induction h with
  | nil => exact List.pairwise_singleton _ _
  | @cons _ room required rest _ hmore _ ih =>
    rw [List.pairwise_cons]
    refine ⟨?_, ih⟩
    intro later hlater
    rcases List.mem_cons.1 hlater with rfl | hlater
    · exact hmore
    · exact Nat.lt_trans hmore ((List.pairwise_cons.1 ih).1 later hlater)

/-- A demand is met: what is asked for is the room of the next query. -/
theorem Demands.answered {room : Nat} {demands : List Nat}
    (h : Demands respond luid past room demands) {index : Nat} {asked next : Nat}
    (hasked : (room :: demands)[index]? = some asked)
    (hnext : (room :: demands)[index + 1]? = some next) (rest : List PlatformCall) :
    (exchangesAfter respond past
        (storeCalls luid (room :: demands).dropLast ++ rest))[index]? =
      some ⟨.queryStorePath luid asked, .value (.overflow next)⟩ := by
  induction h generalizing index with
  | nil => cases hnext
  | @cons past room required demands hanswer _ _ ih =>
    rw [List.dropLast_cons_cons, storeCalls, List.map_cons, List.cons_append, exchangesAfter,
      hanswer]
    rcases index with _ | index
    · obtain rfl := Option.some.inj hasked
      obtain rfl := Option.some.inj hnext
      rfl
    · exact ih hasked hnext

/-! ## What the asking does -/

/-- The asking for the driver store of an adapter. -/
abbrev askGrowing (luid : Luid) (maxAttempts attempts room : Nat) :
    Procedure platformSystem String :=
  growFrom (fun room => ask (.queryStorePath luid room)) maxAttempts attempts room

variable {maxAttempts attempts room : Nat}

/-- An answer that decides is the last one that is waited for. -/
theorem runAfter_askGrowing_of_decides {outcome : Outcome String}
    (h : Decides room (respond past (.queryStorePath luid room)) outcome) :
    (askGrowing luid maxAttempts (attempts + 1) room).runAfter respond past =
      ⟨outcome, [.called (.queryStorePath luid room)]⟩ := by
  rw [askGrowing, growFrom, runAfter_bind, runAfter_ask]
  generalize respond past (.queryStorePath luid room) = answer at h
  cases h with
  | complete path => rfl
  | stuck hstuck =>
    dsimp only
    rw [if_pos hstuck]
    rfl
  | failed error => rfl
  | crashed => rfl

/-- Behind a demand the next query is made, with one attempt less. -/
theorem runAfter_askGrowing_of_overflow {required : Nat}
    (hanswer : respond past (.queryStorePath luid room) = .value (.overflow required))
    (hmore : room < required) :
    (askGrowing luid maxAttempts (attempts + 1) room).runAfter respond past =
      ((askGrowing luid maxAttempts attempts required).runAfter respond
        (.queryStorePath luid room :: past)).after (.called (.queryStorePath luid room)) := by
  rw [askGrowing, growFrom, runAfter_bind, runAfter_ask, hanswer]
  dsimp only
  rw [if_neg (Nat.not_le.2 hmore)]
  rfl

/-- Demands are met one after the other, and an attempt is spent on each. -/
theorem runAfter_askGrowing_of_demands {demands : List Nat}
    (h : Demands respond luid past room demands) :
    let asked := storeCalls luid (room :: demands).dropLast
    let behind := (askGrowing luid maxAttempts attempts (demands.getLastD room)).runAfter respond
      (asked.reverse ++ past)
    (askGrowing luid maxAttempts (demands.length + attempts) room).runAfter respond past =
      ⟨behind.outcome, asked.map .called ++ behind.events⟩ := by
  induction h with
  | nil => simp [storeCalls]
  | @cons past room required demands hanswer hmore _ ih =>
    rw [List.length_cons, Nat.add_right_comm, runAfter_askGrowing_of_overflow hanswer hmore, ih,
      List.dropLast_cons_cons, List.getLastD_cons]
    simp [storeCalls, Run.after]

theorem callsOf_map_called {Call : Type} (calls : List Call) :
    callsOf (calls.map Event.called) = calls := by
  induction calls with
  | nil => rfl
  | cons call rest ih => exact congrArg (call :: ·) ih

/-- Whatever the adapter answers, there are some demands, and then the attempts are spent or an
answer decides. -/
theorem exists_demands (respond : platformSystem.Responder) (luid : Luid)
    (past : List PlatformCall) (room attempts : Nat) :
    ∃ demands, Demands respond luid past room demands ∧
      (demands.length = attempts ∨ demands.length < attempts ∧ ∃ outcome,
        Decides (demands.getLastD room)
          (respond ((storeCalls luid (room :: demands).dropLast).reverse ++ past)
            (.queryStorePath luid (demands.getLastD room))) outcome) := by
  induction attempts generalizing past room with
  | zero => exact ⟨[], .nil, .inl rfl⟩
  | succ attempts ih =>
    rcases hanswer : respond past (.queryStorePath luid room) with (path | required) | error | _
    · exact ⟨[], .nil, .inr ⟨Nat.succ_pos attempts, _, hanswer.symm ▸ Decides.complete path⟩⟩
    · by_cases hstuck : required ≤ room
      · exact ⟨[], .nil, .inr ⟨Nat.succ_pos attempts, _, hanswer.symm ▸ Decides.stuck hstuck⟩⟩
      -- The demand counts, and the rest is what comes of the next query.
      · obtain ⟨demands, hdemands, hends⟩ := ih (.queryStorePath luid room :: past) required
        refine ⟨required :: demands, .cons hanswer (Nat.lt_of_not_le hstuck) hdemands, ?_⟩
        rw [List.length_cons, Nat.add_right_cancel_iff, Nat.add_lt_add_iff_right,
          List.dropLast_cons_cons, List.getLastD_cons]
        simpa [storeCalls] using hends
    · exact ⟨[], .nil, .inr ⟨Nat.succ_pos attempts, _, hanswer.symm ▸ Decides.failed error⟩⟩
    · exact ⟨[], .nil, .inr ⟨Nat.succ_pos attempts, _, hanswer.symm ▸ Decides.crashed⟩⟩

/-! ## All ways of ending -/

theorem dropLast_concat_getLastD (room : Nat) (demands : List Nat) :
    (room :: demands).dropLast ++ [demands.getLastD room] = room :: demands := by
  rw [← List.getLast_eq_getLastD (List.cons_ne_nil room demands), List.dropLast_concat_getLast]

/-- A query that concludes so is run so. -/
theorem Concludes.run_eq {rooms : List Nat} {outcome : Outcome String}
    (h : Concludes respond luid past maxAttempts rooms outcome) :
    (askGrowing luid maxAttempts maxAttempts 0).runAfter respond past =
      ⟨outcome, (storeCalls luid rooms).map .called⟩ := by
  cases h with
  | @exhausted demands h hcount =>
    have hrun := @runAfter_askGrowing_of_demands respond luid past maxAttempts 0 0 demands h
    rw [Nat.add_zero, hcount] at hrun
    rw [hrun]
    exact congrArg (Run.mk _) (List.append_nil _)
  | @decided demands h hcount outcome hdecides =>
    obtain ⟨left, hleft⟩ := Nat.exists_eq_add_of_lt hcount
    have hrun :=
      @runAfter_askGrowing_of_demands respond luid past maxAttempts (left + 1) 0 demands h
    dsimp only at hrun
    rw [runAfter_askGrowing_of_decides hdecides, ← Nat.add_assoc, ← hleft] at hrun
    rw [hrun]
    conv_rhs => rw [← dropLast_concat_getLastD 0 demands, storeCalls, List.map_append,
      List.map_append]
    rfl

theorem exists_concludes (respond : platformSystem.Responder) (luid : Luid)
    (past : List PlatformCall) (maxAttempts : Nat) :
    ∃ rooms outcome, Concludes respond luid past maxAttempts rooms outcome := by
  obtain ⟨demands, hdemands, hcount | ⟨hcount, outcome, hdecides⟩⟩ :=
    exists_demands respond luid past 0 maxAttempts
  · exact ⟨_, _, .exhausted hdemands hcount⟩
  · exact ⟨_, _, .decided hdemands hcount hdecides⟩

/-- Queries are told apart by their rooms. -/
theorem storeCalls_inj {luid : Luid} {xs ys : List Nat}
    (h : storeCalls luid xs = storeCalls luid ys) : xs = ys := by
  refine List.map_injective_iff.2 ?_ h
  intro x y hxy
  exact (PlatformCall.queryStorePath.inj hxy).2

/-- In whatever way a query ends, its rooms grow from none at all, each is what the answer before it
asked for, and there are no more than attempts. -/
theorem Concludes.grows {rooms : List Nat} {outcome : Outcome String}
    (h : Concludes respond luid past maxAttempts rooms outcome) :
    rooms.length ≤ maxAttempts ∧ (∀ first ∈ rooms.head?, first = 0) ∧
      rooms.Pairwise (· < ·) ∧
      ∀ index asked next, rooms[index]? = some asked → rooms[index + 1]? = some next →
        (exchangesAfter respond past (storeCalls luid rooms))[index]? =
          some ⟨.queryStorePath luid asked, .value (.overflow next)⟩ := by
  cases h with
  | @exhausted demands h hcount =>
    have hprefix := List.dropLast_prefix (0 :: demands)
    refine ⟨?_, ?_, h.pairwise.sublist hprefix.sublist, ?_⟩
    · rw [List.length_dropLast, List.length_cons, hcount]
      exact Nat.le_refl _
    · rcases demands with _ | ⟨required, rest⟩
      · rintro _ ⟨⟩
      · rintro _ ⟨⟩
        rfl
    · intro index asked next hasked hnext
      rw [List.getElem?_dropLast] at hasked hnext
      have hanswered := h.answered (Option.ite_none_right_eq_some.1 hasked).2
        (Option.ite_none_right_eq_some.1 hnext).2 []
      rwa [List.append_nil] at hanswered
  | @decided demands h hcount outcome hdecides =>
    refine ⟨hcount, ?_, h.pairwise, ?_⟩
    · rintro _ ⟨⟩
      rfl
    · intro index asked next hasked hnext
      rw [← dropLast_concat_getLastD 0 demands, storeCalls, List.map_append]
      exact h.answered hasked hnext _

/-- **What a growing query comes to.** The ways of ending are told apart by what the adapter
answers, and what is asked and how it ends follows from that and determines it: so no query is made
behind an answer that decides, and the limit is the error exactly if every attempt met a demand,
with no attempts at all included. The rooms that are asked with start from none and grow strictly,
each being what the answer before it asked for, and there are no more of them than attempts. -/
theorem queryGrowing_concludes (respond : platformSystem.Responder) (luid : Luid)
    (past : List PlatformCall) (maxAttempts : Nat) :
    let run := (queryGrowing (fun room => ask (.queryStorePath luid room)) maxAttempts).runAfter
      respond past
    (∀ rooms outcome, Concludes respond luid past maxAttempts rooms outcome ↔
      run.calls = storeCalls luid rooms ∧ run.outcome = outcome) ∧
    ∃ rooms, run.calls = storeCalls luid rooms ∧ rooms.length ≤ maxAttempts ∧
      (∀ first ∈ rooms.head?, first = 0) ∧ rooms.Pairwise (· < ·) ∧
      ∀ index asked next, rooms[index]? = some asked → rooms[index + 1]? = some next →
        (exchangesAfter respond past run.calls)[index]? =
          some ⟨.queryStorePath luid asked, .value (.overflow next)⟩ := by
  intro run
  have hrun : ∀ rooms outcome, Concludes respond luid past maxAttempts rooms outcome →
      run.calls = storeCalls luid rooms ∧ run.outcome = outcome := by
    intro rooms outcome h
    have heq : run = ⟨outcome, (storeCalls luid rooms).map .called⟩ := h.run_eq
    rw [heq]
    exact ⟨callsOf_map_called _, rfl⟩
  obtain ⟨rooms, outcome, hconcludes⟩ := exists_concludes respond luid past maxAttempts
  obtain ⟨hcalls, houtcome⟩ := hrun rooms outcome hconcludes
  refine ⟨fun others ending => ⟨hrun others ending, ?_⟩, rooms, hcalls, ?_⟩
  -- There is one way of ending, and it is the one that the run took.
  · rintro ⟨hothers, hending⟩
    rw [← storeCalls_inj (hcalls.symm.trans hothers), ← hending, houtcome]
    exact hconcludes
  · rw [hcalls]
    exact hconcludes.grows

end GpuDiscovery
