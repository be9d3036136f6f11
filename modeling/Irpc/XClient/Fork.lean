import Irpc.XClient.FanOut

/-! `Fork` and its promise to succeed only when some server returns OK. -/
namespace Irpc.XClient

open Irpc.Foundation

variable {Reply : Type}

/-- A worker stores its reply before it signals, and signals before it appends its
error. The loop stops at the first success. -/
def fork : Plan where
  worker := [.call, .setReply, .signal, .append]
  verdict left result := if result then .succeed else if left = 0 then .leave else .wait

namespace FanOut

variable {run : FanOutRun Reply} {state next : FanOut Reply} {event : FanOutEvent}

def HasSuccess (run : FanOutRun Reply) (state : FanOut Reply) : Prop :=
  ∃ worker ∈ state.received, ∃ target, run.clients[worker]? = some target ∧ target.err = none

def ForkExplained (run : FanOutRun Reply) (state : FanOut Reply) : CollectPhase → Prop
  | .collecting => ¬ state.HasSuccess run
  | .leaving => errTimeout ∈ state.errors.errors ∨
    state.left = 0 ∧ state.HasFailure run ∧ ¬ state.HasSuccess run
  | .returned none => state.HasSuccess run
  | .returned (some _) => True

theorem signal_fork (index : Nat) : fork.worker[index]? = some .signal ↔ index = 2 :=
  fork.worker_eq_iff (by decide) rfl index

theorem setReply_fork (index : Nat) : fork.worker[index]? = some .setReply ↔ index = 1 :=
  fork.worker_eq_iff (by decide) rfl index

theorem hasSuccess_collect (plan : Plan) (state : FanOut Reply) (rest : List Nat) (result : Bool)
    (started : run.clients[worker]? = some target) :
    (state.collect plan worker rest result).HasSuccess run ↔ state.HasSuccess run ∨ target.err = none := by
  simp [HasSuccess, collect, or_and_right, exists_or, started]

theorem ForkExplained.frame {phase : CollectPhase} (explained : ForkExplained run state phase)
    (received : next.received = state.received) (left : next.left = state.left)
    (errors : state.errors.errors ⊆ next.errors.errors) : ForkExplained run next phase := by
  have success : next.HasSuccess run ↔ state.HasSuccess run := by rw [HasSuccess, HasSuccess, received]
  have failure : next.HasFailure run ↔ state.HasFailure run := by rw [HasFailure, HasFailure, received]
  cases phase with
  | collecting => exact fun succeeded => explained (success.mp succeeded)
  | leaving =>
    rcases explained with timedOut | ⟨finished, failed, clean⟩
    · exact .inl (errors timedOut)
    · exact .inr ⟨left.trans finished, failure.mpr failed, fun succeeded => clean (success.mp succeeded)⟩
  | returned err =>
    cases err with
    | none => exact success.mpr explained
    | some err => trivial

theorem ForkExplained.collect (explained : ¬ state.HasSuccess run)
    (started : run.clients[worker]? = some target) (rest : List Nat) :
    let next := state.collect fork worker rest target.err.isNone
    ForkExplained run next next.phase := by
  have success := hasSuccess_collect fork state rest target.err.isNone started
  have failure := hasFailure_collect fork state rest target.err.isNone started
  intro next
  cases outcome : target.err with
  | none =>
    have phase : next.phase = .returned none := by simp [next, FanOut.collect, fork, outcome]
    rw [phase]
    exact success.mpr (.inr outcome)
  | some err =>
    have clean : ¬ next.HasSuccess run := by
      rw [success]
      simp [explained, outcome]
    by_cases last : state.left - 1 = 0
    · have phase : next.phase = .leaving := by simp [next, FanOut.collect, fork, last, outcome]
      rw [phase]
      exact .inr ⟨last, failure.mpr (.inr (by simp [outcome])), clean⟩
    · have phase : next.phase = .collecting := by simp [next, FanOut.collect, fork, last, outcome]
      rw [phase]
      exact clean

theorem loopFact_forkExplained (run : FanOutRun Reply) :
    LoopFact fork run (Recorded run) fun state => ForkExplained run state state.phase where
  work explained received left phase errors := by
    rw [phase]
    exact explained.frame received left errors
  receive rest explained collecting started := by
    rw [collecting] at explained
    exact ForkExplained.collect explained started rest
  timeout _ _ := .inl (List.mem_append_right _ (List.mem_singleton_self _))
  finish {state} explained recorded leaving := by
    rw [leaving] at explained
    have failed : result state.errors ≠ none := by
      rcases explained with timedOut | ⟨-, failed, -⟩
      · exact result_ne_none_of_timeout timedOut
      · exact result_ne_none_of_recorded recorded failed
    obtain ⟨err, outcome⟩ := Option.ne_none_iff_exists'.mp failed
    change ForkExplained run state.leave (.returned (result state.errors))
    rw [outcome]
    trivial

/-- What holds in every state of a run of `Fork` that reads its errors in time. -/
structure Forking (run : FanOutRun Reply) (state : FanOut Reply) : Prop where
  inv : Inv 2 run state
  stores : run.hasReply = true → Stores 1 run state
  explained : ForkExplained run state state.phase

theorem Forking.step (forking : Forking run state) (recorded : Recorded run state event)
    (moves : Moves fork run state event next) : Forking run next where
  inv := forking.inv.step signal_fork moves
  stores wanted := (forking.stores wanted).step wanted setReply_fork moves
  explained := (loopFact_forkExplained run).step forking.explained recorded moves

theorem forking_of_reached (reached : (system fork run).Reached (Recorded run) state) :
    Forking run state := by
  refine reached.invariant ?_ ?_
  · intro state initial
    rw [show state = FanOut.start run from initial]
    refine ⟨.start 2 run, ?_, ?_⟩
    · intro _ worker target _ _ past
      exact absurd past (Nat.not_lt_zero _)
    · unfold FanOut.start
      dsimp only
      split
      · trivial
      · split
        · trivial
        · simp [ForkExplained, HasSuccess]
  · intro state event next forking recorded moved
    exact forking.step recorded (moves_of_step moved)

theorem Moves.positions_of_returns {plan : Plan} (moves : Moves plan run state event next)
    (running : ∀ err, state.phase ≠ .returned err) (returned : next.phase = .returned outcome) :
    next.positions = state.positions := by
  cases moves with
  | @work worker target action started current =>
    obtain ⟨-, -, -, phase⟩ := perform_frame run.hasReply state worker target action
    exact absurd (phase.symm.trans returned) (running outcome)
  | receive => rfl
  | timeout => rfl
  | finish => rfl

end FanOut

/-- `Fork` reads its errors in time. Then it returns nil only when a server has
returned OK whose reply was stored before, and a reply of such a server is what the
caller finds. If every call fails it does not return nil, and it always can return. -/
theorem fork_success_sound {run : FanOutRun Reply} {state : FanOut Reply}
    (reached : (FanOut.system fork run).Reached (Recorded run) state) :
    (∀ event next, Recorded run state event → (FanOut.system fork run).step state event = some next →
      (∀ err, state.phase ≠ .returned err) → next.phase = .returned none →
      ∃ worker target, run.clients[worker]? = some target ∧ target.err = none ∧
        0 < state.positions worker ∧
        (run.hasReply = true → 1 < state.positions worker ∧
          ∃ other ∈ run.clients, other.err = none ∧ state.reply = some other.reply)) ∧
      ((∀ target ∈ run.clients, target.err ≠ none) → state.phase ≠ .returned none) ∧
      ∃ events final err, (FanOut.system fork run).play state events = some final ∧
        final.phase = .returned err := by
  have forking := FanOut.forking_of_reached reached
  refine ⟨?_, ?_, FanOut.exists_return fork run state⟩
  · intro event next recorded moved running succeeded
    have moves := FanOut.moves_of_step moved
    have after := forking.step recorded moves
    have explained := after.explained
    rw [succeeded] at explained
    obtain ⟨worker, heard, target, started, outcome⟩ := explained
    have signalled := ((after.inv.signalled worker).mp (List.mem_append_left _ heard)).2
    rw [moves.positions_of_returns running succeeded] at signalled
    refine ⟨worker, target, started, outcome, by omega, ?_⟩
    intro wanted
    have past : 1 < state.positions worker := by omega
    exact ⟨past, forking.stores wanted worker target started outcome past⟩
  · intro failed succeeded
    have explained := forking.explained
    rw [succeeded] at explained
    obtain ⟨worker, -, target, started, outcome⟩ := explained
    exact failed target (List.mem_of_getElem? started) outcome

theorem fork_success_sound_second :
    ∃ state next, (FanOut.system fork (pairRun (sampleTarget (some refusal)) (otherTarget none))).Reached
        (Recorded (pairRun (sampleTarget (some refusal)) (otherTarget none))) state ∧
      (FanOut.system fork (pairRun (sampleTarget (some refusal)) (otherTarget none))).step state .receive =
        some next ∧ next.phase = .returned none ∧
      ∃ other ∈ (pairRun (sampleTarget (some refusal)) (otherTarget none)).clients,
        other.err = none ∧ state.reply = some other.reply := by
  let run := pairRun (sampleTarget (some refusal)) (otherTarget none)
  have start : (FanOut.system fork run).Reached (Recorded run) (.start run) := .start rfl
  have failed := (((start.step (.work 0) trivial rfl).step (.work 0) trivial rfl).step
    (.work 0) trivial rfl).step .receive trivial rfl
  have answered := ((failed.step (.work 1) trivial rfl).step (.work 1) trivial rfl).step
    (.work 1) trivial rfl
  obtain ⟨worker, target, -, -, -, stored⟩ := (fork_success_sound answered).1 .receive _ trivial rfl nofun rfl
  exact ⟨_, _, answered, rfl, rfl, (stored rfl).2⟩

theorem fork_hides_of_not_recorded {run : FanOutRun Reply} {state : FanOut Reply}
    (reached : (FanOut.system fork run).Reached (Recorded run) state) (leaving : state.phase = .leaving)
    (missed : ¬ Recorded run state .finish) :
    (FanOut.system fork run).step state .finish = some state.leave ∧
      state.leave.phase = .returned none ∧ ∀ target ∈ run.clients, target.err ≠ none := by
  obtain ⟨inv, -, explained⟩ := FanOut.forking_of_reached reached
  obtain ⟨failed, outcome⟩ := FanOut.result_eq_none_of_not_recorded missed
  rw [leaving] at explained
  refine ⟨by simp [FanOut.system, FanOut.step, leaving], congrArg _ outcome, ?_⟩
  intro target member succeeded
  obtain ⟨worker, bound, started⟩ := List.getElem_of_mem member
  have started : run.clients[worker]? = some target := List.getElem?_eq_some_iff.mpr ⟨bound, started⟩
  rcases explained with timedOut | ⟨finished, -, clean⟩
  · exact FanOut.result_ne_none_of_timeout timedOut outcome
  · exact clean ⟨worker, inv.received_of_left_eq_zero finished bound, target, started, succeeded⟩

/-- Every call fails and `Fork` returns nil: the error of the last call is appended
too late, or the only error has no text. -/
theorem fork_hides_failure :
    (∃ state,
      (FanOut.system fork (pairRun (sampleTarget (some refusal)) (otherTarget (some refusal)))).Reachable state ∧
        state.phase = .returned none) ∧
    ∃ state, (FanOut.system fork ⟨false, [sampleTarget (some (.serviceError []))], true⟩).Reachable state ∧
      state.phase = .returned none := by
  constructor
  · let run := pairRun (sampleTarget (some refusal)) (otherTarget (some refusal))
    have start : (FanOut.system fork run).Reachable (.start run) := .start rfl
    have played : (FanOut.system fork run).play (.start run)
        [.work 0, .work 0, .work 0, .work 1, .work 1, .work 1, .receive, .receive, .finish] = some _ := rfl
    exact ⟨_, start.play played, rfl⟩
  · let run : FanOutRun Nat := ⟨false, [sampleTarget (some (.serviceError []))], true⟩
    have start : (FanOut.system fork run).Reachable (.start run) := .start rfl
    have played : (FanOut.system fork run).play (.start run)
        [.work 0, .work 0, .work 0, .work 0, .receive, .finish] = some _ := rfl
    exact ⟨_, start.play played, rfl⟩

end Irpc.XClient
