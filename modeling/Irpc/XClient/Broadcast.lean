import Irpc.XClient.FanOut

/-! `Broadcast` and its promise to succeed only when all servers return OK. -/
namespace Irpc.XClient

open Irpc.Foundation

variable {Reply : Type}

/-- A worker signals before it appends its error. The loop stops at the first
failure. -/
def broadcast : Plan where
  worker := [.call, .signal, .append, .setReply]
  verdict left result := if left = 0 || !result then .leave else .wait

/-- The call to a server was made and returned nil. -/
def FanOut.Served (run : FanOutRun Reply) (state : FanOut Reply) (target : Target Reply) : Prop :=
  target.err = none ∧ ∃ worker, run.clients[worker]? = some target ∧ 0 < state.positions worker

namespace FanOut

variable {run : FanOutRun Reply} {state next : FanOut Reply} {event : FanOutEvent}

theorem Served.connected {target : Target Reply} (served : state.Served run target) : target.Connected := by
  obtain ⟨-, worker, started, -⟩ := served
  simpa using List.of_mem_filter (List.mem_of_getElem? started)

theorem signal_broadcast (index : Nat) : broadcast.worker[index]? = some .signal ↔ index = 1 :=
  broadcast.worker_eq_iff (by decide) rfl index

/-- Why the loop is where it is. -/
def Explained (run : FanOutRun Reply) (state : FanOut Reply) : CollectPhase → Prop
  | .collecting => ¬ state.HasFailure run
  | .leaving => state.HasFailure run ∨ errTimeout ∈ state.errors.errors ∨
    state.left = 0 ∧ ¬ state.HasFailure run
  | .returned none => state.left = 0 ∧ ¬ state.HasFailure run
  | .returned (some _) => True

theorem Explained.frame {phase : CollectPhase} (explained : Explained run state phase)
    (received : next.received = state.received) (left : next.left = state.left)
    (errors : state.errors.errors ⊆ next.errors.errors) : Explained run next phase := by
  have failure : next.HasFailure run ↔ state.HasFailure run := by rw [HasFailure, HasFailure, received]
  cases phase with
  | collecting => exact fun failed => explained (failure.mp failed)
  | leaving =>
    rcases explained with failed | timedOut | done
    · exact .inl (failure.mpr failed)
    · exact .inr (.inl (errors timedOut))
    · exact .inr (.inr ⟨left.trans done.1, fun failed => done.2 (failure.mp failed)⟩)
  | returned err =>
    cases err with
    | none => exact ⟨left.trans explained.1, fun failed => explained.2 (failure.mp failed)⟩
    | some err => trivial

theorem Explained.collect (explained : ¬ state.HasFailure run)
    (started : run.clients[worker]? = some target) (rest : List Nat) :
    let next := state.collect broadcast worker rest target.err.isNone
    Explained run next next.phase := by
  have failure := hasFailure_collect broadcast state rest target.err.isNone started
  intro next
  cases failed : target.err with
  | some err =>
    have phase : next.phase = .leaving := by simp [next, FanOut.collect, broadcast, failed]
    rw [phase]
    exact .inl (failure.mpr (.inr (by simp [failed])))
  | none =>
    have clean : ¬ next.HasFailure run := by
      rw [failure]
      simp [explained, failed]
    by_cases last : state.left - 1 = 0
    · have phase : next.phase = .leaving := by simp [next, FanOut.collect, broadcast, last]
      rw [phase]
      exact .inr (.inr ⟨last, clean⟩)
    · have phase : next.phase = .collecting := by simp [next, FanOut.collect, broadcast, last, failed]
      rw [phase]
      exact clean

theorem Explained.finish (explained : Explained run state .leaving) (recorded : Recorded run state .finish) :
    Explained run state.leave (.returned (result state.errors)) := by
  cases outcome : result state.errors with
  | some err => trivial
  | none =>
    rcases explained with failed | timedOut | done
    · exact absurd outcome (result_ne_none_of_recorded recorded failed)
    · exact absurd outcome (result_ne_none_of_timeout timedOut)
    · exact done

theorem loopFact_explained (run : FanOutRun Reply) :
    LoopFact broadcast run (Recorded run) fun state => Explained run state state.phase where
  work explained received left phase errors := by
    rw [phase]
    exact explained.frame received left errors
  receive rest explained collecting started := by
    rw [collecting] at explained
    exact Explained.collect explained started rest
  timeout _ _ := .inr (.inl (List.mem_append_right _ (List.mem_singleton_self _)))
  finish explained recorded leaving := by
    rw [leaving] at explained
    exact explained.finish recorded

/-- What holds in every state of a run of `Broadcast` that reads its errors in time. -/
structure Broadcasting (run : FanOutRun Reply) (state : FanOut Reply) : Prop where
  inv : Inv 1 run state
  explained : Explained run state state.phase

theorem broadcasting_of_reached (reached : (system broadcast run).Reached (Recorded run) state) :
    Broadcasting run state := by
  refine reached.invariant ?_ ?_
  · rintro _ rfl
    refine ⟨.start 1 run, ?_⟩
    unfold FanOut.start
    dsimp only
    split
    · trivial
    · split
      · trivial
      · simp [Explained, HasFailure]
  · intro state event next broadcasting recorded moved
    have moves := moves_of_step moved
    exact ⟨broadcasting.inv.step signal_broadcast moves,
      (loopFact_explained run).step broadcasting.explained recorded moves⟩

end FanOut

/-- `Broadcast` reads its errors in time: if it then returns nil, the calls to all
servers were made and returned nil just when every server had a client. -/
theorem broadcast_success_iff {run : FanOutRun Reply} {state : FanOut Reply}
    (reached : (FanOut.system broadcast run).Reached (Recorded run) state)
    (succeeded : state.phase = .returned none) :
    (∀ target ∈ run.servers, state.Served run target) ↔ ∀ target ∈ run.servers, target.Connected := by
  obtain ⟨inv, explained⟩ := FanOut.broadcasting_of_reached reached
  rw [succeeded] at explained
  obtain ⟨finished, clean⟩ := explained
  constructor
  · exact fun served target member => (served target member).connected
  · intro connected target member
    have client : target ∈ run.clients := List.mem_filter.mpr ⟨member, by simpa using connected target member⟩
    obtain ⟨worker, bound, started⟩ := List.getElem_of_mem client
    have started : run.clients[worker]? = some target := List.getElem?_eq_some_iff.mpr ⟨bound, started⟩
    have heard := inv.received_of_left_eq_zero finished bound
    refine ⟨?_, worker, started, ?_⟩
    · by_contra failed
      exact clean ⟨worker, heard, target, started, failed⟩
    · have signalled := ((inv.signalled worker).mp (List.mem_append_left _ heard)).2
      omega

theorem broadcast_success_iff_pair :
    ∃ state, (FanOut.system broadcast (pairRun (sampleTarget none) (otherTarget none))).Reached
        (Recorded (pairRun (sampleTarget none) (otherTarget none))) state ∧
      state.phase = .returned none ∧
      state.Served (pairRun (sampleTarget none) (otherTarget none)) (sampleTarget none) := by
  let run := pairRun (sampleTarget none) (otherTarget none)
  have succeeds : ∀ target ∈ run.servers, target.err = none := by simp [run, pairRun, sampleTarget, otherTarget]
  have connected : ∀ target ∈ run.servers, target.Connected := by
    simp only [run, pairRun, List.forall_mem_cons]
    decide
  have start : (FanOut.system broadcast run).Reached (Recorded run) (.start run) := .start rfl
  have called := (((start.step (.work 0) trivial rfl).step (.work 1) trivial rfl).step
    (.work 1) trivial rfl).step (.work 0) trivial rfl
  have received := (called.step .receive trivial rfl).step .receive trivial rfl
  have finished := received.step .finish (by
    rintro ⟨worker, -, target, started, failed⟩
    exact absurd (succeeds target (List.mem_of_mem_filter (List.mem_of_getElem? started))) failed) rfl
  have served := (broadcast_success_iff finished rfl).mpr connected
  exact ⟨_, finished, rfl, served _ List.mem_cons_self⟩

/-- `Broadcast` can return nil although a call was not made or failed. -/
def HidesFailure (run : FanOutRun Reply) : Prop :=
  ∃ state, (FanOut.system broadcast run).Reachable state ∧ state.phase = .returned none ∧
    ∃ target ∈ run.servers, ¬ state.Served run target

/-- The errors have to be read as `Recorded` says. -/
theorem hidesFailure_of_not_recorded {run : FanOutRun Reply} {state : FanOut Reply}
    (reachable : (FanOut.system broadcast run).Reachable state) (leaving : state.phase = .leaving)
    (missed : ¬ Recorded run state .finish) : HidesFailure run := by
  obtain ⟨failed, outcome⟩ := FanOut.result_eq_none_of_not_recorded missed
  have moved : (FanOut.system broadcast run).step state .finish =
      some state.leave := by
    simp [FanOut.system, FanOut.step, leaving]
  obtain ⟨worker, -, target, started, err⟩ := failed
  refine ⟨_, reachable.step .finish trivial moved, congrArg _ outcome, target, ?_, ?_⟩
  · exact List.mem_of_mem_filter (List.mem_of_getElem? started)
  · exact fun served => err served.1

/-- An error is appended too late, an error has no text, a server cannot be reached. -/
theorem broadcast_hides_failure :
    HidesFailure (pairRun (sampleTarget (some refusal)) (otherTarget none)) ∧
      HidesFailure (pairRun (sampleTarget (some (.serviceError []))) (otherTarget none)) ∧
      HidesFailure (pairRun (sampleTarget none) ⟨utf8 "tcp@b:1", refusedLookup, 7, none⟩) := by
  refine ⟨?_, ?_, ?_⟩
  · let run := pairRun (sampleTarget (some refusal)) (otherTarget none)
    have start : (FanOut.system broadcast run).Reachable (.start run) := .start rfl
    have played : (FanOut.system broadcast run).play (.start run)
        [.work 0, .work 0, .receive, .finish] = some _ := rfl
    exact ⟨_, start.play played, rfl, _, List.mem_cons_self, fun served => nomatch served.1⟩
  · let run := pairRun (sampleTarget (some (.serviceError []))) (otherTarget none)
    have start : (FanOut.system broadcast run).Reachable (.start run) := .start rfl
    have played : (FanOut.system broadcast run).play (.start run)
        [.work 0, .work 0, .work 0, .receive, .finish] = some _ := rfl
    exact ⟨_, start.play played, rfl, _, List.mem_cons_self, fun served => nomatch served.1⟩
  · let run := pairRun (sampleTarget none) ⟨utf8 "tcp@b:1", refusedLookup, 7, none⟩
    have start : (FanOut.system broadcast run).Reachable (.start run) := .start rfl
    have played : (FanOut.system broadcast run).play (.start run)
        [.work 0, .work 0, .receive, .finish] = some _ := rfl
    have refused : ¬ Target.Connected ⟨utf8 "tcp@b:1", refusedLookup, 7, none⟩ := by decide
    exact ⟨_, start.play played, rfl, ⟨utf8 "tcp@b:1", refusedLookup, 7, none⟩, by simp [pairRun],
      fun served => refused served.connected⟩

end Irpc.XClient
