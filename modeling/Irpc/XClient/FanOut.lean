import Irpc.Foundation.System
import Irpc.XClient.Retry

/-! Requests to all servers at once: one worker goroutine for each client, a
channel on which the workers signal, and the loop that collects the signals. The
functions that work this way differ in the order of a worker's steps and in when
the loop stops. -/
namespace Irpc.XClient

open Irpc.Foundation

/-- Distinct numbers of workers are among all of them. -/
theorem subperm_range_of_lt {workers : List Nat} (distinct : workers.Nodup)
    (below : ∀ worker ∈ workers, worker < count) : workers.Subperm (List.range count) := by
  apply List.subperm_of_subset distinct
  intro worker member
  exact List.mem_range.mpr (below worker member)

/-- As many as there are are all of them. -/
theorem mem_of_subperm_range {workers : List Nat} (among : workers.Subperm (List.range count))
    (full : count ≤ workers.length) (small : worker < count) : worker ∈ workers := by
  have perm := among.perm_of_length_le (by rwa [List.length_range])
  exact perm.mem_iff.mpr (List.mem_range.mpr small)

inductive WorkerStep where
  | call
  | signal
  | append
  | setReply
  | receipt
  deriving DecidableEq

/-- What the collecting loop does after a result. -/
inductive Verdict where
  | wait
  | leave
  | succeed

/-- `left` is the number of results that are still missing. -/
structure Plan where
  worker : List WorkerStep
  verdict : (left : Nat) → (result : Bool) → Verdict

/-- A step that is planned once is planned at one place. -/
theorem Plan.worker_eq_iff {plan : Plan} (once : plan.worker.Nodup) (placed : plan.worker[place]? = some action)
    (index : Nat) : plan.worker[index]? = some action ↔ index = place := by
  have small := (List.getElem?_eq_some_iff.mp placed).1
  rw [← placed, eq_comm, List.getElem?_inj small once, eq_comm]

/-- A server: what the lookup of its client meets, and how the call ends. -/
structure Target (Reply : Type) where
  key : Bytes
  lookup : Lookup
  reply : Reply
  err : Option GoError

/-- Neither the shutdown flag nor the breaker is looked at. -/
def getCachedClientWithoutLock (lookup : Lookup) : Option Nat × Option GoError :=
  match lookup.found with
  | some cached =>
    if !cached.closing && !cached.shutdown then (some cached.client, none) else lookAgain lookup
  | none => lookAgain lookup

def Target.Connected {Reply : Type} (target : Target Reply) : Prop :=
  (getCachedClientWithoutLock target.lookup).2 = none

instance {Reply : Type} (target : Target Reply) : Decidable target.Connected :=
  inferInstanceAs (Decidable (_ = none))

/-- What one invocation meets. The servers stand in the order of the map's iteration. -/
structure FanOutRun (Reply : Type) where
  isShutdown : Bool
  servers : List (Target Reply)
  hasReply : Bool

variable {Reply : Type}

def FanOutRun.clients (run : FanOutRun Reply) : List (Target Reply) :=
  run.servers.filter fun target => target.Connected

inductive CollectPhase where
  | collecting
  | leaving
  | returned (err : Option GoError)

/-- What `Inform` hands back for a server. Its error is the error list of the whole
invocation, behind a pointer that all receipts share. -/
structure Receipt (Reply : Type) where
  address : Bytes
  reply : Option Reply
  deriving DecidableEq

/-- The key without the network in front of its first `@`. -/
def addressOf (key : Bytes) : Bytes :=
  match key.dropWhile (· ≠ 0x40) with
  | [] => key
  | _ :: address => address

/-- A worker is known by the place of its client. What it has sent is its number;
the result stands in the run. -/
structure FanOut (Reply : Type) where
  positions : Nat → Nat
  channel : List Nat
  received : List Nat
  left : Nat
  errors : MultiError
  reply : Option Reply
  receipts : List (Receipt Reply)
  /-- The receipts that stood in the list when the loop returned. -/
  results : List (Receipt Reply)
  phase : CollectPhase

inductive FanOutEvent where
  | work (worker : Nat)
  | receive
  | timeout
  | finish

def errTimeout : GoError := .plain (utf8 "timeout")

namespace FanOut

def start (run : FanOutRun Reply) : FanOut Reply where
  positions _ := 0
  channel := []
  received := []
  left := run.clients.length
  errors := .empty
  reply := none
  receipts := []
  results := []
  phase :=
    if run.isShutdown then .returned (some errXClientShutdown)
    else if run.clients = [] then .returned (some errXClientNoServer)
    else .collecting

def receiptOf (hasReply : Bool) (target : Target Reply) : Receipt Reply :=
  ⟨addressOf target.key, if hasReply then some target.reply else none⟩

def perform (hasReply : Bool) (state : FanOut Reply) (worker : Nat) (target : Target Reply) :
    WorkerStep → FanOut Reply
  | .call => state
  | .signal => { state with channel := state.channel ++ [worker] }
  | .append =>
    match target.err with
    | none => state
    | some err => { state with errors := state.errors.append err }
  | .setReply =>
    if target.err.isNone && hasReply then { state with reply := some target.reply } else state
  | .receipt => { state with receipts := state.receipts ++ [receiptOf hasReply target] }

def advance (state : FanOut Reply) (worker : Nat) : FanOut Reply :=
  { state with positions := Function.update state.positions worker (state.positions worker + 1) }

def collect (plan : Plan) (state : FanOut Reply) (worker : Nat) (rest : List Nat) (result : Bool) :
    FanOut Reply :=
  { state with
    channel := rest
    received := state.received ++ [worker]
    left := state.left - 1
    phase :=
      match plan.verdict (state.left - 1) result with
      | .wait => .collecting
      | .leave => .leaving
      | .succeed => .returned none }

def expire (state : FanOut Reply) : FanOut Reply :=
  { state with errors := state.errors.append errTimeout, phase := .leaving }

/-- The error list counts as empty if its text is that of an empty one. -/
def result (errors : MultiError) : Option GoError :=
  if errors.error = utf8 "[]" then none else some (.plain errors.error)

def leave (state : FanOut Reply) : FanOut Reply :=
  { state with phase := .returned (result state.errors), results := state.receipts }

def step (plan : Plan) (run : FanOutRun Reply) (state : FanOut Reply) :
    FanOutEvent → Option (FanOut Reply)
  | .work worker =>
    match run.clients[worker]?, plan.worker[state.positions worker]? with
    | some target, some action => some ((state.perform run.hasReply worker target action).advance worker)
    | _, _ => none
  | .receive =>
    match state.phase, state.channel with
    | .collecting, worker :: rest =>
      (run.clients[worker]?).map fun target => state.collect plan worker rest target.err.isNone
    | _, _ => none
  | .timeout =>
    match state.phase with
    | .collecting => some state.expire
    | _ => none
  | .finish =>
    match state.phase with
    | .leaving => some state.leave
    | _ => none

def system (plan : Plan) (run : FanOutRun Reply) : System (FanOut Reply) FanOutEvent where
  initial state := state = start run
  step := step plan run

variable {plan : Plan} {run : FanOutRun Reply} {state next : FanOut Reply} {event : FanOutEvent}

/-- Everything a step can do, with what it needs. -/
inductive Moves (plan : Plan) (run : FanOutRun Reply) (state : FanOut Reply) :
    FanOutEvent → FanOut Reply → Prop where
  | work (started : run.clients[worker]? = some target)
      (current : plan.worker[state.positions worker]? = some action) :
      Moves plan run state (.work worker)
        ((state.perform run.hasReply worker target action).advance worker)
  | receive (collecting : state.phase = .collecting) (waiting : state.channel = worker :: rest)
      (started : run.clients[worker]? = some target) :
      Moves plan run state .receive (state.collect plan worker rest target.err.isNone)
  | timeout (collecting : state.phase = .collecting) : Moves plan run state .timeout state.expire
  | finish (leaving : state.phase = .leaving) :
      Moves plan run state .finish state.leave

theorem moves_of_step (moved : step plan run state event = some next) : Moves plan run state event next := by
  unfold step at moved
  split at moved
  case h_1 =>
    split at moved
    · cases moved
      exact .work ‹_› ‹_›
    · cases moved
  case h_2 =>
    split at moved
    · obtain ⟨target, started, rfl⟩ := Option.map_eq_some_iff.mp moved
      exact .receive ‹_› ‹_› started
    · cases moved
  case h_3 =>
    split at moved
    · cases moved
      exact .timeout ‹_›
    · cases moved
  case h_4 =>
    split at moved
    · cases moved
      exact .finish ‹_›
    · cases moved

section Perform

variable (hasReply : Bool) (state : FanOut Reply) (worker : Nat) (target : Target Reply) (action : WorkerStep)

theorem perform_eq : state.perform hasReply worker target action = { state with
    channel := if action = .signal then state.channel ++ [worker] else state.channel
    errors := if action = .append then target.err.elim state.errors state.errors.append else state.errors
    reply := if action = .setReply ∧ target.err.isNone && hasReply then some target.reply else state.reply
    receipts := if action = .receipt then state.receipts ++ [receiptOf hasReply target] else state.receipts } := by
  cases action with
  | call => simp [perform]
  | signal => simp [perform]
  | append => cases failed : target.err <;> simp [perform, failed]
  | setReply =>
    unfold perform
    dsimp only
    split
    case isTrue sets => simp only [sets, and_self, if_true, reduceCtorEq, if_false]
    case isFalse kept => simp only [kept, and_false, if_false, reduceCtorEq]
  | receipt => simp [perform]

theorem perform_frame : (state.perform hasReply worker target action).positions = state.positions ∧
    (state.perform hasReply worker target action).received = state.received ∧
    (state.perform hasReply worker target action).left = state.left ∧
    (state.perform hasReply worker target action).phase = state.phase := by
  rw [perform_eq]
  exact ⟨rfl, rfl, rfl, rfl⟩

theorem channel_perform : (state.perform hasReply worker target action).channel =
    if action = .signal then state.channel ++ [worker] else state.channel := by
  rw [perform_eq]

theorem subset_errors_perform :
    state.errors.errors ⊆ (state.perform hasReply worker target action).errors.errors := by
  rw [perform_eq]
  dsimp only
  split
  · cases target.err with
    | none => exact List.Subset.refl _
    | some err => exact List.subset_append_left _ _
  · exact List.Subset.refl _

end Perform

/-- What the channel and the loop know of workers that signal at `place`. -/
structure Inv (place : Nat) (run : FanOutRun Reply) (state : FanOut Reply) : Prop where
  signalled : ∀ worker, worker ∈ state.received ++ state.channel ↔
    worker < run.clients.length ∧ place < state.positions worker
  distinct : (state.received ++ state.channel).Nodup
  left : state.left + state.received.length = run.clients.length

namespace Inv

variable {place : Nat}

theorem start (place : Nat) (run : FanOutRun Reply) : Inv place run (start run) := by
  refine ⟨?_, List.nodup_nil, rfl⟩
  intro worker
  simp [FanOut.start]

theorem subperm_range (inv : Inv place run state) :
    (state.received ++ state.channel).Subperm (List.range run.clients.length) :=
  subperm_range_of_lt inv.distinct fun worker member => ((inv.signalled worker).mp member).1

theorem left_pos (inv : Inv place run state) (waiting : state.channel = worker :: rest) :
    0 < state.left := by
  have bound := inv.subperm_range.length_le
  rw [waiting, List.length_append, List.length_cons, List.length_range, ← inv.left] at bound
  omega

theorem received_of_left_eq_zero (inv : Inv place run state) (none_left : state.left = 0)
    (bound : worker < run.clients.length) : worker ∈ state.received := by
  have full : state.received.length = run.clients.length := by
    rw [← inv.left, none_left, Nat.zero_add]
  have sub : state.received.Subperm (List.range run.clients.length) :=
    (List.sublist_append_left _ _).subperm.trans inv.subperm_range
  exact mem_of_subperm_range sub full.ge bound

theorem work (inv : Inv place run state)
    (signals : ∀ index, plan.worker[index]? = some .signal ↔ index = place)
    (started : run.clients[worker]? = some target)
    (current : plan.worker[state.positions worker]? = some action) :
    Inv place run ((state.perform run.hasReply worker target action).advance worker) := by
  have bound : worker < run.clients.length := (List.getElem?_eq_some_iff.mp started).1
  have atPlace : action = .signal ↔ state.positions worker = place := by
    rw [← signals, current, Option.some.injEq]
  have channel := channel_perform run.hasReply state worker target action
  obtain ⟨positions, received, left, -⟩ := perform_frame run.hasReply state worker target action
  refine ⟨?_, ?_, ?_⟩
  · intro other
    simp only [advance, received, positions, channel]
    by_cases same : other = worker
    · subst same
      rw [Function.update_self]
      by_cases signal : action = .signal
      · simp [signal, bound, atPlace.mp signal]
      · have elsewhere : state.positions other ≠ place := fun at_place => signal (atPlace.mpr at_place)
        rw [if_neg signal, inv.signalled]
        omega
    · rw [Function.update_of_ne same, ← inv.signalled]
      split
      · simp [same]
      · rfl
  · simp only [advance, received, channel]
    split
    case isTrue signal =>
      have silent : worker ∉ state.received ++ state.channel := by
        rw [inv.signalled, atPlace.mp signal]
        exact fun signalled => lt_irrefl _ signalled.2
      rw [← List.append_assoc]
      exact inv.distinct.append (List.nodup_singleton worker) (by simpa using silent)
    case isFalse => exact inv.distinct
  · simp only [advance, left, received]
    exact inv.left

theorem collect (inv : Inv place run state) (waiting : state.channel = worker :: rest) (result : Bool) :
    Inv place run (state.collect plan worker rest result) := by
  have joined : state.received ++ [worker] ++ rest = state.received ++ state.channel := by
    rw [waiting, List.append_assoc, List.singleton_append]
  refine ⟨?_, ?_, ?_⟩
  · intro other
    change other ∈ state.received ++ [worker] ++ rest ↔ _
    rw [joined]
    exact inv.signalled other
  · change (state.received ++ [worker] ++ rest).Nodup
    rw [joined]
    exact inv.distinct
  · have positive := inv.left_pos waiting
    have total := inv.left
    change state.left - 1 + (state.received ++ [worker]).length = _
    rw [List.length_append, List.length_singleton]
    omega

theorem step (inv : Inv place run state)
    (signals : ∀ index, plan.worker[index]? = some .signal ↔ index = place)
    (moves : Moves plan run state event next) : Inv place run next := by
  cases moves with
  | work started current => exact inv.work signals started current
  | receive collecting waiting started => exact inv.collect waiting _
  | timeout collecting => exact ⟨inv.signalled, inv.distinct, inv.left⟩
  | finish leaving => exact ⟨inv.signalled, inv.distinct, inv.left⟩

end Inv

/-- The loop has received the failure of a call. -/
def HasFailure (run : FanOutRun Reply) (state : FanOut Reply) : Prop :=
  ∃ worker ∈ state.received, ∃ target, run.clients[worker]? = some target ∧ target.err ≠ none

theorem result_eq_none_iff (errors : MultiError) :
    result errors = none ↔ errors.errors = [] ∨ ∃ err, errors.errors = [err] ∧ err.error = [] := by
  rw [← errors.error_eq_brackets_iff, result]
  split <;> simp [*]

theorem hasFailure_collect (plan : Plan) (state : FanOut Reply) (rest : List Nat) (result : Bool)
    (started : run.clients[worker]? = some target) :
    (state.collect plan worker rest result).HasFailure run ↔ state.HasFailure run ∨ target.err ≠ none := by
  simp [HasFailure, collect, or_and_right, exists_or, started]

end FanOut

/-- When the loop has left for a failure, the error list is read after an error has
been appended to it, and if it is only one, it has a text. -/
def Recorded (run : FanOutRun Reply) (state : FanOut Reply) : FanOutEvent → Prop
  | .finish => state.HasFailure run →
    state.errors.errors ≠ [] ∧ ∀ err, state.errors.errors = [err] → err.error ≠ []
  | _ => True

namespace FanOut

variable {plan : Plan} {run : FanOutRun Reply} {state next : FanOut Reply} {event : FanOutEvent}

/-- A list with the timeout in it does not count as empty. -/
theorem result_ne_none_of_timeout {errors : MultiError} (timedOut : errTimeout ∈ errors.errors) :
    result errors ≠ none := by
  intro outcome
  rcases (result_eq_none_iff _).mp outcome with empty | ⟨err, single, textless⟩
  · simp [empty] at timedOut
  · rw [single, List.mem_singleton] at timedOut
    rw [← timedOut] at textless
    exact absurd textless (by decide)

/-- Neither does one with a failure behind it that is read in time. -/
theorem result_ne_none_of_recorded (recorded : Recorded run state .finish)
    (failed : state.HasFailure run) : result state.errors ≠ none := by
  intro outcome
  obtain ⟨nonempty, text⟩ := recorded failed
  rcases (result_eq_none_iff _).mp outcome with empty | ⟨err, single, textless⟩
  · exact nonempty empty
  · exact text err single textless

/-- Any other reading returns nil. -/
theorem result_eq_none_of_not_recorded (missed : ¬ Recorded run state .finish) :
    state.HasFailure run ∧ result state.errors = none := by
  obtain ⟨failed, rendered⟩ := Classical.not_imp.mp missed
  refine ⟨failed, (result_eq_none_iff _).mpr ?_⟩
  by_contra other
  obtain ⟨nonempty, text⟩ := not_or.mp other
  exact rendered ⟨nonempty, fun err single textless => text ⟨err, single, textless⟩⟩

/-- A fact about the collecting loop that the workers cannot spoil and each of its
own steps keeps. -/
structure LoopFact (plan : Plan) (run : FanOutRun Reply) (allowed : FanOut Reply → FanOutEvent → Prop)
    (holds : FanOut Reply → Prop) : Prop where
  work : ∀ {state next}, holds state → next.received = state.received → next.left = state.left →
    next.phase = state.phase → state.errors.errors ⊆ next.errors.errors → holds next
  receive : ∀ {state worker target} rest, holds state → state.phase = .collecting →
    run.clients[worker]? = some target → holds (state.collect plan worker rest target.err.isNone)
  timeout : ∀ {state}, holds state → state.phase = .collecting → holds state.expire
  finish : ∀ {state}, holds state → allowed state .finish → state.phase = .leaving → holds state.leave

theorem LoopFact.step {allowed : FanOut Reply → FanOutEvent → Prop} {holds : FanOut Reply → Prop}
    (fact : LoopFact plan run allowed holds) (held : holds state) (meets : allowed state event)
    (moves : Moves plan run state event next) : holds next := by
  cases moves with
  | @work worker target action started current =>
    obtain ⟨-, received, left, phase⟩ := perform_frame run.hasReply state worker target action
    have kept := subset_errors_perform run.hasReply state worker target action
    exact fact.work held received left phase kept
  | receive collecting waiting started => exact fact.receive _ held collecting started
  | timeout collecting => exact fact.timeout held collecting
  | finish leaving => exact fact.finish held meets leaving

/-- A worker that has come past a place was past it before, or stood there. -/
theorem past_advance_iff (state : FanOut Reply) (worker other place : Nat) :
    place < (state.advance worker).positions other ↔
      place < state.positions other ∨ other = worker ∧ state.positions other = place := by
  by_cases same : other = worker
  · subst same
    simp only [advance, Function.update_self, true_and]
    omega
  · simp [advance, same]

theorem exists_return (plan : Plan) (run : FanOutRun Reply) (state : FanOut Reply) :
    ∃ events final err, (system plan run).play state events = some final ∧ final.phase = .returned err := by
  cases phase : state.phase with
  | returned err => exact ⟨[], state, err, rfl, phase⟩
  | leaving =>
    refine ⟨[.finish], state.leave, _, ?_, rfl⟩
    simp [System.play, system, step, phase]
  | collecting =>
    refine ⟨[.timeout, .finish], state.expire.leave, _, ?_, rfl⟩
    simp [System.play, system, step, phase, expire]

/-- The reply object holds the reply of a server that returned OK, as soon as the
worker of one has come past `place`. -/
def Stores (place : Nat) (run : FanOutRun Reply) (state : FanOut Reply) : Prop :=
  ∀ worker target, run.clients[worker]? = some target → target.err = none →
    place < state.positions worker →
      ∃ other ∈ run.clients, other.err = none ∧ state.reply = some other.reply

theorem reply_perform (hasReply : Bool) (state : FanOut Reply) (worker : Nat) (target : Target Reply)
    (action : WorkerStep) : (state.perform hasReply worker target action).reply =
      if action = .setReply ∧ target.err.isNone && hasReply then some target.reply else state.reply := by
  rw [perform_eq]

theorem Stores.step {place : Nat} (stores : Stores place run state) (wanted : run.hasReply = true)
    (sets : ∀ index, plan.worker[index]? = some .setReply ↔ index = place)
    (moves : Moves plan run state event next) : Stores place run next := by
  cases moves with
  | receive collecting waiting started => exact stores
  | timeout collecting => exact stores
  | finish leaving => exact stores
  | @work worker target action started current =>
    intro other found isFound succeeded past
    have atPlace : action = .setReply ↔ state.positions worker = place := by
      rw [← sets, current, Option.some.injEq]
    obtain ⟨positions, -⟩ := perform_frame run.hasReply state worker target action
    have reply := reply_perform run.hasReply state worker target action
    rw [past_advance_iff, positions] at past
    change ∃ other ∈ run.clients, other.err = none ∧
      (state.perform run.hasReply worker target action).reply = some other.reply
    rw [reply]
    split
    case isTrue stored =>
      simp only [wanted, Bool.and_true, Option.isNone_iff_eq_none] at stored
      exact ⟨target, List.mem_of_getElem? started, stored.2, rfl⟩
    case isFalse kept =>
      rcases past with past | ⟨same, here⟩
      · exact stores other found isFound succeeded past
      · subst same
        have target_eq : target = found := Option.some.inj (started.symm.trans isFound)
        subst target_eq
        exact absurd ⟨atPlace.mpr here, by simp [succeeded, wanted]⟩ kept

end FanOut

/-- A server that has a client, and how the call to it ends. -/
def sampleTarget (err : Option GoError) : Target Nat := ⟨utf8 "tcp@a:1", cachedLookup, 7, err⟩

def otherTarget (err : Option GoError) : Target Nat :=
  ⟨utf8 "tcp@b:1", { cachedLookup with found := some ⟨2, false, false⟩ }, 7, err⟩

/-- An error for which no client is removed. -/
def refusal : GoError := .serviceError (utf8 "refused")

def pairRun (first second : Target Nat) : FanOutRun Nat := ⟨false, [first, second], true⟩

end Irpc.XClient
