import Irpc.XClient.KeyedClient

/-! The breaker of a server in every history of connections. Calls of `getCachedClient`
interleave between their sections; only the section that connects holds the mutex from the
connection to the report. The runs go on when a client is closed again, which ends the process
if it is a `*Client`. -/
namespace Irpc.XClient

open Irpc.Foundation

/-- Where a call of `getCachedClient` for the server is. -/
inductive DialPhase where
  | entered
  | missed
  | generated (client : Nat)
  deriving DecidableEq

structure Dialing where
  state : KeyState ConsecCircuitBreaker Unit
  calls : List DialPhase
  /-- Whether each attempt to connect succeeded, the last one first. -/
  attempts : List Bool

namespace Dialing

open KeyState

def new : Dialing := ⟨⟨false, none, none, fun _ => false, fun _ => false, (), 0⟩, [], []⟩

inductive Event where
  /-- The check lets a call pass. -/
  | enter (now : Instant)
  | look
  | generate (now : Instant) (connect : Except GoError Nat)
  | store (client : Nat)
  /-- The connection of a client is lost. -/
  | lose (client : Nat)
  /-- Another goroutine removes a client. -/
  | remove (client : Nat)
  /-- `Close` of the `xClient`. -/
  | close

/-- A call goes on from one phase to the next, or ends. -/
def advance (dialing : Dialing) (phase : DialPhase) (next : List DialPhase)
    (state : KeyState ConsecCircuitBreaker Unit) : Dialing :=
  { dialing with state := state, calls := next ++ dialing.calls.erase phase }

def look (config : KeyConfig ConsecCircuitBreaker Unit) (dialing : Dialing) : Dialing :=
  match dialing.state.look config with
  | (some _, state) => dialing.advance .entered [] state
  | (none, state) => dialing.advance .entered [.missed] state

def generate (config : KeyConfig ConsecCircuitBreaker Unit) (dialing : Dialing) (now : Instant)
    (connect : Except GoError Nat) : Dialing :=
  match dialing.state.generateClient config now connect with
  | (.error _, state) => { dialing.advance .missed [] state with attempts := false :: dialing.attempts }
  | (.ok client, state) =>
    { dialing.advance .missed [.generated client] state with attempts := true :: dialing.attempts }

def step (config : KeyConfig ConsecCircuitBreaker Unit) (dialing : Dialing) : Event → Option Dialing
  | .enter now =>
    match dialing.state.check config now with
    | .error _ => none
    | .ok state => some { dialing with state := state, calls := .entered :: dialing.calls }
  | .look => if .entered ∈ dialing.calls then some (dialing.look config) else none
  | .generate now connect => if .missed ∈ dialing.calls then some (dialing.generate config now connect) else none
  | .store client =>
    if .generated client ∈ dialing.calls then
      some (dialing.advance (.generated client) [] (dialing.state.setCachedClient config client))
    else none
  | .lose client =>
    some { dialing with state :=
      { dialing.state with shutdown := Function.update dialing.state.shutdown client true } }
  | .remove client => some { dialing with state := dialing.state.deleteCachedClient config client }
  | .close => some { dialing with state := { dialing.state with isShutdown := true, cached := none } }

/-- The breakers open after `n` failures. -/
def system (n : UInt64) (window : Int) : System Dialing Event where
  initial dialing := dialing = new
  step := step (consecConfig n window)

/-- An attempt succeeds only while the breaker, if there is one, counts no failure. -/
def SucceedsUncounted (dialing : Dialing) : Event → Prop
  | .generate _ (.ok _) => ∀ breaker, dialing.state.breaker = some breaker → breaker.failures = 0
  | _ => True

/-- The number of attempts that have failed since the last success. -/
def failedRun (attempts : List Bool) : Nat := (attempts.takeWhile fun connected => !connected).length

/-- The breaker counts no more failures than there were since the last success. -/
def Counted (n : UInt64) (dialing : Dialing) : Prop :=
  ∀ breaker, dialing.state.breaker = some breaker →
    breaker.failureThreshold = n ∧ breaker.failures.toNat ≤ failedRun dialing.attempts

section Steps

variable {n : UInt64} {window : Int} {config : KeyConfig ConsecCircuitBreaker Unit}
  {state after : KeyState ConsecCircuitBreaker Unit} {dialing next : Dialing} {event : Event}

theorem failures_fail_le (breaker : ConsecCircuitBreaker) (now : Instant) :
    (breaker.fail now).failures.toNat ≤ breaker.failures.toNat + 1 := by
  simp only [ConsecCircuitBreaker.fail, UInt64.toNat_add]
  exact Nat.mod_le ..

/-- Where the breaker and the attempts stay, so does what they say about each other. -/
theorem Counted.congr (counted : dialing.Counted n) (breaker : next.state.breaker = dialing.state.breaker)
    (attempts : next.attempts = dialing.attempts) : next.Counted n := by
  intro stored found
  rw [attempts]
  exact counted stored (breaker ▸ found)

theorem Counted.ready (counted : dialing.Counted n) (now : Instant)
    (admitted : dialing.state.check (consecConfig n window) now = .ok after) :
    ({ dialing with state := after, calls := .entered :: dialing.calls } : Dialing).Counted n := by
  unfold check at admitted
  split at admitted
  · cases admitted
  cases stored : dialing.state.breaker with
  | none =>
    simp only [stored] at admitted
    cases admitted
    exact counted.congr rfl rfl
  | some breaker =>
    simp only [stored] at admitted
    split at admitted
    · cases admitted
    case h_2 later verdict =>
      cases admitted
      rintro _ ⟨⟩
      obtain ⟨threshold, failures⟩ := counted breaker stored
      have same : (breaker.ready now).2 = later := congrArg Prod.snd verdict
      rw [← same, ConsecCircuitBreaker.ready]
      split
      · exact ⟨threshold, Nat.zero_le _⟩
      · exact ⟨threshold, failures⟩

/-- What `LoadOrStore` hands out before the connection. -/
theorem Counted.loaded (counted : dialing.Counted n) (window : Int) :
    let breaker := dialing.state.breaker.getD (.new n window)
    breaker.failureThreshold = n ∧ breaker.failures.toNat ≤ failedRun dialing.attempts := by
  cases stored : dialing.state.breaker with
  | none => exact ⟨rfl, Nat.zero_le _⟩
  | some breaker => exact counted breaker stored

theorem Counted.generate (counted : dialing.Counted n) (now : Instant) (connect : Except GoError Nat)
    (uncounted : SucceedsUncounted dialing (.generate now connect)) :
    (dialing.generate (consecConfig n window) now connect).Counted n := by
  obtain ⟨threshold, failures⟩ := counted.loaded window
  cases connect with
  | error err =>
    rintro _ ⟨⟩
    exact ⟨threshold, (failures_fail_le _ now).trans (Nat.succ_le_succ failures)⟩
  | ok client =>
    rintro _ ⟨⟩
    refine ⟨threshold, ?_⟩
    cases stored : dialing.state.breaker with
    | none => exact Nat.zero_le _
    | some breaker => simp [uncounted breaker stored]

theorem Counted.step (counted : dialing.Counted n) (uncounted : SucceedsUncounted dialing event)
    (moved : dialing.step (consecConfig n window) event = some next) : next.Counted n := by
  cases event with
  | enter now =>
    dsimp only [Dialing.step] at moved
    split at moved
    · cases moved
    case h_2 admitted =>
      cases moved
      exact counted.ready now admitted
  | look =>
    obtain ⟨_, ⟨⟩⟩ := Option.ite_none_right_eq_some.mp moved
    have same := (kept_look (consecConfig n window) dialing.state).breaker
    unfold Dialing.look
    split
    case h_1 looked => exact counted.congr (by rw [looked] at same; exact same) rfl
    case h_2 looked => exact counted.congr (by rw [looked] at same; exact same) rfl
  | generate now connect =>
    obtain ⟨_, ⟨⟩⟩ := Option.ite_none_right_eq_some.mp moved
    exact counted.generate now connect uncounted
  | store client =>
    obtain ⟨_, ⟨⟩⟩ := Option.ite_none_right_eq_some.mp moved
    exact counted.congr rfl rfl
  | lose client =>
    cases moved
    exact counted.congr rfl rfl
  | remove client =>
    cases moved
    exact counted.congr (kept_deleteCachedClient ..).breaker rfl
  | close =>
    cases moved
    exact counted.congr rfl rfl

theorem counted_of_reached (reached : (system n window).Reached SucceedsUncounted dialing) : dialing.Counted n := by
  refine reached.invariant ?_ fun dialing event next counted uncounted moved => counted.step uncounted moved
  rintro _ rfl breaker missing
  cases missing

/-- A call is turned away at a breaker whose counter has reached its threshold. -/
theorem threshold_le_of_open (isOpen : state.check (consecConfig n window) now = .error errBreakerOpen) :
    ∃ breaker, state.breaker = some breaker ∧ breaker.failureThreshold ≤ breaker.failures := by
  have distinct : errXClientClosed ≠ errBreakerOpen := by decide
  unfold check at isOpen
  split at isOpen
  · exact absurd (Except.error.inj isOpen) distinct
  cases stored : state.breaker with
  | none => simp [stored] at isOpen
  | some breaker =>
    refine ⟨breaker, rfl, ?_⟩
    simp only [stored] at isOpen
    split at isOpen
    case h_1 later verdict =>
      have unready : (breaker.ready now).1 = false := congrArg Prod.fst verdict
      unfold ConsecCircuitBreaker.ready at unready
      split at unready
      · cases unready
      · exact UInt64.not_lt.mp (of_decide_eq_false unready)
    case h_2 => cases isOpen

theorem all_failed_of_le (attempts : List Bool) (many : count ≤ failedRun attempts) :
    (attempts.take count).length = count ∧ ∀ connected ∈ attempts.take count, connected = false := by
  have leading := List.takeWhile_prefix (fun connected : Bool => !connected) (l := attempts)
  constructor
  · rw [List.length_take, min_eq_left (many.trans leading.length_le)]
  · intro connected member
    have early : connected ∈ attempts.take (failedRun attempts) := (List.take_prefix_take_left many).subset member
    rw [failedRun, ← List.prefix_iff_eq_take.mp leading] at early
    simpa using List.mem_takeWhile_imp early

/-- In a run in which attempts succeed only while no failure is counted, a call is turned away
only if that many attempts before it have failed in a row. -/
theorem breaker_opens_after_consecutive (reached : (system n window).Reached SucceedsUncounted dialing)
    (now : Instant) (isOpen : dialing.state.check (consecConfig n window) now = .error errBreakerOpen) :
    (dialing.attempts.take n.toNat).length = n.toNat ∧
      ∀ connected ∈ dialing.attempts.take n.toNat, connected = false := by
  obtain ⟨breaker, stored, reaches⟩ := threshold_le_of_open isOpen
  obtain ⟨threshold, failures⟩ := counted_of_reached reached breaker stored
  rw [threshold] at reaches
  exact all_failed_of_le _ ((UInt64.le_iff_toNat_le.mp reaches).trans failures)

end Steps

def refusedConnection : Except GoError Nat := .error (.plain (utf8 "connection refused"))

def attempt (connect : Except GoError Nat) : List Event := [.enter at100, .look, .generate at100 connect]

theorem breaker_opens_after_consecutive_one :
    ∃ dialing, (system 1 60).Reached SucceedsUncounted dialing ∧ dialing.attempts = [false] ∧
      (dialing.attempts.take 1).length = 1 ∧ ∀ connected ∈ dialing.attempts.take 1, connected = false := by
  have start : (system 1 60).Reached SucceedsUncounted new := .start rfl
  have entered := start.step (.enter at100) trivial rfl
  have missed := entered.step .look trivial rfl
  have refused := missed.step (.generate at100 refusedConnection) trivial rfl
  exact ⟨_, refused, rfl, breaker_opens_after_consecutive refused at100 rfl⟩

/-- Two calls pass the check and find no client. The first one connects, which is not reported to
the breaker, and so the failure of the second one opens it. -/
theorem breaker_opens_despite_success :
    ∃ dialing, (system 2 60).play new (attempt refusedConnection ++
        [.enter at100, .enter at100, .look, .look, .generate at100 (.ok 7), .generate at100 refusedConnection,
          .store 7]) = some dialing ∧
      dialing.state.check (consecConfig 2 60) at100 = .error errBreakerOpen ∧
      dialing.attempts = [false, true, false] :=
  ⟨_, rfl, rfl, rfl⟩

end Dialing

end Irpc.XClient
