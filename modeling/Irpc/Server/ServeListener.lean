import Irpc.Errors
import Irpc.Foundation.System

/-! The loop of `ServeListener`, which accepts connections and starts `serveConn` for them. -/
namespace Irpc.Server

open Irpc.Foundation

def errServerClosed : GoError := .plain (utf8 "ServeListener: Server closed")

/-- `DoPostConnAccept`. Each plugin may replace the connection, and the first one that
objects to it ends the chain. -/
def doPostConnAccept (plugins : List (Conn → Conn × Bool)) (conn : Conn) : Conn × Bool :=
  match plugins with
  | [] => (conn, true)
  | plugin :: rest => if (plugin conn).2 then doPostConnAccept rest (plugin conn).1 else ((plugin conn).1, false)

/-- An error of `Accept`, with what the loop asks of it. -/
structure AcceptError where
  err : GoError
  temporary : Bool
  /-- It is `cmux.ErrListenerClosed`. -/
  listenerClosed : Bool

/-- What `Accept` returns. A connection comes with the result of its TLS handshake,
should there be one. -/
inductive Accepted (Conn : Type) where
  | connected (conn : Conn) (handshake : Option GoError)
  | failed (failure : AcceptError)

inductive Accepting where
  | accepting
  /-- The shutdown is waited for. -/
  | waiting
  | returned (err : GoError)

structure Listener (Conn : Type) where
  inShutdown : Bool
  /-- In milliseconds. -/
  tempDelay : Nat
  phase : Accepting
  /-- What `Accept` has returned so far, the last first. -/
  outcomes : List (Accepted Conn)
  activeConn : List Conn
  /-- The connections for which `serveConn` was started. -/
  served : List Conn
  closed : List Conn

namespace Listener

variable {Conn : Type}

def started : Listener Conn := ⟨false, 0, .accepting, [], [], [], []⟩

def nextDelay (tempDelay : Nat) : Nat := min (if tempDelay = 0 then 5 else tempDelay * 2) 1000

inductive Event (Conn : Type) where
  | accept (outcome : Accepted Conn)
  | shutdown
  /-- `doneChan` is closed. -/
  | done

/-- The error of a handshake, if there is one at all on the connection. -/
def shake (isTLS : Conn → Bool) (conn : Conn) (handshake : Option GoError) : Option GoError :=
  if isTLS conn then handshake else none

def connect (plugins : List (Conn → Conn × Bool)) (isTLS : Conn → Bool) (listener : Listener Conn)
    (conn : Conn) (handshake : Option GoError) : Listener Conn :=
  let accepted := doPostConnAccept plugins conn
  if accepted.2 then
    match shake isTLS accepted.1 handshake with
    | some err => { listener with phase := .returned err }
    | none => { listener with
        activeConn := accepted.1 :: listener.activeConn
        served := accepted.1 :: listener.served }
  else { listener with closed := accepted.1 :: listener.closed }

def fail (listener : Listener Conn) (failure : AcceptError) : Listener Conn :=
  if listener.inShutdown then { listener with phase := .waiting }
  else if failure.temporary then { listener with tempDelay := nextDelay listener.tempDelay }
  else if failure.listenerClosed then { listener with phase := .returned errServerClosed }
  else { listener with phase := .returned failure.err }

def step (plugins : List (Conn → Conn × Bool)) (isTLS : Conn → Bool) (listener : Listener Conn) :
    Event Conn → Option (Listener Conn)
  | .accept outcome =>
    match listener.phase, outcome with
    | .accepting, .connected conn handshake =>
      some (connect plugins isTLS { listener with tempDelay := 0, outcomes := outcome :: listener.outcomes }
        conn handshake)
    | .accepting, .failed failure => some (fail { listener with outcomes := outcome :: listener.outcomes } failure)
    | _, _ => none
  | .shutdown => some { listener with inShutdown := true }
  | .done =>
    match listener.phase with
    | .waiting => some { listener with phase := .returned errServerClosed }
    | _ => none

def system (plugins : List (Conn → Conn × Bool)) (isTLS : Conn → Bool) :
    System (Listener Conn) (Event Conn) where
  initial listener := listener = started
  step := step plugins isTLS

/-- Everything a step can do, with what it needs. -/
inductive Moves (plugins : List (Conn → Conn × Bool)) (isTLS : Conn → Bool) (listener : Listener Conn) :
    Event Conn → Listener Conn → Prop where
  | connect {conn : Conn} {handshake : Option GoError} (accepting : listener.phase = .accepting) :
      Moves plugins isTLS listener (.accept (.connected conn handshake))
        (connect plugins isTLS
          { listener with tempDelay := 0, outcomes := .connected conn handshake :: listener.outcomes }
          conn handshake)
  | fail {failure : AcceptError} (accepting : listener.phase = .accepting) :
      Moves plugins isTLS listener (.accept (.failed failure))
        (fail { listener with outcomes := .failed failure :: listener.outcomes } failure)
  | shutdown : Moves plugins isTLS listener .shutdown { listener with inShutdown := true }
  | done (waiting : listener.phase = .waiting) :
      Moves plugins isTLS listener .done { listener with phase := .returned errServerClosed }

variable {plugins : List (Conn → Conn × Bool)} {isTLS : Conn → Bool} {listener after : Listener Conn}
  {event : Event Conn} {conn : Conn} {handshake : Option GoError}

theorem moves_of_step (moved : listener.step plugins isTLS event = some after) :
    Moves plugins isTLS listener event after := by
  cases event with
  | accept outcome =>
    dsimp only [step] at moved
    split at moved
    case h_1 conn handshake accepting =>
      cases moved
      exact .connect accepting
    case h_2 failure accepting =>
      cases moved
      exact .fail accepting
    case h_3 => cases moved
  | shutdown =>
    cases moved
    exact .shutdown
  | done =>
    dsimp only [step] at moved
    split at moved
    case h_1 waiting =>
      cases moved
      exact .done waiting
    case h_2 => cases moved

/-- The connection is recorded and served, or it is closed. -/
def Handled (listener : Listener Conn) (conn : Conn) : Prop :=
  (conn ∈ listener.activeConn ∧ conn ∈ listener.served) ∨ conn ∈ listener.closed

/-- The last thing that `Accept` returned is an error that is not temporary. -/
def Failed (listener : Listener Conn) : Prop :=
  ∃ failure, listener.outcomes.head? = some (.failed failure) ∧ failure.temporary = false

/-- The loop leaves only for a shutdown or for an error of `Accept` that is not
temporary, and no connection is forgotten. A connection is what the plugins make of it. -/
structure Survives (plugins : List (Conn → Conn × Bool)) (listener : Listener Conn) : Prop where
  waiting : listener.phase = .waiting → listener.inShutdown = true
  returned : ∀ err, listener.phase = .returned err → listener.inShutdown = true ∨ listener.Failed
  handled : ∀ conn handshake, .connected conn handshake ∈ listener.outcomes →
    listener.Handled (doPostConnAccept plugins conn).1

/-- The handshake fails on a connection that the plugins accept. -/
def BadHandshake (plugins : List (Conn → Conn × Bool)) (isTLS : Conn → Bool) (conn : Conn)
    (handshake : Option GoError) : Prop :=
  (doPostConnAccept plugins conn).2 = true ∧ shake isTLS (doPostConnAccept plugins conn).1 handshake ≠ none

def GoodHandshakes (plugins : List (Conn → Conn × Bool)) (isTLS : Conn → Bool) (_ : Listener Conn) :
    Event Conn → Prop
  | .accept (.connected conn handshake) => ¬ BadHandshake plugins isTLS conn handshake
  | _ => True

theorem Survives.connect (survives : listener.Survives plugins) (accepting : listener.phase = .accepting)
    (good : ¬ BadHandshake plugins isTLS conn handshake) :
    (connect plugins isTLS
      { listener with tempDelay := 0, outcomes := .connected conn handshake :: listener.outcomes }
      conn handshake).Survives plugins := by
  unfold Listener.connect
  dsimp only
  split
  case isTrue accepted =>
    have shaken : shake isTLS (doPostConnAccept plugins conn).1 handshake = none := by
      by_contra failed
      exact good ⟨accepted, failed⟩
    rw [shaken]
    refine ⟨by simp [accepting], by simp [accepting], ?_⟩
    intro other result member
    rcases List.mem_cons.mp member with same | earlier
    · cases same
      exact .inl ⟨List.mem_cons_self, List.mem_cons_self⟩
    · refine (survives.handled other result earlier).imp ?_ id
      intro ⟨active, served⟩
      exact ⟨List.mem_cons_of_mem _ active, List.mem_cons_of_mem _ served⟩
  case isFalse refused =>
    refine ⟨by simp [accepting], by simp [accepting], ?_⟩
    intro other result member
    rcases List.mem_cons.mp member with same | earlier
    · cases same
      exact .inr List.mem_cons_self
    · exact (survives.handled other result earlier).imp id (List.mem_cons_of_mem _)

theorem Survives.fail (survives : listener.Survives plugins) (accepting : listener.phase = .accepting)
    (failure : AcceptError) :
    (fail { listener with outcomes := .failed failure :: listener.outcomes } failure).Survives plugins := by
  have handled : ∀ conn handshake, .connected conn handshake ∈ Accepted.failed failure :: listener.outcomes →
      listener.Handled (doPostConnAccept plugins conn).1 := by
    intro conn handshake member
    exact survives.handled conn handshake (by simpa using member)
  unfold Listener.fail
  split
  case isTrue shutdown => exact ⟨fun _ => shutdown, nofun, handled⟩
  case isFalse =>
    split
    case isTrue temporary => exact ⟨by simp [accepting], by simp [accepting], handled⟩
    case isFalse permanent =>
      have failed : ∃ last, (Accepted.failed failure :: listener.outcomes).head? = some (.failed last) ∧
          last.temporary = false := ⟨failure, rfl, by simpa using permanent⟩
      split <;> exact ⟨nofun, fun _ _ => .inr failed, handled⟩

theorem survives_of_reached (reached : (system plugins isTLS).Reached (GoodHandshakes plugins isTLS) listener) :
    listener.Survives plugins := by
  refine reached.invariant ?_ ?_
  · rintro _ rfl
    exact ⟨nofun, nofun, nofun⟩
  · intro listener event after survives good moved
    cases moves_of_step moved with
    | connect accepting => exact survives.connect accepting good
    | fail accepting => exact survives.fail accepting _
    | shutdown => exact ⟨fun _ => rfl, fun _ _ => .inl rfl, survives.handled⟩
    | done waiting => exact ⟨nofun, fun _ _ => .inl (survives.waiting waiting), survives.handled⟩

/-- A handshake that fails ends the loop with its error, and the connection is forgotten. -/
theorem connect_of_badHandshake (bad : BadHandshake plugins isTLS conn handshake) :
    ∃ err, handshake = some err ∧
      connect plugins isTLS listener conn handshake = { listener with phase := .returned err } := by
  obtain ⟨accepted, failed⟩ := bad
  obtain ⟨err, found⟩ := Option.ne_none_iff_exists'.mp failed
  refine ⟨err, ?_, ?_⟩
  · unfold shake at found
    split at found
    · exact found
    · cases found
  · simp only [connect, accepted, found, if_pos]

/-- In a run in which no handshake fails, the loop leaves only for a shutdown or for an
error of `Accept` that is not temporary, and no connection is forgotten. One handshake
that fails on an accepted connection ends the loop, and forgets the connection. -/
theorem serveListener_survives :
    (∀ listener, (system plugins isTLS).Reached (GoodHandshakes plugins isTLS) listener →
      listener.Survives plugins) ∧
    ∀ (listener : Listener Conn) (conn : Conn) (handshake : Option GoError), listener.phase = .accepting →
      BadHandshake plugins isTLS conn handshake →
      ∃ err, handshake = some err ∧ listener.step plugins isTLS (.accept (.connected conn handshake)) =
        some { listener with
          tempDelay := 0
          outcomes := .connected conn handshake :: listener.outcomes
          phase := .returned err } := by
  refine ⟨fun _ reached => survives_of_reached reached, ?_⟩
  intro listener conn handshake accepting bad
  obtain ⟨err, failed, ended⟩ := connect_of_badHandshake bad
  refine ⟨err, failed, ?_⟩
  simp only [step, accepting]
  exact congrArg some ended

/-- A plugin that objects to the connection with the number 1. -/
def pickyPlugin (conn : Nat) : Nat × Bool := (conn, conn != 1)

theorem serveListener_survives_picky :
    ∃ listener, (system [pickyPlugin] (· == 2)).Reached (GoodHandshakes [pickyPlugin] (· == 2)) listener ∧
      listener.activeConn = [2, 0] ∧ listener.closed = [1] ∧ listener.phase = .returned .eof ∧
      listener.Survives [pickyPlugin] := by
  have start : (system [pickyPlugin] (· == 2)).Reached (GoodHandshakes [pickyPlugin] (· == 2)) started := .start rfl
  have first := start.step (.accept (.connected 0 none)) (fun bad => bad.2 rfl) rfl
  have refused := first.step (.accept (.connected 1 none)) (fun bad => nomatch bad.1) rfl
  have retried := refused.step (.accept (.failed ⟨.unexpectedEOF, true, false⟩)) trivial rfl
  have shaken := retried.step (.accept (.connected 2 none)) (fun bad => bad.2 rfl) rfl
  have failed := shaken.step (.accept (.failed ⟨.eof, false, false⟩)) trivial rfl
  exact ⟨_, failed, rfl, rfl, rfl, serveListener_survives.1 _ failed⟩

/-- One peer that breaks off its handshake ends the loop. -/
theorem not_survives_handshake :
    ∃ listener, (system [pickyPlugin] (· == 2)).play started [.accept (.connected 2 (some .eof))] = some listener ∧
      listener.phase = .returned .eof ∧ listener.inShutdown = false ∧ ¬ listener.Failed ∧
      ¬ listener.Handled 2 ∧ ¬ listener.Survives [pickyPlugin] := by
  have unfailed : ¬ Failed ⟨false, 0, .returned .eof, [.connected 2 (some .eof)], [], [], []⟩ := by
    rintro ⟨failure, found, _⟩
    cases found
  refine ⟨_, rfl, rfl, rfl, unfailed, ?_, ?_⟩
  · rintro (⟨active, _⟩ | closed)
    · cases active
    · cases closed
  · intro survives
    rcases survives.returned .eof rfl with shutdown | failed
    · cases shutdown
    · exact unfailed failed

end Listener

end Irpc.Server
