import Irpc.Client.Steps

/-! The mutex of a client as a flag, and the goroutines that lock and unlock it. A
section takes effect when its goroutine has locked the mutex; from then on the
goroutine owes the unlocks of the section. -/
namespace Irpc.Client

open Irpc.Foundation Irpc.Protocol

/-- How a step of the client stands to the mutex. The deferred unlock of a second
`Close` is part of the handling of the mutex itself. -/
inductive Access where
  | locked
  | unlocked
  | deferred
  deriving DecidableEq

def access : Event → Access
  | .written _ oneway => if oneway then .locked else .unlocked
  | .respond res _ => if isServerMessage res then .unlocked else .locked
  | .receive _ => .unlocked
  | .disconnect _ => .unlocked
  | .unlockAgain => .deferred
  | _ => .locked

/-- `Close` has a deferred unlock, and unlocks the mutex itself when the client is
closing or shut down. -/
def unlocksOf (client : Client) : Event → Nat
  | .close => if client.closing || client.shutdown then 2 else 1
  | _ => 1

/-- `owes` has one entry for each unlock a goroutine still has before it. Unlocking
a free mutex is fatal for the process. -/
structure Locked where
  client : Client
  held : Bool
  owes : List Nat
  fatal : Bool

inductive LockEvent where
  /-- Lock the mutex and run the section. -/
  | enter (goroutine : Nat) (event : Event)
  | unlock (goroutine : Nat)
  /-- A step outside the mutex. -/
  | pass (event : Event)
  /-- A look at the flags, as `IsClosing` and `IsShutdown` take. -/
  | look (goroutine : Nat)

namespace Locked

def free (client : Client) : Locked := ⟨client, false, [], false⟩

def lock (state : Locked) (goroutine : Nat) (client : Client) (unlocks : Nat) : Locked :=
  { state with client, held := true, owes := List.replicate unlocks goroutine ++ state.owes }

def unlock (state : Locked) (goroutine : Nat) : Locked :=
  { state with held := false, owes := state.owes.erase goroutine, fatal := !state.held }

def step (state : Locked) (event : LockEvent) : Option Locked :=
  if state.fatal then none
  else
    match event with
    | .enter goroutine event =>
      if state.held = false ∧ goroutine ∉ state.owes ∧ access event = .locked then
        (state.client.step event).map fun client =>
          state.lock goroutine client (unlocksOf state.client event)
      else none
    | .look goroutine =>
      if state.held = false ∧ goroutine ∉ state.owes then some (state.lock goroutine state.client 1)
      else none
    | .unlock goroutine => if goroutine ∈ state.owes then some (state.unlock goroutine) else none
    | .pass event =>
      if access event = .unlocked then
        (state.client.step event).map fun client => { state with client }
      else none

def system : System Locked LockEvent where
  initial state := state = free connected
  step := step

/-- Nobody closes a client that is closing or shut down. -/
def ClosesOnce (state : Locked) : LockEvent → Prop
  | .enter _ .close => state.client.closing = false ∧ state.client.shutdown = false
  | _ => True

variable {state next : Locked} {event : LockEvent}

/-- Everything a step can do, with what it needs. -/
inductive Moves (state : Locked) : LockEvent → Locked → Prop where
  | enter {goroutine : Nat} {event : Event} {client : Client} (isFree : state.held = false)
      (taken : access event = .locked) (ran : state.client.step event = some client) :
      Moves state (.enter goroutine event) (state.lock goroutine client (unlocksOf state.client event))
  | look {goroutine : Nat} (isFree : state.held = false) :
      Moves state (.look goroutine) (state.lock goroutine state.client 1)
  | unlock {goroutine : Nat} (owing : goroutine ∈ state.owes) :
      Moves state (.unlock goroutine) (state.unlock goroutine)
  | pass {event : Event} {client : Client} (outside : access event = .unlocked)
      (ran : state.client.step event = some client) : Moves state (.pass event) { state with client }

theorem moves_of_step (moved : state.step event = some next) :
    state.fatal = false ∧ Moves state event next := by
  unfold step at moved
  split at moved
  · cases moved
  case isFalse alive =>
  refine ⟨by simpa using alive, ?_⟩
  cases event with
  | enter goroutine event =>
    dsimp only at moved
    split at moved
    case isTrue guard =>
      obtain ⟨client, ran, rfl⟩ := Option.map_eq_some_iff.mp moved
      exact .enter guard.1 guard.2.2 ran
    case isFalse => cases moved
  | look goroutine =>
    dsimp only at moved
    obtain ⟨guard, ⟨⟩⟩ := Option.ite_none_right_eq_some.mp moved
    exact .look guard.1
  | unlock goroutine =>
    dsimp only at moved
    obtain ⟨owing, ⟨⟩⟩ := Option.ite_none_right_eq_some.mp moved
    exact .unlock owing
  | pass event =>
    dsimp only at moved
    split at moved
    case isTrue outside =>
      obtain ⟨client, ran, rfl⟩ := Option.map_eq_some_iff.mp moved
      exact .pass outside ran
    case isFalse => cases moved

/-- The client under the mutex moves as a client does. -/
theorem client_reachable (reachable : system.Reachable state) : Client.system.Reachable state.client := by
  induction reachable with
  | start initial =>
    rw [show _ = free connected from initial]
    exact .start rfl
  | step _ event _ moved earlier =>
    cases (moves_of_step moved).2 with
    | enter isFree taken ran => exact earlier.step _ trivial ran
    | look isFree => exact earlier
    | unlock owing => exact earlier
    | pass outside ran => exact earlier.step _ trivial ran

end Locked

/-- `unlocks` counts the invocations of `Close` on a client that is closing or shut
down, as long as their deferred unlocks stay outside the client. -/
theorem unlocks_of_step {client after : Client} {event : Event} (moved : client.step event = some after)
    (inside : access event ≠ .deferred) :
    after.unlocks + 1 = client.unlocks + unlocksOf client event := by
  rw [(frame_of_step moved).unlocks]
  cases event with
  | close =>
    unfold deferred unlocksOf
    dsimp only
    split <;> rfl
  | unlockAgain => exact absurd rfl inside
  | _ => rfl

theorem unlocksOf_of_unlocked {client : Client} (outside : access event = .unlocked) :
    unlocksOf client event = 1 := by
  cases event with
  | close => cases outside
  | _ => rfl

namespace Locked

variable {state next : Locked} {event : LockEvent}

/-- While nothing fatal has happened, each unlock that is owed is paired with the
mutex or with a `Close` that came too late. -/
def Balanced (state : Locked) : Prop :=
  state.fatal = false → state.owes.length = state.held.toNat + state.client.unlocks

theorem Balanced.step (balanced : Balanced state) (moved : state.step event = some next) :
    Balanced next := by
  obtain ⟨alive, moves⟩ := moves_of_step moved
  have paired := balanced alive
  cases moves with
  | enter isFree taken ran =>
    intro _
    have counted := unlocks_of_step ran (by simp [taken])
    simp only [isFree, Bool.toNat_false] at paired
    simp only [lock, List.length_append, List.length_replicate, Bool.toNat_true]
    omega
  | look isFree =>
    intro _
    simp only [isFree, Bool.toNat_false] at paired
    simp only [lock, List.length_append, List.length_replicate, Bool.toNat_true]
    omega
  | unlock owing =>
    intro sound
    have held : state.held = true := by simpa [Locked.unlock] using sound
    simp only [held, Bool.toNat_true] at paired
    simp only [Locked.unlock, List.length_erase_of_mem owing, Bool.toNat_false]
    omega
  | pass outside ran =>
    intro _
    have counted := unlocks_of_step ran (by simp [outside])
    rw [unlocksOf_of_unlocked outside] at counted
    rw [paired, Nat.add_right_cancel counted]

theorem balanced_of_reached {allowed : Locked → LockEvent → Prop}
    (reached : system.Reached allowed state) : Balanced state := by
  refine reached.invariant ?_ ?_
  · intro state initial
    rw [show state = free connected from initial]
    exact fun _ => rfl
  · intro state event next balanced _ moved
    exact balanced.step moved

theorem one_le_unlocksOf (client : Client) (event : Event) : 1 ≤ unlocksOf client event := by
  cases event with
  | close =>
    unfold unlocksOf
    dsimp only
    split <;> decide
  | _ => exact le_refl 1

theorem closesOnce_enter {event : Event} :
    ClosesOnce state (.enter goroutine event) ↔ unlocksOf state.client event = 1 := by
  cases event with
  | close => simp [ClosesOnce, unlocksOf]
  | _ => simp [ClosesOnce, unlocksOf]

/-- The count of late invocations of `Close` never falls, and stands still exactly
where there is none. -/
theorem unlocks_of_moves (moves : Moves state event next) :
    state.client.unlocks ≤ next.client.unlocks ∧
      (ClosesOnce state event ↔ next.client.unlocks = state.client.unlocks) := by
  cases moves with
  | @enter goroutine event client isFree taken ran =>
    have counted := unlocks_of_step ran (by simp [taken])
    have positive := one_le_unlocksOf state.client event
    have after : (state.lock goroutine client (unlocksOf state.client event)).client.unlocks =
      client.unlocks := rfl
    rw [closesOnce_enter, after]
    omega
  | look isFree => exact ⟨le_refl _, iff_of_true trivial rfl⟩
  | unlock owing => exact ⟨le_refl _, iff_of_true trivial rfl⟩
  | pass outside ran =>
    have counted := unlocks_of_step ran (by simp [outside])
    rw [unlocksOf_of_unlocked outside] at counted
    have same := Nat.add_right_cancel counted
    exact ⟨same.ge, iff_of_true trivial same⟩

/-- What the mutex has to keep to: nothing fatal has happened, whoever owes an unlock
finds the mutex held, and it is free once nobody does. -/
structure Disciplined (state : Locked) : Prop where
  sound : state.fatal = false
  held_of_owes : ∀ goroutine ∈ state.owes, state.held = true
  free_of_done : state.owes = [] → state.held = false

theorem disciplined_of_balanced (balanced : Balanced state) (sound : state.fatal = false)
    (none_late : state.client.unlocks = 0) : Disciplined state := by
  have paired := balanced sound
  rw [none_late, Nat.add_zero] at paired
  refine ⟨sound, ?_, ?_⟩
  · intro goroutine owing
    have positive := List.length_pos_of_mem owing
    cases held : state.held with
    | false => simp [held, paired] at positive
    | true => rfl
  · intro done
    cases held : state.held with
    | false => rfl
    | true => simp [held, done] at paired

/-- Without a late `Close` the mutex is handled as it should be. -/
theorem disciplined_of_closesOnce (reached : system.Reached ClosesOnce state) :
    Disciplined state ∧ state.client.unlocks = 0 := by
  induction reached with
  | start initial =>
    rw [show _ = free connected from initial]
    exact ⟨⟨rfl, nofun, fun _ => rfl⟩, rfl⟩
  | @step state next earlier event once moved ih =>
    obtain ⟨disciplined, none_late⟩ := ih
    obtain ⟨_, moves⟩ := moves_of_step moved
    have stands := ((unlocks_of_moves moves).2.mp once).trans none_late
    refine ⟨disciplined_of_balanced ?_ ?_ stands, stands⟩
    · exact (balanced_of_reached earlier).step moved
    · cases moves with
      | enter isFree taken ran => exact disciplined.sound
      | look isFree => exact disciplined.sound
      | unlock owing => simp [Locked.unlock, disciplined.held_of_owes _ owing]
      | pass outside ran => exact disciplined.sound

/-- A run that has counted no late `Close` had none. -/
theorem closesOnce_of_unlocks (reachable : system.Reachable state) (none_late : state.client.unlocks = 0) :
    system.Reached ClosesOnce state := by
  induction reachable with
  | start initial => exact .start initial
  | step _ event _ moved ih =>
    obtain ⟨_, moves⟩ := moves_of_step moved
    obtain ⟨rises, stands⟩ := unlocks_of_moves moves
    have before := Nat.le_zero.mp (none_late ▸ rises)
    exact .step (ih before) event (stands.mpr (none_late.trans before.symm)) moved

/-- One goroutine's `Close`, from its lock to its last unlock. -/
def closeRun (state : Locked) (goroutine : Nat) : List LockEvent :=
  .enter goroutine .close :: List.replicate (unlocksOf state.client .close) (.unlock goroutine)

theorem play_closeRun (sound : state.fatal = false) (isFree : state.held = false)
    (done : state.owes = []) (alive : state.client.crashed = false) (goroutine : Nat) :
    system.play state (closeRun state goroutine) = some
      { state with
        client := state.client.stepClose
        fatal := state.client.closing || state.client.shutdown } := by
  obtain ⟨client, held, owes, fatal⟩ := state
  dsimp only at sound isFree done alive
  subst sound isFree done
  cases late : client.closing || client.shutdown <;>
  simp [closeRun, unlocksOf, late, System.play, system, step, access, Client.step, alive, lock,
    Locked.unlock, List.replicate]

theorem quiet_of_done (balanced : Balanced state) (done : state.owes = []) (sound : state.fatal = false) :
    state.client.unlocks = 0 ∧ state.held = false := by
  have paired := balanced sound
  rw [done, List.length_nil] at paired
  cases held : state.held with
  | false => exact ⟨by simpa [held] using paired.symm, rfl⟩
  | true =>
    simp only [held, Bool.toNat_true] at paired
    omega

/-- In every run without a `Close` on a client that is closing or shut down, no step
unlocks a free mutex and every operation ends with the mutex free. Once all operations
of a run have ended the process is dead exactly if there was such a `Close`, and one
that is called then ends quietly exactly on an open client. -/
theorem mutex_discipline (reachable : system.Reachable state) :
    (system.Reached ClosesOnce state → Disciplined state) ∧
    (state.owes = [] → (state.fatal = false ↔ system.Reached ClosesOnce state)) ∧
    (state.owes = [] → state.fatal = false → state.client.crashed = false → ∀ goroutine,
      ((∃ final, system.play state (closeRun state goroutine) = some final ∧ final.fatal = false) ↔
        state.client.closing = false ∧ state.client.shutdown = false)) := by
  have balanced := balanced_of_reached reachable
  refine ⟨fun reached => (disciplined_of_closesOnce reached).1, ?_, ?_⟩
  · intro done
    constructor
    · intro sound
      exact closesOnce_of_unlocks reachable (quiet_of_done balanced done sound).1
    · intro reached
      exact (disciplined_of_closesOnce reached).1.sound
  · intro done sound alive goroutine
    rw [play_closeRun sound (quiet_of_done balanced done sound).2 done alive]
    simp [Bool.or_eq_false_iff]

def closedOnce : Locked := { free connected with client := connected.stepClose }

theorem closedOnce_reached : system.Reached ClosesOnce closedOnce := by
  have start : system.Reached ClosesOnce (free connected) := .start rfl
  have locked := start.step (.enter 0 .close) ⟨rfl, rfl⟩ rfl
  exact locked.step (.unlock 0) trivial rfl

theorem mutex_discipline_closedOnce :
    system.Reachable closedOnce ∧ Disciplined closedOnce ∧
      ¬ ∃ final, system.play closedOnce (closeRun closedOnce 0) = some final ∧ final.fatal = false := by
  have start : system.Reachable (free connected) := .start rfl
  have played : system.play (free connected) [.enter 0 .close, .unlock 0] = some closedOnce := rfl
  have reachable := start.play played
  obtain ⟨disciplined, -, closes⟩ := mutex_discipline reachable
  refine ⟨reachable, disciplined closedOnce_reached, ?_⟩
  intro returns
  have isOpen := (closes rfl rfl rfl 0).mp returns
  exact Bool.noConfusion isOpen.1

theorem second_close_unlocks_free_mutex :
    ∃ state, system.play (free connected)
        [.enter 0 .close, .unlock 0, .enter 0 .close, .unlock 0, .unlock 0] = some state ∧
      state.fatal = true :=
  ⟨_, rfl, rfl⟩

end Locked

end Irpc.Client
