import Irpc.XClient.CircuitBreaker
import Irpc.XClient.FanOut

/-! The two ways in which an `xClient` comes by a client for a server: with a look at the
shutdown flag and at the breaker of the server, and without. Everything here is about one
key of the maps. -/
namespace Irpc.XClient

open Irpc.Foundation

/-- The methods of a `Breaker`, and what `GenBreaker` makes, if it is set. -/
structure Breakers (Breaker : Type) where
  gen : Option Breaker
  ready : Breaker → Instant → Bool × Breaker
  fail : Breaker → Instant → Breaker

/-- The methods of a `CacheClientBuilder`, which keeps its clients itself. -/
structure CacheClientBuilder (World : Type) where
  find : World → Option Nat
  delete : World → Nat → World
  set : World → Nat → World
  generate : World → Except GoError Nat × World

/-- What does not change while clients are obtained. -/
structure KeyConfig (Breaker World : Type) where
  breakers : Breakers Breaker
  builder : Option (CacheClientBuilder World)
  hasPlugins : Bool

structure KeyState (Breaker World : Type) where
  isShutdown : Bool
  breaker : Option Breaker
  cached : Option Nat
  closing : Nat → Bool
  shutdown : Nat → Bool
  world : World
  /-- How often a client was generated. -/
  dialed : Nat

structure Obtained (Breaker World : Type) where
  client : Option Nat
  err : Option GoError
  needCallPlugin : Bool
  state : KeyState Breaker World

namespace KeyState

variable {Breaker World : Type} (config : KeyConfig Breaker World)

def findCachedClient (state : KeyState Breaker World) : Option Nat :=
  match config.builder with
  | some builder => builder.find state.world
  | none => state.cached

/-- `Close` of a client that is closing or shut down changes nothing more here. With a `*Client`
the process ends at this point, and what follows is about clients that may be closed again. -/
def closeClient (state : KeyState Breaker World) (client : Nat) : KeyState Breaker World :=
  if state.closing client || state.shutdown client then state
  else { state with closing := Function.update state.closing client true }

def deleteCachedClient (state : KeyState Breaker World) (client : Nat) : KeyState Breaker World :=
  match config.builder with
  | some builder => closeClient { state with world := builder.delete state.world client } client
  | none => closeClient { state with cached := none } client

def setCachedClient (state : KeyState Breaker World) (client : Nat) : KeyState Breaker World :=
  match config.builder with
  | some builder => { state with world := builder.set state.world client }
  | none => { state with cached := some client }

/-- `connect` is how the connection ends, at the time `now`. A success is not reported to
the breaker. -/
def generateClient (state : KeyState Breaker World) (now : Instant) (connect : Except GoError Nat) :
    Except GoError Nat × KeyState Breaker World :=
  match config.builder with
  | some builder =>
    ((builder.generate state.world).1,
      { state with world := (builder.generate state.world).2, dialed := state.dialed + 1 })
  | none =>
    let breaker := config.breakers.gen.map fun fresh => state.breaker.getD fresh
    let state := { state with breaker := breaker.or state.breaker, dialed := state.dialed + 1 }
    match connect, breaker with
    | .error err, some breaker => (.error err, { state with breaker := some (config.breakers.fail breaker now) })
    | result, _ => (result, state)

/-- The second look, behind which only a client that is not shut down is returned. -/
def lookAgain (state : KeyState Breaker World) : Option Nat :=
  (state.findCachedClient config).filter fun client => !state.shutdown client

def look (state : KeyState Breaker World) : Option Nat × KeyState Breaker World :=
  match state.findCachedClient config with
  | some client =>
    if !state.closing client && !state.shutdown client then (some client, state)
    else
      let state := state.deleteCachedClient config client
      (state.lookAgain config, state)
  | none => (state.lookAgain config, state)

def lookOrDial (state : KeyState Breaker World) (now : Instant) (connect : Except GoError Nat) :
    Obtained Breaker World :=
  match state.look config with
  | (some client, state) => ⟨some client, none, false, state⟩
  | (none, state) =>
    match state.generateClient config now connect with
    | (.error err, state) => ⟨none, some err, false, state⟩
    | (.ok client, state) => ⟨some client, none, config.hasPlugins, state.setCachedClient config client⟩

/-- `Ready` of the stored breaker, which may reset it. -/
def check (state : KeyState Breaker World) (now : Instant) : Except GoError (KeyState Breaker World) :=
  if state.isShutdown then .error errXClientClosed
  else
    match state.breaker with
    | none => .ok state
    | some breaker =>
      match config.breakers.ready breaker now with
      | (false, _) => .error errBreakerOpen
      | (true, breaker) => .ok { state with breaker := some breaker }

def getCachedClientWithoutLock (state : KeyState Breaker World) (now : Instant) (connect : Except GoError Nat) :
    Obtained Breaker World :=
  state.lookOrDial config now connect

/-- The breaker is asked at the time `before`. -/
def getCachedClient (state : KeyState Breaker World) (before now : Instant) (connect : Except GoError Nat) :
    Obtained Breaker World :=
  match state.check config before with
  | .error err => ⟨none, some err, false, state⟩
  | .ok state => state.lookOrDial config now connect

/-- The `xClient` is closed, or there is a breaker that is not ready. -/
def Refused (state : KeyState Breaker World) (now : Instant) : Prop :=
  state.isShutdown = true ∨ ∃ breaker, state.breaker = some breaker ∧ (config.breakers.ready breaker now).1 = false

/-- Both ways return a client or both do not, both connect or both do not, and none connects
where a client is to be refused. -/
structure Agree (state : KeyState Breaker World) (before : Instant) (locked unlocked : Obtained Breaker World) :
    Prop where
  client : locked.client.isSome = unlocked.client.isSome
  dialed : locked.state.dialed = unlocked.state.dialed
  refused : state.Refused config before →
    locked.state.dialed = state.dialed ∧ unlocked.state.dialed = state.dialed

section Lemmas

variable {config} {state : KeyState Breaker World} {now before : Instant} {connect : Except GoError Nat}

def setBreaker (state : KeyState Breaker World) (breaker : Option Breaker) : KeyState Breaker World :=
  { state with breaker := breaker }

@[simp] theorem closing_setBreaker (breaker : Option Breaker) :
    (state.setBreaker breaker).closing = state.closing := rfl

@[simp] theorem shutdown_setBreaker (breaker : Option Breaker) :
    (state.setBreaker breaker).shutdown = state.shutdown := rfl

theorem deleteCachedClient_setBreaker (client : Nat) (breaker : Option Breaker) :
    (state.setBreaker breaker).deleteCachedClient config client =
      (state.deleteCachedClient config client).setBreaker breaker := by
  unfold deleteCachedClient closeClient setBreaker
  cases config.builder <;> dsimp only <;> split <;> rfl

theorem look_setBreaker (breaker : Option Breaker) :
    (state.setBreaker breaker).look config =
      ((state.look config).1, (state.look config).2.setBreaker breaker) := by
  have same : (state.setBreaker breaker).findCachedClient config = state.findCachedClient config := rfl
  unfold look
  rw [same]
  cases state.findCachedClient config with
  | none => rfl
  | some client =>
    simp only [closing_setBreaker, shutdown_setBreaker, deleteCachedClient_setBreaker]
    split <;> rfl

/-- Only the cache and the clients themselves may be different. -/
structure Kept (state after : KeyState Breaker World) : Prop where
  isShutdown : after.isShutdown = state.isShutdown
  breaker : after.breaker = state.breaker
  dialed : after.dialed = state.dialed

theorem kept_deleteCachedClient (config : KeyConfig Breaker World) (state : KeyState Breaker World) (client : Nat) :
    Kept state (state.deleteCachedClient config client) := by
  unfold deleteCachedClient closeClient
  cases config.builder <;> dsimp only <;> split <;> exact ⟨rfl, rfl, rfl⟩

theorem kept_look (config : KeyConfig Breaker World) (state : KeyState Breaker World) :
    Kept state (state.look config).2 := by
  unfold look
  split
  · split
    · exact ⟨rfl, rfl, rfl⟩
    · exact kept_deleteCachedClient ..
  · exact ⟨rfl, rfl, rfl⟩

@[simp] theorem dialed_setCachedClient (client : Nat) :
    (state.setCachedClient config client).dialed = state.dialed := by
  unfold setCachedClient
  cases config.builder <;> rfl

/-- How generating a client ends depends on its builder, or on the connection. -/
theorem fst_generateClient : (state.generateClient config now connect).1 =
    match config.builder with
    | some builder => (builder.generate state.world).1
    | none => connect := by
  unfold generateClient
  cases config.builder with
  | some builder => rfl
  | none =>
    dsimp only
    split <;> rfl

@[simp] theorem dialed_generateClient (config : KeyConfig Breaker World) (state : KeyState Breaker World)
    (now : Instant) (connect : Except GoError Nat) :
    (state.generateClient config now connect).2.dialed = state.dialed + 1 := by
  unfold generateClient
  cases config.builder with
  | some builder => rfl
  | none =>
    dsimp only
    split <;> rfl

/-- A client is in the cache, or the server is connected to. -/
theorem client_lookOrDial : (state.lookOrDial config now connect).client =
    (state.look config).1.or ((state.look config).2.generateClient config now connect).1.toOption := by
  unfold lookOrDial
  rcases state.look config with ⟨_ | client, looked⟩
  · dsimp only
    rcases looked.generateClient config now connect with ⟨_ | client, after⟩ <;> rfl
  · rfl

theorem dialed_lookOrDial : (state.lookOrDial config now connect).state.dialed =
    if (state.look config).1.isSome then state.dialed else state.dialed + 1 := by
  have looked := (kept_look config state).dialed
  unfold lookOrDial
  rcases found : state.look config with ⟨_ | client, after⟩
  · rw [found] at looked
    have dialed := dialed_generateClient config after now connect
    dsimp only
    rcases generated : after.generateClient config now connect with ⟨_ | client, final⟩
    all_goals
      rw [generated] at dialed
      simp only [dialed_setCachedClient]
      exact dialed.trans (congrArg (· + 1) looked)
  · rw [found] at looked
    exact looked

theorem lookOrDial_setBreaker (config : KeyConfig Breaker World) (state : KeyState Breaker World) (now : Instant)
    (connect : Except GoError Nat) (breaker : Option Breaker) :
    ((state.setBreaker breaker).lookOrDial config now connect).client = (state.lookOrDial config now connect).client ∧
      ((state.setBreaker breaker).lookOrDial config now connect).state.dialed =
        (state.lookOrDial config now connect).state.dialed := by
  constructor
  · rw [client_lookOrDial, client_lookOrDial, look_setBreaker, fst_generateClient, fst_generateClient]
    rfl
  · rw [dialed_lookOrDial, dialed_lookOrDial, look_setBreaker]
    rfl

theorem check_of_refused (refused : state.Refused config now) : ∃ err, state.check config now = .error err := by
  unfold check
  split
  · exact ⟨_, rfl⟩
  case isFalse isOpen =>
    obtain ⟨breaker, stored, unready⟩ := refused.resolve_left isOpen
    simp only [stored]
    split
    · exact ⟨_, rfl⟩
    case h_2 ready => simp [ready] at unready

theorem check_of_not_refused (admitted : ¬ state.Refused config now) :
    ∃ breaker, state.check config now = .ok (state.setBreaker breaker) := by
  simp only [Refused, not_or, not_exists, not_and, Bool.not_eq_false, Bool.not_eq_true] at admitted
  obtain ⟨isOpen, ready⟩ := admitted
  unfold check
  rw [if_neg (by simp [isOpen])]
  cases stored : state.breaker with
  | none => exact ⟨state.breaker, rfl⟩
  | some breaker =>
    have admits := ready breaker stored
    dsimp only
    split
    case h_1 unready => simp [unready] at admits
    case h_2 after _ => exact ⟨some after, rfl⟩

end Lemmas

/-- The two ways agree exactly if the `xClient` is not closed and the breaker of the server,
if there is one, is ready. -/
theorem cached_clients_agree_iff (state : KeyState Breaker World) (before now : Instant)
    (connect : Except GoError Nat) :
    Agree config state before (state.getCachedClient config before now connect)
        (state.getCachedClientWithoutLock config now connect) ↔
      ¬ state.Refused config before := by
  unfold getCachedClientWithoutLock getCachedClient
  by_cases refused : state.Refused config before
  · obtain ⟨err, refuses⟩ := check_of_refused refused
    simp only [refuses, refused, not_true_eq_false, iff_false]
    intro agree
    -- the unchecked way has returned a client or has connected
    have dialed := agree.dialed
    rw [dialed_lookOrDial] at dialed
    cases found : (state.look config).1 with
    | none => simp [found] at dialed
    | some client => simpa [client_lookOrDial, found] using agree.client
  · obtain ⟨breaker, admits⟩ := check_of_not_refused refused
    obtain ⟨client, dialed⟩ := lookOrDial_setBreaker config state now connect breaker
    simp only [admits, refused, not_false_eq_true, iff_true]
    exact ⟨congrArg Option.isSome client, dialed, fun claimed => absurd claimed refused⟩

def at100 : Instant := ⟨100, by decide, by decide⟩

def refusing : KeyState ConsecCircuitBreaker Unit where
  isShutdown := false
  breaker := some ((ConsecCircuitBreaker.new 1 60).fail at100)
  cached := none
  closing _ := false
  shutdown _ := false
  world := ()
  dialed := 1

/-- Breakers that open after `n` failures, and no `CacheClientBuilder`. -/
def consecConfig (n : UInt64) (window : Int) : KeyConfig ConsecCircuitBreaker Unit :=
  ⟨⟨some (.new n window), ConsecCircuitBreaker.ready, ConsecCircuitBreaker.fail⟩, none, true⟩

/-- While the breaker is open or the `xClient` is closed, the unchecked way connects. -/
theorem unchecked_way_dials :
    let config := consecConfig 1 60
    let soon : Instant := ⟨110, by decide, by decide⟩
    let closed := { refusing with isShutdown := true, breaker := none }
    ((refusing.getCachedClient config soon soon (.ok 7)).err = some errBreakerOpen ∧
      (refusing.getCachedClient config soon soon (.ok 7)).state.dialed = 1 ∧
      (refusing.getCachedClientWithoutLock config soon (.ok 7)).client = some 7 ∧
      (refusing.getCachedClientWithoutLock config soon (.ok 7)).state.dialed = 2) ∧
    (closed.getCachedClient config soon soon (.ok 7)).err = some errXClientClosed ∧
      (closed.getCachedClientWithoutLock config soon (.ok 7)).client = some 7 := by
  refine ⟨⟨?_, ?_, ?_, ?_⟩, ?_, ?_⟩ <;> decide +kernel

section Lookup

variable {config} {state : KeyState Breaker World} {now before : Instant} {connect : Except GoError Nat}

def flagged (state : KeyState Breaker World) (client : Nat) : Cached :=
  ⟨client, state.closing client, state.shutdown client⟩

def toLookup (config : KeyConfig Breaker World) (state : KeyState Breaker World) (before now : Instant)
    (connect : Except GoError Nat) : Lookup where
  isShutdown := state.isShutdown
  breakerReady := state.breaker.all fun breaker => (config.breakers.ready breaker before).1
  found := (state.findCachedClient config).map state.flagged
  again := ((state.look config).2.findCachedClient config).map (state.look config).2.flagged
  connect := ((state.look config).2.generateClient config now connect).1

theorem result_lookOrDial (before : Instant) :
    ((state.lookOrDial config now connect).client, (state.lookOrDial config now connect).err) =
      match (state.look config).1 with
      | some client => (some client, none)
      | none => XClient.generateClient (state.toLookup config before now connect) := by
  unfold lookOrDial XClient.generateClient toLookup
  rcases state.look config with ⟨_ | client, looked⟩
  · dsimp only
    rcases looked.generateClient config now connect with ⟨_ | client, after⟩ <;> rfl
  · rfl

/-- The second look finds what a lookup finds when it looks again. -/
theorem lookAgain_toLookup (before : Instant)
    (missed : (state.look config).1 = (state.look config).2.lookAgain config) :
    XClient.lookAgain (state.toLookup config before now connect) =
      match (state.look config).1 with
      | some client => (some client, none)
      | none => XClient.generateClient (state.toLookup config before now connect) := by
  have again : (state.toLookup config before now connect).again =
      ((state.look config).2.findCachedClient config).map (state.look config).2.flagged := rfl
  rw [missed, XClient.lookAgain, again, lookAgain]
  cases (state.look config).2.findCachedClient config with
  | none => rfl
  | some client =>
    simp only [Option.map_some, flagged, Option.filter_some]
    cases (state.look config).2.shutdown client <;> rfl

/-- The unchecked way does what it does for the lookup of the state. -/
theorem lookOrDial_eq_lookup (before : Instant) :
    ((state.lookOrDial config now connect).client, (state.lookOrDial config now connect).err) =
      XClient.getCachedClientWithoutLock (state.toLookup config before now connect) := by
  have first : (state.toLookup config before now connect).found =
      (state.findCachedClient config).map state.flagged := rfl
  rw [result_lookOrDial before, XClient.getCachedClientWithoutLock, first]
  cases found : state.findCachedClient config with
  | none => exact (lookAgain_toLookup before (by simp only [look, found])).symm
  | some client =>
    simp only [Option.map_some, flagged]
    by_cases usable : (!state.closing client && !state.shutdown client) = true
    · rw [if_pos usable]
      simp only [look, found, if_pos usable]
    · rw [if_neg usable]
      exact (lookAgain_toLookup before (by simp only [look, found, if_neg usable])).symm

theorem lookup_setBreaker (breaker : Option Breaker) :
    XClient.getCachedClientWithoutLock ((state.setBreaker breaker).toLookup config before now connect) =
      XClient.getCachedClientWithoutLock (state.toLookup config before now connect) := by
  have same : (state.setBreaker breaker).toLookup config before now connect =
      { state.toLookup config before now connect with
        breakerReady := breaker.all fun breaker => (config.breakers.ready breaker before).1 } := by
    simp only [toLookup, look_setBreaker, fst_generateClient]
    rfl
  rw [same]
  rfl

theorem getCachedClient_eq_lookup :
    ((state.getCachedClient config before now connect).client, (state.getCachedClient config before now connect).err) =
      XClient.getCachedClient (state.toLookup config before now connect) := by
  have flag : (state.toLookup config before now connect).isShutdown = state.isShutdown := rfl
  have ready : (state.toLookup config before now connect).breakerReady =
      state.breaker.all fun breaker => (config.breakers.ready breaker before).1 := rfl
  unfold getCachedClient check XClient.getCachedClient
  rw [flag, ready]
  by_cases closed : state.isShutdown = true
  · simp only [if_pos closed]
  · simp only [if_neg closed]
    cases stored : state.breaker with
    | none => exact lookOrDial_eq_lookup before
    | some breaker =>
      rcases verdict : config.breakers.ready breaker before with ⟨_ | _, after⟩
      · simp [verdict]
      · simp only [Option.all_some, verdict, Bool.not_true, Bool.false_eq_true, if_false]
        exact (lookOrDial_eq_lookup before).trans (lookup_setBreaker (some after))

end Lookup

end KeyState

end Irpc.XClient
