import Irpc.Foundation.Bytes
import Irpc.Foundation.System

/-! How the updates of a `MultipleServersDiscovery` reach an `xClient`: a goroutine for
each update sends the servers to a channel, from which `watch` takes them. -/
namespace Irpc.XClient

open Irpc.Foundation

structure KVPair where
  key : Bytes
  value : Bytes
  deriving DecidableEq

/-- The value of a hexadecimal digit. -/
def unhex (digit : UInt8) : Option UInt8 :=
  if 48 ≤ digit ∧ digit ≤ 57 then some (digit - 48)
  else if 97 ≤ digit ∧ digit ≤ 102 then some (digit - 87)
  else if 65 ≤ digit ∧ digit ≤ 70 then some (digit - 55)
  else none

def queryUnescape : Bytes → Option Bytes
  | [] => some []
  | 37 :: high :: low :: rest => do
    let first ← unhex high
    let second ← unhex low
    let rest ← queryUnescape rest
    return (first * 16 + second) :: rest
  | 37 :: _ => none
  | 43 :: rest => (queryUnescape rest).map (32 :: ·)
  | byte :: rest => (queryUnescape rest).map (byte :: ·)

/-- One setting of a query, with a key and a value on both sides of the first equals sign. -/
def parseSetting (setting : Bytes) : Option (Bytes × Bytes) :=
  if 59 ∈ setting then none
  else do
    let key ← queryUnescape (setting.takeWhile (· != 61))
    let value ← queryUnescape ((setting.dropWhile (· != 61)).drop 1)
    return (key, value)

/-- `url.ParseQuery`, with no result if it reports an error. -/
def parseQuery (query : Bytes) : Option (List (Bytes × Bytes)) :=
  ((query.splitOn 38).filter fun setting => !setting.isEmpty).mapM parseSetting

/-- `Values.Get`: the first value of a key. -/
def valuesGet (values : List (Bytes × Bytes)) (key : Bytes) : Bytes :=
  ((values.find? fun setting => setting.1 = key).map Prod.snd).getD []

def staysInGroup (group value : Bytes) : Bool :=
  match parseQuery value with
  | some values => valuesGet values (utf8 "state") != utf8 "inactive" &&
      (group == [] || group == valuesGet values (utf8 "group"))
  | none => true

/-- The map of servers. A later pair replaces an earlier one with the same key. -/
def serverMap (pairs : List KVPair) (key : Bytes) : Option Bytes :=
  (pairs.reverse.find? fun pair => pair.key = key).map KVPair.value

def filterByStateAndGroup (group : Bytes) (servers : Bytes → Option Bytes) (key : Bytes) : Option Bytes :=
  (servers key).filter (staysInGroup group)

theorem serverMap_eq_some_iff (distinct : (pairs.map KVPair.key).Nodup) :
    serverMap pairs key = some value ↔ ⟨key, value⟩ ∈ pairs := by
  constructor
  · intro found
    obtain ⟨pair, first, rfl⟩ := Option.map_eq_some_iff.mp found
    have named : pair.key = key := by simpa using List.find?_some first
    rw [← named]
    exact List.mem_reverse.mp (List.mem_of_find?_eq_some first)
  · intro member
    cases first : pairs.reverse.find? fun pair => pair.key = key with
    | none =>
      have absent := List.find?_eq_none.mp first ⟨key, value⟩ (List.mem_reverse.mpr member)
      simp at absent
    | some pair =>
      have named : pair.key = key := by simpa using List.find?_some first
      have listed := List.mem_reverse.mp (List.mem_of_find?_eq_some first)
      have same : pair = ⟨key, value⟩ := List.inj_on_of_nodup_map distinct listed member named
      simp [serverMap, first, same]

/-- The order of the pairs does not matter when their keys are distinct. -/
theorem serverMap_perm {order pairs : List KVPair} (distinct : (pairs.map KVPair.key).Nodup)
    (perm : order.Perm pairs) : serverMap order = serverMap pairs := by
  funext key
  apply Option.ext
  intro value
  rw [serverMap_eq_some_iff ((perm.map KVPair.key).nodup_iff.mpr distinct), serverMap_eq_some_iff distinct]
  exact perm.mem_iff

inductive Construction where
  | fresh
  /-- It has called `GetServices`. -/
  | snapshot
  /-- It has called `WatchService`, and `watch` runs. -/
  | watching
  deriving DecidableEq

structure Discovered where
  pairs : List KVPair
  /-- An `Update` that has started its goroutines, and has not stored its pairs yet. -/
  updating : Option (List KVPair)
  /-- What was given to the last `Update`, or to the discovery when it was created. -/
  last : List KVPair
  construction : Construction
  /-- The goroutines of the updates that have not sent their pairs yet, the oldest first. -/
  pending : List (List KVPair)
  /-- The channel, which holds ten lists of pairs. -/
  channel : List (List KVPair)
  /-- What `watch` has taken from the channel. -/
  received : Option (List KVPair)
  servers : Bytes → Option Bytes
  /-- The pairs that `servers` was made of. -/
  source : List KVPair
  /-- A goroutine has given up after a minute. -/
  timedOut : Bool

namespace Discovered

def new (pairs : List KVPair) : Discovered :=
  ⟨pairs, none, pairs, .fresh, [], [], none, fun _ => none, [], false⟩

/-- `sort.Slice` is not stable, and pairs with equal keys may come in any order. The
order it gives is part of the event. -/
inductive Event where
  /-- `Update` takes the lock and starts a goroutine for each channel. -/
  | update (pairs : List KVPair)
  /-- `Update` stores its pairs. -/
  | publish
  | getServices (order : List KVPair)
  | watchService
  | deliver (index : Nat)
  | timeout (index : Nat)
  | receive
  | install (order : List KVPair)

def install (group : Bytes) (world : Discovered) (source order : List KVPair) : Discovered :=
  { world with servers := filterByStateAndGroup group (serverMap order), source := source }

def step (group : Bytes) (world : Discovered) : Event → Option Discovered
  | .update pairs =>
    if world.updating = none then
      some { world with
        updating := some pairs
        last := pairs
        pending := world.pending ++ if world.construction = .watching then [pairs] else [] }
    else none
  | .publish => world.updating.map fun pairs => { world with pairs := pairs, updating := none }
  | .getServices order =>
    if world.construction = .fresh ∧ order.Perm world.pairs then
      some { world.install group world.pairs order with construction := .snapshot }
    else none
  | .watchService =>
    if world.construction = .snapshot ∧ world.updating = none then
      some { world with construction := .watching }
    else none
  | .deliver index =>
    if world.channel.length < 10 then
      world.pending[index]?.map fun pairs =>
        { world with pending := world.pending.eraseIdx index, channel := world.channel ++ [pairs] }
    else none
  | .timeout index =>
    if index < world.pending.length then
      some { world with pending := world.pending.eraseIdx index, timedOut := true }
    else none
  | .receive =>
    match world.received, world.channel with
    | none, pairs :: rest => some { world with channel := rest, received := some pairs }
    | _, _ => none
  | .install order =>
    match world.received with
    | some pairs =>
      if order.Perm pairs then some { world.install group pairs order with received := none } else none
    | none => none

def system (group : Bytes) (pairs : List KVPair) : System Discovered Event where
  initial world := world = new pairs
  step := step group

/-- The client is constructed, no delivery is pending, and `watch` is idle. -/
structure Settled (world : Discovered) : Prop where
  watching : world.construction = .watching
  pending : world.pending = []
  channel : world.channel = []
  received : world.received = none

/-- The servers of the client are those of the last update. -/
def Current (group : Bytes) (world : Discovered) : Prop :=
  ∃ order, order.Perm world.last ∧ world.servers = filterByStateAndGroup group (serverMap order)

/-- No update is published between the two calls of `NewXClient`, and the goroutines send
in the order in which they were started. -/
def InOrder (world : Discovered) : Event → Prop
  | .publish => world.construction ≠ .snapshot
  | .deliver index => index = 0
  | _ => True

/-- What the servers were made of, followed by what is on its way to them. -/
def flow (world : Discovered) : List (List KVPair) :=
  world.source :: (world.received.toList ++ world.channel ++ world.pending)

/-- What is on its way ends with the last update, as long as no goroutine gives up. -/
structure Tracked (group : Bytes) (world : Discovered) : Prop where
  quiet : world.construction ≠ .watching → world.pending = [] ∧ world.channel = [] ∧ world.received = none
  published : world.construction = .fresh → world.last = world.updating.getD world.pairs
  snapshot : world.construction = .snapshot → world.updating = none → world.source = world.last
  flowing : world.construction = .watching → world.timedOut = false → world.flow.getLast? = some world.last
  made : world.construction ≠ .fresh →
    ∃ order, order.Perm world.source ∧ world.servers = filterByStateAndGroup group (serverMap order)

section Steps

variable {group : Bytes} {given : List KVPair} {world after : Discovered}

theorem Tracked.update (tracked : world.Tracked group) (moved : world.step group (.update given) = some after) :
    after.Tracked group := by
  obtain ⟨_, ⟨⟩⟩ := Option.ite_none_right_eq_some.mp moved
  refine ⟨?_, fun _ => rfl, nofun, ?_, tracked.made⟩
  · intro early
    rw [if_neg early, List.append_nil]
    exact tracked.quiet early
  · intro watching _
    simp only [flow, ← List.append_assoc]
    rw [if_pos watching, ← List.cons_append, List.getLast?_concat]

theorem Tracked.publish (tracked : world.Tracked group) (ordered : InOrder world .publish)
    (moved : world.step group .publish = some after) : after.Tracked group := by
  obtain ⟨pairs, updating, rfl⟩ := Option.map_eq_some_iff.mp moved
  refine ⟨tracked.quiet, ?_, fun snapshot => absurd snapshot ordered, tracked.flowing, tracked.made⟩
  intro fresh
  have last := tracked.published fresh
  rw [updating] at last
  exact last

theorem Tracked.getServices (tracked : world.Tracked group)
    (moved : world.step group (.getServices order) = some after) : after.Tracked group := by
  obtain ⟨⟨fresh, perm⟩, ⟨⟩⟩ := Option.ite_none_right_eq_some.mp moved
  refine ⟨?_, nofun, ?_, nofun, fun _ => ⟨order, perm, rfl⟩⟩
  · intro _
    exact tracked.quiet (by simp [fresh])
  · intro _ idle
    have last := tracked.published fresh
    rw [show world.updating = none from idle] at last
    exact last.symm

theorem Tracked.watchService (tracked : world.Tracked group)
    (moved : world.step group .watchService = some after) : after.Tracked group := by
  obtain ⟨⟨snapshot, idle⟩, ⟨⟩⟩ := Option.ite_none_right_eq_some.mp moved
  obtain ⟨pending, channel, received⟩ := tracked.quiet (by simp [snapshot])
  refine ⟨fun early => absurd rfl early, nofun, nofun, ?_, fun _ => tracked.made (by simp [snapshot])⟩
  intro _ _
  simp [flow, pending, channel, received, tracked.snapshot snapshot idle]

theorem Tracked.deliver (tracked : world.Tracked group) (ordered : InOrder world (.deliver index))
    (moved : world.step group (.deliver index) = some after) : after.Tracked group := by
  obtain ⟨_, sent⟩ := Option.ite_none_right_eq_some.mp moved
  obtain ⟨pairs, found, rfl⟩ := Option.map_eq_some_iff.mp sent
  cases (show index = 0 from ordered)
  obtain ⟨rest, pending⟩ : ∃ rest, world.pending = pairs :: rest := by
    cases waiting : world.pending with
    | nil => simp [waiting] at found
    | cons first rest => simpa [waiting] using found
  refine ⟨?_, tracked.published, tracked.snapshot, ?_, tracked.made⟩
  · intro early
    rw [(tracked.quiet early).1] at pending
    cases pending
  · -- The pairs move from one part of the flow to the next.
    intro watching intime
    have flowing := tracked.flowing watching intime
    simpa [flow, pending] using flowing

theorem Tracked.timeout (tracked : world.Tracked group)
    (moved : world.step group (.timeout index) = some after) : after.Tracked group := by
  obtain ⟨inside, ⟨⟩⟩ := Option.ite_none_right_eq_some.mp moved
  refine ⟨?_, tracked.published, tracked.snapshot, nofun, tracked.made⟩
  intro early
  rw [(tracked.quiet early).1] at inside
  cases inside

theorem Tracked.receive (tracked : world.Tracked group) (moved : world.step group .receive = some after) :
    after.Tracked group := by
  dsimp only [step] at moved
  split at moved
  case h_1 pairs rest idle channel =>
    cases moved
    refine ⟨?_, tracked.published, tracked.snapshot, ?_, tracked.made⟩
    · intro early
      rw [(tracked.quiet early).2.1] at channel
      cases channel
    · intro watching intime
      have flowing := tracked.flowing watching intime
      simpa [flow, idle, channel] using flowing
  case h_2 => cases moved

theorem Tracked.install (tracked : world.Tracked group)
    (moved : world.step group (.install order) = some after) : after.Tracked group := by
  dsimp only [step] at moved
  split at moved
  case h_1 pairs received =>
    obtain ⟨perm, ⟨⟩⟩ := Option.ite_none_right_eq_some.mp moved
    have watching : world.construction = .watching := by
      by_contra early
      rw [(tracked.quiet early).2.2] at received
      cases received
    refine ⟨fun early => absurd watching early, ?_, ?_, ?_, fun _ => ⟨order, perm, rfl⟩⟩
    · intro fresh
      rw [show world.construction = .fresh from fresh] at watching
      cases watching
    · intro snapshot
      rw [show world.construction = .snapshot from snapshot] at watching
      cases watching
    · intro _ intime
      have flowing := tracked.flowing watching intime
      simp only [flow, received, Option.toList_some, List.cons_append, List.getLast?_cons_cons] at flowing
      exact flowing
  case h_2 => cases moved

theorem Tracked.step (tracked : world.Tracked group) (ordered : InOrder world event)
    (moved : world.step group event = some after) : after.Tracked group := by
  cases event with
  | update pairs => exact tracked.update moved
  | publish => exact tracked.publish ordered moved
  | getServices order => exact tracked.getServices moved
  | watchService => exact tracked.watchService moved
  | deliver index => exact tracked.deliver ordered moved
  | timeout index => exact tracked.timeout moved
  | receive => exact tracked.receive moved
  | install order => exact tracked.install moved

theorem tracked_of_reached (reached : (system group given).Reached InOrder world) : world.Tracked group := by
  refine reached.invariant ?_ ?_
  · rintro _ rfl
    exact ⟨fun _ => ⟨rfl, rfl, rfl⟩, fun _ => rfl, nofun, nofun, fun started => absurd rfl started⟩
  · intro world event after tracked ordered moved
    exact tracked.step ordered moved

/-- In a run in which no update falls between the two calls of `NewXClient` and the
goroutines of the updates send in order, the client has the servers of the last update
once everything has come to rest and no goroutine has given up. Pairs with distinct keys
leave no choice. -/
theorem servers_current (reached : (system group given).Reached InOrder world) (settled : world.Settled)
    (intime : world.timedOut = false) :
    world.Current group ∧ ((world.last.map KVPair.key).Nodup →
      world.servers = filterByStateAndGroup group (serverMap world.last)) := by
  have tracked := tracked_of_reached reached
  have flowing := tracked.flowing settled.watching intime
  have newest : world.source = world.last := by
    simpa [flow, settled.pending, settled.channel, settled.received] using flowing
  obtain ⟨order, perm, servers⟩ := tracked.made (by simp [settled.watching])
  rw [newest] at perm
  refine ⟨⟨order, perm, servers⟩, ?_⟩
  intro distinct
  rw [servers, serverMap_perm distinct perm]

end Steps

def serverA : KVPair := ⟨utf8 "tcp@a", []⟩

def serverB : KVPair := ⟨utf8 "tcp@b", utf8 "group=b"⟩

theorem servers_current_update : ∃ world, (system [] [serverA]).Reached InOrder world ∧ world.last = [serverB] ∧
    world.servers = filterByStateAndGroup [] (serverMap [serverB]) := by
  have start : (system [] [serverA]).Reached InOrder (new [serverA]) := .start rfl
  have snapshot := start.step (.getServices [serverA]) trivial rfl
  have watching := snapshot.step .watchService trivial rfl
  have updating := watching.step (.update [serverB]) trivial rfl
  have sent := updating.step (.deliver 0) rfl rfl
  have published := sent.step .publish nofun rfl
  have received := published.step .receive trivial rfl
  have installed := received.step (.install [serverB]) trivial rfl
  exact ⟨_, installed, rfl, (servers_current installed ⟨rfl, rfl, rfl, rfl⟩ rfl).2 (List.nodup_singleton _)⟩

/-- An update between the two calls of `NewXClient` is lost. -/
def missedUpdate : List Event := [.getServices [serverA], .update [], .publish, .watchService]

/-- The goroutine of the second update sends first. -/
def overtaken : List Event :=
  [.getServices [], .watchService, .update [serverA], .publish, .update [], .publish, .deliver 1, .receive,
    .install [], .deliver 0, .receive, .install [serverA]]

theorem not_current_of_stale {world : Discovered} (last : world.last = [])
    (stale : world.servers serverA.key = some serverA.value) : ¬ world.Current [] := by
  rintro ⟨order, perm, servers⟩
  rw [last] at perm
  rw [servers, perm.eq_nil] at stale
  cases stale

theorem servers_stale :
    (∃ world, (system [] [serverA]).play (new [serverA]) missedUpdate = some world ∧ world.Settled ∧
      world.timedOut = false ∧ ¬ world.Current []) ∧
    ∃ world, (system [] []).play (new []) overtaken = some world ∧ world.Settled ∧
      world.timedOut = false ∧ ¬ world.Current [] := by
  refine ⟨⟨_, rfl, ⟨rfl, rfl, rfl, rfl⟩, rfl, not_current_of_stale rfl ?_⟩,
    ⟨_, rfl, ⟨rfl, rfl, rfl, rfl⟩, rfl, not_current_of_stale rfl ?_⟩⟩
  · decide +kernel
  · decide +kernel

end Discovered

end Irpc.XClient
