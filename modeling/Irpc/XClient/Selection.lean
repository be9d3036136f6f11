import Irpc.XClient.GeoSelector
import Irpc.XClient.GroupFilter
import Irpc.XClient.HashMembership
import Irpc.XClient.WeightedICMP

/-! The selector of a client beside its discovery. `NewXClient` makes it, `watch` updates it,
`SetSelector` and `ConfigGeoSelector` replace it, and every call asks it for a server. -/
namespace Irpc.XClient

open Irpc.Foundation Irpc.Protocol

inductive SelectMode where
  | randomSelect
  | roundRobin
  | weightedRoundRobin
  | weightedICMP
  | consistentHash
  | closest
  | selectByUser
  deriving DecidableEq

structure RandomSelector where
  servers : List Bytes

namespace RandomSelector

/-- `draw` is what the source of random numbers has drawn. -/
def select (selector : RandomSelector) (draw : Nat) : Bytes :=
  let ss := selector.servers
  if ss.length = 0 then [] else ss[draw % ss.length]?.getD []

def updateServer (_ : RandomSelector) (servers : IterationOrder) : RandomSelector := ⟨servers.keys⟩

end RandomSelector

def newRandomSelector (servers : IterationOrder) : RandomSelector := ⟨servers.keys⟩

/-- The selectors of a user, with what is assumed of them: one selects among the servers of its
last update. -/
structure UserSelector (User : Type) where
  select : User → (servicePath serviceMethod args : Bytes) → Bytes × User
  updateServer : User → IterationOrder → User
  names : User → Set Bytes
  names_updateServer : ∀ user servers, names (updateServer user servers) ⊆ { key | key ∈ servers }
  names_select : ∀ user servicePath serviceMethod args,
    names (select user servicePath serviceMethod args).2 ⊆ names user
  select_mem : ∀ user servicePath serviceMethod args, (select user servicePath serviceMethod args).1 ≠ [] →
    (select user servicePath serviceMethod args).1 ∈ names user

/-- What the selectors take from elsewhere. -/
structure Selectors (Hash Coordinate Distance User : Type) where
  hash : NodeHash Hash
  geometry : Geometry Coordinate Distance
  user : UserSelector User

inductive Selector (Hash Coordinate User : Type) where
  | random (selector : RandomSelector)
  | roundRobin (selector : RoundRobinSelector)
  | weightedRoundRobin (servers : List (Option Weighted))
  | weightedICMP (servers : List (Option Weighted))
  | consistentHash (selector : ConsistentHashSelector Hash)
  | geo (selector : GeoSelector Coordinate)
  | user (selector : User)

variable {Hash Coordinate Distance User : Type} [LinearOrder Distance]
  (ops : Selectors Hash Coordinate Distance User)

/-- It has no result if it panics, and no selector if the user has to set one. -/
def newSelector (pings : Pings) (servers : IterationOrder) :
    SelectMode → Option (Option (Selector Hash Coordinate User))
  | .randomSelect => some (some (.random (newRandomSelector servers)))
  | .roundRobin => some (some (.roundRobin (newRoundRobinSelector servers)))
  | .weightedRoundRobin => some (some (.weightedRoundRobin (createWeighted servers)))
  | .weightedICMP => (createICMPWeighted pings servers).map fun ss => some (.weightedICMP ss)
  | .consistentHash => some (some (.consistentHash (newConsistentHashSelector ops.hash servers)))
  | .selectByUser => some none
  -- the default
  | .closest => some (some (.random (newRandomSelector servers)))

namespace Selector

/-- `UpdateServer`, with no result if it panics. -/
def updateServer (pings : Pings) (servers : IterationOrder) :
    Selector Hash Coordinate User → Option (Selector Hash Coordinate User)
  | .random selector => some (.random (selector.updateServer servers))
  | .roundRobin selector => some (.roundRobin (selector.updateServer servers))
  | .weightedRoundRobin _ => some (.weightedRoundRobin (createWeighted servers))
  | .weightedICMP _ => (createICMPWeighted pings servers).map .weightedICMP
  | .consistentHash selector => some (.consistentHash (selector.updateServer ops.hash servers))
  | .geo selector => some (.geo (selector.updateServer ops.geometry servers))
  | .user selector => some (.user (ops.user.updateServer selector servers))

/-- `Select`, with no result if it panics. -/
def select (draw : Nat) (servicePath serviceMethod args : Bytes) :
    Selector Hash Coordinate User → Option (Bytes × Selector Hash Coordinate User)
  | .random selector => some (selector.select draw, .random selector)
  | .roundRobin selector => selector.select.map fun selected => (selected.1, .roundRobin selected.2)
  | .weightedRoundRobin servers => some ((selectWeighted servers).1, .weightedRoundRobin (selectWeighted servers).2)
  | .weightedICMP servers => some ((selectWeighted servers).1, .weightedICMP (selectWeighted servers).2)
  | .consistentHash selector =>
    some (selector.select ops.hash servicePath serviceMethod args, .consistentHash selector)
  | .geo selector => (selector.select ops.geometry draw).map fun server => (server, .geo selector)
  | .user selector =>
    some ((ops.user.select selector servicePath serviceMethod args).1,
      .user (ops.user.select selector servicePath serviceMethod args).2)

/-- A selector that knows no other servers than these. One with a hash has to list all its
nodes, or an update leaves some of them. -/
def Within (keys : Set Bytes) : Selector Hash Coordinate User → Prop
  | .random selector => ∀ server ∈ selector.servers, server ∈ keys
  | .roundRobin selector => ∀ server ∈ selector.servers, server ∈ keys
  | .weightedRoundRobin servers => ∀ i, ∀ name ∈ nameAt servers i, name ∈ keys
  | .weightedICMP servers => ∀ i, ∀ name ∈ nameAt servers i, name ∈ keys
  | .consistentHash selector =>
    ops.hash.nodes selector.h ⊆ keys ∧ ∀ key ∈ ops.hash.nodes selector.h, key ∈ selector.servers
  | .geo selector => ∀ gs ∈ selector.servers, gs.server ∈ keys
  | .user selector => ops.user.names selector ⊆ keys

end Selector

section Kinds

variable {keys : Set Bytes} {servers : IterationOrder} {weighted : List (Option Weighted)} {name : Bytes}

theorem RandomSelector.select_mem {selector : RandomSelector} (draw : Nat) (named : selector.select draw ≠ []) :
    selector.select draw ∈ selector.servers := by
  unfold RandomSelector.select at named ⊢
  dsimp only at named ⊢
  split at named
  · exact absurd rfl named
  · rename_i nonempty
    have inside : draw % selector.servers.length < selector.servers.length :=
      Nat.mod_lt _ (Nat.pos_of_ne_zero nonempty)
    rw [if_neg nonempty, List.getElem?_eq_getElem inside]
    exact List.getElem_mem inside

theorem RoundRobinSelector.mem_of_select {selector after : RoundRobinSelector}
    (selected : selector.select = some (name, after)) :
    after.servers = selector.servers ∧ (name ≠ [] → name ∈ selector.servers) := by
  unfold RoundRobinSelector.select at selected
  split at selected
  · cases selected
    exact ⟨rfl, fun named => absurd rfl named⟩
  · obtain ⟨server, found, ⟨⟩⟩ := Option.map_eq_some_iff.mp selected
    obtain ⟨-, found⟩ := Option.ite_none_right_eq_some.mp found
    exact ⟨rfl, fun _ => List.mem_of_getElem? found⟩

theorem nameAt_selectWeighted (weighted : List (Option Weighted)) :
    nameAt (selectWeighted weighted).2 = nameAt weighted := by
  unfold selectWeighted
  split
  · rfl
  · exact nameAt_afterCalls weighted 1

theorem selectWeighted_mem (named : (selectWeighted weighted).1 ≠ []) :
    ∃ i, nameAt weighted i = some (selectWeighted weighted).1 := by
  unfold selectWeighted at named ⊢
  split at named
  · exact absurd rfl named
  · rename_i nonempty
    rw [if_neg nonempty]
    dsimp only at named ⊢
    cases chosen : (nextWeighted weighted).1 with
    | none =>
      rw [chosen] at named
      exact absurd rfl named
    | some i =>
      rw [chosen, Option.bind_some] at named
      refine ⟨i, ?_⟩
      cases held : entry weighted i with
      | none =>
        rw [held] at named
        exact absurd rfl named
      | some w =>
        rw [nameAt, Option.bind_some, held]
        rfl

theorem mem_of_nameAt_createWeighted {i : Nat} (named : name ∈ nameAt (createWeighted servers) i) :
    name ∈ servers := by
  rw [nameAt_createWeighted] at named
  obtain ⟨entry, listed, rfl⟩ := Option.map_eq_some_iff.mp named
  exact AList.mem_keys.mpr (List.mem_map_of_mem (List.mem_of_getElem? listed))

theorem names_createICMPWeighted {pings : Pings} (created : createICMPWeighted pings servers = some weighted) :
    weighted.map (Option.map Weighted.server) = servers.keys.map some := by
  unfold createICMPWeighted at created
  generalize servers.keys = names at created ⊢
  induction names generalizing weighted with
  | nil =>
    cases created
    rfl
  | cons k rest ih =>
    rw [List.mapM_cons] at created
    obtain ⟨first, weighed, created⟩ := Option.bind_eq_some_iff.mp created
    obtain ⟨others, later, same⟩ := Option.bind_eq_some_iff.mp created
    obtain ⟨host, -, rfl⟩ := Option.map_eq_some_iff.mp weighed
    cases same
    rw [List.map_cons, List.map_cons, ih later]
    rfl

theorem mem_of_nameAt_createICMPWeighted {pings : Pings} (created : createICMPWeighted pings servers = some weighted)
    {i : Nat} (named : name ∈ nameAt weighted i) : name ∈ servers := by
  obtain ⟨w, held, rfl⟩ := Option.map_eq_some_iff.mp named
  have member : some w ∈ weighted := List.mem_of_getElem? (Option.join_eq_some_iff.mp held)
  have listed := List.mem_map_of_mem (f := Option.map Weighted.server) member
  rw [names_createICMPWeighted created] at listed
  obtain ⟨key, found, same⟩ := List.mem_map.mp listed
  cases same
  exact AList.mem_keys.mpr found

theorem ConsistentHashSelector.mem_nodes_of_select (hash : NodeHash Hash) {selector : ConsistentHashSelector Hash}
    {servicePath serviceMethod args : Bytes} (named : selector.select hash servicePath serviceMethod args ≠ []) :
    selector.select hash servicePath serviceMethod args ∈ hash.nodes selector.h := by
  unfold ConsistentHashSelector.select at named ⊢
  split at named
  · exact absurd rfl named
  · rename_i nonempty
    rw [if_neg nonempty]
    cases got : hash.get selector.h (genKey [servicePath, serviceMethod, args]) with
    | none =>
      rw [got] at named
      exact absurd rfl named
    | some node => exact hash.get_mem _ _ _ got

omit [LinearOrder Distance] in
theorem mem_of_mem_createGeoServer (geometry : Geometry Coordinate Distance) {gs : GeoServer Coordinate}
    (member : gs ∈ createGeoServer geometry servers) : gs.server ∈ servers := by
  obtain ⟨entry, listed, made⟩ := List.mem_filterMap.mp member
  rw [((createGeoServerTurn_eq_some_iff geometry).mp made).1]
  exact AList.mem_keys.mpr (List.mem_map_of_mem listed)

theorem GeoSelector.mem_of_select (geometry : Geometry Coordinate Distance) {selector : GeoSelector Coordinate}
    {draw : Nat} (selected : selector.select geometry draw = some name) (named : name ≠ []) :
    ∃ gs ∈ selector.servers, gs.server = name := by
  have found : name ∈ (selector.scan geometry).server := by
    unfold GeoSelector.select at selected
    split at selected
    · cases selected
      exact absurd rfl named
    · dsimp only at selected
      split at selected
      · exact List.mem_of_getElem? selected
      · obtain ⟨i, -, selected⟩ := Option.bind_eq_some_iff.mp selected
        exact List.mem_of_getElem? selected
  rw [(found_scan geometry selector).server] at found
  obtain ⟨gs, member, same⟩ := List.mem_map.mp found
  exact ⟨gs, List.mem_of_mem_filter member, same⟩

end Kinds

namespace Selector

variable {ops} {keys : Set Bytes} {pings : Pings} {servers : IterationOrder}
  {selector after : Selector Hash Coordinate User}

/-- `Select` leaves a selector with the servers it knows, and names one of them. -/
theorem Within.select (within : selector.Within ops keys) {draw : Nat} {servicePath serviceMethod args name : Bytes}
    (selected : selector.select ops draw servicePath serviceMethod args = some (name, after)) :
    after.Within ops keys ∧ (name ≠ [] → name ∈ keys) := by
  cases selector with
  | random selector =>
    cases selected
    exact ⟨within, fun named => within _ (RandomSelector.select_mem draw named)⟩
  | roundRobin selector =>
    obtain ⟨⟨server, next⟩, found, ⟨⟩⟩ := Option.map_eq_some_iff.mp selected
    obtain ⟨same, member⟩ := RoundRobinSelector.mem_of_select found
    refine ⟨?_, fun named => within _ (member named)⟩
    intro server listed
    exact within server (same ▸ listed)
  | weightedRoundRobin weighted | weightedICMP weighted =>
    cases selected
    refine ⟨?_, fun named => ?_⟩
    · intro i
      rw [nameAt_selectWeighted]
      exact within i
    · obtain ⟨i, found⟩ := selectWeighted_mem named
      exact within i _ found
  | consistentHash selector =>
    cases selected
    exact ⟨within, fun named => within.1 (ConsistentHashSelector.mem_nodes_of_select ops.hash named)⟩
  | geo selector =>
    obtain ⟨server, found, ⟨⟩⟩ := Option.map_eq_some_iff.mp selected
    refine ⟨within, fun named => ?_⟩
    obtain ⟨gs, member, rfl⟩ := GeoSelector.mem_of_select ops.geometry found named
    exact within gs member
  | user selector =>
    cases selected
    refine ⟨(ops.user.names_select _ _ _ _).trans within, fun named => ?_⟩
    exact within (ops.user.select_mem _ _ _ _ named)

omit [LinearOrder Distance] in
/-- An update leaves it with the servers it is given, whatever it knew. -/
theorem Within.updateServer (within : selector.Within ops keys)
    (updated : selector.updateServer ops pings servers = some after) : after.Within ops { key | key ∈ servers } := by
  cases selector with
  | random selector | roundRobin selector =>
    cases updated
    exact fun server listed => AList.mem_keys.mpr listed
  | weightedRoundRobin weighted =>
    cases updated
    exact fun i name named => mem_of_nameAt_createWeighted named
  | weightedICMP weighted =>
    obtain ⟨weighted, created, rfl⟩ := Option.map_eq_some_iff.mp updated
    exact fun i name named => mem_of_nameAt_createICMPWeighted created named
  | consistentHash selector =>
    cases updated
    have subset := ConsistentHashSelector.nodes_updateServer_subset ops.hash servers within.2
    refine ⟨subset, fun key member => ?_⟩
    exact (mem_sorted _).mpr (AList.mem_keys.mp (subset member))
  | geo selector =>
    cases updated
    exact fun gs member => mem_of_mem_createGeoServer ops.geometry member
  | user selector =>
    cases updated
    exact ops.user.names_updateServer _ _

omit [LinearOrder Distance] in
theorem within_newSelector {mode : SelectMode} (made : newSelector ops pings servers mode = some (some selector)) :
    selector.Within ops { key | key ∈ servers } := by
  cases mode with
  | randomSelect | roundRobin | closest =>
    cases made
    exact fun server listed => AList.mem_keys.mpr listed
  | weightedRoundRobin =>
    cases made
    exact fun i name named => mem_of_nameAt_createWeighted named
  | weightedICMP =>
    obtain ⟨weighted, created, ⟨⟩⟩ := Option.map_eq_some_iff.mp made
    exact fun i name named => mem_of_nameAt_createICMPWeighted created named
  | consistentHash =>
    cases made
    have nodes := ConsistentHashSelector.nodes_new ops.hash servers
    refine ⟨nodes.subset, fun key member => ?_⟩
    exact (mem_sorted _).mpr (AList.mem_keys.mp (nodes.subset member))
  | selectByUser => cases made

end Selector

structure Selecting (Hash Coordinate User : Type) where
  world : Discovered
  selector : Option (Selector Hash Coordinate User)
  /-- What `SetSelector` has updated or `ConfigGeoSelector` has made, and not assigned yet. -/
  offered : List (Selector Hash Coordinate User)
  /-- What the calls have selected, each with the list the servers were made of then. -/
  selected : List (Bytes × List KVPair)

/-- The events that give the client new servers. -/
def Discovered.Event.installs : Discovered.Event → Bool
  | .getServices _ | .install _ => true
  | _ => false

namespace Selecting

variable (mode : SelectMode) (group : Bytes) (given : List KVPair)

/-- A map of servers is visited in some order, and some servers may be pinged. -/
inductive Event (Coordinate User : Type) where
  | discovery (event : Discovered.Event) (order : IterationOrder) (pings : Pings)
  /-- `SetSelector` updates the selector of the user. -/
  | setSelector (selector : User) (order : IterationOrder)
  /-- `ConfigGeoSelector` makes one. -/
  | configGeoSelector (order : IterationOrder) (latitude longitude : Coordinate)
  /-- Either of them assigns it, under no lock. -/
  | assign (index : Nat)
  | select (draw : Nat) (servicePath serviceMethod args : Bytes)

/-- What becomes of the selector with new servers: `NewXClient` makes it, and `watch` updates
it if there is any. -/
def reselect (pings : Pings) (order : IterationOrder) (selector : Option (Selector Hash Coordinate User)) :
    Discovered.Event → Option (Option (Selector Hash Coordinate User))
  | .getServices _ =>
    if mode ≠ .closest ∧ mode ≠ .selectByUser then newSelector ops pings order mode else some none
  | .install _ =>
    match selector with
    | none => some none
    | some selector => (selector.updateServer ops pings order).map some
  | _ => some selector

def step (selecting : Selecting Hash Coordinate User) :
    Event Coordinate User → Option (Selecting Hash Coordinate User)
  | .discovery event order pings => do
    let world ← selecting.world.step group event
    let selector ← reselect ops mode pings order selecting.selector event
    return { selecting with world := world, selector := selector }
  | .setSelector selector order =>
    if selecting.world.construction = .watching then
      some { selecting with offered := .user (ops.user.updateServer selector order) :: selecting.offered }
    else none
  | .configGeoSelector order latitude longitude =>
    if selecting.world.construction = .watching then
      some { selecting with
        offered := .geo (newGeoSelector ops.geometry order latitude longitude) :: selecting.offered }
    else none
  | .assign index =>
    selecting.offered[index]?.map fun selector =>
      { selecting with selector := some selector, offered := selecting.offered.eraseIdx index }
  | .select draw servicePath serviceMethod args =>
    if selecting.world.construction = .watching then do
      -- without a selector the call panics
      let selector ← selecting.selector
      let (k, selector) ← selector.select ops draw servicePath serviceMethod args
      return { selecting with
        selector := some selector
        selected := (k, selecting.world.source) :: selecting.selected }
    else none

def system : System (Selecting Hash Coordinate User) (Event Coordinate User) where
  initial selecting := selecting = ⟨.new given, none, [], []⟩
  step := step ops mode group

/-- The order visits just the entries of the map. -/
def Visits (order : IterationOrder) (servers : Servers) : Prop := ∀ key, order.lookup key = servers key

/-- No update overtakes a selector that is about to be assigned. -/
def Unovertaken (selecting : Selecting Hash Coordinate User) : Event Coordinate User → Prop
  | .discovery event order _ => event.installs →
    selecting.offered = [] ∧ ∀ world ∈ selecting.world.step group event, Visits order world.servers
  | .setSelector _ order => Visits order selecting.world.servers
  | .configGeoSelector order _ _ => Visits order selecting.world.servers
  | .assign _ => True
  | .select _ _ _ _ => True

variable {group} in
omit [LinearOrder Distance] in
theorem unovertaken_of_not_installs {selecting : Selecting Hash Coordinate User} {event : Discovered.Event}
    {order : IterationOrder} {pings : Pings} (quiet : event.installs = false) :
    Unovertaken group selecting (.discovery event order pings) :=
  fun installs => absurd (quiet.symm.trans installs) Bool.false_ne_true

/-- A server of the list that is active and in the group of the client. -/
def Discoverable (group : Bytes) (source : List KVPair) (name : Bytes) : Prop :=
  ∃ pair ∈ source, pair.key = name ∧ staysInGroup group pair.value

/-- The selectors know no other servers than the client has. -/
structure Sound (selecting : Selecting Hash Coordinate User) : Prop where
  made : selecting.world.Made group
  current : ∀ selector ∈ selecting.selector, selector.Within ops { key | (selecting.world.servers key).isSome }
  offered : ∀ selector ∈ selecting.offered, selector.Within ops { key | (selecting.world.servers key).isSome }
  selected : ∀ selection ∈ selecting.selected, selection.1 ≠ [] → Discoverable group selection.2 selection.1

section Steps

variable {ops} {mode} {group} {given} {selecting after : Selecting Hash Coordinate User} {name : Bytes}

theorem Visits.keys_eq {order : IterationOrder} {servers : Servers} (visits : Visits order servers) :
    { key | key ∈ order } = { key | (servers key).isSome } := by
  ext key
  rw [Set.mem_ofPred_eq, Set.mem_ofPred_eq, ← visits key, AList.lookup_isSome]

/-- The servers a client has are left of a list that was delivered. -/
theorem discoverable_of_made {world : Discovered} (made : world.Made group) (started : world.construction ≠ .fresh)
    (known : (world.servers name).isSome) : Discoverable group world.source name := by
  obtain ⟨order, perm, servers⟩ := made started
  rw [servers] at known
  obtain ⟨value, kept⟩ := Option.isSome_iff_exists.mp known
  obtain ⟨found, stays⟩ := Option.filter_eq_some_iff.mp kept
  obtain ⟨pair, first, rfl⟩ := Option.map_eq_some_iff.mp found
  have same : pair.key = name := by simpa using List.find?_some first
  exact ⟨pair, perm.mem_iff.mp (List.mem_reverse.mp (List.mem_of_find?_eq_some first)), same, stays⟩

theorem servers_of_not_installs {world next : Discovered} {event : Discovered.Event} (quiet : event.installs = false)
    (moved : world.step group event = some next) : next.servers = world.servers ∧ next.source = world.source := by
  cases event with
  | getServices order | install order => cases quiet
  | update pairs | watchService | timeout index =>
    obtain ⟨_, ⟨⟩⟩ := Option.ite_none_right_eq_some.mp moved
    exact ⟨rfl, rfl⟩
  | publish =>
    obtain ⟨pairs, _, rfl⟩ := Option.map_eq_some_iff.mp moved
    exact ⟨rfl, rfl⟩
  | deliver index =>
    obtain ⟨_, sent⟩ := Option.ite_none_right_eq_some.mp moved
    obtain ⟨pairs, _, rfl⟩ := Option.map_eq_some_iff.mp sent
    exact ⟨rfl, rfl⟩
  | receive =>
    dsimp only [Discovered.step] at moved
    split at moved
    · cases moved
      exact ⟨rfl, rfl⟩
    · cases moved

omit [LinearOrder Distance] in
/-- New servers leave the client with a selector of no others. -/
theorem within_reselect {keys : Set Bytes} {selector next : Option (Selector Hash Coordinate User)}
    {event : Discovered.Event} {order : IterationOrder} {pings : Pings} (installs : event.installs = true)
    (within : ∀ held ∈ selector, held.Within ops keys)
    (reselected : reselect ops mode pings order selector event = some next) :
    ∀ held ∈ next, held.Within ops { key | key ∈ order } := by
  rintro one ⟨⟩
  cases event with
  | getServices sorted =>
    dsimp only [reselect] at reselected
    split at reselected
    · exact Selector.within_newSelector reselected
    · cases reselected
  | install sorted =>
    cases selector with
    | none => cases reselected
    | some selector =>
      obtain ⟨updated, given, ⟨⟩⟩ := Option.map_eq_some_iff.mp reselected
      exact (within selector rfl).updateServer given
  | update | publish | watchService | deliver | timeout | receive => cases installs

omit [LinearOrder Distance] in
theorem reselect_of_not_installs {selector : Option (Selector Hash Coordinate User)} {event : Discovered.Event}
    (quiet : event.installs = false) (order : IterationOrder) (pings : Pings) :
    reselect ops mode pings order selector event = some selector := by
  cases event with
  | getServices | install => cases quiet
  | update | publish | watchService | deliver | timeout | receive => rfl

theorem discovery_eq_some {event : Discovered.Event} {order : IterationOrder} {pings : Pings}
    (moved : selecting.step ops mode group (.discovery event order pings) = some after) :
    ∃ world selector, selecting.world.step group event = some world ∧
      reselect ops mode pings order selecting.selector event = some selector ∧
      after = { selecting with world := world, selector := selector } := by
  obtain ⟨world, changed, moved⟩ := Option.bind_eq_some_iff.mp moved
  obtain ⟨selector, reselected, ⟨⟩⟩ := Option.bind_eq_some_iff.mp moved
  exact ⟨world, selector, changed, reselected, rfl⟩

theorem select_eq_some {draw : Nat} {servicePath serviceMethod args : Bytes}
    (moved : selecting.step ops mode group (.select draw servicePath serviceMethod args) = some after) :
    ∃ selector k next, selecting.world.construction = .watching ∧ selector ∈ selecting.selector ∧
      selector.select ops draw servicePath serviceMethod args = some (k, next) ∧
      after = { selecting with
        selector := some next
        selected := (k, selecting.world.source) :: selecting.selected } := by
  obtain ⟨watching, moved⟩ := Option.ite_none_right_eq_some.mp moved
  obtain ⟨selector, present, moved⟩ := Option.bind_eq_some_iff.mp moved
  obtain ⟨⟨k, next⟩, chosen, ⟨⟩⟩ := Option.bind_eq_some_iff.mp moved
  exact ⟨selector, k, next, watching, present, chosen, rfl⟩

theorem Sound.discovery (sound : selecting.Sound ops group) {event : Discovered.Event} {order : IterationOrder}
    {pings : Pings} (allowed : Unovertaken group selecting (.discovery event order pings))
    (moved : selecting.step ops mode group (.discovery event order pings) = some after) : after.Sound ops group := by
  obtain ⟨world, selector, changed, reselected, rfl⟩ := discovery_eq_some moved
  have made := sound.made.step changed
  cases installs : event.installs with
  | false =>
    have same := (servers_of_not_installs installs changed).1
    rw [reselect_of_not_installs installs] at reselected
    cases reselected
    exact ⟨made, by rw [same]; exact sound.current, by rw [same]; exact sound.offered, sound.selected⟩
  | true =>
    -- nothing is offered, so only the selector of the client has to follow
    obtain ⟨none, visits⟩ := allowed installs
    have within := within_reselect installs sound.current reselected
    rw [(visits world changed).keys_eq] at within
    refine ⟨made, within, ?_, sound.selected⟩
    dsimp only
    rw [none]
    exact List.forall_mem_nil _

theorem Sound.step (sound : selecting.Sound ops group) {event : Event Coordinate User}
    (allowed : Unovertaken group selecting event)
    (moved : selecting.step ops mode group event = some after) : after.Sound ops group := by
  cases event with
  | discovery event order pings => exact sound.discovery allowed moved
  | setSelector user order =>
    obtain ⟨-, ⟨⟩⟩ := Option.ite_none_right_eq_some.mp moved
    have given := ops.user.names_updateServer user order
    rw [Visits.keys_eq allowed] at given
    exact ⟨sound.made, sound.current, List.forall_mem_cons.mpr ⟨given, sound.offered⟩, sound.selected⟩
  | configGeoSelector order latitude longitude =>
    obtain ⟨-, ⟨⟩⟩ := Option.ite_none_right_eq_some.mp moved
    have located : ∀ gs ∈ createGeoServer ops.geometry order, gs.server ∈ { key | key ∈ order } :=
      fun gs member => mem_of_mem_createGeoServer ops.geometry member
    rw [Visits.keys_eq allowed] at located
    exact ⟨sound.made, sound.current, List.forall_mem_cons.mpr ⟨located, sound.offered⟩, sound.selected⟩
  | assign index =>
    obtain ⟨selector, found, rfl⟩ := Option.map_eq_some_iff.mp moved
    refine ⟨sound.made, ?_, fun other member => sound.offered other (List.mem_of_mem_eraseIdx member), sound.selected⟩
    rintro _ ⟨⟩
    exact sound.offered selector (List.mem_of_getElem? found)
  | select draw servicePath serviceMethod args =>
    obtain ⟨selector, k, next, watching, present, chosen, rfl⟩ := select_eq_some moved
    obtain ⟨within, member⟩ := (sound.current selector present).select chosen
    refine ⟨sound.made, ?_, sound.offered, List.forall_mem_cons.mpr ⟨fun named => ?_, sound.selected⟩⟩
    · rintro _ ⟨⟩
      exact within
    · exact discoverable_of_made sound.made (by simp [watching]) (member named)

theorem sound_of_reached (reached : (system ops mode group given).Reached (Unovertaken group) selecting) :
    selecting.Sound ops group := by
  refine reached.invariant ?_ fun state event next sound allowed moved => sound.step allowed moved
  rintro _ rfl
  refine ⟨fun started => absurd rfl started, ?_, List.forall_mem_nil _, List.forall_mem_nil _⟩
  rintro _ ⟨⟩

/-- Whatever the mode of a client, every server that a call selects is in the list its servers
were last made of, is active, and is of the group of the client. That the selector is replaced
now and then does not matter, unless an update comes between the two halves of it. -/
theorem selected_is_discovered (reached : (system ops mode group given).Reached (Unovertaken group) selecting)
    {source : List KVPair} (selected : (name, source) ∈ selecting.selected) (named : name ≠ []) :
    Discoverable group source name :=
  (sound_of_reached reached).selected _ selected named

/-- The events that leave the client with its servers and its selector. -/
def Event.Quiet : Event Coordinate User → Prop
  | .discovery event _ _ => event.installs = false
  | .select _ _ _ _ => True
  | .setSelector _ _ | .configGeoSelector _ _ _ | .assign _ => False

def Event.selects : Event Coordinate User → Bool
  | .select _ _ _ _ => true
  | _ => false

/-- So many calls have selected among these servers since, while the client had those of the
source. -/
structure Stale (ops : Selectors Hash Coordinate Distance User) (keys : Set Bytes) (source : List KVPair)
    (before : List (Bytes × List KVPair)) (count : Nat) (selecting : Selecting Hash Coordinate User) : Prop where
  current : ∀ selector ∈ selecting.selector, selector.Within ops keys
  made : selecting.world.source = source
  selected : ∃ later, selecting.selected = later ++ before ∧ later.length = count ∧
    ∀ selection ∈ later, selection.2 = source ∧ (selection.1 ≠ [] → selection.1 ∈ keys)

section Overtaken

variable {keys : Set Bytes} {source : List KVPair} {before : List (Bytes × List KVPair)} {count : Nat}

theorem Stale.step (stale : Stale ops keys source before count selecting) {event : Event Coordinate User}
    (quiet : event.Quiet) (moved : selecting.step ops mode group event = some after) :
    Stale ops keys source before (count + if event.selects then 1 else 0) after := by
  cases event with
  | discovery event order pings =>
    obtain ⟨world, selector, changed, reselected, rfl⟩ := discovery_eq_some moved
    rw [reselect_of_not_installs quiet] at reselected
    cases reselected
    exact ⟨stale.current, (servers_of_not_installs quiet changed).2.trans stale.made, stale.selected⟩
  | select draw servicePath serviceMethod args =>
    obtain ⟨selector, k, next, -, present, chosen, rfl⟩ := select_eq_some moved
    obtain ⟨within, member⟩ := (stale.current selector present).select chosen
    obtain ⟨later, same, length, old⟩ := stale.selected
    refine ⟨?_, stale.made, (k, selecting.world.source) :: later, ?_, ?_, ?_⟩
    · rintro _ ⟨⟩
      exact within
    · exact congrArg _ same
    · exact congrArg (· + 1) length
    · exact List.forall_mem_cons.mpr ⟨⟨stale.made, member⟩, old⟩
  | setSelector | configGeoSelector | assign => exact quiet.elim

theorem Stale.play (stale : Stale ops keys source before count selecting) {events : List (Event Coordinate User)}
    (quiet : ∀ event ∈ events, event.Quiet)
    (played : (system ops mode group given).play selecting events = some after) :
    Stale ops keys source before (count + events.countP Event.selects) after := by
  induction events generalizing selecting count with
  | nil =>
    cases played
    exact stale
  | cons event rest ih =>
    obtain ⟨next, moved, remaining⟩ := Option.bind_eq_some_iff.mp played
    obtain ⟨first, others⟩ := List.forall_mem_cons.mp quiet
    have stale := ih (stale.step first moved) others remaining
    rw [List.countP_cons, Nat.add_comm (List.countP _ _), ← Nat.add_assoc]
    exact stale

/-- An update that comes between the two halves of `SetSelector` or `ConfigGeoSelector` is lost
on the selector: if it replaces all servers, then until the next one every call has no server,
or one that is gone. -/
theorem overtaken_selects_removed {installed final : Selecting Hash Coordinate User} {index : Nat}
    {sorted : List KVPair} {order : IterationOrder} {pings : Pings} {events : List (Event Coordinate User)}
    (reached : (system ops mode group given).Reached (Unovertaken group) selecting)
    (update : selecting.step ops mode group (.discovery (.install sorted) order pings) = some installed)
    (replaced : ∀ key, (selecting.world.servers key).isSome → ¬ Discoverable group installed.world.source key)
    (quiet : ∀ event ∈ events, event.Quiet)
    (played : (system ops mode group given).play installed (.assign index :: events) = some final) :
    ∃ later, final.selected = later ++ selecting.selected ∧ later.length = events.countP Event.selects ∧
      ∀ selection ∈ later, selection.2 = installed.world.source ∧
        (selection.1 ≠ [] → ¬ Discoverable group selection.2 selection.1) := by
  obtain ⟨assigned, moved, remaining⟩ := Option.bind_eq_some_iff.mp played
  obtain ⟨world, selector, changed, -, rfl⟩ := discovery_eq_some update
  -- the update has reached the selector of the client, and not the one that is offered
  obtain ⟨overtaken, found, rfl⟩ := Option.map_eq_some_iff.mp moved
  have within := (sound_of_reached reached).offered overtaken (List.mem_of_getElem? found)
  have stale : Stale ops { key | (selecting.world.servers key).isSome } world.source selecting.selected 0
      { selecting with world := world, selector := some overtaken, offered := selecting.offered.eraseIdx index } := by
    refine ⟨?_, rfl, [], rfl, rfl, List.forall_mem_nil _⟩
    rintro _ ⟨⟩
    exact within
  obtain ⟨later, same, length, old⟩ := (stale.play quiet remaining).selected
  refine ⟨later, same, length.trans (Nat.zero_add _), fun selection member => ?_⟩
  obtain ⟨made, known⟩ := old selection member
  refine ⟨made, fun named => ?_⟩
  rw [made]
  exact replaced _ (known named)

end Overtaken

end Steps

def firstServer : UserSelector (List Bytes) where
  select servers _ _ _ := (servers.head?.getD [], servers)
  updateServer _ servers := servers.keys
  names servers := { name | name ∈ servers }
  names_updateServer _ _ _ member := AList.mem_keys.mpr member
  names_select _ _ _ _ _ member := member
  select_mem servers _ _ _ named := by
    cases servers with
    | nil => exact absurd rfl named
    | cons first rest => exact List.mem_cons_self

/-- No server has a distance. -/
def sampleSelectors : Selectors (List Bytes) Nat Nat (List Bytes) where
  hash := ConsistentHashSelector.unnamedFirst
  geometry := ⟨fun _ => none, fun _ _ _ _ => none, 0⟩
  user := firstServer

def samplePair (pair : KVPair) : IterationOrder := (∅ : IterationOrder).insert pair.key pair.value

theorem visits_single {pair : KVPair} (stays : staysInGroup [] pair.value = true) :
    Visits (samplePair pair) (filterByStateAndGroup [] (serverMap [pair])) := by
  intro key
  by_cases same : pair.key = key
  · subst same
    rw [samplePair, AList.lookup_insert]
    simp [filterByStateAndGroup, serverMap, Option.filter_some, stays]
  · rw [samplePair, AList.lookup_insert_ne (Ne.symm same), AList.lookup_empty]
    simp [filterByStateAndGroup, serverMap, same]

/-- The discovery had `tcp@a`, and `watch` has just received that it now has `tcp@b`. -/
def receivedB : Discovered where
  pairs := [Discovered.serverA]
  updating := some [Discovered.serverB]
  last := [Discovered.serverB]
  construction := .watching
  pending := []
  channel := []
  received := some [Discovered.serverB]
  servers := filterByStateAndGroup [] (serverMap [Discovered.serverA])
  source := [Discovered.serverA]
  timedOut := false

theorem reached_receivedB {mode : SelectMode} {selector : Option (Selector (List Bytes) Nat (List Bytes))}
    (made : reselect sampleSelectors mode samplePings (samplePair Discovered.serverA) none
      (.getServices [Discovered.serverA]) = some selector) :
    (system sampleSelectors mode [] [Discovered.serverA]).Reached (Unovertaken []) ⟨receivedB, selector, [], []⟩ := by
  have start : (system sampleSelectors mode [] [Discovered.serverA]).Reached (Unovertaken []) _ := .start rfl
  have created := start.step
    (.discovery (.getServices [Discovered.serverA]) (samplePair Discovered.serverA) samplePings)
    (fun _ => ⟨rfl, by rintro _ ⟨⟩; exact visits_single (by decide +kernel)⟩) (congrArg (Option.bind · _) made)
  have watching := created.step (.discovery .watchService ∅ samplePings) (unovertaken_of_not_installs rfl) rfl
  have updating := watching.step (.discovery (.update [Discovered.serverB]) ∅ samplePings)
    (unovertaken_of_not_installs rfl) rfl
  have sent := updating.step (.discovery (.deliver 0) ∅ samplePings) (unovertaken_of_not_installs rfl) rfl
  exact sent.step (.discovery .receive ∅ samplePings) (unovertaken_of_not_installs rfl) rfl

theorem selected_is_discovered_update :
    ∃ selecting, (system sampleSelectors .roundRobin [] [Discovered.serverA]).Reached (Unovertaken []) selecting ∧
      (utf8 "tcp@b", [Discovered.serverB]) ∈ selecting.selected ∧
      Discoverable [] [Discovered.serverB] (utf8 "tcp@b") := by
  have received : (system sampleSelectors .roundRobin [] [Discovered.serverA]).Reached (Unovertaken []) _ :=
    reached_receivedB rfl
  have installed := received.step
    (.discovery (.install [Discovered.serverB]) (samplePair Discovered.serverB) samplePings)
    (fun _ => ⟨rfl, by rintro _ ⟨⟩; exact visits_single (by decide +kernel)⟩) rfl
  have selected := installed.step (.select 0 [] [] []) trivial rfl
  exact ⟨_, selected, List.mem_cons_self, selected_is_discovered selected List.mem_cons_self (by decide)⟩

/-- A user sets a selector just before the servers are replaced. -/
def offeredA : Selecting (List Bytes) Nat (List Bytes) :=
  ⟨receivedB, none, [.user (samplePair Discovered.serverA).keys], []⟩

def installedB : Selecting (List Bytes) Nat (List Bytes) :=
  { offeredA with world := { receivedB.install [] [Discovered.serverB] [Discovered.serverB] with received := none } }

theorem overtaken_selects_removed_once :
    ∃ final, (system sampleSelectors .selectByUser [] [Discovered.serverA]).play installedB
        [.assign 0, .select 0 [] [] []] = some final ∧
      final.selected = [(utf8 "tcp@a", [Discovered.serverB])] ∧
      ¬ Discoverable [] [Discovered.serverB] (utf8 "tcp@a") := by
  have received : (system sampleSelectors .selectByUser [] [Discovered.serverA]).Reached (Unovertaken []) _ :=
    reached_receivedB rfl
  have offered : (system sampleSelectors .selectByUser [] [Discovered.serverA]).Reached (Unovertaken []) offeredA :=
    received.step (.setSelector [] (samplePair Discovered.serverA)) (visits_single (by decide +kernel)) rfl
  have update : offeredA.step sampleSelectors .selectByUser []
      (.discovery (.install [Discovered.serverB]) (samplePair Discovered.serverB) samplePings) = some installedB := rfl
  have replaced : ∀ key, (offeredA.world.servers key).isSome → ¬ Discoverable [] installedB.world.source key := by
    rintro key known ⟨pair, member, rfl, -⟩
    cases List.mem_singleton.mp member
    exact absurd known (by decide +kernel)
  have quiet : ∀ event ∈ ([.select 0 [] [] []] : List (Event Nat (List Bytes))), Event.Quiet event :=
    List.forall_mem_singleton.mpr trivial
  obtain ⟨final, played⟩ : ∃ final, (system sampleSelectors .selectByUser [] [Discovered.serverA]).play installedB
      [.assign 0, .select 0 [] [] []] = some final := ⟨_, rfl⟩
  obtain ⟨later, same, -, gone⟩ := overtaken_selects_removed offered update replaced quiet played
  cases played
  have once : later = [(utf8 "tcp@a", [Discovered.serverB])] := (List.append_nil later).symm.trans same.symm
  rw [once] at gone
  exact ⟨_, rfl, rfl, (gone _ (List.mem_singleton_self _)).2 (by decide)⟩

end Selecting

end Irpc.XClient
