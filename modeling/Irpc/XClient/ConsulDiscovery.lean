import Irpc.ServerPlugin.Fleet
import Irpc.XClient.Discovery

/-! The servers a client finds in Consul, where the plugins of the servers have put them. -/
namespace Irpc.XClient

open Irpc.Foundation Irpc.ServerPlugin

/-- The path of a service: without one slash in front, and without one at the end. -/
def discoveryPath (basePath servicePath : Bytes) : Bytes :=
  let path := basePath ++ 47 :: servicePath
  let path := if path.head? = some 47 then path.drop 1 else path
  if 1 < path.length ∧ path.getLast? = some 47 then path.dropLast else path

/-- The pairs below a path, with the rest of the path as their key. `List` and `WatchTree` return
everything that starts with the text of the path. -/
def pairsBelow (path : Bytes) (filter : Option (KVPair → Bool)) (listing : List KVPair) : List KVPair :=
  listing.filterMap fun pair =>
    if path ++ [47] <+: pair.key then
      let found : KVPair := ⟨pair.key.drop (path ++ [47]).length, pair.value⟩
      if filter.all (fun keep => keep found) then some found else none
    else none

/-- What the store answers to `List`: the keys that start with the text of the path, but for
the path itself. -/
structure Lists (store : Bytes → Option Bytes) (path : Bytes) (listing : List KVPair) : Prop where
  distinct : (listing.map KVPair.key).Nodup
  listed : ∀ pair, pair ∈ listing ↔ store pair.key = some pair.value ∧ path <+: pair.key ∧ pair.key ≠ path

theorem mem_pairsBelow {path : Bytes} {listing : List KVPair} :
    pair ∈ pairsBelow path none listing ↔ ⟨path ++ 47 :: pair.key, pair.value⟩ ∈ listing := by
  unfold pairsBelow
  rw [List.mem_filterMap]
  constructor
  · rintro ⟨found, member, kept⟩
    obtain ⟨⟨rest, same⟩, kept⟩ := Option.ite_none_right_eq_some.mp kept
    obtain ⟨key, value⟩ := found
    dsimp only at same kept
    subst same
    cases kept
    simpa using member
  · intro member
    refine ⟨_, member, ?_⟩
    have below : path ++ [47] <+: path ++ 47 :: pair.key := ⟨pair.key, by simp⟩
    rw [if_pos below]
    simp

theorem nodup_pairsBelow (filter : Option (KVPair → Bool)) {path : Bytes} {listing : List KVPair}
    (distinct : (listing.map KVPair.key).Nodup) : ((pairsBelow path filter listing).map KVPair.key).Nodup := by
  rw [List.Nodup, List.pairwise_map] at distinct ⊢
  refine List.Pairwise.filterMap _ ?_ distinct
  intro left right apart found leftFound other rightFound same
  obtain ⟨⟨leftRest, leftKey⟩, leftFound⟩ := Option.ite_none_right_eq_some.mp leftFound
  obtain ⟨⟨rightRest, rightKey⟩, rightFound⟩ := Option.ite_none_right_eq_some.mp rightFound
  obtain ⟨-, leftFound⟩ := Option.ite_none_right_eq_some.mp leftFound
  obtain ⟨-, rightFound⟩ := Option.ite_none_right_eq_some.mp rightFound
  cases leftFound
  cases rightFound
  dsimp only at same
  rw [← leftKey, ← rightKey, List.drop_left, List.drop_left] at same
  exact apart (by rw [← leftKey, ← rightKey, same])

variable {deployment : Deployment} {fleet : Fleet} {service basePath : Bytes} {listing : List KVPair}

theorem discoveryPath_eq (stripped : stripSlash .consul basePath = some deployment.basePath) (plain : 47 ∉ service)
    (named : service ≠ []) : discoveryPath basePath service = deployment.basePath ++ 47 :: service := by
  have open_ended : ∀ path : Bytes, (path ++ 47 :: service).getLast? ≠ some 47 := by
    intro path last
    have final : (path ++ 47 :: service).getLast? = service.getLast? := by
      rw [← List.singleton_append, ← List.append_assoc, List.getLast?_append_of_ne_nil _ named]
    rw [final] at last
    exact plain (List.mem_of_getLast? last)
  cases basePath with
  | nil => cases stripped
  | cons first rest =>
    have stripped : (if first = 47 then rest else first :: rest) = deployment.basePath := Option.some.inj stripped
    have path : (if (first :: rest ++ 47 :: service).head? = some 47 then (first :: rest ++ 47 :: service).drop 1
        else first :: rest ++ 47 :: service) = deployment.basePath ++ 47 :: service := by
      rw [← stripped]
      by_cases slash : first = 47
      · simp [slash]
      · simp [slash]
    unfold discoveryPath
    dsimp only
    rw [path, if_neg fun both => open_ended _ both.2]

theorem listed_of_stored {plugin : RegisterPlugin} (member : plugin ∈ deployment.plugins)
    {store : Bytes → Option Bytes} (stored : store (plugin.nodePath service) = some value) :
    store (deployment.basePath ++ 47 :: service ++ 47 :: plugin.serviceAddress) = some value ∧
      deployment.basePath ++ 47 :: service <+: deployment.basePath ++ 47 :: service ++ 47 :: plugin.serviceAddress ∧
      deployment.basePath ++ 47 :: service ++ 47 :: plugin.serviceAddress ≠ deployment.basePath ++ 47 :: service := by
  have path : plugin.nodePath service = deployment.basePath ++ 47 :: service ++ 47 :: plugin.serviceAddress := by
    rw [RegisterPlugin.nodePath, deployment.shared plugin member]
    simp
  rw [← path]
  refine ⟨stored, ?_, ?_⟩
  · rw [path]
    exact List.prefix_append _ _
  · rw [path]
    simp

/-- What a client finds under the name of a service are the nodes of the servers, each under
the address of its server, and no others. -/
theorem discovered_iff_registered (reached : (Fleet.system deployment).Reached Fleet.Plain fleet)
    (stripped : stripSlash .consul basePath = some deployment.basePath) (plain : 47 ∉ service) (named : service ≠ [])
    (lists : Lists fleet.store (discoveryPath basePath service) listing) :
    ((pairsBelow (discoveryPath basePath service) none listing).map KVPair.key).Nodup ∧
    ∀ pair, pair ∈ pairsBelow (discoveryPath basePath service) none listing ↔
      ∃ plugin ∈ deployment.plugins, plugin.serviceAddress = pair.key ∧
        fleet.store (plugin.nodePath service) = some pair.value := by
  have tidy := Fleet.tidy_of_reached reached
  refine ⟨nodup_pairsBelow none lists.distinct, fun pair => ?_⟩
  rw [discoveryPath_eq stripped plain named] at lists ⊢
  rw [mem_pairsBelow, lists.listed]
  dsimp only
  constructor
  · rintro ⟨stored, -, -⟩
    have below : deployment.basePath ++ [47] <+: deployment.basePath ++ 47 :: service ++ 47 :: pair.key :=
      ⟨service ++ 47 :: pair.key, by simp⟩
    have entry := tidy.entries _ below (by rw [stored]; nofun)
    generalize same : deployment.basePath ++ 47 :: service ++ 47 :: pair.key = path at entry stored
    rw [List.append_assoc, List.cons_append] at same
    cases entry with
    | @dir name names =>
      -- A directory is a single segment, and this path has two.
      have segments := (List.cons.inj (List.append_cancel_left same)).2
      exact absurd (by rw [← segments]; simp : 47 ∈ name) names
    | @node name plugin names member =>
      have path := same
      rw [RegisterPlugin.nodePath, deployment.shared plugin member] at path
      obtain ⟨services, address⟩ := Fleet.segment_inj plain names (List.cons.inj (List.append_cancel_left path)).2
      subst services
      exact ⟨plugin, member, address.symm, stored⟩
  · rintro ⟨plugin, member, address, stored⟩
    rw [← address]
    exact listed_of_stored member stored

def serverAt (address : Bytes) : RegisterPlugin := ⟨.consul, address, utf8 "irpc", by decide, false⟩

def twoHosts : Deployment where
  basePath := utf8 "irpc"
  plugins := [serverAt (utf8 "tcp@a"), serverAt (utf8 "tcp@b")]
  shared := by simp [serverAt]
  consul := by simp [serverAt]
  plain := by decide
  distinct := by decide

def started : Fleet := ⟨fun _ => none, twoHosts.plugins.map fun plugin => plugin.start fun _ => none⟩

def registersArith : List Fleet.Event :=
  ⟨0, .call (.register (utf8 "Arith") (utf8 "group=x"))⟩ :: List.replicate 5 ⟨0, .act⟩

/-- What is in the store when the first of the two servers has registered a service. -/
def arithStore : Bytes → Option Bytes :=
  Function.update (Function.update (Function.update (fun _ => none) (utf8 "irpc") (some (utf8 "irpc_path")))
    (utf8 "irpc/Arith") (some (utf8 "Arith"))) (utf8 "irpc/Arith/tcp@a") (some (utf8 "group=x"))

/-- The call of `Register` is about to return, and returns. -/
theorem registers_arith : ∃ before fleet state,
    (Fleet.system twoHosts).play started registersArith = some before ∧
      before.states[0]? = some state ∧ state.caller = .returning (.register (utf8 "Arith") (utf8 "group=x")) none ∧
      (Fleet.system twoHosts).play before [⟨0, .act⟩] = some fleet ∧ fleet.store = arithStore :=
  ⟨_, _, _, rfl, rfl, rfl, rfl, rfl⟩

theorem registers_timely :
    ∀ event ∈ registersArith, ∀ fleet, Fleet.Timely twoHosts 0 (utf8 "Arith") fleet event := by
  have plain : 47 ∉ utf8 "Arith" := by decide
  simp [registersArith, Fleet.Timely, Fleet.Plain, RegisterPlugin.Names, plain]

def arithListing : List KVPair := [⟨utf8 "irpc/Arith/tcp@a", utf8 "group=x"⟩]

theorem lists_arith : Lists arithStore (discoveryPath (utf8 "/irpc") (utf8 "Arith")) arithListing where
  distinct := by decide
  listed := by
    rintro ⟨key, value⟩
    have path : discoveryPath (utf8 "/irpc") (utf8 "Arith") = utf8 "irpc/Arith" := by decide
    rw [path, arithListing, List.mem_singleton, KVPair.mk.injEq]
    by_cases node : key = utf8 "irpc/Arith/tcp@a"
    · subst node
      have behind : utf8 "irpc/Arith" <+: utf8 "irpc/Arith/tcp@a" ∧ utf8 "irpc/Arith/tcp@a" ≠ utf8 "irpc/Arith" := by
        decide
      simp [arithStore, behind, eq_comm]
    · by_cases base : key = utf8 "irpc"
      · subst base
        have before : ¬ utf8 "irpc/Arith" <+: utf8 "irpc" := by decide
        simp [node, before]
      · by_cases dir : key = utf8 "irpc/Arith"
        · subst dir
          simp [node]
        · simp [arithStore, node, base, dir]

/-- The first of two servers is found, with its metadata. -/
theorem arith_discovered_iff :
    ∃ fleet : Fleet, fleet.store = arithStore ∧ ∀ pair,
      pair ∈ pairsBelow (discoveryPath (utf8 "/irpc") (utf8 "Arith")) none arithListing ↔
        ∃ plugin ∈ twoHosts.plugins, plugin.serviceAddress = pair.key ∧
          fleet.store (plugin.nodePath (utf8 "Arith")) = some pair.value := by
  obtain ⟨before, fleet, state, played, -, -, returned, stored⟩ := registers_arith
  have start : (Fleet.system twoHosts).Reached Fleet.Plain started := .start ⟨fun _ _ => rfl, rfl⟩
  have reached := start.playAll played fun event member fleet => (registers_timely event member fleet).1
  have registered := reached.playAll returned (by simp [Fleet.Plain, RegisterPlugin.Names])
  have lists := lists_arith
  rw [← stored] at lists
  exact ⟨fleet, stored, (discovered_iff_registered registered (by decide) (by decide) (by decide) lists).2⟩

/-- From the moment in which a call of `Register` returns without an error, whatever has happened
to the service before, a client finds the server as long as nobody removes it, whatever the
other servers do. -/
theorem discovered_until_removed {index : Nat} {plugin : RegisterPlugin} {state : RegisterPlugin.State}
    {before : Fleet} {events : List Fleet.Event}
    (reached : (Fleet.system deployment).Reached (Fleet.Timely deployment index service) before)
    (found : deployment.plugins[index]? = some plugin) (present : before.states[index]? = some state)
    (returns : state.caller = .returning (.register service metadata) none)
    (played : (Fleet.system deployment).play before (⟨index, .act⟩ :: events) = some fleet)
    (steady : ∀ event ∈ events, Fleet.Steady deployment index service event)
    (stripped : stripSlash .consul basePath = some deployment.basePath) (plain : 47 ∉ service) (named : service ≠ [])
    (lists : Lists fleet.store (discoveryPath basePath service) listing) :
    ∃ pair ∈ pairsBelow (discoveryPath basePath service) none listing, pair.key = plugin.serviceAddress := by
  have has : RegisterPlugin.HasPut service state.caller := by
    rw [returns]
    rfl
  have steadily : ∀ event ∈ ⟨index, .act⟩ :: events, Fleet.Steady deployment index service event :=
    List.forall_mem_cons.mpr ⟨⟨trivial, fun _ _ _ => trivial, nofun⟩, steady⟩
  have kept := Fleet.stored_of_steady plain found played steadily
    (Fleet.tidy_of_reached (reached.mono fun _ _ timely => timely.1)) present
    (RegisterPlugin.sparing_of_hasPut has) (Fleet.stored_of_hasPut plain reached found present has)
  obtain ⟨value, stored⟩ := Option.ne_none_iff_exists'.mp kept
  refine ⟨⟨plugin.serviceAddress, value⟩, ?_, rfl⟩
  rw [discoveryPath_eq stripped plain named] at lists ⊢
  rw [mem_pairsBelow, lists.listed]
  exact listed_of_stored (List.mem_of_getElem? found) stored

theorem arith_discovered_until_removed :
    ∃ pair ∈ pairsBelow (discoveryPath (utf8 "/irpc") (utf8 "Arith")) none arithListing, pair.key = utf8 "tcp@a" := by
  obtain ⟨before, fleet, state, played, present, returns, returned, stored⟩ := registers_arith
  have start : (Fleet.system twoHosts).Reached (Fleet.Timely twoHosts 0 (utf8 "Arith")) started :=
    .start ⟨fun _ _ => rfl, rfl⟩
  have reached := start.playAll played registers_timely
  have lists := lists_arith
  rw [← stored] at lists
  exact discovered_until_removed reached rfl present returns returned (List.forall_mem_nil _) (by decide) (by decide)
    (by decide) lists

end Irpc.XClient
