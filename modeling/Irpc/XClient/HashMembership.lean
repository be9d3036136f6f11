import Irpc.XClient.ConsistentHash

/-! The members of the hash of a `consistentHashSelector` along its updates. -/
namespace Irpc.XClient

open Irpc.Foundation Irpc.Protocol

namespace ConsistentHashSelector

variable {Hash : Type} (ops : NodeHash Hash)

def valueOf (servers : IterationOrder) (key : Bytes) : Bytes := (servers.lookup key).getD []

/-- Servers of the last update without a value in the new map are removed. -/
def updateServer (selector : ConsistentHashSelector Hash) (servers : IterationOrder) : ConsistentHashSelector Hash where
  h := selector.servers.foldl (fun hash k => if valueOf servers k = [] then ops.remove hash k else hash)
    (servers.keys.foldl ops.add selector.h)
  servers := sorted servers.keys

def after (initial : IterationOrder) : List IterationOrder → ConsistentHashSelector Hash
  | [] => newConsistentHashSelector ops initial
  | latest :: earlier => (after initial earlier).updateServer ops latest

def latestOf (initial : IterationOrder) : List IterationOrder → IterationOrder
  | [] => initial
  | latest :: _ => latest

/-- The hash and the list of servers have the keys of the map, and `Select` finds one of them,
if there is any. -/
structure Tracks (selector : ConsistentHashSelector Hash) (latest : IterationOrder) : Prop where
  nodes : ops.nodes selector.h = { key | key ∈ latest }
  servers : ∀ key, key ∈ selector.servers ↔ key ∈ latest
  only_if : ∀ servicePath serviceMethod args,
    selector.select ops servicePath serviceMethod args = [] → latest.keys = []
  member : latest.keys ≠ [] → ∀ servicePath serviceMethod args,
    selector.select ops servicePath serviceMethod args ∈ latest

/-- The last update keeps no server whose metadata it leaves empty. -/
def Valued (initial : IterationOrder) : List IterationOrder → Prop
  | [] => True
  | latest :: earlier => ∀ key ∈ latestOf initial earlier, latest.lookup key ≠ some []

theorem nodes_foldl_add (keys : List Bytes) (hash : Hash) :
    ops.nodes (keys.foldl ops.add hash) = ops.nodes hash ∪ { key | key ∈ keys } := by
  induction keys generalizing hash with
  | nil => simp
  | cons first rest ih =>
    rw [List.foldl_cons, ih, ops.nodes_add]
    ext key
    simp only [Set.mem_union, Set.mem_insert_iff, Set.mem_ofPred_eq, List.mem_cons]
    tauto

theorem nodes_foldl_remove (drops : Bytes → Prop) [DecidablePred drops] (keys : List Bytes) (hash : Hash) :
    ops.nodes (keys.foldl (fun hash k => if drops k then ops.remove hash k else hash) hash) =
      ops.nodes hash \ { key | key ∈ keys ∧ drops key } := by
  induction keys generalizing hash with
  | nil => simp
  | cons first rest ih =>
    rw [List.foldl_cons, ih]
    ext key
    by_cases dropped : drops first
    · rw [if_pos dropped, ops.nodes_remove]
      simp only [Set.mem_sdiff, Set.mem_singleton_iff, Set.mem_ofPred_eq, List.mem_cons]
      constructor
      · rintro ⟨⟨member, other⟩, kept⟩
        refine ⟨member, ?_⟩
        rintro ⟨same | later, drop⟩
        · exact other same
        · exact kept ⟨later, drop⟩
      · rintro ⟨member, kept⟩
        refine ⟨⟨member, fun same => kept ⟨.inl same, same ▸ dropped⟩⟩, fun later => kept ⟨.inr later.1, later.2⟩⟩
    · rw [if_neg dropped]
      simp only [Set.mem_sdiff, Set.mem_ofPred_eq, List.mem_cons]
      refine and_congr_right fun _ => not_congr ?_
      constructor
      · exact fun later => ⟨.inr later.1, later.2⟩
      · rintro ⟨same | later, drop⟩
        · exact absurd (same ▸ drop) dropped
        · exact ⟨later, drop⟩

theorem mem_servers_after (initial : IterationOrder) (updates : List IterationOrder) :
    key ∈ (after ops initial updates).servers ↔ key ∈ latestOf initial updates := by
  cases updates with
  | nil => exact (mem_sorted _).trans AList.mem_keys.symm
  | cons latest earlier => exact (mem_sorted _).trans AList.mem_keys.symm

theorem nodes_new (initial : IterationOrder) :
    ops.nodes (newConsistentHashSelector ops initial).h = { key | key ∈ initial } := by
  rw [newConsistentHashSelector, nodes_foldl_add, ops.nodes_newHash, Set.empty_union]
  ext key
  exact AList.mem_keys.symm

theorem nodes_updateServer (selector : ConsistentHashSelector Hash) (latest : IterationOrder) :
    ops.nodes (selector.updateServer ops latest).h =
      (ops.nodes selector.h ∪ { key | key ∈ latest }) \ { key | key ∈ selector.servers ∧ valueOf latest key = [] } := by
  rw [updateServer, nodes_foldl_remove ops (fun key => valueOf latest key = []), nodes_foldl_add]
  rfl

/-- A selector that lists all nodes removes those that are not in the new map. -/
theorem nodes_updateServer_subset {selector : ConsistentHashSelector Hash} (latest : IterationOrder)
    (listed : ∀ key ∈ ops.nodes selector.h, key ∈ selector.servers) :
    ops.nodes (selector.updateServer ops latest).h ⊆ { key | key ∈ latest } := by
  rw [nodes_updateServer]
  rintro key ⟨old | new, kept⟩
  · by_contra gone
    have absent : latest.lookup key = none := AList.lookup_eq_none.mpr gone
    exact kept ⟨listed key old, by simp [valueOf, absent]⟩
  · exact new

/-- The hash has no other nodes than the keys of the latest map, whatever was removed. -/
theorem nodes_after_subset (initial : IterationOrder) (updates : List IterationOrder) :
    ops.nodes (after ops initial updates).h ⊆ { key | key ∈ latestOf initial updates } := by
  induction updates with
  | nil => exact (nodes_new ops initial).subset
  | cons latest earlier ih =>
    exact nodes_updateServer_subset ops latest fun key old => (mem_servers_after ops initial earlier).mpr (ih old)

/-- The keys of the latest map are all there just when its update kept no server without
metadata. -/
theorem nodes_after_iff (initial : IterationOrder) (updates : List IterationOrder) :
    ops.nodes (after ops initial updates).h = { key | key ∈ latestOf initial updates } ↔ Valued initial updates := by
  cases updates with
  | nil => exact iff_of_true (nodes_new ops initial) trivial
  | cons latest earlier =>
    have subset := nodes_after_subset ops initial (latest :: earlier)
    rw [Set.Subset.antisymm_iff, and_iff_right subset]
    rw [after, nodes_updateServer]
    constructor
    · intro all key member empty
      have found : key ∈ latest := AList.lookup_isSome.mp (by simp [empty])
      exact (all found).2 ⟨(mem_servers_after ops initial earlier).mpr member, by simp [valueOf, empty]⟩
    · intro valued key (found : key ∈ latest)
      refine ⟨.inr found, ?_⟩
      rintro ⟨listed, empty⟩
      have old := (mem_servers_after ops initial earlier).mp listed
      obtain ⟨value, same⟩ := Option.isSome_iff_exists.mp (AList.lookup_isSome.mpr found)
      rw [valueOf, same] at empty
      have empty : value = [] := empty
      exact valued key old (same.trans (congrArg some empty))

theorem select_mem {selector : ConsistentHashSelector Hash} {latest : IterationOrder}
    (nodes : ops.nodes selector.h = { key | key ∈ latest }) (servers : ∀ key, key ∈ selector.servers ↔ key ∈ latest)
    (nonempty : latest.keys ≠ []) (servicePath serviceMethod args : Bytes) :
    selector.select ops servicePath serviceMethod args ∈ latest := by
  obtain ⟨key, member⟩ := List.exists_mem_of_ne_nil _ nonempty
  have found : key ∈ latest := AList.mem_keys.mpr member
  have several : selector.servers.length ≠ 0 := by
    intro none
    have listed := (servers key).mpr found
    rw [List.eq_nil_of_length_eq_zero none] at listed
    cases listed
  obtain ⟨node, got⟩ := Option.isSome_iff_exists.mp
    (ops.get_isSome selector.h (genKey [servicePath, serviceMethod, args]) ⟨key, by rw [nodes]; exact found⟩)
  rw [select, if_neg several, got]
  have one := ops.get_mem _ _ _ got
  rw [nodes] at one
  exact one

/-- A hash in which the node without a name comes first. -/
def unnamedFirst : NodeHash (List Bytes) where
  newHash := []
  add nodes node := node :: nodes
  remove nodes node := nodes.filter (· ≠ node)
  get nodes _ := if [] ∈ nodes then some [] else nodes.head?
  nodes nodes := { node | node ∈ nodes }
  nodes_newHash := nodes_nil
  nodes_add nodes node := by
    ext other
    simp
  nodes_remove := nodes_filter_ne
  get_mem nodes key node got := by
    split at got
    case isTrue member =>
      cases got
      exact member
    case isFalse => exact List.mem_of_mem_head? got
  get_isSome nodes key nonempty := by
    split
    · rfl
    · exact List.isSome_head?.mpr (List.ne_nil_of_mem nonempty.choose_spec)

/-- With every hash the selector tracks the latest map just when the last update kept no
server without metadata, and no server is without a name. -/
theorem tracks_iff (initial : IterationOrder) (updates : List IterationOrder) :
    (∀ (Hash : Type) (ops : NodeHash Hash), Tracks ops (after ops initial updates) (latestOf initial updates)) ↔
      Valued initial updates ∧ [] ∉ latestOf initial updates := by
  constructor
  · intro tracks
    have tracked := tracks _ unnamedFirst
    refine ⟨(nodes_after_iff unnamedFirst initial updates).mp tracked.nodes, ?_⟩
    intro unnamed
    have listed : [] ∈ (after unnamedFirst initial updates).h := tracked.nodes.superset unnamed
    have several : (after unnamedFirst initial updates).servers.length ≠ 0 :=
      List.length_pos_of_mem ((tracked.servers []).mpr unnamed) |>.ne'
    have selected : (after unnamedFirst initial updates).select unnamedFirst [] [] [] = [] := by
      have got : unnamedFirst.get (after unnamedFirst initial updates).h (genKey [[], [], []]) = some [] :=
        if_pos listed
      rw [select, if_neg several, got]
      rfl
    have none := tracked.only_if [] [] [] selected
    rw [AList.mem_keys, none] at unnamed
    cases unnamed
  · rintro ⟨valued, named⟩ Hash ops
    have nodes := (nodes_after_iff ops initial updates).mpr valued
    have servers : ∀ key, key ∈ (after ops initial updates).servers ↔ key ∈ latestOf initial updates :=
      fun _ => mem_servers_after ops initial updates
    have member := select_mem ops nodes servers
    refine ⟨nodes, servers, ?_, member⟩
    intro servicePath serviceMethod args selected
    by_contra nonempty
    have one := member nonempty servicePath serviceMethod args
    rw [selected] at one
    exact named one

/-- When the selector gets the map a second time, the server is removed from the hash, and
nothing can be selected any more. -/
theorem server_forgotten :
    let selector := after unnamedFirst oneServer [oneServer]
    oneServer.keys = [utf8 "tcp@a"] ∧ unnamedFirst.nodes selector.h = ∅ ∧
      selector.select unnamedFirst (utf8 "Arith") (utf8 "Mul") [] = [] := by
  have servers : sorted oneServer.keys = [utf8 "tcp@a"] := List.mergeSort_singleton _
  have forgotten : (after unnamedFirst oneServer [oneServer]).h = [] := by
    rw [after, updateServer, after, newConsistentHashSelector, servers]
    rfl
  refine ⟨rfl, ?_, ?_⟩
  · rw [forgotten]
    exact unnamedFirst.nodes_newHash
  · rw [select, forgotten]
    exact ite_self _

end ConsistentHashSelector

end Irpc.XClient
