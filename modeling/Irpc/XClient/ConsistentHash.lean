import Irpc.XClient.RoundRobin

/-! The selector that chooses a server by a consistent hash. The servers come from a Go
map, which is iterated over in an arbitrary order. -/
namespace Irpc.XClient

open Irpc.Foundation Irpc.Protocol

/-- `fnv.New64a`. -/
def hashString (text : Bytes) : UInt64 :=
  text.foldl (fun hash byte => (hash ^^^ byte.toUInt64) * 1099511628211) 14695981039346656037

/-- `genKey`, with the texts of its arguments. -/
def genKey (options : List Bytes) : UInt64 := hashString (options.flatMap fun option => utf8 "/" ++ option)

/-- What is used of a `doublejump.Hash`, with what is assumed of it: `Add` and `Remove` act on
a set of nodes, and `Get` finds one of them if there is any. -/
structure NodeHash (Hash : Type) where
  newHash : Hash
  add : Hash → Bytes → Hash
  remove : Hash → Bytes → Hash
  get : Hash → UInt64 → Option Bytes
  nodes : Hash → Set Bytes
  nodes_newHash : nodes newHash = ∅
  nodes_add : ∀ hash node, nodes (add hash node) = insert node (nodes hash)
  nodes_remove : ∀ hash node, nodes (remove hash node) = nodes hash \ {node}
  get_mem : ∀ hash key node, get hash key = some node → node ∈ nodes hash
  get_isSome : ∀ hash key, (nodes hash).Nonempty → (get hash key).isSome

/-- What is assumed besides where the choice itself matters: the nodes are in slots in the
order in which they were added, and `Get` picks the slot by a jump hash of the key and the
number of slots. -/
structure SlotHash (Hash : Type) extends NodeHash Hash where
  jump : UInt64 → Nat → Nat
  jump_lt : ∀ key slots, 0 < slots → jump key slots < slots
  get_added : ∀ (nodes : List Bytes) key, nodes.Nodup →
    get (nodes.foldl add newHash) key = nodes[jump key nodes.length]?

structure ConsistentHashSelector (Hash : Type) where
  h : Hash
  servers : List Bytes

variable {Hash : Type}

def sorted (keys : List Bytes) : List Bytes := keys.mergeSort fun left right => !decide (right < left)

theorem mem_sorted (keys : List Bytes) : key ∈ sorted keys ↔ key ∈ keys := List.mem_mergeSort

/-- The nodes are added in the order of the iteration. Only the list of servers is sorted. -/
def newConsistentHashSelector (ops : NodeHash Hash) (servers : IterationOrder) : ConsistentHashSelector Hash where
  h := servers.keys.foldl ops.add ops.newHash
  servers := sorted servers.keys

namespace ConsistentHashSelector

/-- `args` is the text of the arguments under `%v`. -/
def select (ops : NodeHash Hash) (selector : ConsistentHashSelector Hash) (servicePath serviceMethod args : Bytes) :
    Bytes :=
  if selector.servers.length = 0 then []
  else (ops.get selector.h (genKey [servicePath, serviceMethod, args])).getD []

theorem select_eq (ops : SlotHash Hash) (servers : IterationOrder) (servicePath serviceMethod args : Bytes) :
    (newConsistentHashSelector ops.toNodeHash servers).select ops.toNodeHash servicePath serviceMethod args =
      (servers.keys[ops.jump (genKey [servicePath, serviceMethod, args]) servers.keys.length]?).getD [] := by
  unfold select
  rw [newConsistentHashSelector, ops.get_added _ _ servers.keys_nodup]
  split
  case isTrue empty =>
    have none : servers.keys = [] := by
      simpa [sorted] using empty
    simp [none]
  case isFalse => rfl

/-- Another order in which the same map may be iterated over. -/
def rotated (servers : IterationOrder) : IterationOrder :=
  ⟨servers.entries.rotate 1, (List.perm_nodupKeys (List.rotate_perm servers.entries 1)).mpr servers.nodupKeys⟩

theorem toFinmap_rotated (servers : IterationOrder) : (rotated servers).toFinmap = servers.toFinmap :=
  AList.toFinmap_eq.mpr (List.rotate_perm servers.entries 1)

theorem keys_rotated (servers : IterationOrder) : (rotated servers).keys = servers.keys.rotate 1 :=
  List.map_rotate _ servers.entries 1

/-- Every slot of several servers has another one in the other order. -/
theorem rotated_ne {servers : IterationOrder} (several : 1 < servers.keys.length)
    (inside : slot < servers.keys.length) :
    ((rotated servers).keys[slot]?).getD [] ≠ (servers.keys[slot]?).getD [] := by
  have next : (slot + 1) % servers.keys.length < servers.keys.length := Nat.mod_lt _ (by omega)
  rw [keys_rotated, List.getElem?_rotate inside, List.getElem?_eq_getElem next, List.getElem?_eq_getElem inside]
  intro same
  have slots := (servers.keys_nodup.getElem_inj_iff).mp same
  rcases Nat.lt_or_ge (slot + 1) servers.keys.length with below | last
  · rw [Nat.mod_eq_of_lt below] at slots
    omega
  · have wraps : slot + 1 = servers.keys.length := by omega
    rw [wraps, Nat.mod_self] at slots
    omega

theorem keys_perm {first second : IterationOrder} (same : first.toFinmap = second.toFinmap) :
    first.keys.Perm second.keys :=
  (AList.toFinmap_eq.mp same).map Sigma.fst

/-- All selectors that are built from a map choose the same servers exactly if there is at
most one server to choose. -/
theorem selectors_agree_iff (ops : SlotHash Hash) (servers : Metadata) :
    (∀ first second : IterationOrder, first.toFinmap = servers → second.toFinmap = servers →
      ∀ servicePath serviceMethod args,
        (newConsistentHashSelector ops.toNodeHash first).select ops.toNodeHash servicePath serviceMethod args =
          (newConsistentHashSelector ops.toNodeHash second).select ops.toNodeHash servicePath serviceMethod args) ↔
    servers.keys.card ≤ 1 := by
  constructor
  · intro agree
    induction servers using Finmap.induction_on with
    | H order =>
      by_contra several
      have several : 1 < order.keys.length := Nat.lt_of_not_le several
      have chosen := agree (rotated order) order (toFinmap_rotated order) rfl [] [] []
      have length : (rotated order).keys.length = order.keys.length := by rw [keys_rotated, List.length_rotate]
      rw [select_eq, select_eq, length] at chosen
      exact rotated_ne several (ops.jump_lt _ _ (by omega)) chosen
  · intro few first second made other servicePath serviceMethod args
    have perm := keys_perm (made.trans other.symm)
    have same : first.keys = second.keys := by
      subst made
      have few : first.keys.length ≤ 1 := few
      cases keys : first.keys with
      | nil => exact (List.nil_perm.mp (keys ▸ perm)).symm
      | cons key rest =>
        have single : rest = [] := by
          rw [keys, List.length_cons] at few
          exact List.eq_nil_of_length_eq_zero (by omega)
        subst single
        exact List.singleton_perm.mp (keys ▸ perm)
    rw [select_eq, select_eq, same]

theorem nodes_nil : { node : Bytes | node ∈ [] } = ∅ := by simp

theorem nodes_filter_ne (slots : List Bytes) (node : Bytes) :
    { other | other ∈ slots.filter (· ≠ node) } = { other | other ∈ slots } \ {node} := by
  ext other
  simp

def addSlot (slots : List Bytes) (node : Bytes) : List Bytes := if node ∈ slots then slots else slots ++ [node]

theorem foldl_addSlot (nodes slots : List Bytes) (distinct : (slots ++ nodes).Nodup) :
    nodes.foldl addSlot slots = slots ++ nodes := by
  induction nodes generalizing slots with
  | nil => simp
  | cons node rest ih =>
    have new : node ∉ slots := by
      intro member
      exact List.disjoint_of_nodup_append distinct member List.mem_cons_self
    have added : addSlot slots node = slots ++ [node] := if_neg new
    rw [List.foldl_cons, added, ih _ (by simpa using distinct)]
    simp

/-- A list of slots is such a hash, whatever jump hash it uses. -/
def slotted (jump : UInt64 → Nat → Nat) (jump_lt : ∀ key slots, 0 < slots → jump key slots < slots) :
    SlotHash (List Bytes) where
  newHash := []
  add := addSlot
  remove slots node := slots.filter (· ≠ node)
  get slots key := slots[jump key slots.length]?
  nodes slots := { node | node ∈ slots }
  nodes_newHash := nodes_nil
  nodes_add slots node := by
    ext other
    unfold addSlot
    split
    case isTrue member => simp [member]
    case isFalse => simp [or_comm]
  nodes_remove := nodes_filter_ne
  get_mem slots key node got := List.mem_of_getElem? got
  get_isSome slots key nonempty := by
    have below := jump_lt key _ (List.length_pos_of_mem nonempty.choose_spec)
    rw [List.getElem?_eq_getElem below]
    rfl
  jump := jump
  jump_lt := jump_lt
  get_added nodes key distinct := by
    rw [foldl_addSlot nodes [] distinct]
    rfl

def remainderHash : SlotHash (List Bytes) :=
  slotted (fun key slots => key.toNat % slots) fun _ _ positive => Nat.mod_lt _ positive

theorem selectors_agree_iff_oneServer :
    oneServer.toFinmap.keys.card ≤ 1 ∧
    ∀ first second : IterationOrder, first.toFinmap = oneServer.toFinmap → second.toFinmap = oneServer.toFinmap →
      ∀ servicePath serviceMethod args,
        (newConsistentHashSelector remainderHash.toNodeHash first).select remainderHash.toNodeHash servicePath
            serviceMethod args =
          (newConsistentHashSelector remainderHash.toNodeHash second).select remainderHash.toNodeHash servicePath
            serviceMethod args :=
  ⟨le_refl 1, (selectors_agree_iff remainderHash oneServer.toFinmap).mpr (le_refl 1)⟩

/-- Two clients that see the servers in different orders send the same request to
different servers. -/
theorem selectors_disagree :
    (rotated twoServers).toFinmap = twoServers.toFinmap ∧
    (newConsistentHashSelector remainderHash.toNodeHash (rotated twoServers)).select remainderHash.toNodeHash
        (utf8 "Arith") (utf8 "Mul") [] ≠
      (newConsistentHashSelector remainderHash.toNodeHash twoServers).select remainderHash.toNodeHash
        (utf8 "Arith") (utf8 "Mul") [] := by
  refine ⟨toFinmap_rotated twoServers, ?_⟩
  rw [select_eq, select_eq, keys_rotated, List.length_rotate, ← keys_rotated]
  exact rotated_ne (by decide) (remainderHash.jump_lt _ _ (by decide))

end ConsistentHashSelector

end Irpc.XClient
