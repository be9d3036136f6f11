import Irpc.Foundation.System
import Irpc.Protocol.Message

/-! The selector that takes the servers in turn. Its cursor outlives every update. -/
namespace Irpc.XClient

open Irpc.Foundation Irpc.Protocol

structure RoundRobinSelector where
  servers : List Bytes
  i : Int

namespace RoundRobinSelector

/-- `ss[i]`, which panics outside of the slice. -/
def index (ss : List Bytes) (i : Int) : Option Bytes := if 0 ≤ i then ss[i.toNat]? else none

/-- The remainder is that of Go, with the sign of the dividend. -/
def select (selector : RoundRobinSelector) : Option (Bytes × RoundRobinSelector) :=
  if selector.servers.length = 0 then some ([], selector)
  else
    let i := selector.i.tmod selector.servers.length
    (index selector.servers i).map fun server => (server, ⟨selector.servers, i + 1⟩)

def updateServer (selector : RoundRobinSelector) (servers : IterationOrder) : RoundRobinSelector :=
  ⟨servers.keys, selector.i⟩

end RoundRobinSelector

def newRoundRobinSelector (servers : IterationOrder) : RoundRobinSelector := ⟨servers.keys, 0⟩

def oneServer : IterationOrder := AList.singleton (utf8 "tcp@a") []

def twoServers : IterationOrder := oneServer.insert (utf8 "tcp@b") []

structure Rotation where
  selector : RoundRobinSelector
  latest : Metadata

namespace Rotation

open RoundRobinSelector

inductive Event where
  | select
  | updateServer (servers : IterationOrder)

def step (rotation : Rotation) : Event → Option Rotation
  | .select => rotation.selector.select.map fun selected => ⟨selected.2, rotation.latest⟩
  | .updateServer servers => some ⟨rotation.selector.updateServer servers, servers.toFinmap⟩

def system : System Rotation Event where
  initial rotation := ∃ servers : IterationOrder, rotation = ⟨newRoundRobinSelector servers, servers.toFinmap⟩
  step := step

/-- What a history of selections and updates leaves: some cursor, and the servers in some
order. -/
structure Listed (rotation : Rotation) : Prop where
  cursor : 0 ≤ rotation.selector.i
  distinct : rotation.selector.servers.Nodup
  listed : ∀ key, key ∈ rotation.selector.servers ↔ key ∈ rotation.latest

theorem select_eq {selector : RoundRobinSelector} {server : Bytes} (cursor : 0 ≤ selector.i)
    (found : selector.servers[selector.i.toNat % selector.servers.length]? = some server) :
    selector.select =
      some (server, ⟨selector.servers, (selector.i.toNat % selector.servers.length : Nat) + 1⟩) := by
  obtain ⟨i, same⟩ := Int.eq_ofNat_of_zero_le cursor
  have some_server : selector.servers.length ≠ 0 := by
    intro empty
    simp [List.eq_nil_of_length_eq_zero empty] at found
  have remainder : selector.i.tmod selector.servers.length =
      ((selector.i.toNat % selector.servers.length : Nat) : Int) := by
    rw [same]
    rfl
  unfold select
  rw [if_neg some_server]
  dsimp only
  rw [remainder, index, if_pos (Int.natCast_nonneg _), Int.toNat_natCast, found]
  rfl

theorem exists_server (selector : RoundRobinSelector) (nonempty : selector.servers ≠ []) :
    ∃ server, selector.servers[selector.i.toNat % selector.servers.length]? = some server :=
  ⟨_, List.getElem?_eq_getElem (Nat.mod_lt _ (List.length_pos_iff.mpr nonempty))⟩

theorem select_of_empty {selector : RoundRobinSelector} (empty : selector.servers = []) :
    selector.select = some ([], selector) := by
  simp [select, empty]

theorem Listed.step {rotation next : Rotation} (listed : Listed rotation) (moved : rotation.step event = some next) :
    Listed next := by
  cases event with
  | updateServer servers =>
    cases moved
    exact ⟨listed.cursor, servers.keys_nodup, fun key => AList.mem_keys.symm⟩
  | select =>
    obtain ⟨⟨server, selector⟩, selected, rfl⟩ := Option.map_eq_some_iff.mp moved
    by_cases empty : rotation.selector.servers = []
    · rw [select_of_empty empty] at selected
      cases selected
      exact listed
    · obtain ⟨_, found⟩ := exists_server rotation.selector empty
      rw [select_eq listed.cursor found] at selected
      cases selected
      exact ⟨by dsimp only; omega, listed.distinct, listed.listed⟩

theorem listed_of_reachable {rotation : Rotation} (reachable : system.Reachable rotation) : Listed rotation := by
  refine reachable.invariant ?_ ?_
  · rintro _ ⟨servers, rfl⟩
    exact ⟨le_refl 0, servers.keys_nodup, fun key => AList.mem_keys.symm⟩
  · intro rotation event next listed _ moved
    exact listed.step moved

def selectMany : Nat → RoundRobinSelector → Option (List Bytes × RoundRobinSelector)
  | 0, selector => some ([], selector)
  | count + 1, selector => selector.select.bind fun selected =>
    (selectMany count selected.2).map fun rest => (selected.1 :: rest.1, rest.2)

/-- The selections that follow go round the list, from wherever the cursor stands. -/
theorem selectMany_eq {servers : List Bytes} (nonempty : servers ≠ []) (count : Nat) :
    ∀ i : Nat, ∃ next, selectMany count ⟨servers, i⟩ = some
      ((List.range count).map fun turn => servers.getD ((i + turn) % servers.length) [], next) := by
  induction count with
  | zero => exact fun i => ⟨_, rfl⟩
  | succ count ih =>
    intro i
    have below : i % servers.length < servers.length := Nat.mod_lt _ (List.length_pos_iff.mpr nonempty)
    have found : servers[i % servers.length]? = some (servers.getD (i % servers.length) []) := by
      rw [List.getD_eq_getElem?_getD, List.getElem?_eq_getElem below]
      rfl
    obtain ⟨next, later⟩ := ih (i % servers.length + 1)
    refine ⟨next, ?_⟩
    have first : (⟨servers, i⟩ : RoundRobinSelector).select =
        some (servers.getD (i % servers.length) [], ⟨servers, (i % servers.length + 1 : Nat)⟩) :=
      select_eq (Int.natCast_nonneg i) found
    have turns (turn : Nat) : (i % servers.length + 1 + turn) % servers.length =
        (i + (turn + 1)) % servers.length := by
      rw [Nat.add_assoc, Nat.add_comm 1, Nat.mod_add_mod]
    rw [selectMany, first, Option.bind_some, later, List.range_succ_eq_map]
    simp [turns]

/-- As many selections as there are servers give a rotation of the servers. -/
theorem selectMany_length {servers : List Bytes} (nonempty : servers ≠ []) (i : Nat) :
    ∃ next, selectMany servers.length ⟨servers, i⟩ = some (servers.rotate i, next) := by
  obtain ⟨next, selected⟩ := selectMany_eq nonempty servers.length i
  refine ⟨next, ?_⟩
  rw [selected]
  congr 2
  refine List.ext_getElem (by simp) ?_
  intro turn _ inside
  rw [List.getElem_map, List.getElem_range, List.getElem_rotate, Nat.add_comm turn]
  exact List.getD_eq_getElem _ _ _

/-- After every history a selection finds a server of the latest map, unless there is none,
and a round of selections finds each server once. -/
theorem selection_fair {rotation : Rotation} (reachable : system.Reachable rotation) :
    (∃ server next, rotation.selector.select = some (server, next) ∧
      (rotation.selector.servers = [] → server = []) ∧
      (rotation.selector.servers ≠ [] → server ∈ rotation.latest) ∧
      ([] ∉ rotation.latest → (server = [] ↔ rotation.selector.servers = []))) ∧
    ∃ servers next, selectMany rotation.selector.servers.length rotation.selector = some (servers, next) ∧
      ∀ key, servers.count key = if key ∈ rotation.latest then 1 else 0 := by
  have listed := listed_of_reachable reachable
  obtain ⟨⟨servers, i⟩, latest⟩ := rotation
  obtain ⟨cursor, distinct, listed⟩ := listed
  dsimp only at cursor distinct listed ⊢
  by_cases empty : servers = []
  · subst empty
    refine ⟨⟨[], _, select_of_empty rfl, fun _ => rfl, fun some_server => absurd rfl some_server, by simp⟩, ?_⟩
    exact ⟨[], _, rfl, fun key => by simp [← listed key]⟩
  · obtain ⟨server, found⟩ := exists_server ⟨servers, i⟩ empty
    have member : server ∈ latest := (listed server).mp (List.mem_of_getElem? found)
    refine ⟨⟨server, _, select_eq cursor found, fun none => absurd none empty, fun _ => member, ?_⟩, ?_⟩
    · intro named
      have other : server ≠ [] := fun same => named (same ▸ member)
      exact iff_of_false other empty
    · obtain ⟨next, selected⟩ := selectMany_length empty i.toNat
      rw [Int.toNat_of_nonneg cursor] at selected
      refine ⟨_, next, selected, ?_⟩
      intro key
      rw [(List.rotate_perm servers i.toNat).count_eq key, distinct.count]
      simp only [listed key]

/-- The cursor stands behind the only server that is left. -/
theorem selection_fair_shrunk :
    ∃ servers next, selectMany 1 ⟨[utf8 "tcp@a"], 2⟩ = some (servers, next) ∧ servers.count (utf8 "tcp@a") = 1 := by
  have played : system.play ⟨newRoundRobinSelector twoServers, twoServers.toFinmap⟩
      [.select, .select, .updateServer oneServer] = some ⟨⟨[utf8 "tcp@a"], 2⟩, oneServer.toFinmap⟩ := rfl
  have start : system.Reachable ⟨newRoundRobinSelector twoServers, twoServers.toFinmap⟩ := .start ⟨_, rfl⟩
  obtain ⟨servers, next, selected, once⟩ := (selection_fair (start.play played)).2
  exact ⟨servers, next, selected, once (utf8 "tcp@a")⟩

/-- A server whose name is the empty string is selected like any other. -/
theorem selects_empty_name :
    let unnamed : IterationOrder := AList.singleton [] (utf8 "weight=1")
    system.Reachable ⟨newRoundRobinSelector unnamed, unnamed.toFinmap⟩ ∧
      (newRoundRobinSelector unnamed).servers ≠ [] ∧ ∃ next, (newRoundRobinSelector unnamed).select = some ([], next) :=
  ⟨.start ⟨_, rfl⟩, by simp [newRoundRobinSelector], _, rfl⟩

end Rotation

end Irpc.XClient
