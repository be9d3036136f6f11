import Irpc.XClient.Discovery

/-! Which of the servers that discovery delivers a client keeps: those that are active and in
its group. A server says so in its metadata, and may deliver metadata that cannot be parsed. -/
namespace Irpc.XClient

open Irpc.Foundation

abbrev Servers := Bytes → Option Bytes

variable {servers : Servers} {key metadata : Bytes} {values : List (Bytes × Bytes)}

def deleteServer (servers : Servers) (key : Bytes) : Servers := Function.update servers key none

/-- One turn of the loop of `filterByStateAndGroup`. A key that was deleted is not visited. -/
def visitServer (group : Bytes) (servers : Servers) (key : Bytes) : Servers :=
  match (servers key).bind parseQuery with
  | none => servers
  | some values =>
    let servers := if valuesGet values (utf8 "state") = utf8 "inactive" then deleteServer servers key else servers
    if group ≠ [] ∧ group ≠ valuesGet values (utf8 "group") then deleteServer servers key else servers

theorem staysInGroup_of_rejected (rejected : parseQuery metadata = none) (group : Bytes) :
    staysInGroup group metadata = true := by
  simp only [staysInGroup, rejected]

theorem visitServer_of_unparsed (unparsed : (servers key).bind parseQuery = none) (group : Bytes) :
    visitServer group servers key = servers := by
  simp only [visitServer, unparsed]

theorem visitServer_of_parsed (parsed : (servers key).bind parseQuery = some values) (group : Bytes) :
    visitServer group servers key =
      if valuesGet values (utf8 "state") = utf8 "inactive" ∨ group ≠ [] ∧ group ≠ valuesGet values (utf8 "group") then
        deleteServer servers key
      else servers := by
  simp only [visitServer, parsed]
  split_ifs <;> simp_all [deleteServer]

theorem visitServer_same (group : Bytes) (servers : Servers) (key : Bytes) :
    visitServer group servers key key = (servers key).filter (staysInGroup group) := by
  cases stored : servers key with
  | none => rw [visitServer_of_unparsed (by simp [stored]), stored, Option.filter_none]
  | some metadata =>
    rcases Option.eq_none_or_eq_some (parseQuery metadata) with parsed | ⟨values, parsed⟩
    · rw [visitServer_of_unparsed (by simp [stored, parsed]), stored, Option.filter_some,
        if_pos (staysInGroup_of_rejected parsed group)]
    · have found : (servers key).bind parseQuery = some values := by rw [stored, Option.bind_some, parsed]
      rw [visitServer_of_parsed found]
      simp only [Option.filter_some, staysInGroup, parsed]
      split_ifs <;> simp_all [deleteServer]

theorem visitServer_other {key other : Bytes} (group : Bytes) (servers : Servers) (different : other ≠ key) :
    visitServer group servers key other = servers other := by
  rcases Option.eq_none_or_eq_some ((servers key).bind parseQuery) with parsed | ⟨values, parsed⟩
  · rw [visitServer_of_unparsed parsed]
  · rw [visitServer_of_parsed parsed]
    split
    · exact Function.update_of_ne different ..
    · rfl

/-- The loop decides about each server on its own, in whatever order it visits them. -/
theorem foldl_visitServer (group : Bytes) (keys : List Bytes) (servers : Servers) (key : Bytes) :
    keys.foldl (visitServer group) servers key =
      if key ∈ keys then (servers key).filter (staysInGroup group) else servers key := by
  induction keys generalizing servers with
  | nil => rfl
  | cons first rest ih =>
    rw [List.foldl_cons, ih]
    by_cases same : key = first
    · subst same
      rw [visitServer_same, Option.filter_filter]
      simp
    · rw [visitServer_other group servers same]
      simp [same]

theorem foldl_visitServer_eq (group : Bytes) (servers : Servers) {keys : List Bytes}
    (complete : ∀ key, servers key ≠ none → key ∈ keys) :
    keys.foldl (visitServer group) servers = filterByStateAndGroup group servers := by
  funext key
  rw [foldl_visitServer, filterByStateAndGroup]
  by_cases listed : key ∈ keys
  · rw [if_pos listed]
  · have absent : servers key = none := by_contra fun stored => listed (complete key stored)
    rw [if_neg listed, absent]
    rfl

/-- The metadata can be parsed and has this value for the name. -/
def Says (metadata name value : Bytes) : Prop :=
  ∃ values, parseQuery metadata = some values ∧ valuesGet values name = value

/-- The servers are those delivered that do not say they are inactive and, for a client with
a group, say that they are in it. -/
def RightServers (group : Bytes) (delivered servers : Servers) : Prop :=
  ∀ key metadata, servers key = some metadata ↔ delivered key = some metadata ∧
    ¬ Says metadata (utf8 "state") (utf8 "inactive") ∧ (group ≠ [] → Says metadata (utf8 "group") group)

theorem staysInGroup_of_parsed (parsed : parseQuery metadata = some values) (group : Bytes) :
    staysInGroup group metadata = true ↔ ¬ Says metadata (utf8 "state") (utf8 "inactive") ∧
      (group ≠ [] → Says metadata (utf8 "group") group) := by
  simp only [staysInGroup, Says, parsed, Option.some.injEq, exists_eq_left', Bool.and_eq_true, bne_iff_ne,
    Bool.or_eq_true, beq_iff_eq, ne_eq]
  rw [or_iff_not_imp_left, eq_comm (a := group) (b := valuesGet values _)]

theorem not_says_of_rejected (rejected : parseQuery metadata = none) (name value : Bytes) :
    ¬ Says metadata name value := by
  rintro ⟨values, parsed, -⟩
  rw [rejected] at parsed
  cases parsed

/-- The filter selects the right servers exactly if the client has no group or no server has
metadata that cannot be parsed. -/
theorem rightServers_filter_iff (group : Bytes) (delivered : Servers) :
    RightServers group delivered (filterByStateAndGroup group delivered) ↔
      group = [] ∨ ∀ key metadata, delivered key = some metadata → parseQuery metadata ≠ none := by
  have kept : ∀ key metadata, filterByStateAndGroup group delivered key = some metadata ↔
      delivered key = some metadata ∧ staysInGroup group metadata = true := fun key metadata =>
    Option.filter_eq_some_iff
  simp only [RightServers, kept, and_congr_right_iff]
  constructor
  · intro right
    by_cases grouped : group = []
    · exact .inl grouped
    · refine .inr fun key metadata stored rejected => ?_
      -- the server stays, though it says nothing about its group
      have claimed := (right key metadata stored).mp (staysInGroup_of_rejected rejected group)
      exact not_says_of_rejected rejected _ _ (claimed.2 grouped)
  · intro condition key metadata stored
    cases parsed : parseQuery metadata with
    | some values => exact staysInGroup_of_parsed parsed group
    | none =>
      rcases condition with rfl | sound
      · simp [staysInGroup_of_rejected parsed, not_says_of_rejected parsed]
      · exact absurd parsed (sound key metadata stored)

namespace Discovered

variable {group : Bytes} {given : List KVPair} {world after : Discovered}

/-- Once `NewXClient` has asked for the servers, they are those of a delivered list. -/
def Made (group : Bytes) (world : Discovered) : Prop :=
  world.construction ≠ .fresh →
    ∃ order, order.Perm world.source ∧ world.servers = filterByStateAndGroup group (serverMap order)

theorem Made.step (made : world.Made group) (moved : world.step group event = some after) : after.Made group := by
  cases event with
  | update pairs =>
    obtain ⟨_, ⟨⟩⟩ := Option.ite_none_right_eq_some.mp moved
    exact made
  | publish =>
    obtain ⟨pairs, _, rfl⟩ := Option.map_eq_some_iff.mp moved
    exact made
  | getServices order =>
    obtain ⟨⟨_, perm⟩, ⟨⟩⟩ := Option.ite_none_right_eq_some.mp moved
    exact fun _ => ⟨order, perm, rfl⟩
  | watchService =>
    obtain ⟨⟨snapshot, _⟩, ⟨⟩⟩ := Option.ite_none_right_eq_some.mp moved
    exact fun _ => made (by simp [snapshot])
  | deliver index =>
    obtain ⟨_, sent⟩ := Option.ite_none_right_eq_some.mp moved
    obtain ⟨pairs, _, rfl⟩ := Option.map_eq_some_iff.mp sent
    exact made
  | timeout index =>
    obtain ⟨_, ⟨⟩⟩ := Option.ite_none_right_eq_some.mp moved
    exact made
  | receive =>
    dsimp only [Discovered.step] at moved
    split at moved
    · cases moved
      exact made
    · cases moved
  | install order =>
    dsimp only [Discovered.step] at moved
    split at moved
    · obtain ⟨perm, ⟨⟩⟩ := Option.ite_none_right_eq_some.mp moved
      exact fun _ => ⟨order, perm, rfl⟩
    · cases moved

theorem made_of_reachable (reachable : (system group given).Reachable world) : world.Made group := by
  refine reachable.invariant ?_ fun world event after made _ moved => made.step moved
  rintro _ rfl started
  exact absurd rfl started

/-- In every state of every run the servers are what the loop leaves of the list they were
made of, and the right ones of it exactly if the client has no group or every server of the
list has metadata that can be parsed. Of several pairs with one key the last in the order of
sorting counts. -/
theorem servers_right_iff (reachable : (system group given).Reachable world)
    (started : world.construction ≠ .fresh) :
    ∃ order, order.Perm world.source ∧
      (∀ keys : List Bytes, (∀ key, serverMap order key ≠ none → key ∈ keys) →
        world.servers = keys.foldl (visitServer group) (serverMap order)) ∧
      (RightServers group (serverMap order) world.servers ↔
        group = [] ∨ ∀ key metadata, serverMap order key = some metadata → parseQuery metadata ≠ none) := by
  obtain ⟨order, perm, servers⟩ := made_of_reachable reachable started
  refine ⟨order, perm, fun keys complete => ?_, servers ▸ rightServers_filter_iff group (serverMap order)⟩
  rw [servers, foldl_visitServer_eq group _ complete]

/-- One server in the group of the client, and one with metadata that cannot be parsed. -/
def groupB : List KVPair := [serverB, ⟨utf8 "tcp@c", utf8 "group=a;"⟩]

theorem servers_right_of_parsed :
    ∃ world order, (system (utf8 "b") [serverB]).Reachable world ∧ order.Perm world.source ∧
      RightServers (utf8 "b") (serverMap order) world.servers := by
  have start : (system (utf8 "b") [serverB]).Reachable (new [serverB]) := .start rfl
  have snapshot := start.step (.getServices [serverB]) trivial rfl
  obtain ⟨order, perm, -, right⟩ := servers_right_iff snapshot nofun
  refine ⟨_, order, snapshot, perm, right.mpr (.inr ?_)⟩
  rw [List.perm_singleton.mp perm]
  intro key metadata listed
  have member : ⟨key, metadata⟩ ∈ [serverB] := (serverMap_eq_some_iff (by simp)).mp listed
  cases List.mem_singleton.mp member
  decide

/-- The server with metadata that cannot be parsed is kept, though it names another group. -/
theorem servers_keep_unparsed :
    ∃ world, (system (utf8 "b") groupB).play (new groupB) [.getServices groupB, .watchService] = some world ∧
      parseQuery (utf8 "group=a;") = none ∧ world.servers (utf8 "tcp@c") = some (utf8 "group=a;") ∧
      ¬ RightServers (utf8 "b") (serverMap groupB) world.servers := by
  refine ⟨_, rfl, by decide, by decide +kernel, fun selected => ?_⟩
  have kept := (selected (utf8 "tcp@c") (utf8 "group=a;")).mp (by decide +kernel)
  exact not_says_of_rejected (by decide) _ _ (kept.2.2 (by decide))

end Discovered

end Irpc.XClient
