import Irpc.XClient.ConsistentHash
import Irpc.XClient.RepeatedClose
import Irpc.XClient.RoundRobin

/-! `Failover` together with the selector that it asks for another server. -/
namespace Irpc.XClient

open Irpc.Foundation Irpc.Protocol

variable {Reply : Type}

/-- What a call meets at each server while it lasts. -/
structure Cluster (Reply : Type) where
  lookup : Bytes → Lookup
  reply : Bytes → Reply
  err : Bytes → Option GoError

namespace Cluster

def select (cluster : Cluster Reply) (key : Bytes) : Selected := selectClient key (cluster.lookup key)

def rounds (cluster : Cluster Reply) (keys : Nat → Bytes) (index : Nat) : Round Reply where
  reply := cluster.reply (keys index)
  err := cluster.err (keys index)
  key := keys (index + 1)
  lookup := cluster.lookup (keys (index + 1))

/-- A call whose selections are `keys`, the first one for the first attempt. -/
def run (cluster : Cluster Reply) (keys : Nat → Bytes) (backup : Backup Reply) : CallRun Reply where
  isShutdown := false
  key := keys 0
  lookup := cluster.lookup (keys 0)
  rounds := cluster.rounds keys
  backup := backup

/-- There is a client for the server, and the call succeeds. -/
structure Answers (standard : Bool) (cluster : Cluster Reply) (key : Bytes) : Prop where
  spared : WithClose.findsDead standard (cluster.lookup key) = false
  connected : (cluster.select key).client ≠ none
  succeeds : cluster.err key = none

/-- There is no client for the server, or the call fails in a way that is worth a retry and the
client may be closed more than once. -/
structure Down (standard : Bool) (cluster : Cluster Reply) (key : Bytes) : Prop where
  spared : WithClose.findsDead standard (cluster.lookup key) = false
  live : contextCanceled (cluster.select key).err = false
  fails : (cluster.select key).client = none ∨ standard = false ∧ settles (cluster.err key) = false

variable {standard : Bool} {cluster : Cluster Reply} {keys : Nat → Bytes} {removals : Nat → WithClose.Removal}

theorem spared_of_either (either : cluster.Answers standard key ∨ cluster.Down standard key) :
    WithClose.findsDead standard (cluster.lookup key) = false :=
  either.elim Answers.spared Down.spared

theorem selectClient_of_spared (spared : WithClose.findsDead standard (cluster.lookup key) = false) :
    WithClose.selectClient standard key (cluster.lookup key) = some (cluster.select key) := by
  rw [WithClose.selectClient_eq, WithClose.selectsDead, spared, Bool.and_false]
  rfl

/-- A round at a server that is down leaves the call with the next selection. -/
theorem retry_of_down (removals : Nat → WithClose.Removal) (down : cluster.Down standard (keys index))
    (spared : WithClose.findsDead standard (cluster.lookup (keys (index + 1))) = false) (count : Nat)
    (progress : Progress) (current : progress.client = (cluster.select (keys index)).client) :
    ∃ (actions : List (Action Reply)) (err : Option GoError),
      WithClose.retry standard (WithClose.reselectOther standard) (cluster.rounds keys) removals (count + 1) index
          progress =
        (WithClose.retry standard (WithClose.reselectOther standard) (cluster.rounds keys) removals count (index + 1)
          ({ progress with err := err }.advance (cluster.select (keys (index + 1))))).map (Outcome.after actions) := by
  have next : ∀ key, WithClose.reselectOther standard key (cluster.rounds keys index) =
      some (cluster.select (keys (index + 1))) := fun _ => selectClient_of_spared spared
  rw [WithClose.retry]
  dsimp only
  rw [next]
  cases held : progress.client with
  | none => exact ⟨progress.removal, progress.err, Option.map_eq_bind.symm⟩
  | some client =>
    have unsettled : standard = false ∧ settles (cluster.err (keys index)) = false := by
      refine down.fails.resolve_left ?_
      rw [← current, held]
      exact Option.some_ne_none client
    have failed : settles (cluster.rounds keys index).err = false := unsettled.2
    simp only [failed, Bool.false_eq_true, if_false, unsettled.1, WithClose.removeClient_closable]
    exact ⟨_, (cluster.rounds keys index).err, Option.map_eq_bind.symm⟩

theorem retry_answers (turn : Nat) (answers : cluster.Answers standard (keys (index + turn)))
    (earlier : ∀ other < turn, cluster.Down standard (keys (index + other))) {count : Nat} (enough : turn < count)
    (progress : Progress) (current : progress.client = (cluster.select (keys index)).client) :
    ∃ outcome, WithClose.retry standard (WithClose.reselectOther standard) (cluster.rounds keys) removals count index
        progress = some outcome ∧
      outcome.err = none ∧ outcome.reply = some (cluster.reply (keys (index + turn))) := by
  induction turn generalizing index count progress with
  | zero =>
    obtain ⟨count, rfl⟩ := Nat.exists_eq_add_one_of_ne_zero enough.ne'
    obtain ⟨client, connected⟩ := Option.ne_none_iff_exists'.mp answers.connected
    have held : progress.client = some client := current.trans connected
    have succeeds : (cluster.rounds keys index).err = none := answers.succeeds
    have settled : settles (cluster.rounds keys index).err = true := by
      rw [succeeds]
      rfl
    unfold WithClose.retry
    simp only [held, settled, if_true]
    rw [succeeds]
    exact ⟨_, rfl, rfl, rfl⟩
  | succ turn ih =>
    obtain ⟨count, rfl⟩ := Nat.exists_eq_add_one_of_ne_zero (Nat.ne_zero_of_lt enough)
    have down : cluster.Down standard (keys index) := earlier 0 (Nat.succ_pos turn)
    have shift : ∀ other, index + (other + 1) = index + 1 + other := by omega
    rw [shift turn] at answers ⊢
    have later : ∀ other < turn, cluster.Down standard (keys (index + 1 + other)) := by
      intro other before
      rw [← shift other]
      exact earlier (other + 1) (Nat.succ_lt_succ before)
    have spared : WithClose.findsDead standard (cluster.lookup (keys (index + 1))) = false := by
      cases turn with
      | zero => exact answers.spared
      | succ turn => exact (later 0 (Nat.succ_pos turn)).spared
    obtain ⟨actions, err, same⟩ := retry_of_down removals down spared count progress current
    obtain ⟨outcome, returned, succeeded⟩ := ih answers later (Nat.lt_of_succ_lt_succ enough)
      ({ progress with err := err }.advance (cluster.select (keys (index + 1)))) rfl
    rw [same, returned]
    exact ⟨outcome.after actions, rfl, succeeded⟩

/-- A call in which every selection before the first server that answers is of one that is
down succeeds there, if it has the retries to get so far. -/
theorem call_answers (backup : Backup Reply) {retries : Int} (turn : Nat)
    (answers : cluster.Answers standard (keys turn)) (earlier : ∀ other < turn, cluster.Down standard (keys other))
    (enough : turn < roundsOf retries) :
    ∃ outcome, WithClose.call standard .failover retries (cluster.run keys backup) removals = some outcome ∧
      outcome.err = none ∧ outcome.reply = some (cluster.reply (keys turn)) := by
  have first : cluster.Answers standard (keys 0) ∨ cluster.Down standard (keys 0) := by
    cases turn with
    | zero => exact .inl answers
    | succ turn => exact .inr (earlier 0 (Nat.succ_pos turn))
  have live : contextCanceled (cluster.select (keys 0)).err = false := by
    rcases first with answers | down
    · have found : (cluster.select (keys 0)).err = none := by
        by_contra failed
        exact answers.connected ((selectClient_eq_none _ _).mpr failed)
      rw [found]
      rfl
    · exact down.live
  have starts : WithClose.call standard .failover retries (cluster.run keys backup) removals =
      WithClose.retry standard (WithClose.reselectOther standard) (cluster.rounds keys) removals (roundsOf retries) 0
        ⟨(cluster.select (keys 0)).err, none, (cluster.select (keys 0)).key, (cluster.select (keys 0)).client⟩ := by
    have selected : WithClose.selectClient standard (cluster.run keys backup).key (cluster.run keys backup).lookup =
      some (cluster.select (keys 0)) := selectClient_of_spared (spared_of_either first)
    have eager : (FailMode.failover == FailMode.failfast) = false := rfl
    unfold WithClose.call
    simp only [selected, Option.bind_eq_bind, Option.bind_some, live, eager, Bool.or_self, Bool.and_false]
    rfl
  rw [← Nat.zero_add turn] at answers
  have down : ∀ other < turn, cluster.Down standard (keys (0 + other)) := by
    intro other before
    rw [Nat.zero_add]
    exact earlier other before
  rw [starts, ← Nat.zero_add turn]
  exact retry_answers turn answers down enough _ rfl

theorem exists_turn (keys : Nat → Bytes) {count : Nat} (chosen : ∃ turn < count, cluster.Answers standard (keys turn))
    (others : ∀ turn < count, cluster.Answers standard (keys turn) ∨ cluster.Down standard (keys turn)) :
    ∃ turn < count, cluster.Answers standard (keys turn) ∧ ∀ other < turn, cluster.Down standard (keys other) := by
  classical
  let first := Nat.find chosen
  obtain ⟨inside, answers⟩ := Nat.find_spec chosen
  refine ⟨first, inside, answers, ?_⟩
  intro other before
  have later : other < count := before.trans inside
  refine (others other later).resolve_left ?_
  intro answers
  exact Nat.find_min chosen before ⟨later, answers⟩

end Cluster

namespace Rotation

open RoundRobinSelector

variable {cluster : Cluster Reply} {rotation : Rotation}

theorem getD_selectMany {servers : List Bytes} (nonempty : servers ≠ []) {i : Nat}
    (selected : selectMany count ⟨servers, i⟩ = some (keys, next)) (inside : turn < count) :
    keys.getD turn [] = servers.getD ((i + turn) % servers.length) [] := by
  obtain ⟨final, turns⟩ := selectMany_eq nonempty count i
  cases turns.symm.trans selected
  simp [inside]

/-- With the selector that takes the servers in turn, whatever has happened to it, a call
finds a server that answers if there is one among its servers and all others are down, and it
may try as often as there are servers. No other call may select in between. -/
theorem failover_finds_server (reachable : system.Reachable rotation) (backup : Backup Reply)
    (standard : Bool) (removals : Nat → WithClose.Removal)
    (answering : ∃ key ∈ rotation.latest, cluster.Answers standard key)
    (others : ∀ key ∈ rotation.latest, cluster.Answers standard key ∨ cluster.Down standard key)
    {retries : Int} (enough : rotation.selector.servers.length ≤ roundsOf retries)
    (selected : selectMany (roundsOf retries + 1) rotation.selector = some (keys, next)) :
    ∃ key ∈ rotation.latest, cluster.Answers standard key ∧ ∃ outcome,
      WithClose.call standard .failover retries (cluster.run (keys.getD · []) backup) removals = some outcome ∧
        outcome.err = none ∧ outcome.reply = some (cluster.reply key) := by
  have listed := listed_of_reachable reachable
  obtain ⟨⟨servers, cursor⟩, latest⟩ := rotation
  obtain ⟨i, rfl⟩ := Int.eq_ofNat_of_zero_le listed.cursor
  obtain ⟨healthy, member, answers⟩ := answering
  have present := (listed.listed healthy).mpr member
  have nonempty : servers ≠ [] := List.ne_nil_of_mem present
  have known : ∀ turn < roundsOf retries, keys.getD turn [] ∈ latest := by
    intro turn inside
    rw [getD_selectMany nonempty selected (Nat.lt_succ_of_lt inside)]
    have bound : (i + turn) % servers.length < servers.length := Nat.mod_lt _ (List.length_pos_iff.mpr nonempty)
    rw [List.getD_eq_getElem _ _ bound]
    exact (listed.listed _).mp (List.getElem_mem bound)
  -- The selections go round, and so the server comes within the first round.
  obtain ⟨turn, inside, same⟩ := List.getElem_of_mem (List.mem_rotate.mpr present : healthy ∈ servers.rotate i)
  rw [List.length_rotate] at inside
  have within : turn < roundsOf retries := inside.trans_le enough
  have found : keys.getD turn [] = healthy := by
    rw [List.getElem_rotate, Nat.add_comm turn] at same
    rw [getD_selectMany nonempty selected (Nat.lt_succ_of_lt within), ← same]
    exact List.getD_eq_getElem _ _ _
  rw [← found] at answers
  obtain ⟨first, early, answers, earlier⟩ := Cluster.exists_turn (keys.getD · []) ⟨turn, within, answers⟩
    fun turn inside => others _ (known turn inside)
  exact ⟨_, known first early, answers, Cluster.call_answers backup first answers earlier early⟩

/-- One of two servers refuses the connection. -/
def halfDown : Cluster Nat where
  lookup key := if key = utf8 "tcp@b" then refusedLookup else cachedLookup
  reply _ := 7
  err _ := none

/-- The selector starts with it, and the other server answers. -/
theorem failover_finds_second :
    ∃ keys next, selectMany 3 (newRoundRobinSelector twoServers) = some (keys, next) ∧
      keys.head? = some (utf8 "tcp@b") ∧ ∃ key ∈ twoServers.toFinmap, halfDown.Answers true key ∧ ∃ outcome,
        WithClose.call true .failover 1 (halfDown.run (keys.getD · []) sampleRun.backup) (fun _ => ⟨true, false⟩) =
            some outcome ∧
          outcome.err = none ∧ outcome.reply = some (halfDown.reply key) := by
  have selected : selectMany 3 (newRoundRobinSelector twoServers) =
      some ([utf8 "tcp@b", utf8 "tcp@a", utf8 "tcp@b"], ⟨[utf8 "tcp@b", utf8 "tcp@a"], 1⟩) := rfl
  have answers : halfDown.Answers true (utf8 "tcp@a") := ⟨by decide, by decide, rfl⟩
  have reachable : system.Reachable ⟨newRoundRobinSelector twoServers, twoServers.toFinmap⟩ := .start ⟨_, rfl⟩
  refine ⟨_, _, selected, rfl,
    failover_finds_server reachable sampleRun.backup true (fun _ => ⟨true, false⟩)
      ⟨utf8 "tcp@a", by decide, answers⟩ ?_ (by decide) selected⟩
  intro key member
  have listed : key ∈ twoServers.keys := AList.mem_keys.mp (Finmap.mem_toFinmap.mp member)
  have named : key ∈ [utf8 "tcp@b", utf8 "tcp@a"] := listed
  rcases List.mem_cons.mp named with rfl | last
  · exact .inr ⟨by decide, by decide, .inl (by decide)⟩
  · rw [List.mem_singleton.mp last]
    exact .inl answers

end Rotation

/-- `Failover` that is given one server again and again does what `Failtry` does. -/
theorem failover_eq_failtry {rounds : Nat → Round Reply} {key : Bytes} (named : key ≠ [])
    (same : ∀ index, (rounds index).key = key) (count index : Nat) (progress : Progress) (held : progress.key = key) :
    retry true reselectOther rounds count index progress = retry true reselectSame rounds count index progress ∧
      sent true reselectOther rounds count index progress = sent true reselectSame rounds count index progress := by
  induction count generalizing index progress with
  | zero => exact ⟨rfl, rfl⟩
  | succ count ih =>
    have selected : reselectOther progress.key (rounds index) = reselectSame progress.key (rounds index) := by
      rw [reselectOther, reselectSame, selectClient, same, held, if_neg named]
    obtain ⟨skipped, skips⟩ := ih (index + 1) (progress.advance (reselectSame progress.key (rounds index))) held
    obtain ⟨retried, sends⟩ := ih (index + 1) ({ progress with err := if true = true then (rounds index).err else
      progress.err }.advance (reselectSame progress.key (rounds index))) held
    rw [retry, retry, sent, sent]
    dsimp only
    rw [selected, skipped, skips, retried, sends]
    exact ⟨rfl, rfl⟩

namespace ConsistentHashSelector

/-- As long as the servers do not change, the selector that hashes the call finds the same
server for every attempt, and so `Failover` tries only this one, as `Failtry` does. -/
theorem failover_by_hash_is_failtry (ops : NodeHash Hash) (selector : ConsistentHashSelector Hash)
    (servicePath serviceMethod args : Bytes) (retries : Int) (run : CallRun Reply)
    (first : run.key = selector.select ops servicePath serviceMethod args) (named : run.key ≠ [])
    (later : ∀ index, (run.rounds index).key = selector.select ops servicePath serviceMethod args) :
    call .failover retries run = call .failtry retries run ∧
      (∀ attempt ∈ sentBy .failover retries run, attempt.key = run.key) ∧
      (0 ≤ retries → (∀ attempt ∈ sentBy .failover retries run, attempt.err ≠ none) →
        (call .failover retries run).err ≠ none) := by
  have chosen : (selectClient run.key run.lookup).key = run.key := by
    rw [selectClient, if_neg named]
  have repeated := failover_eq_failtry named (fun index => (later index).trans first.symm) (roundsOf retries) 0
    ⟨(selectClient run.key run.lookup).err, none, (selectClient run.key run.lookup).key,
      (selectClient run.key run.lookup).client⟩ chosen
  refine ⟨?_, ?_, fun natural => (call_bounded (.inr rfl) natural run).1.failed⟩
  · unfold call
    dsimp only
    rw [repeated.1]
    rfl
  · unfold sentBy
    dsimp only
    rw [repeated.2]
    intro attempt member
    split at member
    · cases member
    · exact (key_of_sent true run.rounds _ _ _ member).trans chosen

def firstSlot : SlotHash (List Bytes) := slotted (fun _ _ => 0) fun _ _ positive => positive

/-- The server that the call hashes to is down, and `Failover` does not find the other one. -/
theorem failover_by_hash_fails :
    (newConsistentHashSelector firstSlot.toNodeHash twoServers).select firstSlot.toNodeHash [] [] [] =
        utf8 "tcp@b" ∧
      Rotation.halfDown.Answers true (utf8 "tcp@a") ∧
      call .failover 5 (Rotation.halfDown.run (fun _ => utf8 "tcp@b") sampleRun.backup) =
        call .failtry 5 (Rotation.halfDown.run (fun _ => utf8 "tcp@b") sampleRun.backup) ∧
      (call .failover 5 (Rotation.halfDown.run (fun _ => utf8 "tcp@b") sampleRun.backup)).err ≠ none := by
  have hashed : (newConsistentHashSelector firstSlot.toNodeHash twoServers).select firstSlot.toNodeHash [] [] [] =
      utf8 "tcp@b" := by
    rw [select_eq]
    rfl
  obtain ⟨same, -, fails⟩ := failover_by_hash_is_failtry firstSlot.toNodeHash
    (newConsistentHashSelector firstSlot.toNodeHash twoServers) [] [] [] 5
    (Rotation.halfDown.run (fun _ => utf8 "tcp@b") sampleRun.backup) hashed.symm (by decide) fun _ => hashed.symm
  exact ⟨hashed, ⟨by decide, by decide, rfl⟩, same, fails (by decide) fun _ member => by cases member⟩

end ConsistentHashSelector

end Irpc.XClient
