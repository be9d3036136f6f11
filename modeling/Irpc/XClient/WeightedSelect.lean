import Irpc.XClient.Failover
import Irpc.XClient.WeightRange

/-! What the selectors with weights return, and `Failover` together with the one that takes the
weights from the metadata. -/
namespace Irpc.XClient

open Irpc.Foundation Irpc.Protocol

/-- `Select` of both selectors with weights. -/
def selectWeighted (servers : List (Option Weighted)) : Bytes × List (Option Weighted) :=
  if servers.length = 0 then ([], servers)
  else
    let next := nextWeighted servers
    (((next.1.bind (entry servers)).map Weighted.server).getD [], next.2)

def selectedAt (servers : List (Option Weighted)) (calls : Nat) : Bytes :=
  (selectWeighted (afterCalls servers calls)).1

section Names

variable {servers : List (Option Weighted)}

def nameAt (servers : List (Option Weighted)) (i : Nat) : Option Bytes := (entry servers i).map Weighted.server

theorem nameAt_afterCalls (servers : List (Option Weighted)) (calls : Nat) :
    nameAt (afterCalls servers calls) = nameAt servers := by
  induction calls with
  | zero => rfl
  | succ calls ih =>
    rw [← ih]
    funext i
    obtain ⟨paid, same⟩ := entry_nextWeighted (afterCalls servers calls) i
    rw [nameAt, afterCalls, same, Option.map_map]
    rfl

theorem selectedAt_eq (filled : servers ≠ []) (calls : Nat) :
    selectedAt servers calls = ((chosenAt servers calls).bind (nameAt servers)).getD [] := by
  have length : (afterCalls servers calls).length ≠ 0 := by
    rw [length_afterCalls]
    exact fun empty => filled (List.length_eq_zero_iff.mp empty)
  rw [selectedAt, selectWeighted, if_neg length, ← nameAt_afterCalls servers calls, chosenAt]
  dsimp only
  cases (nextWeighted (afterCalls servers calls)).1 with
  | none => rfl
  | some i => rfl

end Names

section Selections

variable {order : IterationOrder}

theorem nameAt_createWeighted (order : IterationOrder) (i : Nat) :
    nameAt (createWeighted order) i = order.entries[i]?.map Sigma.fst := by
  rw [nameAt, entry_createWeighted, Option.map_map]
  rfl

theorem exists_party {name metadata : Bytes} (listed : ⟨name, metadata⟩ ∈ order.entries) :
    ∃ i ∈ parties (createWeighted order), nameAt (createWeighted order) i = some name ∧
      weightAt (createWeighted order) i = (weightOf metadata).toInt := by
  obtain ⟨i, found⟩ := List.mem_iff_getElem?.mp listed
  have held : entry (createWeighted order) i = some ⟨name, weightOf metadata, 0, weightOf metadata⟩ := by
    rw [entry_createWeighted, found]
    rfl
  refine ⟨i, mem_parties.mpr ⟨_, held⟩, ?_, ?_⟩
  · rw [nameAt, held]
    rfl
  · rw [weightAt, held]
    rfl

theorem totalWeight_pos (nonneg : ∀ entry ∈ order.entries, 0 ≤ weightOf entry.2) {name metadata : Bytes}
    (listed : ⟨name, metadata⟩ ∈ order.entries) (wanted : 0 < weightOf metadata) :
    0 < totalWeight (createWeighted order) := by
  obtain ⟨i, member, -, weight⟩ := exists_party listed
  have share : weightAt (createWeighted order) i ≤ totalWeight (createWeighted order) :=
    Finset.single_le_sum (fun i => (fresh_createWeighted nonneg).weightAt_nonneg) member
  rw [weight] at share
  exact lt_of_lt_of_le (Int64.lt_iff_toInt_lt.mp wanted) share

theorem createWeighted_ne_nil (positive : 0 < totalWeight (createWeighted order)) : createWeighted order ≠ [] := by
  intro empty
  obtain ⟨w, listed⟩ := present_of_pos positive
  rw [empty] at listed
  cases listed

variable (nonneg : ∀ entry ∈ order.entries, 0 ≤ weightOf entry.2)
  (positive : 0 < totalWeight (createWeighted order))
  (small : order.entries.length * totalWeight (createWeighted order) < 2 ^ 63)

include nonneg positive small in
theorem turns_createWeighted (calls : Nat) :
    Turns (parties (createWeighted order)) (weightAt (createWeighted order)) calls
      (fun call => currentAt (afterCalls (createWeighted order) call)) (chosenAt (createWeighted order)) := by
  have fresh := fresh_createWeighted nonneg
  refine fresh.steady.turns fresh.unused (present_of_pos positive) fun call _ => ?_
  refine fresh.exact_of_small positive ?_ call
  rw [createWeighted, List.length_map]
  exact small

include nonneg positive small in
theorem selectedAt_mem (calls : Nat) : selectedAt (createWeighted order) calls ∈ order.keys := by
  obtain ⟨i, chosen, -⟩ := (turns_createWeighted nonneg positive small (calls + 1)).turn calls (Nat.lt_succ_self calls)
  have member : i ∈ parties (createWeighted order) := by
    rw [← parties_afterCalls (createWeighted order) calls]
    exact mem_parties_of_chosen chosen
  obtain ⟨w, found⟩ := mem_parties.mp member
  rw [entry_createWeighted] at found
  obtain ⟨entry, listed, -⟩ := Option.map_eq_some_iff.mp found
  rw [selectedAt_eq (createWeighted_ne_nil positive), chosen, Option.bind_some, nameAt_createWeighted, listed]
  exact List.mem_map_of_mem (List.mem_of_getElem? listed)

include nonneg positive small in
/-- A server has its turn among any selections that are as many as the weights of the others
call for. -/
theorem exists_selectedAt {name metadata : Bytes} (listed : ⟨name, metadata⟩ ∈ order.entries) {count : Nat}
    (long : order.entries.length * totalWeight (createWeighted order) ≤ count * (weightOf metadata).toInt)
    (past : Nat) : ∃ turn < count, selectedAt (createWeighted order) (past + turn) = name := by
  obtain ⟨i, member, named, weight⟩ := exists_party listed
  have run := turns_createWeighted nonneg positive small (past + count)
  have fresh := fresh_createWeighted nonneg
  rw [← weight, ← card_parties_createWeighted] at long
  obtain ⟨turn, inside, chosen⟩ := run.exists_chosen (fun i => fresh.weightAt_nonneg) positive member long
  refine ⟨turn, inside, ?_⟩
  rw [selectedAt_eq (createWeighted_ne_nil positive), chosen, Option.bind_some, named]
  rfl

end Selections

section Failover

variable {Reply : Type} {cluster : Cluster Reply} {order : IterationOrder}

/-- With the selector that takes the servers according to their weights, after any number of
selections since its servers were last updated, a call finds a server that answers if one with
a positive weight does and all others are down, and the call may try as often as it takes for
this server to have its turn. No other call may select in between. -/
theorem weighted_failover_finds_server (nonneg : ∀ entry ∈ order.entries, 0 ≤ weightOf entry.2)
    (small : order.entries.length * totalWeight (createWeighted order) < 2 ^ 63)
    {name metadata : Bytes} (listed : ⟨name, metadata⟩ ∈ order.entries) (wanted : 0 < weightOf metadata)
    (standard : Bool) (removals : Nat → WithClose.Removal) (answers : cluster.Answers standard name)
    (others : ∀ key ∈ order.keys, cluster.Answers standard key ∨ cluster.Down standard key)
    (past : Nat) (backup : Backup Reply) {retries : Int}
    (enough : order.entries.length * totalWeight (createWeighted order) ≤
      roundsOf retries * (weightOf metadata).toInt) :
    ∃ key ∈ order.keys, cluster.Answers standard key ∧ ∃ outcome,
      WithClose.call standard .failover retries
          (cluster.run (fun turn => selectedAt (createWeighted order) (past + turn)) backup) removals = some outcome ∧
        outcome.err = none ∧ outcome.reply = some (cluster.reply key) := by
  have positive := totalWeight_pos nonneg listed wanted
  have known : ∀ turn, selectedAt (createWeighted order) (past + turn) ∈ order.keys :=
    fun turn => selectedAt_mem nonneg positive small (past + turn)
  obtain ⟨turn, inside, found⟩ := exists_selectedAt nonneg positive small listed enough past
  rw [← found] at answers
  obtain ⟨first, early, answers, earlier⟩ := Cluster.exists_turn
    (fun turn => selectedAt (createWeighted order) (past + turn)) ⟨turn, inside, answers⟩
    fun turn _ => others _ (known turn)
  exact ⟨_, known first, answers, Cluster.call_answers backup first answers earlier early⟩

/-- One of three servers is down, and the one with the weight five answers. -/
theorem weighted_failover_finds_heavy :
    ∃ key ∈ sampleServers.keys, Rotation.halfDown.Answers true key ∧ ∃ outcome,
      WithClose.call true .failover 4 (Rotation.halfDown.run
          (fun turn => selectedAt (createWeighted sampleServers) (2 + turn)) sampleRun.backup)
          (fun _ => ⟨true, false⟩) = some outcome ∧
        outcome.err = none ∧ outcome.reply = some (Rotation.halfDown.reply key) := by
  have total : totalWeight (createWeighted sampleServers) = 7 := by decide +kernel
  have length : sampleServers.entries.length = 3 := by decide +kernel
  have weight : (weightOf (utf8 "weight=5")).toInt = 5 := by decide +kernel
  refine weighted_failover_finds_server (by decide +kernel) (by rw [total, length]; decide)
    (List.mem_cons_self : ⟨utf8 "tcp@a", utf8 "weight=5"⟩ ∈ sampleServers.entries) (by decide +kernel) true
    (fun _ => ⟨true, false⟩) ⟨by decide, by decide, rfl⟩ ?_ 2 sampleRun.backup
    (by rw [total, length, weight]; decide)
  intro key member
  have named : key ∈ [utf8 "tcp@a", utf8 "tcp@b", utf8 "tcp@c"] := member
  rcases List.mem_cons.mp named with rfl | others
  · exact .inl ⟨by decide, by decide, rfl⟩
  · rcases List.mem_cons.mp others with rfl | last
    · exact .inr ⟨by decide, by decide, .inl (by decide)⟩
    · rw [List.mem_singleton.mp last]
      exact .inl ⟨by decide, by decide, rfl⟩

end Failover

end Irpc.XClient
