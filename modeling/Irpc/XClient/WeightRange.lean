import Irpc.XClient.WeightedRoundRobin
import Mathlib

/-! Which weights the weighted selector can work with. Over any number of calls its integers
stay in their range only if no weight is negative, and the weights are not too large. -/
namespace Irpc.XClient

open Irpc.Foundation Irpc.Protocol

/-- What the loop of `nextWeighted` adds for the server with an index. -/
def effectiveAt (servers : List (Option Weighted)) (i : Nat) : Int :=
  ((entry servers i).map (·.effectiveWeight.toInt)).getD 0

/-- Nothing that the next call adds or subtracts leaves the range. -/
structure NoOverflow (servers : List (Option Weighted)) : Prop where
  current : ∀ i ∈ parties servers, InRange (currentAt servers i + effectiveAt servers i)
  total : ∀ visited, InRange (∑ i ∈ Finset.range visited, effectiveAt servers i)
  paid : ∀ i ∈ (nextWeighted servers).1, InRange
    (currentAt servers i + effectiveAt servers i - ∑ i ∈ Finset.range servers.length, effectiveAt servers i)

section Sums

variable {servers : List (Option Weighted)}

theorem inRange_zero : InRange 0 := ⟨by decide, by decide⟩

theorem inRange_toInt (value : Int64) : InRange value.toInt := ⟨value.le_toInt, value.toInt_lt⟩

theorem weightAt_of_not_mem (absent : i ∉ parties servers) : weightAt servers i = 0 := by
  cases found : entry servers i with
  | none => rw [weightAt, found]; rfl
  | some w => exact absurd (mem_parties.mpr ⟨w, found⟩) absent

theorem inRange_weightAt (servers : List (Option Weighted)) (i : Nat) : InRange (weightAt servers i) := by
  cases found : entry servers i with
  | none => rw [weightAt, found]; exact inRange_zero
  | some w => rw [weightAt, found]; exact inRange_toInt w.weight

theorem inRange_currentAt (servers : List (Option Weighted)) (i : Nat) : InRange (currentAt servers i) := by
  cases found : entry servers i with
  | none => rw [currentAt, found]; exact inRange_zero
  | some w => rw [currentAt, found]; exact inRange_toInt w.currentWeight

/-- The loop has added up the weights of the servers it has visited. -/
theorem sum_range_weightAt (servers : List (Option Weighted)) (visited : Nat) :
    ∑ i ∈ Finset.range visited, weightAt servers i =
      ∑ i ∈ (parties servers).filter (· < visited), weightAt servers i := by
  symm
  apply Finset.sum_subset
  · intro i member
    exact Finset.mem_range.mpr (Finset.mem_filter.mp member).2
  · intro i inside outside
    apply weightAt_of_not_mem
    intro member
    exact outside (Finset.mem_filter.mpr ⟨member, Finset.mem_range.mp inside⟩)

theorem sum_range_length (servers : List (Option Weighted)) :
    ∑ i ∈ Finset.range servers.length, weightAt servers i = totalWeight servers :=
  (sum_map_range (·.weight.toInt) servers).symm.trans (sum_map_eq (·.weight.toInt) servers)

theorem Steady.effectiveAt_eq (steady : Steady servers) : effectiveAt servers = weightAt servers := by
  funext i
  cases found : entry servers i with
  | none => rw [effectiveAt, weightAt, found, Option.map_none, Option.map_none]
  | some w => rw [effectiveAt, weightAt, found, Option.map_some, Option.map_some, steady w (mem_of_entry found)]

theorem Steady.noOverflow_iff (steady : Steady servers) :
    NoOverflow servers ↔ Exact servers ∧ ∀ visited, InRange (∑ i ∈ Finset.range visited, weightAt servers i) := by
  constructor
  · rintro ⟨current, total, paid⟩
    rw [steady.effectiveAt_eq] at current total paid
    rw [sum_range_length] at paid
    exact ⟨⟨current, paid⟩, total⟩
  · rintro ⟨⟨current, paid⟩, total⟩
    rw [← sum_range_length] at paid
    constructor <;> rwa [steady.effectiveAt_eq]

/-- The sums on the way lie between nothing and the total. -/
theorem inRange_sum_of_nonneg (nonneg : ∀ i ∈ parties servers, 0 ≤ weightAt servers i)
    (small : totalWeight servers < 2 ^ 63) (visited : Nat) :
    InRange (∑ i ∈ Finset.range visited, weightAt servers i) := by
  rw [sum_range_weightAt]
  have low : 0 ≤ ∑ i ∈ (parties servers).filter (· < visited), weightAt servers i := by
    apply Finset.sum_nonneg
    intro i member
    exact nonneg i (Finset.mem_of_mem_filter i member)
  have high : ∑ i ∈ (parties servers).filter (· < visited), weightAt servers i ≤ totalWeight servers := by
    apply Finset.sum_le_sum_of_subset_of_nonneg (Finset.filter_subset _ _)
    intro i member _
    exact nonneg i member
  exact ⟨by omega, by omega⟩

theorem inRange_sum_of_single (single : (parties servers).card ≤ 1) (visited : Nat) :
    InRange (∑ i ∈ Finset.range visited, weightAt servers i) := by
  rw [sum_range_weightAt]
  have few : ((parties servers).filter (· < visited)).card ≤ 1 :=
    (Finset.card_le_card (Finset.filter_subset _ _)).trans single
  rcases Finset.card_le_one_iff_subset_singleton.mp few with ⟨i, inside⟩
  rcases Finset.subset_singleton_iff.mp inside with empty | only
  · rw [empty, Finset.sum_empty]
    exact inRange_zero
  · rw [only, Finset.sum_singleton]
    exact inRange_weightAt servers i

end Sums

section Runs

variable {servers : List (Option Weighted)}

/-- Servers with these weights, positive or not, none of which was chosen yet. -/
structure Untouched (servers : List (Option Weighted)) : Prop where
  steady : Steady servers
  unused : ∀ w, some w ∈ servers → w.currentWeight = 0

theorem present_of_mem (member : i ∈ parties servers) : ∃ w, some w ∈ servers := by
  obtain ⟨w, found⟩ := mem_parties.mp member
  exact ⟨w, mem_of_entry found⟩

/-- The sums of the loop are the same in each call. -/
theorem Untouched.noOverflow_iff (untouched : Untouched servers) (calls : Nat) :
    NoOverflow (afterCalls servers calls) ↔
      Exact (afterCalls servers calls) ∧ ∀ visited, InRange (∑ i ∈ Finset.range visited, weightAt servers i) := by
  rw [(untouched.steady.after calls).noOverflow_iff, weightAt_afterCalls]

/-- Servers that have nothing between the calls stay in range. -/
theorem exact_of_idle (fits : ∀ i ∈ parties servers, InRange (weightAt servers i - totalWeight servers))
    (idle : ∀ calls, (∀ call < calls, Exact (afterCalls servers call)) → ∀ i ∈ parties servers,
      currentAt (afterCalls servers calls) i = 0) (calls : Nat) : Exact (afterCalls servers calls) := by
  induction calls using Nat.strong_induction_on with
  | _ calls ih =>
    unfold Exact
    rw [parties_afterCalls, weightAt_afterCalls, totalWeight_afterCalls]
    constructor
    · intro i member
      rw [idle calls ih i member, zero_add]
      exact inRange_weightAt servers i
    · intro i chosen
      have member : i ∈ parties servers := by
        rw [← parties_afterCalls servers calls]
        exact mem_parties_of_chosen chosen
      rw [idle calls ih i member, zero_add]
      exact fits i member

/-- A server pays back what it has gained if there is no other. -/
theorem Untouched.exact_of_single (untouched : Untouched servers) (single : (parties servers).card ≤ 1) (calls : Nat) :
    Exact (afterCalls servers calls) := by
  have alone : ∀ i ∈ parties servers, parties servers = {i} := fun i member =>
    Finset.eq_singleton_iff_unique_mem.mpr ⟨member, fun j other => Finset.card_le_one.mp single j other i member⟩
  apply exact_of_idle
  · intro i member
    rw [totalWeight, alone i member, Finset.sum_singleton, sub_self]
    exact inRange_zero
  · intro calls stays i member
    have run := untouched.steady.turns untouched.unused (present_of_mem member) stays
    have sum := run.sum_current
    rwa [alone i member, Finset.sum_singleton] at sum

theorem Untouched.exact_of_zero (untouched : Untouched servers) (zero : ∀ i ∈ parties servers, weightAt servers i = 0)
    (calls : Nat) : Exact (afterCalls servers calls) := by
  have total : totalWeight servers = 0 := Finset.sum_eq_zero zero
  apply exact_of_idle
  · intro i member
    rw [zero i member, total]
    exact inRange_zero
  · intro calls stays i member
    have run := untouched.steady.turns untouched.unused (present_of_mem member) stays
    rw [run.current_eq member, ← totalWeight, total, zero i member]
    simp

theorem length_nextWeighted (servers : List (Option Weighted)) :
    (nextWeighted servers).2.length = servers.length := by
  unfold nextWeighted
  dsimp only
  split <;> simp

theorem length_afterCalls (servers : List (Option Weighted)) (calls : Nat) :
    (afterCalls servers calls).length = servers.length := by
  induction calls with
  | zero => rfl
  | succ calls ih => rw [afterCalls, length_nextWeighted, ih]

theorem Steady.entry_afterCalls (steady : Steady servers) (calls i : Nat) :
    ∃ current : Weighted → Int64, entry (afterCalls servers calls) i =
      (entry servers i).map fun w => { w with currentWeight := current w } := by
  induction calls with
  | zero => exact ⟨fun w => w.currentWeight, by simp [afterCalls]⟩
  | succ calls ih =>
    obtain ⟨current, before⟩ := ih
    obtain ⟨paid, after⟩ := entry_nextWeighted (afterCalls servers calls) i
    refine ⟨fun w => current w + w.weight - paid, ?_⟩
    rw [afterCalls, after]
    cases found : entry servers i with
    | none => rw [before, found]; rfl
    | some w =>
      rw [found, Option.map_some] at before
      rw [before, Option.map_some, Option.map_some, (steady.after calls).bump (mem_of_entry before)]
      rfl

theorem eq_of_entry_eq {others : List (Option Weighted)} (length : servers.length = others.length)
    (same : ∀ i, entry servers i = entry others i) : servers = others := by
  apply List.ext_getElem length
  intro i inside alsoInside
  have here := same i
  rw [entry, entry, List.getElem?_eq_getElem inside, List.getElem?_eq_getElem alsoInside] at here
  exact here

/-- After as many calls as the weights sum up to the servers are as they were. -/
theorem Untouched.afterCalls_total (untouched : Untouched servers)
    (nonneg : ∀ i ∈ parties servers, 0 ≤ weightAt servers i) (positive : 0 < totalWeight servers)
    (stays : ∀ call < (totalWeight servers).toNat, Exact (afterCalls servers call)) :
    afterCalls servers (totalWeight servers).toNat = servers := by
  have run := untouched.steady.turns untouched.unused (present_of_pos positive) stays
  have once : (((totalWeight servers).toNat : Nat) : Int) = (1 : Nat) * ∑ i ∈ parties servers, weightAt servers i := by
    rw [Int.toNat_of_nonneg positive.le, Nat.cast_one, one_mul, totalWeight]
  apply eq_of_entry_eq (length_afterCalls servers _)
  intro i
  obtain ⟨current, after⟩ := untouched.steady.entry_afterCalls (totalWeight servers).toNat i
  rw [after]
  cases found : entry servers i with
  | none => rfl
  | some w =>
    have settled := run.current_eq_zero nonneg positive once (mem_parties.mpr ⟨w, found⟩)
    rw [currentAt, after, found] at settled
    have zero : current w = 0 := Int64.toInt_inj.mp settled
    rw [Option.map_some, zero, ← untouched.unused w (mem_of_entry found)]

theorem afterCalls_add (servers : List (Option Weighted)) (calls more : Nat) :
    afterCalls servers (calls + more) = afterCalls (afterCalls servers calls) more := by
  induction more with
  | zero => rfl
  | succ more ih => rw [← Nat.add_assoc, afterCalls, ih, afterCalls]

/-- Calls that come back to where they began go on as they began. -/
theorem afterCalls_mod (returns : afterCalls servers period = servers) (calls : Nat) :
    afterCalls servers calls = afterCalls servers (calls % period) := by
  have rounds : ∀ n, afterCalls servers (period * n) = servers := by
    intro n
    induction n with
    | zero => rfl
    | succ n ih => rw [Nat.mul_succ, afterCalls_add, ih, returns]
  conv => lhs; rw [← Nat.div_add_mod calls period, afterCalls_add, rounds]

/-- The first round decides about all calls. -/
theorem Untouched.exact_of_round (untouched : Untouched servers)
    (nonneg : ∀ i ∈ parties servers, 0 ≤ weightAt servers i)
    (stays : ∀ call < (totalWeight servers).toNat, Exact (afterCalls servers call)) (calls : Nat) :
    Exact (afterCalls servers calls) := by
  rcases (Finset.sum_nonneg nonneg).eq_or_lt with zero | positive
  · exact untouched.exact_of_zero ((Finset.sum_eq_zero_iff_of_nonneg nonneg).mp zero.symm) calls
  · rw [afterCalls_mod (untouched.afterCalls_total nonneg positive stays)]
    apply stays
    apply Nat.mod_lt
    change 0 < totalWeight servers at positive
    omega

/-- Among several servers a negative weight takes a current weight out of range in the end. -/
theorem Untouched.nonneg_of_exact (untouched : Untouched servers) (several : 1 < (parties servers).card)
    (stays : ∀ calls, Exact (afterCalls servers calls)) : ∀ i ∈ parties servers, 0 ≤ weightAt servers i := by
  intro i member
  have run (calls : Nat) := untouched.steady.turns untouched.unused (present_of_mem member)
    fun call (_ : call < calls) => stays call
  have bounded : ∀ calls, ∀ j ∈ parties servers, |currentAt (afterCalls servers calls) j| ≤ 2 ^ 63 := by
    intro calls j _
    obtain ⟨low, high⟩ := inRange_currentAt (afterCalls servers calls) j
    exact abs_le.mpr ⟨low, high.le⟩
  exact weight_nonneg_of_bounded run bounded several member

end Runs

section Servers

variable (servers : IterationOrder)

theorem untouched_createWeighted : Untouched (createWeighted servers) := by
  constructor <;>
  · intro w member
    obtain ⟨entry, -, same⟩ := List.mem_map.mp member
    cases same
    rfl

theorem entry_createWeighted (i : Nat) :
    entry (createWeighted servers) i =
      servers.entries[i]?.map fun entry => ⟨entry.1, weightOf entry.2, 0, weightOf entry.2⟩ := by
  rw [entry, createWeighted, List.getElem?_map]
  cases servers.entries[i]? <;> rfl

theorem card_parties_createWeighted : (parties (createWeighted servers)).card = servers.entries.length := by
  have all : parties (createWeighted servers) = Finset.range servers.entries.length := by
    ext i
    rw [mem_parties, ← Option.isSome_iff_exists, entry_createWeighted]
    simp
  rw [all, Finset.card_range]

/-- The weights of the servers are those of their metadata. -/
theorem exists_weightAt_iff (holds : Int → Prop) :
    (∃ i ∈ parties (createWeighted servers), holds (weightAt (createWeighted servers) i)) ↔
      ∃ entry ∈ servers.entries, holds (weightOf entry.2).toInt := by
  constructor
  · rintro ⟨i, member, held⟩
    obtain ⟨w, found⟩ := mem_parties.mp member
    rw [weightAt, found] at held
    rw [entry_createWeighted] at found
    obtain ⟨entry, listed, rfl⟩ := Option.map_eq_some_iff.mp found
    exact ⟨entry, List.mem_of_getElem? listed, held⟩
  · rintro ⟨entry, listed, held⟩
    obtain ⟨i, inside⟩ := List.mem_iff_getElem?.mp listed
    have found := entry_createWeighted servers i
    rw [inside, Option.map_some] at found
    refine ⟨i, mem_parties.mpr ⟨_, found⟩, ?_⟩
    rw [weightAt, found]
    exact held

theorem forall_weightAt_iff (holds : Int → Prop) :
    (∀ i ∈ parties (createWeighted servers), holds (weightAt (createWeighted servers) i)) ↔
      ∀ entry ∈ servers.entries, holds (weightOf entry.2).toInt := by
  have opposite := (exists_weightAt_iff servers fun weight => ¬ holds weight).not
  simpa only [not_exists, not_and, not_not] using opposite

/-- Small weights keep all calls in range. -/
theorem noOverflow_of_small (nonneg : ∀ entry ∈ servers.entries, 0 ≤ (weightOf entry.2).toInt)
    (small : servers.entries.length * totalWeight (createWeighted servers) < 2 ^ 63) (calls : Nat) :
    NoOverflow (afterCalls (createWeighted servers) calls) := by
  have untouched := untouched_createWeighted servers
  have fresh := fresh_createWeighted fun entry listed => Int64.le_iff_toInt_le.mpr (nonneg entry listed)
  have weights := (forall_weightAt_iff servers (0 ≤ ·)).mpr nonneg
  rw [untouched.noOverflow_iff]
  rcases (Finset.sum_nonneg weights).eq_or_lt with zero | positive
  · have total : totalWeight (createWeighted servers) = 0 := zero.symm
    refine ⟨untouched.exact_of_zero ((Finset.sum_eq_zero_iff_of_nonneg weights).mp total) calls, ?_⟩
    exact inRange_sum_of_nonneg weights (by rw [total]; decide)
  · have most := total_le_card_mul positive
    rw [card_parties_createWeighted] at most
    refine ⟨fresh.exact_of_small positive ?_ calls, inRange_sum_of_nonneg weights (most.trans_lt small)⟩
    rwa [createWeighted, List.length_map]

/-- While the calls stay in range, a server with a positive weight is chosen if there is one.
They stay in range for ever exactly if there is at most one server, or no weight is negative,
the sum of the weights is in range, and the first round stays in range; small weights do. -/
theorem createWeighted_in_range :
    (∀ calls, (∀ call ≤ calls, NoOverflow (afterCalls (createWeighted servers) call)) →
      (∃ entry ∈ servers.entries, 0 < (weightOf entry.2).toInt) →
      ∃ i, chosenAt (createWeighted servers) calls = some i ∧ 0 < weightAt (createWeighted servers) i) ∧
    ((∀ calls, NoOverflow (afterCalls (createWeighted servers) calls)) ↔
      servers.entries.length ≤ 1 ∨
      (∀ entry ∈ servers.entries, 0 ≤ (weightOf entry.2).toInt) ∧ totalWeight (createWeighted servers) < 2 ^ 63 ∧
        ∀ call < (totalWeight (createWeighted servers)).toNat, Exact (afterCalls (createWeighted servers) call)) ∧
    ((∀ entry ∈ servers.entries, 0 ≤ (weightOf entry.2).toInt) →
      servers.entries.length * totalWeight (createWeighted servers) < 2 ^ 63 →
      ∀ calls, NoOverflow (afterCalls (createWeighted servers) calls)) := by
  have untouched := untouched_createWeighted servers
  refine ⟨?_, ?_, noOverflow_of_small servers⟩
  · intro calls stays wanted
    simp only [untouched.noOverflow_iff] at stays
    obtain ⟨rich, member, gains⟩ := (exists_weightAt_iff servers (0 < ·)).mpr wanted
    have run := untouched.steady.turns untouched.unused (present_of_mem member)
      fun call (below : call < calls + 1) => (stays call (by omega)).1
    obtain ⟨i, chosen, -⟩ := run.turn calls (by omega)
    exact ⟨i, chosen, run.weight_pos ⟨rich, member, gains⟩ (Nat.lt_succ_self calls) chosen⟩
  · simp only [untouched.noOverflow_iff]
    rw [← forall_weightAt_iff servers (0 ≤ ·), ← card_parties_createWeighted servers]
    constructor
    · intro stays
      rcases Nat.lt_or_ge 1 (parties (createWeighted servers)).card with several | single
      · refine .inr ⟨untouched.nonneg_of_exact several fun calls => (stays calls).1, ?_, fun call _ => (stays call).1⟩
        rw [← sum_range_length]
        exact ((stays 0).2 _).2
      · exact .inl single
    · rintro (single | ⟨nonneg, small, round⟩) calls
      · exact ⟨untouched.exact_of_single single calls, inRange_sum_of_single single⟩
      · exact ⟨untouched.exact_of_round nonneg round calls, inRange_sum_of_nonneg nonneg small⟩

theorem createWeighted_in_range_sample :
    (∀ calls, NoOverflow (afterCalls (createWeighted sampleServers) calls)) ∧
      ∃ i, chosenAt (createWeighted sampleServers) 3 = some i ∧ 0 < weightAt (createWeighted sampleServers) i := by
  obtain ⟨prefers, -, small⟩ := createWeighted_in_range sampleServers
  have stays := small (by decide +kernel) (by decide +kernel)
  exact ⟨stays, prefers 3 (fun call _ => stays call) (by decide +kernel)⟩

/-- A server without a weight, and two with the largest weight there is. -/
def largeServers : IterationOrder :=
  ((AList.singleton (utf8 "tcp@c") (utf8 "weight=9223372036854775807")).insert (utf8 "tcp@b")
    (utf8 "weight=9223372036854775807")).insert (utf8 "tcp@a") (utf8 "weight=0")

/-- The sum of the weights wraps around, and the second call chooses the server without one. -/
theorem largeServers_wrap :
    ¬ NoOverflow (createWeighted largeServers) ∧ chosenAt (createWeighted largeServers) 1 = some 0 ∧
      weightAt (createWeighted largeServers) 0 = 0 ∧ 0 < weightAt (createWeighted largeServers) 1 := by
  have made : createWeighted largeServers = [some ⟨utf8 "tcp@a", 0, 0, 0⟩,
      some ⟨utf8 "tcp@b", Int64.maxValue, 0, Int64.maxValue⟩,
      some ⟨utf8 "tcp@c", Int64.maxValue, 0, Int64.maxValue⟩] := by
    decide +kernel
  rw [made]
  refine ⟨?_, by decide, by decide, by decide⟩
  intro stays
  have high := (stays.total 3).2
  revert high
  decide

end Servers

end Irpc.XClient
