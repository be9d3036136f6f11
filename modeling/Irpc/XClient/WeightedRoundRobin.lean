import Irpc.Foundation.SmoothRobin
import Irpc.Protocol.Message
import Irpc.XClient.Discovery

/-! The selector that takes the servers in turn according to their weights. The weights are
machine integers, and sums that leave their range wrap around. -/
namespace Irpc.XClient

open Irpc.Foundation Irpc.Protocol

structure Weighted where
  server : Bytes
  weight : Int64
  currentWeight : Int64
  effectiveWeight : Int64
  deriving DecidableEq

/-- `strconv.Atoi`, with no result if it reports an error. -/
def atoi (text : Bytes) : Option Int64 :=
  let negative := text.head? = some 45
  let digits := if negative ∨ text.head? = some 43 then text.tail else text
  let size : Int := digits.foldl (fun size digit => size * 10 + (digit.toNat - 48)) 0
  let value := if negative then -size else size
  if digits ≠ [] ∧ (∀ digit ∈ digits, 48 ≤ digit ∧ digit ≤ 57) ∧ -2 ^ 63 ≤ value ∧ value < 2 ^ 63 then
    some (Int64.ofInt value)
  else none

/-- The weight of a server with this metadata: one, unless it says otherwise. -/
def weightOf (metadata : Bytes) : Int64 :=
  match parseQuery metadata with
  | none => 1
  | some values =>
    let ww := valuesGet values (utf8 "weight")
    if ww = [] then 1 else (atoi ww).getD 1

def createWeighted (servers : IterationOrder) : List (Option Weighted) :=
  servers.entries.map fun entry => some ⟨entry.1, weightOf entry.2, 0, weightOf entry.2⟩

namespace Weighted

def bump (w : Weighted) : Weighted :=
  { w with
    currentWeight := w.currentWeight + w.effectiveWeight
    effectiveWeight := if w.effectiveWeight < w.weight then w.effectiveWeight + 1 else w.effectiveWeight }

def pay (total : Int64) (w : Weighted) : Weighted := { w with currentWeight := w.currentWeight - total }

end Weighted

/-- The variables of the loop: `best` is kept with its current weight, which the loop does
not change any more. -/
structure Scan where
  total : Int64
  best : Option (Nat × Int64)

namespace Scan

def visit (scan : Scan) (i : Nat) (w : Weighted) : Scan where
  total := scan.total + w.effectiveWeight
  best :=
    match scan.best with
    | none => some (i, w.bump.currentWeight)
    | some best => if best.2 < w.bump.currentWeight then some (i, w.bump.currentWeight) else some best

/-- The loop from the server with this index on. -/
def run : Nat → Scan → List (Option Weighted) → Scan
  | _, scan, [] => scan
  | i, scan, none :: rest => run (i + 1) scan rest
  | i, scan, some w :: rest => run (i + 1) (scan.visit i w) rest

end Scan

/-- The index of the server that was chosen, and the servers afterwards. -/
def nextWeighted (servers : List (Option Weighted)) : Option Nat × List (Option Weighted) :=
  let scan := Scan.run 0 ⟨0, none⟩ servers
  let bumped := servers.map (Option.map Weighted.bump)
  match scan.best with
  | none => (none, bumped)
  | some best => (some best.1, bumped.modify best.1 (Option.map (Weighted.pay scan.total)))

def afterCalls (servers : List (Option Weighted)) : Nat → List (Option Weighted)
  | 0 => servers
  | calls + 1 => (nextWeighted (afterCalls servers calls)).2

/-- What a call chooses that has so many others before it. -/
def chosenAt (servers : List (Option Weighted)) (calls : Nat) : Option Nat :=
  (nextWeighted (afterCalls servers calls)).1

namespace Scan

/-- The loop sums up the weights, modulo the size of an integer. -/
theorem total_run (servers : List (Option Weighted)) (i : Nat) (scan : Scan) :
    (run i scan servers).total =
      scan.total + Int64.ofInt (servers.map fun w => (w.map (·.effectiveWeight.toInt)).getD 0).sum := by
  induction servers generalizing i scan with
  | nil => simp [run]
  | cons w rest ih =>
    cases w with
    | none => simp [run, ih]
    | some w => simp [run, ih, visit, Int64.add_assoc]

theorem best_visit (scan : Scan) (i : Nat) (w : Weighted) :
    ∃ best, (scan.visit i w).best = some best ∧ (best = (i, w.bump.currentWeight) ∨ scan.best = some best) ∧
      w.bump.currentWeight ≤ best.2 ∧ ∀ earlier ∈ scan.best, earlier.2 ≤ best.2 := by
  unfold visit
  cases found : scan.best with
  | none => exact ⟨_, rfl, .inl rfl, Int64.le_refl _, by simp⟩
  | some earlier =>
    dsimp only
    split
    case isTrue less =>
      refine ⟨_, rfl, .inl rfl, Int64.le_refl _, ?_⟩
      rintro _ ⟨⟩
      exact Int64.le_of_lt less
    case isFalse most =>
      refine ⟨_, rfl, .inr rfl, Int64.not_lt.mp most, ?_⟩
      rintro _ ⟨⟩
      exact Int64.le_refl _

/-- The loop ends with one of the servers that have the most. -/
theorem best_run {best : Nat × Int64} (servers : List (Option Weighted)) (i : Nat) (scan : Scan)
    (found : (run i scan servers).best = some best) :
    (scan.best = some best ∨ ∃ offset w, servers[offset]? = some (some w) ∧
      best = (i + offset, w.bump.currentWeight)) ∧
    (∀ earlier ∈ scan.best, earlier.2 ≤ best.2) ∧ ∀ w, some w ∈ servers → w.bump.currentWeight ≤ best.2 := by
  induction servers generalizing i scan with
  | nil =>
    refine ⟨.inl found, ?_, by simp⟩
    intro earlier member
    cases member.symm.trans found
    exact Int64.le_refl _
  | cons first rest ih =>
    cases first with
    | none =>
      obtain ⟨origin, earlier, greatest⟩ := ih (i + 1) scan found
      refine ⟨origin.imp_right ?_, earlier, by simpa using greatest⟩
      rintro ⟨offset, w, listed, same⟩
      exact ⟨offset + 1, w, listed, by rw [same]; congr 1; omega⟩
    | some first =>
      obtain ⟨origin, before, greatest⟩ := ih (i + 1) (scan.visit i first) found
      obtain ⟨middle, visited, source, own, older⟩ := best_visit scan i first
      have above := before middle visited
      refine ⟨?_, fun earlier member => Int64.le_trans (older earlier member) above, ?_⟩
      · rcases origin with kept | ⟨offset, w, listed, same⟩
        · cases visited.symm.trans kept
          rcases source with same | old
          · exact .inr ⟨0, first, rfl, same⟩
          · exact .inl old
        · exact .inr ⟨offset + 1, w, listed, by rw [same]; congr 1; omega⟩
      · intro w member
        rcases List.mem_cons.mp member with same | later
        · cases same
          exact Int64.le_trans own above
        · exact greatest w later

theorem best_run_ne_none (servers : List (Option Weighted)) (i : Nat) (scan : Scan)
    (present : scan.best ≠ none ∨ ∃ w, some w ∈ servers) : (run i scan servers).best ≠ none := by
  induction servers generalizing i scan with
  | nil => exact present.resolve_right (by simp)
  | cons first rest ih =>
    cases first with
    | none => exact ih _ _ (present.imp_right (by simp))
    | some first =>
      obtain ⟨best, visited, _⟩ := best_visit scan i first
      exact ih _ _ (.inl (by simp [visited]))

end Scan

def entry (servers : List (Option Weighted)) (i : Nat) : Option Weighted := servers[i]?.join

def weightAt (servers : List (Option Weighted)) (i : Nat) : Int :=
  ((entry servers i).map (·.weight.toInt)).getD 0

def currentAt (servers : List (Option Weighted)) (i : Nat) : Int :=
  ((entry servers i).map (·.currentWeight.toInt)).getD 0

def parties (servers : List (Option Weighted)) : Finset Nat :=
  (Finset.range servers.length).filter fun i => (entry servers i).isSome

/-- The sum of the weights, which need not fit a machine integer. -/
def totalWeight (servers : List (Option Weighted)) : Int := ∑ i ∈ parties servers, weightAt servers i

/-- The range of a machine integer. -/
def InRange (value : Int) : Prop := -2 ^ 63 ≤ value ∧ value < 2 ^ 63

/-- The next call leaves no current weight out of range on its way. -/
def Exact (servers : List (Option Weighted)) : Prop :=
  (∀ i ∈ parties servers, InRange (currentAt servers i + weightAt servers i)) ∧
    ∀ i ∈ (nextWeighted servers).1, InRange (currentAt servers i + weightAt servers i - totalWeight servers)

/-- Servers that have not failed: the weights in effect are the weights they came with. -/
def Steady (servers : List (Option Weighted)) : Prop :=
  ∀ w, some w ∈ servers → w.effectiveWeight = w.weight

section Entries

variable {servers : List (Option Weighted)}

theorem mem_parties : i ∈ parties servers ↔ ∃ w, entry servers i = some w := by
  rw [parties, Finset.mem_filter, Finset.mem_range, Option.isSome_iff_exists, and_iff_right_iff_imp]
  rintro ⟨w, found⟩
  by_contra beyond
  rw [entry, List.getElem?_eq_none (by omega)] at found
  cases found

theorem mem_of_entry (found : entry servers i = some w) : some w ∈ servers :=
  List.mem_of_getElem? (Option.join_eq_some_iff.mp found)

theorem entry_of_mem (member : some w ∈ servers) : ∃ i, entry servers i = some w := by
  obtain ⟨i, found⟩ := List.mem_iff_getElem?.mp member
  exact ⟨i, by rw [entry, found]; rfl⟩

theorem sum_map_range (value : Weighted → Int) (servers : List (Option Weighted)) :
    (servers.map fun w => (w.map value).getD 0).sum =
      ∑ i ∈ Finset.range servers.length, ((entry servers i).map value).getD 0 := by
  induction servers with
  | nil => rfl
  | cons first rest ih =>
    rw [List.map_cons, List.sum_cons, List.length_cons, Finset.sum_range_succ', add_comm, ih]
    rfl

theorem sum_map_eq (value : Weighted → Int) (servers : List (Option Weighted)) :
    (servers.map fun w => (w.map value).getD 0).sum =
      ∑ i ∈ parties servers, ((entry servers i).map value).getD 0 := by
  rw [sum_map_range]
  symm
  refine Finset.sum_filter_of_ne ?_
  intro i _ counts
  by_contra absent
  rw [Option.not_isSome_iff_eq_none.mp absent] at counts
  exact counts rfl

/-- What a call does: one of the servers that have the most pays. -/
theorem nextWeighted_eq (present : ∃ w, some w ∈ servers) :
    ∃ i w total, entry servers i = some w ∧ (∀ v, some v ∈ servers → v.bump.currentWeight ≤ w.bump.currentWeight) ∧
      total = Int64.ofInt (servers.map fun w => (w.map (·.effectiveWeight.toInt)).getD 0).sum ∧
      nextWeighted servers =
        (some i, (servers.map (Option.map Weighted.bump)).modify i (Option.map (Weighted.pay total))) := by
  obtain ⟨best, found⟩ := Option.ne_none_iff_exists'.mp (Scan.best_run_ne_none servers 0 ⟨0, none⟩ (.inr present))
  obtain ⟨origin, _, greatest⟩ := Scan.best_run servers 0 ⟨0, none⟩ found
  obtain ⟨offset, w, listed, rfl⟩ := origin.resolve_left nofun
  have total := Scan.total_run servers 0 ⟨0, none⟩
  rw [Int64.zero_add] at total
  refine ⟨offset, w, _, by rw [entry, listed]; rfl, greatest, rfl, ?_⟩
  unfold nextWeighted
  dsimp only
  rw [found, total, Nat.zero_add]

theorem mem_parties_of_chosen (chosen : (nextWeighted servers).1 = some i) : i ∈ parties servers := by
  unfold nextWeighted at chosen
  dsimp only at chosen
  split at chosen
  · cases chosen
  case h_2 best found =>
    cases chosen
    obtain ⟨offset, w, listed, rfl⟩ := (Scan.best_run servers 0 ⟨0, none⟩ found).1.resolve_left nofun
    exact mem_parties.mpr ⟨w, by rw [entry, Nat.zero_add, listed]; rfl⟩

theorem entry_map (change : Weighted → Weighted) (servers : List (Option Weighted)) (i : Nat) :
    entry (servers.map (Option.map change)) i = (entry servers i).map change := by
  unfold entry
  rw [List.getElem?_map]
  rcases servers[i]? with _ | _ | _ <;> rfl

theorem entry_modify (change : Weighted → Weighted) (servers : List (Option Weighted)) (i j : Nat) :
    entry (servers.modify j (Option.map change)) i =
      (entry servers i).map fun w => if i = j then change w else w := by
  unfold entry
  rw [List.getElem?_modify]
  by_cases same : j = i
  · subst same
    rcases servers[j]? with _ | _ | _ <;> simp
  · rcases servers[i]? with _ | _ | _ <;> simp [same, Ne.symm same]

/-- What is left of a server by a call that takes `paid` of its current weight. -/
theorem entry_nextWeighted (servers : List (Option Weighted)) (i : Nat) :
    ∃ paid, entry (nextWeighted servers).2 i = (entry servers i).map fun w => w.bump.pay paid := by
  have nothing (w : Weighted) : w.pay 0 = w := by simp [Weighted.pay]
  unfold nextWeighted
  dsimp only
  split
  · exact ⟨0, by simp [entry_map, nothing]⟩
  case h_2 best _ =>
    refine ⟨if i = best.1 then (Scan.run 0 ⟨0, none⟩ servers).total else 0, ?_⟩
    rw [entry_modify, entry_map, Option.map_map]
    congr 1
    funext w
    dsimp only [Function.comp_apply]
    split
    · rfl
    · exact (nothing _).symm

theorem parties_nextWeighted (servers : List (Option Weighted)) :
    parties (nextWeighted servers).2 = parties servers := by
  ext i
  obtain ⟨paid, same⟩ := entry_nextWeighted servers i
  simp [mem_parties, same]

theorem weightAt_nextWeighted (servers : List (Option Weighted)) :
    weightAt (nextWeighted servers).2 = weightAt servers := by
  funext i
  obtain ⟨paid, same⟩ := entry_nextWeighted servers i
  rw [weightAt, same, Option.map_map]
  rfl

theorem Steady.bump (steady : Steady servers) (member : some w ∈ servers) :
    w.bump = { w with currentWeight := w.currentWeight + w.weight } := by
  have same := steady w member
  simp [Weighted.bump, same]

theorem Steady.next (steady : Steady servers) : Steady (nextWeighted servers).2 := by
  intro after member
  obtain ⟨i, found⟩ := entry_of_mem member
  obtain ⟨paid, same⟩ := entry_nextWeighted servers i
  obtain ⟨w, before, rfl⟩ := Option.map_eq_some_iff.mp (same.symm.trans found)
  have listed := mem_of_entry before
  rw [steady.bump listed]
  exact steady w listed

theorem toInt_add_eq {x y : Int64} (fits : InRange (x.toInt + y.toInt)) : (x + y).toInt = x.toInt + y.toInt := by
  rw [Int64.toInt_add]
  exact Int.bmod_eq_of_le fits.1 fits.2

/-- Only the difference has to fit. -/
theorem toInt_sub_ofInt {x : Int64} {total : Int} (fits : InRange (x.toInt - total)) :
    (x - Int64.ofInt total).toInt = x.toInt - total := by
  rw [Int64.toInt_sub, Int64.toInt_ofInt]
  exact Int.sub_bmod_bmod.trans (Int.bmod_eq_of_le fits.1 fits.2)

theorem Steady.sum_effective (steady : Steady servers) :
    (servers.map fun w => (w.map (·.effectiveWeight.toInt)).getD 0).sum = totalWeight servers := by
  rw [sum_map_eq]
  refine Finset.sum_congr rfl ?_
  intro i member
  obtain ⟨w, found⟩ := mem_parties.mp member
  rw [weightAt, found]
  exact congrArg Int64.toInt (steady w (mem_of_entry found))

theorem Steady.toInt_bump (steady : Steady servers)
    (fits : ∀ i ∈ parties servers, InRange (currentAt servers i + weightAt servers i))
    (found : entry servers i = some w) : w.bump.currentWeight.toInt = currentAt servers i + weightAt servers i := by
  have fits := fits i (mem_parties.mpr ⟨w, found⟩)
  rw [steady.bump (mem_of_entry found)]
  rw [currentAt, weightAt, found] at fits ⊢
  exact toInt_add_eq fits

/-- If no sum leaves the range, the server that is chosen has the most. -/
theorem Steady.greatest (steady : Steady servers)
    (fits : ∀ i ∈ parties servers, InRange (currentAt servers i + weightAt servers i))
    (chosen : (nextWeighted servers).1 = some i) (member : other ∈ parties servers) :
    currentAt servers other + weightAt servers other ≤ currentAt servers i + weightAt servers i := by
  obtain ⟨v, listed⟩ := mem_parties.mp member
  obtain ⟨j, w, total, found, greatest, _, called⟩ := nextWeighted_eq ⟨v, mem_of_entry listed⟩
  rw [called] at chosen
  cases chosen
  rw [← steady.toInt_bump fits listed, ← steady.toInt_bump fits found]
  exact Int64.le_iff_toInt_le.mp (greatest v (mem_of_entry listed))

/-- A call that stays in range is a turn of smooth weighted round robin. -/
theorem nextWeighted_turn (steady : Steady servers) (stays : Exact servers) (present : ∃ w, some w ∈ servers) :
    ∃ i, (nextWeighted servers).1 = some i ∧
      Turn (parties servers) (weightAt servers) (currentAt servers) i (currentAt (nextWeighted servers).2) := by
  obtain ⟨i, w, total, found, _, sum, called⟩ := nextWeighted_eq present
  rw [steady.sum_effective] at sum
  have chosen : (nextWeighted servers).1 = some i := by rw [called]
  refine ⟨i, chosen, mem_parties.mpr ⟨w, found⟩, fun other => steady.greatest stays.1 chosen, ?_⟩
  intro party member
  obtain ⟨v, listed⟩ := mem_parties.mp member
  have after : currentAt (nextWeighted servers).2 party =
      (if party = i then v.bump.pay total else v.bump).currentWeight.toInt := by
    rw [called, currentAt, entry_modify, entry_map, listed]
    rfl
  rw [after, ← steady.toInt_bump stays.1 listed]
  split
  case isTrue same =>
    have fits := stays.2 i chosen
    rw [← same, ← steady.toInt_bump stays.1 listed] at fits
    rw [sum]
    exact toInt_sub_ofInt fits
  case isFalse => rw [sub_zero]

end Entries

section Calls

variable {servers : List (Option Weighted)}

theorem parties_afterCalls (servers : List (Option Weighted)) (calls : Nat) :
    parties (afterCalls servers calls) = parties servers := by
  induction calls with
  | zero => rfl
  | succ calls ih => rw [afterCalls, parties_nextWeighted, ih]

theorem weightAt_afterCalls (servers : List (Option Weighted)) (calls : Nat) :
    weightAt (afterCalls servers calls) = weightAt servers := by
  induction calls with
  | zero => rfl
  | succ calls ih => rw [afterCalls, weightAt_nextWeighted, ih]

theorem totalWeight_afterCalls (servers : List (Option Weighted)) (calls : Nat) :
    totalWeight (afterCalls servers calls) = totalWeight servers := by
  rw [totalWeight, parties_afterCalls, weightAt_afterCalls, totalWeight]

theorem Steady.after (steady : Steady servers) (calls : Nat) : Steady (afterCalls servers calls) := by
  induction calls with
  | zero => exact steady
  | succ calls ih => exact ih.next

theorem present_afterCalls (present : ∃ w, some w ∈ servers) (calls : Nat) :
    ∃ w, some w ∈ afterCalls servers calls := by
  obtain ⟨w, listed⟩ := present
  obtain ⟨i, found⟩ := entry_of_mem listed
  have member : i ∈ parties (afterCalls servers calls) := by
    rw [parties_afterCalls]
    exact mem_parties.mpr ⟨w, found⟩
  obtain ⟨v, still⟩ := mem_parties.mp member
  exact ⟨v, mem_of_entry still⟩

/-- Servers with these weights, none of which was chosen yet. -/
structure Fresh (servers : List (Option Weighted)) : Prop where
  steady : Steady servers
  nonneg : ∀ w, some w ∈ servers → 0 ≤ w.weight
  unused : ∀ w, some w ∈ servers → w.currentWeight = 0

theorem Fresh.weightAt_nonneg (fresh : Fresh servers) (member : i ∈ parties servers) : 0 ≤ weightAt servers i := by
  obtain ⟨w, found⟩ := mem_parties.mp member
  rw [weightAt, found]
  exact Int64.le_iff_toInt_le.mp (fresh.nonneg w (mem_of_entry found))

/-- As long as they stay in range, the calls are turns of smooth weighted round robin. -/
theorem Steady.turns (steady : Steady servers) (unused : ∀ w, some w ∈ servers → w.currentWeight = 0)
    (present : ∃ w, some w ∈ servers) (stays : ∀ call < calls, Exact (afterCalls servers call)) :
    Turns (parties servers) (weightAt servers) calls (fun call => currentAt (afterCalls servers call))
      (chosenAt servers) := by
  refine ⟨?_, ?_⟩
  · intro party member
    obtain ⟨w, found⟩ := mem_parties.mp member
    simp [afterCalls, currentAt, found, unused w (mem_of_entry found)]
  · intro call below
    have turn := nextWeighted_turn (steady.after call) (stays call below) (present_afterCalls present call)
    rw [parties_afterCalls, weightAt_afterCalls] at turn
    exact turn

theorem present_of_pos (positive : 0 < totalWeight servers) : ∃ w, some w ∈ servers := by
  obtain ⟨i, member, _⟩ := Finset.exists_ne_zero_of_sum_ne_zero positive.ne'
  obtain ⟨w, found⟩ := mem_parties.mp member
  exact ⟨w, mem_of_entry found⟩

theorem card_parties_le (servers : List (Option Weighted)) : (parties servers).card ≤ servers.length :=
  (Finset.card_filter_le _ _).trans_eq (Finset.card_range _)

theorem total_le_card_mul (positive : 0 < totalWeight servers) :
    totalWeight servers ≤ (parties servers).card * totalWeight servers := by
  obtain ⟨w, listed⟩ := present_of_pos positive
  obtain ⟨i, found⟩ := entry_of_mem listed
  have several : 1 ≤ (parties servers).card := Finset.card_pos.mpr ⟨i, mem_parties.mpr ⟨w, found⟩⟩
  exact le_mul_of_one_le_left positive.le (by exact_mod_cast several)

/-- Small weights keep all calls in range. -/
theorem Fresh.exact_of_small (fresh : Fresh servers) (positive : 0 < totalWeight servers)
    (small : servers.length * totalWeight servers < 2 ^ 63) (call : Nat) : Exact (afterCalls servers call) := by
  induction call using Nat.strong_induction_on with
  | _ call ih =>
    have run := fresh.steady.turns fresh.unused (present_of_pos positive) ih
    have steady := fresh.steady.after call
    have nonneg : ∀ i ∈ parties servers, 0 ≤ weightAt servers i := fun i => fresh.weightAt_nonneg
    have total := total_le_card_mul positive
    have cards : (parties servers).card * totalWeight servers < 2 ^ 63 := by
      refine lt_of_le_of_lt (Int.mul_le_mul_of_nonneg_right ?_ positive.le) small
      exact_mod_cast card_parties_le servers
    have fits : ∀ i ∈ parties servers, InRange (currentAt (afterCalls servers call) i + weightAt servers i) := by
      intro i member
      have lower := run.neg_total_lt nonneg positive member
      have upper := run.current_le nonneg positive member
      have gained := nonneg i member
      have share : weightAt servers i ≤ totalWeight servers := Finset.single_le_sum nonneg member
      rw [sub_mul, one_mul] at upper
      dsimp only [totalWeight] at *
      exact ⟨by omega, by omega⟩
    unfold Exact
    rw [parties_afterCalls, weightAt_afterCalls, totalWeight_afterCalls]
    refine ⟨fits, ?_⟩
    intro i chosen
    have member : i ∈ parties servers := by
      rw [← parties_afterCalls servers call]
      exact mem_parties_of_chosen chosen
    have greatest : ∀ other ∈ parties servers,
        currentAt (afterCalls servers call) other + weightAt servers other ≤
          currentAt (afterCalls servers call) i + weightAt servers i := by
      intro other listed
      rw [← weightAt_afterCalls servers call]
      refine steady.greatest ?_ chosen ?_
      · rwa [parties_afterCalls, weightAt_afterCalls]
      · rwa [parties_afterCalls]
    -- The one that pays had more than nothing.
    have able := pos_of_greatest positive greatest run.sum_current
    have bounds := fits i member
    exact ⟨by omega, by have := bounds.2; omega⟩

/-- As long as the calls stay in range, the servers are chosen in proportion to their weights:
never too often, and exactly so in each round of as many calls as the weights sum up to. The
calls stay in range if the weights are small. -/
theorem nextWeighted_fair (fresh : Fresh servers) (positive : 0 < totalWeight servers) :
    (∀ calls, (∀ call < calls, Exact (afterCalls servers call)) →
      ∑ i ∈ parties servers, currentAt (afterCalls servers calls) i = 0 ∧
      ∀ i ∈ parties servers,
        -totalWeight servers < currentAt (afterCalls servers calls) i ∧
        currentAt (afterCalls servers calls) i =
          calls * weightAt servers i - totalWeight servers * timesChosen (chosenAt servers) i calls ∧
        timesChosen (chosenAt servers) i calls * totalWeight servers <
          calls * weightAt servers i + totalWeight servers ∧
        (weightAt servers i = 0 → timesChosen (chosenAt servers) i calls = 0)) ∧
    (∀ round, (∀ call < (round + 1) * (totalWeight servers).toNat, Exact (afterCalls servers call)) →
      ∀ i ∈ parties servers,
        (timesChosen (chosenAt servers) i ((round + 1) * (totalWeight servers).toNat) : Int) =
          timesChosen (chosenAt servers) i (round * (totalWeight servers).toNat) + weightAt servers i ∧
        currentAt (afterCalls servers ((round + 1) * (totalWeight servers).toNat)) i = 0) ∧
    (servers.length * totalWeight servers < 2 ^ 63 → ∀ call, Exact (afterCalls servers call)) := by
  have nonneg : ∀ i ∈ parties servers, 0 ≤ weightAt servers i := fun i => fresh.weightAt_nonneg
  refine ⟨?_, ?_, fresh.exact_of_small positive⟩
  · intro calls stays
    have run := fresh.steady.turns fresh.unused (present_of_pos positive) stays
    refine ⟨run.sum_current, fun i member => ?_⟩
    have bound := run.timesChosen_mul_lt nonneg positive member
    refine ⟨run.neg_total_lt nonneg positive member, run.current_eq member, bound, ?_⟩
    intro zero
    rw [zero, mul_zero, zero_add] at bound
    have few : (timesChosen (chosenAt servers) i calls : Int) < 1 := by
      by_contra often
      exact absurd bound (not_lt.mpr (le_mul_of_one_le_left positive.le (not_lt.mp often)))
    omega
  · intro round stays i member
    have run := fresh.steady.turns fresh.unused (present_of_pos positive) stays
    have earlier := run.mono (k := round * (totalWeight servers).toNat) (Nat.mul_le_mul_right _ (by omega))
    have multiple (rounds : Nat) : ((rounds * (totalWeight servers).toNat : Nat) : Int) =
        rounds * ∑ other ∈ parties servers, weightAt servers other := by
      rw [Nat.cast_mul, Int.toNat_of_nonneg positive.le]
      rfl
    refine ⟨?_, run.current_eq_zero nonneg positive (multiple _) member⟩
    rw [run.timesChosen_eq nonneg positive (multiple _) member,
      earlier.timesChosen_eq nonneg positive (multiple _) member]
    push_cast
    ring

/-- Servers come fresh from their metadata, unless it asks for a negative weight. -/
theorem fresh_createWeighted {servers : IterationOrder} (nonneg : ∀ entry ∈ servers.entries, 0 ≤ weightOf entry.2) :
    Fresh (createWeighted servers) := by
  have made : ∀ w, some w ∈ createWeighted servers →
      ∃ entry ∈ servers.entries, w = ⟨entry.1, weightOf entry.2, 0, weightOf entry.2⟩ := by
    intro w member
    obtain ⟨entry, listed, same⟩ := List.mem_map.mp member
    exact ⟨entry, listed, (Option.some.inj same).symm⟩
  refine ⟨?_, ?_, ?_⟩ <;> intro w member <;> obtain ⟨entry, listed, rfl⟩ := made w member
  · rfl
  · exact nonneg entry listed
  · rfl

/-- Two servers without a weight, and one with the weight five. -/
def sampleServers : IterationOrder :=
  ((AList.singleton (utf8 "tcp@c") []).insert (utf8 "tcp@b") []).insert (utf8 "tcp@a") (utf8 "weight=5")

theorem nextWeighted_fair_sample :
    totalWeight (createWeighted sampleServers) = 7 ∧
      (timesChosen (chosenAt (createWeighted sampleServers)) 0 7 : Int) = 5 ∧
      currentAt (afterCalls (createWeighted sampleServers) 7) 0 = 0 := by
  have total : totalWeight (createWeighted sampleServers) = 7 := by decide +kernel
  have fresh : Fresh (createWeighted sampleServers) := fresh_createWeighted (by decide +kernel)
  obtain ⟨-, rounds, small⟩ := nextWeighted_fair fresh (by rw [total]; decide)
  rw [total] at rounds small
  have stays := small (by decide)
  have weight : weightAt (createWeighted sampleServers) 0 = 5 := by decide +kernel
  obtain ⟨chosen, current⟩ := rounds 0 (fun call _ => stays call) 0 (by decide +kernel)
  rw [weight, show (0 + 1) * (7 : Int).toNat = 7 from rfl, Nat.zero_mul, timesChosen_zero] at chosen
  exact ⟨total, chosen, current⟩

def heavyServers : List (Option Weighted) :=
  List.replicate 3 (some ⟨utf8 "tcp@a", Int64.maxValue, 0, Int64.maxValue⟩)

/-- The sums wrap around, and the current weights do not add up to zero any more. -/
theorem heavyServers_unfair :
    Fresh heavyServers ∧ 0 < totalWeight heavyServers ∧
      ∑ i ∈ parties heavyServers, currentAt (afterCalls heavyServers 1) i ≠ 0 := by
  refine ⟨⟨?_, ?_, ?_⟩, by decide, by decide⟩ <;> intro w member <;>
    cases Option.some.inj (List.eq_of_mem_replicate member) <;> decide

end Calls

end Irpc.XClient
