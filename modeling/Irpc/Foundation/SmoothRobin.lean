import Mathlib

/-! Smooth weighted round robin among finitely many parties. In each turn every party gains
its weight, and one that then has the most pays the total of all weights. -/
namespace Irpc.Foundation

variable {ι : Type*} [DecidableEq ι] {parties : Finset ι} {weight : ι → ℤ}

/-- One turn. Which of several parties with the most is chosen does not matter. -/
structure Turn (parties : Finset ι) (weight current : ι → ℤ) (chosen : ι) (next : ι → ℤ) : Prop where
  member : chosen ∈ parties
  greatest : ∀ other ∈ parties, current other + weight other ≤ current chosen + weight chosen
  paid : ∀ party ∈ parties,
    next party = current party + weight party - if party = chosen then ∑ other ∈ parties, weight other else 0

/-- So many turns in a row, from where nobody has anything. -/
structure Turns (parties : Finset ι) (weight : ι → ℤ) (turns : ℕ) (current : ℕ → ι → ℤ) (chosen : ℕ → Option ι) :
    Prop where
  start : ∀ party ∈ parties, current 0 party = 0
  turn : ∀ k < turns, ∃ party, chosen k = some party ∧ Turn parties weight (current k) party (current (k + 1))

/-- How often a party was chosen in the first turns. -/
def timesChosen (chosen : ℕ → Option ι) (party : ι) (turns : ℕ) : ℕ :=
  Nat.count (fun k => chosen k = some party) turns

variable {turns : ℕ} {current : ℕ → ι → ℤ} {chosen : ℕ → Option ι}

theorem timesChosen_zero (chosen : ℕ → Option ι) (party : ι) : timesChosen chosen party 0 = 0 := Nat.count_zero _

theorem timesChosen_succ (found : chosen turns = some winner) (party : ι) :
    timesChosen chosen party (turns + 1) = timesChosen chosen party turns + if party = winner then 1 else 0 := by
  unfold timesChosen
  rw [Nat.count_succ, found]
  simp only [Option.some.injEq, eq_comm]

theorem Turns.mono (run : Turns parties weight turns current chosen) (fewer : k ≤ turns) :
    Turns parties weight k current chosen :=
  ⟨run.start, fun j below => run.turn j (by omega)⟩

/-- What a party has is what it gained, less what it paid. -/
theorem Turns.current_eq (run : Turns parties weight turns current chosen) (member : party ∈ parties) :
    current turns party =
      turns * weight party - (∑ other ∈ parties, weight other) * timesChosen chosen party turns := by
  induction turns with
  | zero => simp [run.start party member, timesChosen_zero]
  | succ turns ih =>
    obtain ⟨winner, found, turn⟩ := run.turn turns (by omega)
    rw [turn.paid party member, ih (run.mono (by omega)), timesChosen_succ found]
    split <;> push_cast <;> ring

theorem Turns.sum_timesChosen (run : Turns parties weight turns current chosen) :
    ∑ party ∈ parties, timesChosen chosen party turns = turns := by
  induction turns with
  | zero => simp [timesChosen_zero]
  | succ turns ih =>
    obtain ⟨winner, found, turn⟩ := run.turn turns (by omega)
    simp only [timesChosen_succ found, Finset.sum_add_distrib, ih (run.mono (by omega)),
      Finset.sum_ite_eq', turn.member, if_true]

/-- What is paid in a turn is what is gained in it. -/
theorem Turns.sum_current (run : Turns parties weight turns current chosen) :
    ∑ party ∈ parties, current turns party = 0 := by
  have counted : ∑ party ∈ parties, (timesChosen chosen party turns : ℤ) = turns := by
    exact_mod_cast run.sum_timesChosen
  rw [Finset.sum_congr rfl fun party member => run.current_eq member, Finset.sum_sub_distrib,
    ← Finset.mul_sum, ← Finset.mul_sum, counted]
  ring

section Positive

variable (nonneg : ∀ party ∈ parties, 0 ≤ weight party) (positive : 0 < ∑ party ∈ parties, weight party)

omit [DecidableEq ι] in
include positive in
/-- A party that has the most has something to pay from. -/
theorem pos_of_greatest {before : ι → ℤ} {party : ι}
    (greatest : ∀ other ∈ parties, before other + weight other ≤ before party + weight party)
    (balanced : ∑ other ∈ parties, before other = 0) : 0 < before party + weight party := by
  by_contra poor
  have sum : ∑ other ∈ parties, (before other + weight other) ≤ 0 := by
    apply Finset.sum_nonpos
    intro other member
    exact (greatest other member).trans (not_lt.mp poor)
  rw [Finset.sum_add_distrib, balanced] at sum
  omega

include nonneg positive in
/-- Nobody owes as much as the total of the weights. -/
theorem Turns.neg_total_lt (run : Turns parties weight turns current chosen) (member : party ∈ parties) :
    -∑ other ∈ parties, weight other < current turns party := by
  induction turns with
  | zero =>
    rw [run.start party member]
    omega
  | succ turns ih =>
    have earlier := run.mono (Nat.le_succ turns)
    obtain ⟨winner, found, turn⟩ := run.turn turns (by omega)
    have before := ih earlier
    have gained := nonneg party member
    rw [turn.paid party member]
    split
    case isTrue same =>
      have able := pos_of_greatest positive turn.greatest earlier.sum_current
      rw [← same] at able
      omega
    case isFalse => omega

include nonneg positive in
/-- Nobody is chosen too often at any time. -/
theorem Turns.timesChosen_mul_lt (run : Turns parties weight turns current chosen) (member : party ∈ parties) :
    timesChosen chosen party turns * ∑ other ∈ parties, weight other <
      turns * weight party + ∑ other ∈ parties, weight other := by
  have lower := run.neg_total_lt nonneg positive member
  rw [run.current_eq member] at lower
  linarith

include nonneg positive in
/-- Everybody was chosen in proportion to its weight when this comes out even. -/
theorem Turns.timesChosen_eq_share {share : ι → ℤ} (run : Turns parties weight turns current chosen)
    (even : ∀ other ∈ parties, turns * weight other = share other * ∑ other ∈ parties, weight other)
    (member : party ∈ parties) : (timesChosen chosen party turns : ℤ) = share party := by
  have most : ∀ other ∈ parties, (timesChosen chosen other turns : ℤ) ≤ share other := by
    intro other listed
    have bound := run.timesChosen_mul_lt nonneg positive listed
    have scaled : (timesChosen chosen other turns : ℤ) * ∑ other ∈ parties, weight other <
        (share other + 1) * ∑ other ∈ parties, weight other := by
      rw [even other listed] at bound
      linarith
    exact Int.lt_add_one_iff.mp (lt_of_mul_lt_mul_right scaled positive.le)
  have shares : ∑ other ∈ parties, share other = turns := by
    apply mul_right_cancel₀ positive.ne'
    rw [Finset.sum_mul, Finset.mul_sum]
    exact Finset.sum_congr rfl fun other listed => (even other listed).symm
  have sums : ∑ other ∈ parties, (timesChosen chosen other turns : ℤ) = ∑ other ∈ parties, share other := by
    rw [shares]
    exact_mod_cast run.sum_timesChosen
  exact (Finset.sum_eq_sum_iff_of_le most).mp sums party member

include nonneg positive in
theorem Turns.timesChosen_eq {rounds : ℕ} (run : Turns parties weight turns current chosen)
    (multiple : (turns : ℤ) = rounds * ∑ other ∈ parties, weight other) (member : party ∈ parties) :
    (timesChosen chosen party turns : ℤ) = rounds * weight party := by
  have even : ∀ other ∈ parties, turns * weight other = (rounds * weight other) * ∑ other ∈ parties, weight other := by
    intro other _
    rw [multiple]
    ring
  exact run.timesChosen_eq_share nonneg positive even member

include nonneg positive in
theorem Turns.current_eq_zero {rounds : ℕ} (run : Turns parties weight turns current chosen)
    (multiple : (turns : ℤ) = rounds * ∑ other ∈ parties, weight other) (member : party ∈ parties) :
    current turns party = 0 := by
  rw [run.current_eq member, run.timesChosen_eq nonneg positive multiple member, multiple]
  ring

include nonneg positive in
/-- Nobody has more than all the others owe. -/
theorem Turns.current_le (run : Turns parties weight turns current chosen) (member : party ∈ parties) :
    current turns party ≤ (parties.card - 1) * ∑ other ∈ parties, weight other := by
  have others : (parties.erase party).card • (-∑ other ∈ parties, weight other) ≤
      ∑ other ∈ parties.erase party, current turns other := by
    apply Finset.card_nsmul_le_sum
    intro other listed
    exact (run.neg_total_lt nonneg positive (Finset.mem_of_mem_erase listed)).le
  have sum := run.sum_current
  have card := Finset.card_erase_add_one member
  rw [← Finset.add_sum_erase parties (current turns) member] at sum
  rw [nsmul_eq_mul] at others
  have cast : ((parties.erase party).card : ℤ) = parties.card - 1 := by omega
  rw [cast] at others
  linarith

include nonneg positive in
/-- A party is chosen before it would have more than all can owe. -/
theorem Turns.exists_chosen {past count : ℕ} (run : Turns parties weight (past + count) current chosen)
    (member : party ∈ parties) (long : parties.card * ∑ other ∈ parties, weight other ≤ count * weight party) :
    ∃ k < count, chosen (past + k) = some party := by
  by_contra! never
  have same : timesChosen chosen party (past + count) = timesChosen chosen party past := by
    rw [timesChosen, Nat.count_add, Nat.count_iff_forall_not.mpr never, Nat.add_zero, timesChosen]
  have before := (run.mono (Nat.le_add_right past count)).neg_total_lt nonneg positive member
  have after := run.current_le nonneg positive member
  rw [(run.mono (Nat.le_add_right past count)).current_eq member] at before
  rw [run.current_eq member, same] at after
  push_cast at after
  linarith

end Positive

section AnyWeights

theorem Turns.current_of_unchosen (run : Turns parties weight turns current chosen) (member : party ∈ parties)
    (unchosen : ∀ k < turns, chosen k ≠ some party) : current turns party = turns * weight party := by
  have never : timesChosen chosen party turns = 0 := Nat.count_iff_forall_not.mpr fun k => unchosen k
  rw [run.current_eq member, never]
  simp

/-- If a party has a positive weight, only such parties are chosen. -/
theorem Turns.weight_pos (run : Turns parties weight turns current chosen)
    (wanted : ∃ party ∈ parties, 0 < weight party) (below : k < turns) (found : chosen k = some winner) :
    0 < weight winner := by
  induction k using Nat.strong_induction_on generalizing winner with
  | _ k ih =>
    have earlier := run.mono below.le
    obtain ⟨party, same, turn⟩ := run.turn k below
    obtain rfl : party = winner := Option.some.inj (same.symm.trans found)
    by_contra poor
    have unpaid : current k party = k * weight party := by
      apply earlier.current_of_unchosen turn.member
      intro j before again
      exact poor (ih j before (by omega) again)
    have nothing : current k party + weight party ≤ 0 := by
      rw [unpaid]
      nlinarith
    rcases lt_or_ge 0 (∑ other ∈ parties, weight other) with positive | owed
    · exact absurd (pos_of_greatest positive turn.greatest earlier.sum_current) (not_lt.mpr nothing)
    · -- here paying makes nobody poorer
      obtain ⟨rich, member, gains⟩ := wanted
      have most := turn.greatest rich member
      rw [earlier.current_eq member] at most
      have paid : (∑ other ∈ parties, weight other) * timesChosen chosen rich k ≤ 0 :=
        mul_nonpos_of_nonpos_of_nonneg owed (by positivity)
      have gained : 0 ≤ (k : ℤ) * weight rich := by positivity
      omega

/-- Where the total is negative, the first party that is chosen is chosen again and again. -/
theorem Turns.keeps_winning (run : Turns parties weight turns current chosen)
    (negative : ∑ party ∈ parties, weight party < 0) (first : chosen 0 = some winner) (below : k < turns) :
    chosen k = some winner := by
  induction k using Nat.strong_induction_on with
  | _ k ih =>
    have earlier := run.mono below.le
    obtain ⟨party, found, turn⟩ := run.turn k below
    obtain ⟨leader, alsoFirst, opening⟩ := run.turn 0 (by omega)
    obtain rfl : leader = winner := Option.some.inj (alsoFirst.symm.trans first)
    by_contra other
    have different : party ≠ leader := fun same => other (same ▸ found)
    have started : k ≠ 0 := by
      rintro rfl
      exact other first
    have always : timesChosen chosen leader k = k :=
      Nat.count_iff_forall.mpr fun j before => ih j before (by omega)
    have unpaid : current k party = k * weight party := by
      apply earlier.current_of_unchosen turn.member
      intro j before again
      exact different (Option.some.inj (again.symm.trans (ih j before (by omega))))
    have lighter := opening.greatest party turn.member
    rw [run.start party turn.member, run.start leader opening.member, zero_add, zero_add] at lighter
    have most := turn.greatest leader opening.member
    rw [earlier.current_eq opening.member, always, unpaid] at most
    have positive : (0 : ℤ) < k := by omega
    nlinarith

/-- What is repeated without falling below a bound is not negative. -/
theorem nonneg_of_mul_bounded {value : ℤ} (bound : ℤ) (bounded : ∀ k : ℕ, -bound ≤ k * value) : 0 ≤ value := by
  by_contra negative
  have often := bounded (bound.toNat + 1)
  have beyond : bound < ((bound.toNat + 1 : ℕ) : ℤ) := by omega
  nlinarith

/-- The total is not negative if there are several parties and what they have stays bounded. -/
theorem total_nonneg_of_bounded (run : ∀ turns, Turns parties weight turns current chosen)
    (bounded : ∀ turns, ∀ party ∈ parties, |current turns party| ≤ bound) (several : 1 < parties.card) :
    0 ≤ ∑ party ∈ parties, weight party := by
  by_contra negative
  obtain ⟨winner, first, opening⟩ := (run 1).turn 0 (by omega)
  have wins : ∀ k, chosen k = some winner := fun k =>
    (run (k + 1)).keeps_winning (not_le.mp negative) first (by omega)
  obtain ⟨other, member, different⟩ := Finset.exists_mem_ne several winner
  -- another party is never chosen, so its weight cannot be negative
  have gains : 0 ≤ weight other := by
    apply nonneg_of_mul_bounded bound
    intro k
    have unchosen : ∀ j < k, chosen j ≠ some other := fun j _ again =>
      different (Option.some.inj (again.symm.trans (wins j)))
    rw [← (run k).current_of_unchosen member unchosen]
    exact neg_le_of_abs_le (bounded k other member)
  have lighter := opening.greatest other member
  rw [(run 1).start other member, (run 1).start winner opening.member, zero_add, zero_add] at lighter
  -- the winner gains, and is paid for it
  have poor : 0 ≤ ∑ party ∈ parties, weight party - weight winner := by
    apply nonneg_of_mul_bounded bound
    intro k
    have always : timesChosen chosen winner k = k := Nat.count_iff_forall.mpr fun j _ => wins j
    have upper := le_of_abs_le (bounded k winner opening.member)
    rw [(run k).current_eq opening.member, always] at upper
    linarith
  omega

/-- Among several parties, nobody has a negative weight if what they have stays bounded. -/
theorem weight_nonneg_of_bounded (run : ∀ turns, Turns parties weight turns current chosen)
    (bounded : ∀ turns, ∀ party ∈ parties, |current turns party| ≤ bound) (several : 1 < parties.card)
    (member : party ∈ parties) : 0 ≤ weight party := by
  have total := total_nonneg_of_bounded run bounded several
  apply nonneg_of_mul_bounded bound
  intro k
  have lower := neg_le_of_abs_le (bounded k party member)
  rw [(run k).current_eq member] at lower
  have paid : 0 ≤ (∑ other ∈ parties, weight other) * timesChosen chosen party k := by positivity
  linarith

end AnyWeights

end Irpc.Foundation
