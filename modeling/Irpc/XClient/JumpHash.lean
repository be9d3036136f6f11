import Irpc.Foundation.Loop
import Mathlib

/-! The jump hash: a key jumps from bucket to bucket, always forwards, and stays in the last one
there is. -/
namespace Irpc.XClient

open Irpc.Foundation

structure Jump where
  b : Int64
  j : Int64
  key : UInt64

namespace Jump

/-- The jump from a bucket with a key. The source computes it with floating-point numbers. -/
abbrev Step := Int64 → UInt64 → Int64

/-- The quotient of the source without rounding, down to an integer. -/
def exactStep : Step := fun b key =>
  Int64.ofInt ((b.toInt + 1) * 2 ^ 31 / ((key >>> 33).toNat + 1))

def next (step : Step) (jump : Jump) : Jump :=
  let key := jump.key * 2862933555777941757 + 1
  ⟨jump.j, step jump.j key, key⟩

def turn (step : Step) (buckets : Int32) (jump : Jump) : LoopTurn Jump Int32 :=
  if jump.j < buckets.toInt64 then .again (jump.next step) else .ended jump.b.toInt32

def start (key : UInt64) : Jump := ⟨0, 0, key⟩

def hash (step : Step) (key : UInt64) (buckets : Int32) (fuel : Nat) : Option Int32 :=
  LoopTurn.run (turn step (if buckets ≤ 0 then 1 else buckets)) fuel (start key)

def Forward (step : Step) : Prop :=
  ∀ b key, 0 ≤ b.toInt → b.toInt < 2 ^ 31 → b.toInt + 1 ≤ (step b key).toInt

/-- The divisor has 31 bits. -/
theorem forward_exactStep : Forward exactStep := by
  intro b key low high
  have bits : (key >>> 33).toNat < 2 ^ 31 := by
    have size := key.toNat_lt
    rw [UInt64.toNat_shiftRight]
    change key.toNat >>> 33 < _
    rw [Nat.shiftRight_eq_div_pow]
    omega
  have divisor : (0 : Int) < (key >>> 33).toNat + 1 := by omega
  have lower : b.toInt + 1 ≤ (b.toInt + 1) * 2 ^ 31 / ((key >>> 33).toNat + 1) := by
    rw [Int.le_ediv_iff_mul_le divisor]
    exact Int.mul_le_mul_of_nonneg_left (by omega) (by omega)
  have upper : (b.toInt + 1) * 2 ^ 31 / ((key >>> 33).toNat + 1) ≤ (b.toInt + 1) * 2 ^ 31 :=
    Int.ediv_le_self _ (by omega)
  rw [exactStep, Int64.toInt_ofInt_of_le (by omega) (by omega)]
  exact lower

variable {step : Step} {buckets more : Int32} {jump : Jump}

/-- Before a turn the loop stands at a bucket there is, and goes on from a later one. -/
structure Within (buckets : Int32) (jump : Jump) : Prop where
  low : 0 ≤ jump.b.toInt
  high : jump.b.toInt < buckets.toInt
  ahead : 0 ≤ jump.j.toInt

theorem turn_of_lt (below : jump.j.toInt < buckets.toInt) : turn step buckets jump = .again (jump.next step) := by
  rw [turn, if_pos]
  rwa [Int64.lt_iff_toInt_lt, Int32.toInt_toInt64]

theorem turn_of_le (reached : buckets.toInt ≤ jump.j.toInt) : turn step buckets jump = .ended jump.b.toInt32 := by
  rw [turn, if_neg]
  rw [Int64.lt_iff_toInt_lt, Int32.toInt_toInt64]
  omega

theorem Within.next (within : jump.Within buckets) (forward : Forward step)
    (below : jump.j.toInt < buckets.toInt) :
    (jump.next step).Within buckets ∧ jump.j.toInt < (jump.next step).j.toInt := by
  have bound := buckets.toInt_lt
  have ahead := within.ahead
  have onward := forward jump.j (jump.key * 2862933555777941757 + 1) ahead (by omega)
  have later : jump.j.toInt < (jump.next step).j.toInt := by
    dsimp only [Jump.next]
    omega
  exact ⟨⟨ahead, below, by omega⟩, later⟩

theorem Within.toInt32 (within : jump.Within buckets) : jump.b.toInt32.toInt = jump.b.toInt := by
  have bound := buckets.toInt_lt
  have low := within.low
  have high := within.high
  rw [Int64.toInt_toInt32]
  exact Int.bmod_eq_of_le (by omega) (by omega)

theorem Within.ends (within : jump.Within buckets) (forward : Forward step) :
    ∃ result, LoopTurn.Ends (turn step buckets) jump result ∧ 0 ≤ result.toInt ∧ result.toInt < buckets.toInt := by
  -- on the distance to the last bucket, which every jump makes smaller
  induction distance : (buckets.toInt - jump.j.toInt).toNat using Nat.strong_induction_on generalizing jump with
  | _ distance ih =>
    by_cases below : jump.j.toInt < buckets.toInt
    · obtain ⟨still, later⟩ := within.next forward below
      obtain ⟨result, ended, bounds⟩ := ih _ (by omega) still rfl
      exact ⟨result, .later (turn_of_lt below) ended, bounds⟩
    · refine ⟨jump.b.toInt32, .now (turn_of_le (not_lt.mp below)), ?_⟩
      rw [within.toInt32]
      exact ⟨within.low, within.high⟩

/-- With one bucket more the loop takes the same way: it ends where it ended, or goes on to
the new bucket. -/
theorem Within.ends_both (within : jump.Within buckets) (forward : Forward step)
    (added : more.toInt = buckets.toInt + 1) :
    ∃ result moved, LoopTurn.Ends (turn step buckets) jump result ∧ LoopTurn.Ends (turn step more) jump moved ∧
      (moved = result ∨ moved = buckets) := by
  induction distance : (buckets.toInt - jump.j.toInt).toNat using Nat.strong_induction_on generalizing jump with
  | _ distance ih =>
    rcases lt_trichotomy jump.j.toInt buckets.toInt with below | exact | beyond
    · obtain ⟨still, later⟩ := within.next forward below
      obtain ⟨result, moved, ended, alsoEnded, same⟩ := ih _ (by omega) still rfl
      exact ⟨result, moved, .later (turn_of_lt below) ended,
        .later (turn_of_lt (by rw [added]; omega)) alsoEnded, same⟩
    · -- the new bucket is on the way
      have inside : jump.Within more := ⟨within.low, by rw [added]; exact within.high.trans (by omega), within.ahead⟩
      have below : jump.j.toInt < more.toInt := by omega
      obtain ⟨still, later⟩ := inside.next forward below
      refine ⟨jump.b.toInt32, (jump.next step).b.toInt32, .now (turn_of_le exact.ge),
        .later (turn_of_lt below) (.now (turn_of_le (by omega))), .inr ?_⟩
      apply Int32.toInt_inj.mp
      rw [still.toInt32]
      exact exact
    · exact ⟨jump.b.toInt32, jump.b.toInt32, .now (turn_of_le beyond.le), .now (turn_of_le (by omega)), .inl rfl⟩

def Returns (step : Step) (key : UInt64) (buckets result : Int32) : Prop :=
  ∃ enough, ∀ fuel, enough ≤ fuel → hash step key buckets fuel = some result

theorem returns_of_ends {key : UInt64} {result : Int32} (positive : 0 < buckets.toInt)
    (ended : LoopTurn.Ends (turn step buckets) (start key) result) : Returns step key buckets result := by
  have several : ¬ buckets ≤ 0 := by
    rw [Int32.le_iff_toInt_le, Int32.toInt_zero]
    omega
  obtain ⟨enough, ended⟩ := ended
  refine ⟨enough, fun fuel more => ?_⟩
  rw [hash, if_neg several]
  exact LoopTurn.run_of_le ended more

theorem within_start (positive : 0 < buckets.toInt) (key : UInt64) : (start key).Within buckets :=
  ⟨le_refl 0, positive, le_refl 0⟩

/-- With every step that leads forwards, among them the exact one, `Hash` returns a bucket
there is, and a new bucket takes keys from the others but moves none between them. -/
theorem hash_consistent :
    Forward exactStep ∧ ∀ step, Forward step → ∀ (key : UInt64) (buckets : Int32), 0 < buckets.toInt →
      (∃ result, Returns step key buckets result ∧ 0 ≤ result.toInt ∧ result.toInt < buckets.toInt) ∧
      ∀ more : Int32, more.toInt = buckets.toInt + 1 →
        ∃ result moved, Returns step key buckets result ∧ Returns step key more moved ∧
          (moved = result ∨ moved = buckets) := by
  refine ⟨forward_exactStep, fun step forward key buckets positive => ⟨?_, fun more added => ?_⟩⟩
  · obtain ⟨result, ended, bounds⟩ := (within_start positive key).ends forward
    exact ⟨result, returns_of_ends positive ended, bounds⟩
  · obtain ⟨result, moved, ended, alsoEnded, same⟩ := (within_start positive key).ends_both forward added
    exact ⟨result, moved, returns_of_ends positive ended, returns_of_ends (by omega) alsoEnded, same⟩

theorem hash_consistent_three :
    ∃ result moved, Returns exactStep 7 3 result ∧ Returns exactStep 7 4 moved ∧ (moved = result ∨ moved = 3) :=
  (hash_consistent.2 exactStep forward_exactStep 7 3 (by decide)).2 4 (by decide)

end Jump

end Irpc.XClient
