import Irpc.Util.BufferPool

/-! The size classes of a buffer pool over whole runs. A request is rounded up to a class and
a buffer that comes back is rounded down to one; the last class has the largest size, which
need not be a doubling of the smallest. -/
namespace Irpc.Util.LimitedPool

open Irpc.Foundation

variable {pool next : LimitedPool} {minSize maxSize size index doublings : Nat}

section Rounding

theorem ceil_div (positive : 1 ≤ minSize) (size : Nat) :
    ⌈(size : ℝ) / minSize⌉₊ = (size + minSize - 1) / minSize := by
  have above : (0 : ℝ) < minSize := by exact_mod_cast positive
  apply eq_of_forall_ge_iff
  intro bound
  have covered : (size : ℝ) ≤ bound * minSize ↔ size ≤ minSize * bound := by
    rw [Nat.mul_comm]
    exact_mod_cast Iff.rfl
  rw [Nat.ceil_le, div_le_iff₀ above, covered, Nat.div_le_iff_le_mul_add_pred positive]
  omega

/-- The class for a request is `⌈log₂ (size / minSize)⌉`, or the first one. -/
theorem clog_eq_ceil_logb (positive : 1 ≤ minSize) (size : Nat) :
    (Nat.clog 2 ((size + minSize - 1) / minSize) : ℤ) = max 0 ⌈Real.logb 2 (size / minSize)⌉ := by
  have quotient : (0 : ℝ) ≤ size / minSize := by positivity
  have base : Real.logb 2 (size / minSize : ℝ) = Real.logb (2 : ℕ) (size / minSize : ℝ) := by norm_num
  rw [← ceil_div positive, base, Real.ceil_logb_natCast quotient]
  rcases le_total 1 ((size : ℝ) / minSize) with large | small
  · rw [Int.clog_of_one_le_right 2 large, max_eq_right (Int.natCast_nonneg _)]
  · have first : ⌈(size : ℝ) / minSize⌉₊ ≤ 1 := Nat.ceil_le.mpr (by exact_mod_cast small)
    rw [Int.clog_of_right_le_one 2 small, Nat.clog_of_right_le_one first, max_eq_left (by simp)]
    rfl

/-- The class for a buffer that comes back is `⌊log₂ (size / minSize)⌋`. -/
theorem log_eq_floor_logb (positive : 1 ≤ minSize) (large : minSize ≤ size) :
    (Nat.log 2 (size / minSize) : ℤ) = ⌊Real.logb 2 (size / minSize)⌋ := by
  have above : (0 : ℝ) < minSize := by exact_mod_cast positive
  have quotient : 1 ≤ (size : ℝ) / minSize := by
    rw [one_le_div above]
    exact_mod_cast large
  have base : Real.logb 2 (size / minSize : ℝ) = Real.logb (2 : ℕ) (size / minSize : ℝ) := by norm_num
  rw [base, Real.floor_logb_natCast (zero_le_one.trans quotient), Int.log_of_one_le_right 2 quotient,
    Nat.floor_div_eq_div]

end Rounding

/-- The classes of a pool reach up to the largest size. -/
structure Covers (minSize maxSize : Nat) (pool : LimitedPool) : Prop where
  smallest : pool.minSize = minSize
  largest : pool.maxSize = maxSize
  enough : ∃ last, pool.pools.length = last + 1 ∧ maxSize ≤ minSize * 2 ^ last

theorem length_levelSizes (enough : maxSize ≤ size * 2 ^ doublings) :
    ∃ last, (levelSizes maxSize doublings size).length = last + 1 ∧ maxSize ≤ size * 2 ^ last := by
  induction doublings generalizing size with
  | zero => exact ⟨0, rfl, enough⟩
  | succ doublings ih =>
    rw [levelSizes]
    split
    case isTrue below =>
      rw [mul_two_pow_succ] at enough
      obtain ⟨last, length, reached⟩ := ih enough
      refine ⟨last + 1, by rw [List.length_cons, length], ?_⟩
      rwa [mul_two_pow_succ]
    case isFalse reached => exact ⟨0, rfl, by omega⟩

theorem covers_withLevels (positive : 1 ≤ minSize) (maxSize : Nat) :
    (withLevels minSize maxSize).Covers minSize maxSize := by
  refine ⟨rfl, rfl, ?_⟩
  simpa [withLevels] using length_levelSizes (le_mul_two_pow positive maxSize)

theorem Covers.step (covers : pool.Covers minSize maxSize) (moved : pool.step event = some next) :
    next.Covers minSize maxSize := by
  obtain ⟨smallest, largest, enough⟩ := covers
  cases event with
  | get size pick =>
    obtain ⟨⟨buffer, after⟩, taken, rfl⟩ := Option.map_eq_some_iff.mp moved
    unfold LimitedPool.get at taken
    split at taken
    · cases taken
      exact ⟨smallest, largest, enough⟩
    · obtain ⟨data, -, same⟩ := Option.map_eq_some_iff.mp taken
      cases same
      exact ⟨smallest, largest, by simpa using enough⟩
  | put buffer =>
    cases moved
    unfold LimitedPool.put
    split
    · exact ⟨smallest, largest, enough⟩
    · exact ⟨smallest, largest, by simpa using enough⟩

theorem covers_of_reachable (positive : 1 ≤ minSize) (reachable : (system minSize maxSize).Reachable pool) :
    pool.Covers minSize maxSize := by
  refine reachable.invariant ?_ fun _ _ _ covers _ moved => covers.step moved
  intro pool made
  obtain ⟨-, same⟩ := Option.ite_none_left_eq_some.mp made
  cases same
  exact covers_withLevels positive maxSize

theorem Covers.findPool (covers : pool.Covers minSize maxSize) (positive : 1 ≤ minSize) (within : size ≤ maxSize) :
    ∃ index level, pool.findPool size = some index ∧ pool.pools[index]? = some level ∧
      (index : ℤ) = max 0 ⌈Real.logb 2 (size / minSize)⌉ := by
  obtain ⟨smallest, largest, last, length, reached⟩ := covers
  have rounded : (size + minSize - 1) / minSize ≤ 2 ^ last := by
    rw [Nat.div_le_iff_le_mul_add_pred positive]
    omega
  have inside : Nat.clog 2 ((size + minSize - 1) / minSize) < pool.pools.length := by
    rw [length]
    exact Nat.lt_succ_of_le (Nat.clog_le_of_le_pow rounded)
  refine ⟨_, _, ?_, List.getElem?_eq_getElem inside, clog_eq_ceil_logb positive size⟩
  simp only [LimitedPool.findPool, largest, smallest, Nat.not_lt.mpr within, if_false, inside, if_true]

/-- A buffer that comes back is rounded down. -/
theorem Covers.findPutPool (covers : pool.Covers minSize maxSize) (positive : 1 ≤ minSize)
    (chosen : pool.findPutPool size = some index) : (index : ℤ) = ⌊Real.logb 2 (size / minSize)⌋ := by
  obtain ⟨large, rfl⟩ := findPutPool_eq_some chosen
  rw [covers.smallest] at large ⊢
  exact log_eq_floor_logb positive large

/-- In every state of a pool the buffers of a class are as large as the class, a request is
rounded up to a class that is large enough, a buffer that comes back is rounded down to one, and
`Get` returns a buffer of the length it was asked for. -/
theorem size_classes_kept (positive : 1 ≤ minSize)
    (reachable : (system minSize maxSize).Reachable pool) :
    (∀ level ∈ pool.pools, ∀ buffer ∈ level.pool, level.size ≤ buffer.cap) ∧
    (∀ size, 1 ≤ size → size ≤ maxSize → ∃ index level, pool.findPool size = some index ∧
      (index : ℤ) = max 0 ⌈Real.logb 2 (size / minSize)⌉ ∧ pool.pools[index]? = some level ∧
        size ≤ level.size) ∧
    (∀ size index, pool.findPutPool size = some index → (index : ℤ) = ⌊Real.logb 2 (size / minSize)⌋) ∧
    ∀ size pick, ∃ buffer next, pool.get size pick = some (buffer, next) ∧ buffer.len = size := by
  have valid := valid_of_reachable positive reachable
  have covers := covers_of_reachable positive reachable
  refine ⟨valid.fits, ?_, fun size index => covers.findPutPool positive, ?_⟩
  · intro size _ within
    obtain ⟨index, level, chosen, found, rounded⟩ := covers.findPool positive within
    exact ⟨index, level, chosen, rounded, found, valid.sized.findPool_fits chosen found⟩
  · intro size pick
    obtain ⟨buffer, next, taken, length, -⟩ := valid.get size pick
    exact ⟨buffer, next, taken, length⟩

/-- A foreign buffer of 1500 bytes goes to the class of 1200, and serves a request for 1100. -/
theorem size_classes_kept_foreign :
    ∃ pool, (system 300 2000).play (withLevels 300 2000) [.put (.make 1500)] = some pool ∧
      (pool.pools.map fun level => (level.size, level.pool.length)) = [(300, 0), (600, 0), (1200, 1), (2000, 0)] ∧
      ∃ buffer next, pool.get 1100 0 = some (buffer, next) ∧ buffer.len = 1100 := by
  have start : (system 300 2000).Reachable (withLevels 300 2000) := .start rfl
  have stored := start.step (.put (.make 1500)) trivial rfl
  exact ⟨_, rfl, by decide +kernel, (size_classes_kept (by decide) stored).2.2.2 1100 0⟩

end Irpc.Util.LimitedPool
