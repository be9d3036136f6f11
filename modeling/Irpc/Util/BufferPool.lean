import Irpc.Foundation.Bytes
import Irpc.Foundation.System

/-! Recycled byte buffers in size classes. Which stored buffer a pool hands
out, if any, is not determined by the source, so it is an argument here. -/
namespace Irpc.Util

open Irpc.Foundation

/-- One size class and the buffers given back to it. -/
structure LevelPool where
  size : Nat
  pool : List Slice

namespace LevelPool

def newLevelPool (size : Nat) : LevelPool := ⟨size, []⟩

/-- Take the stored buffer at `pick`, or allocate one of the class size. -/
def get (level : LevelPool) (pick : Nat) : Slice × LevelPool :=
  match level.pool[pick]? with
  | some buffer => (buffer, { level with pool := level.pool.eraseIdx pick })
  | none => (.make level.size, level)

def put (level : LevelPool) (buffer : Slice) : LevelPool :=
  { level with pool := buffer :: level.pool }

/-- Every stored buffer is as large as its class promises. -/
def Fits (level : LevelPool) : Prop := ∀ buffer ∈ level.pool, level.size ≤ buffer.cap

theorem fits_get (fits : Fits level) (pick : Nat) :
    level.size ≤ (level.get pick).1.cap ∧ Fits (level.get pick).2 ∧
      (level.get pick).2.size = level.size := by
  unfold get
  split
  · rename_i buffer found
    refine ⟨fits buffer (List.mem_of_getElem? found), ?_, rfl⟩
    intro other member
    exact fits other (List.mem_of_mem_eraseIdx member)
  · exact ⟨by simp, fits, rfl⟩

theorem fits_put (fits : Fits level) (room : level.size ≤ buffer.cap) : Fits (level.put buffer) := by
  intro other member
  rcases List.mem_cons.mp member with same | member
  · subst other
    exact room
  · exact fits other member

end LevelPool

structure LimitedPool where
  minSize : Nat
  maxSize : Nat
  pools : List LevelPool

namespace LimitedPool

/-- The class sizes: `size` doubled while it stays below the maximum, then the
maximum itself. The bound on the doublings is never reached for `1 ≤ size`. -/
def levelSizes (maxSize : Nat) : Nat → Nat → List Nat
  | 0, _ => [maxSize]
  | doublings + 1, size =>
    if size < maxSize then size :: levelSizes maxSize doublings (2 * size) else [maxSize]

def withLevels (minSize maxSize : Nat) : LimitedPool :=
  ⟨minSize, maxSize, (levelSizes maxSize maxSize minSize).map .newLevelPool⟩

/-- There is no pool where `NewLimitedPool` panics. -/
def newLimitedPool (minSize maxSize : Nat) : Option LimitedPool :=
  if maxSize < minSize then none else some (withLevels minSize maxSize)

/-- The class that serves `size`: `⌈log₂ (size / minSize)⌉`, at least zero. -/
def findPool (pool : LimitedPool) (size : Nat) : Option Nat :=
  if pool.maxSize < size then none
  else
    let index := Nat.clog 2 ((size + pool.minSize - 1) / pool.minSize)
    if index < pool.pools.length then some index else none

/-- The class a buffer goes back to: `⌊log₂ (size / minSize)⌋`. -/
def findPutPool (pool : LimitedPool) (size : Nat) : Option Nat :=
  if pool.maxSize < size then none
  else if size < pool.minSize then none
  else
    let index := Nat.log 2 (size / pool.minSize)
    if index < pool.pools.length then some index else none

/-- No result means that reslicing to `size` went past the capacity. -/
def get (pool : LimitedPool) (size pick : Nat) : Option (Slice × LimitedPool) :=
  match (pool.findPool size).bind fun index => pool.pools[index]?.map (index, ·) with
  | none => some (.make size, pool)
  | some (index, level) =>
    let (buffer, level) := level.get pick
    (buffer.slice 0 size).map fun data => (data, { pool with pools := pool.pools.set index level })

def put (pool : LimitedPool) (buffer : Slice) : LimitedPool :=
  match (pool.findPutPool buffer.cap).bind fun index => pool.pools[index]?.map (index, ·) with
  | none => pool
  | some (index, level) =>
    { pool with pools := pool.pools.set index (level.put (.ofBytes buffer.array)) }

inductive Event where
  | get (size pick : Nat)
  | put (buffer : Slice)

def step (pool : LimitedPool) : Event → Option LimitedPool
  | .get size pick => (pool.get size pick).map Prod.snd
  | .put buffer => some (pool.put buffer)

/-- A pool in use, from its construction on. -/
def system (minSize maxSize : Nat) : System LimitedPool Event where
  initial pool := newLimitedPool minSize maxSize = some pool
  step := step

/-- The size of class `index` is the doubled minimum, or the maximum where the
doubled minimum would exceed it. -/
structure Sized (pool : LimitedPool) : Prop where
  positive : 1 ≤ pool.minSize
  size : ∀ index level, pool.pools[index]? = some level →
    level.size = pool.minSize * 2 ^ index ∧ pool.minSize * 2 ^ index < pool.maxSize ∨
      level.size = pool.maxSize ∧ pool.maxSize ≤ pool.minSize * 2 ^ index

structure Valid (pool : LimitedPool) : Prop where
  sized : pool.Sized
  fits : ∀ level ∈ pool.pools, level.Fits

variable {pool : LimitedPool} {level updated : LevelPool} {minSize maxSize size index doublings : Nat}

theorem mul_two_pow_succ (size doublings : Nat) : size * 2 ^ (doublings + 1) = 2 * size * 2 ^ doublings := by
  ring

/-- The loop has turns enough to reach the largest size. -/
theorem le_mul_two_pow (positive : 1 ≤ minSize) (maxSize : Nat) : maxSize ≤ minSize * 2 ^ maxSize := by
  calc maxSize ≤ 2 ^ maxSize := Nat.lt_two_pow_self.le
    _ ≤ minSize * 2 ^ maxSize := Nat.le_mul_of_pos_left _ positive

private theorem levelSizes_size {found' : Nat} (enough : maxSize ≤ size * 2 ^ doublings)
    (found : (levelSizes maxSize doublings size)[index]? = some found') :
    found' = size * 2 ^ index ∧ size * 2 ^ index < maxSize ∨
      found' = maxSize ∧ maxSize ≤ size * 2 ^ index := by
  induction doublings generalizing size index with
  | zero =>
    cases index with
    | zero =>
      have same : maxSize = found' := by simpa [levelSizes] using found
      exact .inr ⟨same.symm, enough⟩
    | succ index => simp [levelSizes] at found
  | succ doublings ih =>
    rw [levelSizes] at found
    split at found
    · rename_i below
      cases index with
      | zero =>
        have same : size = found' := by simpa using found
        subst found'
        exact .inl ⟨by simp, by simpa using below⟩
      | succ index =>
        rw [mul_two_pow_succ] at enough ⊢
        exact ih enough (by simpa using found)
    · rename_i reached
      cases index with
      | zero =>
        have same : maxSize = found' := by simpa using found
        exact .inr ⟨same.symm, by simpa using Nat.le_of_not_lt reached⟩
      | succ index => simp at found

theorem valid_withLevels (positive : 1 ≤ minSize) : (withLevels minSize maxSize).Valid := by
  refine ⟨⟨positive, ?_⟩, ?_⟩
  · intro index level found
    obtain ⟨size, selected, same⟩ := Option.map_eq_some_iff.mp
      (by simpa [withLevels] using found :
        Option.map LevelPool.newLevelPool (levelSizes maxSize maxSize minSize)[index]? = some level)
    subst level
    exact levelSizes_size (le_mul_two_pow positive maxSize) selected
  · intro level member buffer stored
    obtain ⟨size, _, same⟩ := List.mem_map.mp member
    subst level
    simp [LevelPool.newLevelPool] at stored

theorem Sized.findPool_fits (sized : Sized pool) (chosen : pool.findPool size = some index)
    (found : pool.pools[index]? = some level) : size ≤ level.size := by
  simp only [findPool] at chosen
  split at chosen
  · cases chosen
  · rename_i within
    split at chosen
    · cases chosen
      rcases sized.size _ _ found with ⟨exact, _⟩ | ⟨exact, _⟩
      · have rounded : (size + pool.minSize - 1) / pool.minSize ≤
            2 ^ Nat.clog 2 ((size + pool.minSize - 1) / pool.minSize) := Nat.le_pow_clog (by omega) _
        have covered : size ≤ pool.minSize * ((size + pool.minSize - 1) / pool.minSize) := by
          have positive := sized.positive
          have remainder := Nat.mod_lt (size + pool.minSize - 1) positive
          have division := Nat.div_add_mod (size + pool.minSize - 1) pool.minSize
          omega
        calc size ≤ pool.minSize * ((size + pool.minSize - 1) / pool.minSize) := covered
          _ ≤ pool.minSize * 2 ^ Nat.clog 2 ((size + pool.minSize - 1) / pool.minSize) :=
            Nat.mul_le_mul_left _ rounded
          _ = level.size := exact.symm
      · omega
    · cases chosen

theorem findPutPool_eq_some (chosen : pool.findPutPool size = some index) :
    pool.minSize ≤ size ∧ index = Nat.log 2 (size / pool.minSize) := by
  unfold findPutPool at chosen
  split at chosen
  · cases chosen
  · split at chosen
    · cases chosen
    case isFalse large =>
      obtain ⟨-, same⟩ := Option.ite_none_right_eq_some.mp chosen
      exact ⟨Nat.not_lt.mp large, (Option.some.inj same).symm⟩

/-- A buffer is only filed in a class it is large enough for. -/
theorem Sized.findPutPool_fits (sized : Sized pool) (chosen : pool.findPutPool size = some index)
    (found : pool.pools[index]? = some level) : level.size ≤ size := by
  obtain ⟨large, rfl⟩ := findPutPool_eq_some chosen
  have nonzero : size / pool.minSize ≠ 0 := (Nat.div_pos large sized.positive).ne'
  have doubled : pool.minSize * 2 ^ Nat.log 2 (size / pool.minSize) ≤ size := by
    calc pool.minSize * 2 ^ Nat.log 2 (size / pool.minSize)
        ≤ pool.minSize * (size / pool.minSize) := Nat.mul_le_mul_left _ (Nat.pow_log_le_self 2 nonzero)
      _ ≤ size := Nat.mul_div_le _ _
  rcases sized.size _ _ found with ⟨exact, _⟩ | ⟨exact, reached⟩ <;> omega

/-- Replacing one class by another of the same size keeps the pool valid. -/
private theorem Valid.set (valid : Valid pool) (found : pool.pools[index]? = some level)
    (same : updated.size = level.size) (fits : updated.Fits) :
    Valid { pool with pools := pool.pools.set index updated } := by
  refine ⟨⟨valid.sized.positive, ?_⟩, ?_⟩
  · intro other entry selected
    rcases eq_or_ne index other with equal | different
    · subst other
      have within := (List.getElem?_eq_some_iff.mp found).1
      have entryEq : updated = entry := by simpa [List.getElem?_set_self within] using selected
      subst entry
      rw [same]
      exact valid.sized.size index level found
    · rw [List.getElem?_set_ne different] at selected
      exact valid.sized.size other entry selected
  · exact forall_mem_set valid.fits fits index

/-- A valid pool never reslices past a capacity: it hands out a buffer of
exactly the requested length and stays valid. -/
theorem Valid.get (valid : Valid pool) (size pick : Nat) :
    ∃ buffer next, pool.get size pick = some (buffer, next) ∧ buffer.len = size ∧ Valid next := by
  unfold LimitedPool.get
  split
  · exact ⟨_, _, rfl, rfl, valid⟩
  · rename_i index level selected
    obtain ⟨chosenIndex, chosen, mapped⟩ := Option.bind_eq_some_iff.mp selected
    obtain ⟨chosenLevel, found, same⟩ := Option.map_eq_some_iff.mp mapped
    cases same
    have large := valid.sized.findPool_fits chosen found
    obtain ⟨room, fits, sameSize⟩ :=
      LevelPool.fits_get (valid.fits level (List.mem_of_getElem? found)) pick
    obtain ⟨data, resliced, length, _⟩ := (level.get pick).1.slice_zero (large.trans room)
    exact ⟨data, _, by simp only [resliced, Option.map_some], length,
      valid.set found sameSize fits⟩

theorem Valid.put (valid : Valid pool) (buffer : Slice) : Valid (pool.put buffer) := by
  unfold LimitedPool.put
  split
  · exact valid
  · rename_i index level selected
    obtain ⟨chosenIndex, chosen, mapped⟩ := Option.bind_eq_some_iff.mp selected
    obtain ⟨chosenLevel, found, same⟩ := Option.map_eq_some_iff.mp mapped
    cases same
    have room := valid.sized.findPutPool_fits chosen found
    exact valid.set found rfl
      (LevelPool.fits_put (valid.fits level (List.mem_of_getElem? found)) room)

theorem valid_of_reachable (positive : 1 ≤ minSize)
    (reachable : (system minSize maxSize).Reachable pool) : pool.Valid := by
  refine reachable.invariant ?_ ?_
  · intro pool made
    obtain ⟨-, same⟩ := Option.ite_none_left_eq_some.mp made
    cases same
    exact valid_withLevels positive
  · intro state event next valid _ moved
    cases event with
    | get size pick =>
      obtain ⟨buffer, after, taken, _, validAfter⟩ := valid.get size pick
      have same : after = next := by simpa [system, step, taken] using moved
      exact same ▸ validAfter
    | put buffer =>
      have same : state.put buffer = next := by simpa [system, step] using moved
      exact same ▸ valid.put buffer

end LimitedPool

end Irpc.Util
