import Mathlib

/-! Byte strings, big-endian words and slices with a capacity. Nothing here
knows a message format: offsets, lengths and contents are arbitrary. -/
namespace Irpc.Foundation

abbrev Bytes := List UInt8

/-- Membership in a list of keys or names is decided by comparing bytes. -/
instance : LawfulBEq Bytes := inferInstance

def utf8 (text : String) : Bytes := text.toList.flatMap String.utf8EncodeChar

/-- The low `width` bytes of a number, most significant first. -/
def bigEndian : Nat → Nat → Bytes
  | 0, _ => []
  | width + 1, value => bigEndian width (value / 256) ++ [UInt8.ofNat value]

def ofBigEndian (bytes : Bytes) : Nat :=
  bytes.foldl (fun value byte => value * 256 + byte.toNat) 0

@[simp] theorem length_bigEndian (width value : Nat) : (bigEndian width value).length = width := by
  induction width generalizing value with
  | zero => rfl
  | succ width ih => simp [bigEndian, ih]

theorem ofBigEndian_concat (bytes : Bytes) (byte : UInt8) :
    ofBigEndian (bytes ++ [byte]) = ofBigEndian bytes * 256 + byte.toNat := by
  simp [ofBigEndian]

/-- Reading back a written word keeps exactly the bits that fit its width. -/
theorem ofBigEndian_bigEndian (width value : Nat) :
    ofBigEndian (bigEndian width value) = value % 256 ^ width := by
  induction width generalizing value with
  | zero => simp [bigEndian, ofBigEndian, Nat.mod_one]
  | succ width ih =>
    have low : (UInt8.ofNat value).toNat = value % 256 := by simp
    rw [bigEndian, ofBigEndian_concat, ih, low, Nat.pow_succ', Nat.mod_mul]
    omega

theorem ofBigEndian_bigEndian_of_lt (fits : value < 256 ^ width) :
    ofBigEndian (bigEndian width value) = value := by
  rw [ofBigEndian_bigEndian, Nat.mod_eq_of_lt fits]

theorem ofBigEndian_lt (bytes : Bytes) : ofBigEndian bytes < 256 ^ bytes.length := by
  induction bytes using List.reverseRecOn with
  | nil => decide
  | append_singleton bytes byte ih =>
    have low := byte.toNat_lt
    rw [ofBigEndian_concat, List.length_append, List.length_singleton, Nat.pow_succ]
    omega

/-- Every byte string is the word it stands for. -/
theorem bigEndian_ofBigEndian (bytes : Bytes) : bigEndian bytes.length (ofBigEndian bytes) = bytes := by
  induction bytes using List.reverseRecOn with
  | nil => rfl
  | append_singleton bytes byte ih =>
    have low := byte.toNat_lt
    have high : (ofBigEndian bytes * 256 + byte.toNat) / 256 = ofBigEndian bytes := by omega
    have last : UInt8.ofNat (ofBigEndian bytes * 256 + byte.toNat) = byte := by
      apply UInt8.toNat_inj.mp
      simp only [UInt8.toNat_ofNat']
      omega
    rw [ofBigEndian_concat, List.length_append, List.length_singleton, bigEndian, high, ih, last]

theorem bigEndian_append_inj {left right : Bytes} (firstFits : first < 256 ^ width)
    (secondFits : second < 256 ^ width) (same : bigEndian width first ++ left = bigEndian width second ++ right) :
    first = second ∧ left = right := by
  obtain ⟨words, rest⟩ := List.append_inj same (by simp)
  have values := congrArg ofBigEndian words
  rw [ofBigEndian_bigEndian_of_lt firstFits, ofBigEndian_bigEndian_of_lt secondFits] at values
  exact ⟨values, rest⟩

/-- A slice: the backing array from the slice's first element up to its
capacity, and the length in use. -/
structure Slice where
  array : Bytes
  len : Nat
  within : len ≤ array.length
  deriving DecidableEq

namespace Slice

def cap (slice : Slice) : Nat := slice.array.length

def bytes (slice : Slice) : Bytes := slice.array.take slice.len

def empty : Slice := ⟨[], 0, Nat.le_refl 0⟩

def make (len : Nat) : Slice := ⟨List.replicate len 0, len, by simp⟩

/-- A slice that uses the whole of `bytes`. -/
def ofBytes (bytes : Bytes) : Slice := ⟨bytes, bytes.length, Nat.le_refl _⟩

/-- `s[low:high]`. The bound on `high` is the capacity, not the length. -/
def slice (slice : Slice) (low high : Nat) : Option Slice :=
  if bounds : low ≤ high ∧ high ≤ slice.array.length then
    some ⟨slice.array.drop low, high - low, by rw [List.length_drop]; omega⟩
  else none

/-- `s[low:]`, which ends at the length in use. -/
def sliceFrom (slice : Slice) (low : Nat) : Option Slice := slice.slice low slice.len

@[simp] theorem length_bytes (slice : Slice) : slice.bytes.length = slice.len := by
  simp [bytes, slice.within]

@[simp] theorem cap_make (len : Nat) : (make len).cap = len := by simp [make, cap]

/-- `copy(s[offset:], source)`. A store past the length in use is an
out-of-range slice expression, so it has no result. -/
def store (slice : Slice) (offset : Nat) (source : Bytes) : Option Slice :=
  if room : offset + source.length ≤ slice.len then
    some ⟨slice.array.take offset ++ source ++ slice.array.drop (offset + source.length), slice.len, by
      have within := slice.within
      simp only [List.length_append, List.length_take, List.length_drop]
      omega⟩
  else none

def storeAll (slice : Slice) : List (Nat × Bytes) → Option Slice
  | [] => some slice
  | (offset, source) :: rest => (slice.store offset source).bind fun next => next.storeAll rest

/-- Each store begins where the one before it ended. -/
def Contiguous : Nat → List (Nat × Bytes) → Prop
  | _, [] => True
  | position, (offset, source) :: rest =>
    offset = position ∧ Contiguous (position + source.length) rest

theorem slice_eq_some {slice part : Slice} (cut : slice.slice low high = some part) :
    low ≤ high ∧ high ≤ slice.array.length ∧ part.array = slice.array.drop low ∧ part.len = high - low := by
  unfold Slice.slice at cut
  split at cut
  case isTrue bounds =>
    cases cut
    exact ⟨bounds.1, bounds.2, rfl, rfl⟩
  case isFalse => cases cut

theorem slice_zero (slice : Slice) (room : size ≤ slice.cap) :
    ∃ part, slice.slice 0 size = some part ∧ part.len = size ∧ part.array = slice.array := by
  have bounds : 0 ≤ size ∧ size ≤ slice.array.length := ⟨Nat.zero_le _, room⟩
  exact ⟨_, dif_pos bounds, rfl, List.drop_zero⟩

/-- Cutting the middle segment out of a slice yields exactly that segment. -/
theorem slice_middle (slice : Slice) (before segment after : Bytes)
    (layout : slice.array = before ++ segment ++ after) :
    ∃ part, slice.slice before.length (before.length + segment.length) = some part ∧
      part.bytes = segment ∧ part.len = segment.length ∧ part.array = segment ++ after := by
  have bounds : before.length ≤ before.length + segment.length ∧
      before.length + segment.length ≤ slice.array.length := by
    rw [layout]
    simp
  refine ⟨⟨slice.array.drop before.length, segment.length, ?_⟩, ?_, ?_, rfl, ?_⟩
  · rw [layout]
    simp
  · simp [Slice.slice, bounds]
  · simp [Slice.bytes, layout]
  · simp [layout]

/-- A store that fills the slice leaves only the bytes behind its length. -/
theorem store_all (slice : Slice) (source : Bytes) (length : slice.len = source.length) :
    ∃ next, slice.store 0 source = some next ∧ next.len = source.length ∧
      next.array = source ++ slice.array.drop source.length := by
  have room : 0 + source.length ≤ slice.len := by omega
  exact ⟨_, dif_pos room, length, by simp⟩

/-- A store right behind a finished part extends that part, whatever the rest
of the slice held. -/
theorem store_behind (slice : Slice) (done stale source : Bytes) (layout : slice.bytes = done ++ stale)
    (room : source.length ≤ stale.length) :
    ∃ next, slice.store done.length source = some next ∧ next.len = slice.len ∧
      next.bytes = done ++ source ++ stale.drop source.length := by
  have length : slice.len = done.length + stale.length := by
    rw [← length_bytes, layout, List.length_append]
  have fits : done.length + source.length ≤ slice.len := by omega
  have split : slice.array = done ++ stale ++ slice.array.drop slice.len := by
    rw [← layout, bytes, List.take_append_drop]
  have front : slice.array.take done.length = done := by
    rw [split, List.append_assoc, List.take_left]
  have back : slice.array.drop (done.length + source.length) =
      stale.drop source.length ++ slice.array.drop slice.len := by
    conv_lhs => rw [split]
    rw [List.append_assoc, ← List.drop_drop, List.drop_left, List.drop_append_of_le_length room]
  have whole : (done ++ source ++ stale.drop source.length).length = slice.len := by
    simp only [List.length_append, List.length_drop]
    omega
  refine ⟨_, dif_pos fits, rfl, ?_⟩
  simp only [bytes, front, back]
  rw [← List.append_assoc, ← whole, List.take_left]

/-- Contiguous stores that cover a whole slice leave nothing of its old
contents. -/
theorem storeAll_contiguous (writes : List (Nat × Bytes)) (slice : Slice) (done stale : Bytes)
    (layout : slice.bytes = done ++ stale) (contiguous : Contiguous done.length writes)
    (covers : stale.length = (writes.map Prod.snd).flatten.length) :
    ∃ written, slice.storeAll writes = some written ∧
      written.bytes = done ++ (writes.map Prod.snd).flatten := by
  induction writes generalizing slice done stale with
  | nil =>
    have empty : stale = [] := List.eq_nil_of_length_eq_zero (by simpa using covers)
    exact ⟨slice, rfl, by simp [layout, empty]⟩
  | cons write rest ih =>
    obtain ⟨offset, source⟩ := write
    obtain ⟨same, remaining⟩ := contiguous
    subst offset
    simp only [List.map_cons, List.flatten_cons, List.length_append] at covers
    obtain ⟨next, stored, _, nextBytes⟩ := slice.store_behind done stale source layout (by omega)
    obtain ⟨written, storedAll, writtenBytes⟩ := ih next (done ++ source) (stale.drop source.length)
      nextBytes (by simpa using remaining) (by rw [List.length_drop]; omega)
    refine ⟨written, ?_, ?_⟩
    · simp [storeAll, stored, storedAll]
    · simp [writtenBytes]

end Slice

end Irpc.Foundation
