import Irpc.Protocol.Message

/-! The metadata block of a frame: length-prefixed keys and values, one pair
after another. Offsets are 32-bit in the source and wrap around. -/
namespace Irpc.Protocol

open Irpc.Foundation

def add32 (left right : Nat) : Nat := (left + right) % 2 ^ 32

def sub32 (left right : Nat) : Nat := (left + 2 ^ 32 - right) % 2 ^ 32

theorem add32_of_lt (small : left + right < 2 ^ 32) : add32 left right = left + right :=
  Nat.mod_eq_of_lt small

theorem sub32_of_le (ordered : right ≤ left) (small : left < 2 ^ 32) :
    sub32 left right = left - right := by
  unfold sub32
  omega

def encodeField (field : Bytes) : Bytes := bigEndian 4 field.length ++ field

def encodeEntry (entry : Sigma fun _ : Bytes => Bytes) : Bytes :=
  encodeField entry.1 ++ encodeField entry.2

def encodeMetadata (order : IterationOrder) : Bytes := order.entries.flatMap encodeEntry

@[simp] theorem length_encodeField (field : Bytes) : (encodeField field).length = 4 + field.length := by
  simp [encodeField]

theorem encodeField_append_inj {first second left right : Bytes} (firstSmall : first.length < 2 ^ 32)
    (secondSmall : second.length < 2 ^ 32) (same : encodeField first ++ left = encodeField second ++ right) :
    first = second ∧ left = right := by
  rw [encodeField, encodeField, List.append_assoc, List.append_assoc] at same
  obtain ⟨lengths, rest⟩ := bigEndian_append_inj firstSmall secondSmall same
  exact List.append_inj rest lengths

/-- `binary.BigEndian.Uint32(data[low:high])`. -/
def uint32At (data : Slice) (low high : Nat) : Option Nat :=
  (data.slice low high).map fun word => ofBigEndian word.bytes

/-- Read a string at `offset` that must end at or before `limit`. The result
is the string and the offset behind it; no result is a panic. -/
def decodeField (limit : Nat) (data : Slice) (offset : Nat) : Option (Except GoError (Bytes × Nat)) :=
  (uint32At data offset (add32 offset 4)).bind fun length =>
    if limit < add32 (add32 offset 4) length then some (.error errMetaKVMissing)
    else (data.slice (add32 offset 4) (add32 (add32 offset 4) length)).map fun field =>
      .ok (field.bytes, add32 (add32 offset 4) length)

/-- One turn of the loop of `decodeMetadata`: a key, which must leave room for
a value length, and a value. -/
def decodeEntry (length : Nat) (data : Slice) (offset : Nat) :
    Option (Except GoError (Bytes × Bytes × Nat)) :=
  (decodeField (sub32 length 4) data offset).bind fun
    | .error err => some (.error err)
    | .ok (key, offset) =>
      (decodeField length data offset).map fun
        | .error err => .error err
        | .ok (value, offset) => .ok (key, value, offset)

variable {data : Slice}

/-- A parsed string always moves the offset forward: a wrapped offset would
make a slice expression run backwards. -/
theorem decodeField_advances (parsed : decodeField limit data offset = some (.ok (field, next))) :
    offset < next := by
  obtain ⟨length, read, parsed⟩ := Option.bind_eq_some_iff.mp parsed
  obtain ⟨word, cutWord, _⟩ := Option.map_eq_some_iff.mp read
  split at parsed
  · cases parsed
  · obtain ⟨part, cutField, same⟩ := Option.map_eq_some_iff.mp parsed
    cases same
    have forward := (Slice.slice_eq_some cutWord).1
    have onward := (Slice.slice_eq_some cutField).1
    simp only [add32] at forward onward ⊢
    omega

theorem decodeEntry_eq_ok (parsed : decodeEntry length data offset = some (.ok (key, value, next))) :
    ∃ middle, decodeField (sub32 length 4) data offset = some (.ok (key, middle)) ∧
      decodeField length data middle = some (.ok (value, next)) := by
  obtain ⟨first, readKey, parsed⟩ := Option.bind_eq_some_iff.mp parsed
  cases first with
  | error err => cases parsed
  | ok first =>
    obtain ⟨second, readValue, same⟩ := Option.map_eq_some_iff.mp parsed
    cases second with
    | error err => cases same
    | ok second =>
      cases same
      exact ⟨first.2, readKey, readValue⟩

theorem decodeEntry_advances
    (parsed : decodeEntry length data offset = some (.ok (key, value, next))) : offset < next := by
  obtain ⟨middle, readKey, readValue⟩ := decodeEntry_eq_ok parsed
  exact (decodeField_advances readKey).trans (decodeField_advances readValue)

/-- The loop of `decodeMetadata`. An error keeps the pairs read so far. -/
def decodeEntries (length : Nat) (data : Slice) (offset : Nat) (entries : Metadata) :
    Option (Metadata × Option GoError) :=
  if offset < length then
    match _ : decodeEntry length data offset with
    | none => none
    | some (.error err) => some (entries, some err)
    | some (.ok (key, value, next)) => decodeEntries length data next (entries.insert key value)
  else some (entries, none)
termination_by length - offset
decreasing_by
  have forward := decodeEntry_advances ‹decodeEntry length data offset = _›
  omega

def decodeMetadata (length : Nat) (data : Slice) : Option (Metadata × Option GoError) :=
  decodeEntries length data 0 ∅

theorem uint32At_encodeField (data : Slice) (before field after : Bytes)
    (layout : data.array = before ++ encodeField field ++ after) (start : before.length = offset)
    (small : field.length < 2 ^ 32) : uint32At data offset (offset + 4) = some field.length := by
  subst offset
  obtain ⟨word, cut, wordBytes, _, _⟩ := data.slice_middle before (bigEndian 4 field.length)
    (field ++ after) (by simp [layout, encodeField])
  have fits : field.length < 256 ^ 4 := by omega
  rw [length_bigEndian] at cut
  simp [uint32At, cut, wordBytes, ofBigEndian_bigEndian_of_lt fits]

/-- Where an encoded string stands, the slice behind its length is the string. -/
theorem slice_encodeField (data : Slice) (before field after : Bytes)
    (layout : data.array = before ++ encodeField field ++ after) (start : before.length = offset) :
    ∃ part, data.slice (offset + 4) (offset + 4 + field.length) = some part ∧
      part.bytes = field ∧ part.array = field ++ after := by
  subst offset
  obtain ⟨part, cut, partBytes, _, partArray⟩ := data.slice_middle
    (before ++ bigEndian 4 field.length) field after (by simp [layout, encodeField])
  rw [List.length_append, length_bigEndian] at cut
  exact ⟨part, cut, partBytes, partArray⟩

theorem decodeField_encodeField (data : Slice) (limit : Nat) (before field after : Bytes)
    (layout : data.array = before ++ encodeField field ++ after)
    (small : before.length + 4 + field.length < 2 ^ 32)
    (within : before.length + 4 + field.length ≤ limit) :
    decodeField limit data before.length =
      some (.ok (field, before.length + 4 + field.length)) := by
  have read := uint32At_encodeField data before field after layout rfl (by omega)
  obtain ⟨part, cut, partBytes, _⟩ := slice_encodeField data before field after layout rfl
  have start : add32 before.length 4 = before.length + 4 := add32_of_lt (by omega)
  have stop : add32 (before.length + 4) field.length = before.length + 4 + field.length :=
    add32_of_lt small
  simp [decodeField, start, read, stop, cut, partBytes, Nat.not_lt.mpr within]

/-- Reading an encoded pair at its place in a block of `length` bytes. -/
theorem decodeEntry_encodeEntry (data : Slice) (before : Bytes) (entry : Sigma fun _ : Bytes => Bytes)
    (after : Bytes) (layout : data.array = before ++ encodeEntry entry ++ after)
    (within : before.length + (encodeEntry entry).length ≤ length) (small : length < 2 ^ 32) :
    decodeEntry length data before.length =
      some (.ok (entry.1, entry.2, before.length + (encodeEntry entry).length)) := by
  have total : (encodeEntry entry).length = 4 + entry.1.length + (4 + entry.2.length) := by
    simp [encodeEntry]
  have limit : sub32 length 4 = length - 4 := sub32_of_le (by omega) small
  have key := decodeField_encodeField data (length - 4) before entry.1 (encodeField entry.2 ++ after)
    (by simp [layout, encodeEntry]) (by omega) (by omega)
  have value := decodeField_encodeField data length (before ++ encodeField entry.1) entry.2 after
    (by simp [layout, encodeEntry]) (by simp; omega) (by simp; omega)
  have offset : (before ++ encodeField entry.1).length = before.length + 4 + entry.1.length := by
    simp [Nat.add_assoc]
  rw [offset] at value
  have final : before.length + 4 + entry.1.length + 4 + entry.2.length =
      before.length + (encodeEntry entry).length := by omega
  rw [final] at value
  simp [decodeEntry, limit, key, value]

end Irpc.Protocol
