import Irpc.Protocol.Decode

/-! What the steps of `Decode` say about the bytes they read. The place of a step is
given by the bytes in front of it. -/
namespace Irpc.Protocol

open Irpc.Foundation

variable {data : Slice} {before rest : Bytes}

theorem uint32At_eq_some (layout : data.array = before ++ rest) :
    uint32At data before.length (before.length + 4) = some value ↔
      ∃ more, rest = bigEndian 4 value ++ more ∧ value < 2 ^ 32 := by
  constructor
  · intro read
    obtain ⟨word, cut, same⟩ := Option.map_eq_some_iff.mp read
    obtain ⟨-, room, array, len⟩ := Slice.slice_eq_some cut
    have bytes : word.bytes = rest.take 4 := by
      rw [Slice.bytes, array, len, layout, List.drop_left, Nat.add_sub_cancel_left]
    have length : (rest.take 4).length = 4 := by
      rw [layout, List.length_append] at room
      rw [List.length_take]
      omega
    rw [bytes] at same
    subst same
    refine ⟨rest.drop 4, ?_, ?_⟩
    · conv_lhs => rw [← List.take_append_drop 4 rest]
      conv_lhs => rw [← bigEndian_ofBigEndian (rest.take 4), length]
    · have bound := ofBigEndian_lt (rest.take 4)
      rw [length] at bound
      exact bound
  · rintro ⟨more, rfl, small⟩
    obtain ⟨word, cut, wordBytes, -⟩ := data.slice_middle before (bigEndian 4 value) more
      (by rw [layout, List.append_assoc])
    rw [length_bigEndian] at cut
    have fits : value < 256 ^ 4 := small
    simp [uint32At, cut, wordBytes, ofBigEndian_bigEndian_of_lt fits]

/-- The bytes behind a length, cut at the length. -/
theorem slice_eq_some_of_field (layout : data.array = before ++ (bigEndian 4 length ++ more))
    (cut : data.slice (before.length + 4) (before.length + 4 + length) = some part) :
    ∃ rest, bigEndian 4 length ++ more = encodeField part.bytes ++ rest ∧ length = part.bytes.length := by
  obtain ⟨-, room, array, len⟩ := Slice.slice_eq_some cut
  have behind : data.array.drop (before.length + 4) = more := by
    rw [layout, ← List.drop_drop, List.drop_left]
    exact List.drop_left' (length_bigEndian ..)
  have inside : length ≤ more.length := by
    simp only [layout, List.length_append, length_bigEndian] at room
    omega
  have bytes : part.bytes = more.take length := by
    rw [Slice.bytes, array, behind, len, Nat.add_sub_cancel_left]
  have size : part.bytes.length = length := by
    rw [bytes, List.length_take]
    omega
  refine ⟨more.drop length, ?_, size.symm⟩
  rw [encodeField, size, bytes, List.append_assoc, List.take_append_drop]

/-- A string that was read stands in the bytes with its length in front. -/
theorem field_of_reads (layout : data.array = before ++ rest) (start : before.length = offset)
    (read : uint32At data offset (offset + 4) = some length)
    (cut : data.slice (offset + 4) (offset + 4 + length) = some part) :
    ∃ more, rest = encodeField part.bytes ++ more ∧ length = part.bytes.length ∧ length < 2 ^ 32 := by
  subst start
  obtain ⟨behind, rfl, small⟩ := (uint32At_eq_some layout).mp read
  obtain ⟨more, shape, same⟩ := slice_eq_some_of_field layout cut
  exact ⟨more, shape, same, small⟩

/-- An offset that has not run backwards has not wrapped around. -/
theorem add32_eq (small : length < 2 ^ 32) (ordered : offset ≤ add32 offset length) :
    add32 offset length = offset + length ∧ offset + length < 2 ^ 32 := by
  unfold add32 at *
  omega

theorem read_of_decodeField (layout : data.array = before ++ rest)
    (parsed : decodeField limit data before.length = some outcome) :
    ∃ declared more, rest = bigEndian 4 declared ++ more ∧ declared < 2 ^ 32 ∧ before.length + 4 < 2 ^ 32 ∧
      (if limit < add32 (before.length + 4) declared then some (.error errMetaKVMissing)
      else (data.slice (before.length + 4) (add32 (before.length + 4) declared)).map fun field =>
        .ok (field.bytes, add32 (before.length + 4) declared)) = some outcome := by
  obtain ⟨declared, read, parsed⟩ := Option.bind_eq_some_iff.mp parsed
  obtain ⟨word, cut, -⟩ := Option.map_eq_some_iff.mp read
  obtain ⟨forward, small⟩ := add32_eq (by decide) (Slice.slice_eq_some cut).1
  rw [forward] at read parsed
  obtain ⟨more, shape, fits⟩ := (uint32At_eq_some layout).mp read
  exact ⟨declared, more, shape, fits, small, parsed⟩

theorem decodeField_ok_iff (layout : data.array = before ++ rest) (small : limit < 2 ^ 32) :
    decodeField limit data before.length = some (.ok (field, next)) ↔
      ∃ more, rest = encodeField field ++ more ∧ next = before.length + 4 + field.length ∧ next ≤ limit := by
  constructor
  · intro parsed
    obtain ⟨declared, more, rfl, fits, -, parsed⟩ := read_of_decodeField layout parsed
    split at parsed
    · cases parsed
    case isFalse within =>
      obtain ⟨part, cut, same⟩ := Option.map_eq_some_iff.mp parsed
      cases same
      obtain ⟨onward, -⟩ := add32_eq fits (Slice.slice_eq_some cut).1
      rw [onward] at cut within ⊢
      obtain ⟨behind, shape, length⟩ := slice_eq_some_of_field layout cut
      exact ⟨behind, shape, by rw [length], not_lt.mp within⟩
  · rintro ⟨more, rfl, rfl, within⟩
    exact decodeField_encodeField data limit before field more (by rw [layout, List.append_assoc])
      (by omega) within

/-- A string that is declared to end behind the limit, in the arithmetic of the source. -/
def Overlong (limit offset : Nat) (rest : Bytes) : Prop :=
  ∃ declared more, rest = bigEndian 4 declared ++ more ∧ declared < 2 ^ 32 ∧ offset + 4 < 2 ^ 32 ∧
    limit < (offset + 4 + declared) % 2 ^ 32

theorem decodeField_error_iff (layout : data.array = before ++ rest) :
    decodeField limit data before.length = some (.error err) ↔
      err = errMetaKVMissing ∧ Overlong limit before.length rest := by
  constructor
  · intro parsed
    obtain ⟨declared, more, rfl, fits, small, parsed⟩ := read_of_decodeField layout parsed
    split at parsed
    case isTrue beyond =>
      cases parsed
      exact ⟨rfl, declared, more, rfl, fits, small, beyond⟩
    case isFalse =>
      obtain ⟨part, cut, same⟩ := Option.map_eq_some_iff.mp parsed
      cases same
  · rintro ⟨rfl, declared, more, rfl, fits, small, beyond⟩
    have read := (uint32At_eq_some layout).mpr ⟨more, rfl, fits⟩
    have forward : add32 before.length 4 = before.length + 4 := add32_of_lt small
    have tooLong : limit < add32 (before.length + 4) declared := beyond
    simp [decodeField, forward, read, tooLong]

theorem sub32_lt (left right : Nat) : sub32 left right < 2 ^ 32 := Nat.mod_lt _ (by decide)

theorem decodeEntry_ok_iff (layout : data.array = before ++ rest) (small : length < 2 ^ 32) :
    decodeEntry length data before.length = some (.ok (key, value, next)) ↔
      ∃ more, rest = encodeEntry ⟨key, value⟩ ++ more ∧
        next = before.length + (encodeEntry ⟨key, value⟩).length ∧ next ≤ length := by
  constructor
  · intro parsed
    obtain ⟨middle, readKey, readValue⟩ := decodeEntry_eq_ok parsed
    obtain ⟨behindKey, rfl, keyEnd, -⟩ := (decodeField_ok_iff layout (sub32_lt ..)).mp readKey
    have start : middle = (before ++ encodeField key).length := by
      rw [keyEnd, List.length_append, length_encodeField, Nat.add_assoc]
    rw [start] at readValue
    obtain ⟨more, rfl, valueEnd, within⟩ :=
      (decodeField_ok_iff (by rw [layout, List.append_assoc]) small).mp readValue
    refine ⟨more, by simp [encodeEntry], ?_, within⟩
    rw [valueEnd]
    simp only [encodeEntry, List.length_append, length_encodeField]
    omega
  · rintro ⟨more, rfl, rfl, within⟩
    exact decodeEntry_encodeEntry data before ⟨key, value⟩ more (by rw [layout, List.append_assoc]) within small

/-- The key or the value of a pair is declared to end too far behind. -/
def Missing (length offset : Nat) (rest : Bytes) : Prop :=
  Overlong (sub32 length 4) offset rest ∨
    ∃ key more, rest = encodeField key ++ more ∧ offset + 4 + key.length ≤ sub32 length 4 ∧
      Overlong length (offset + 4 + key.length) more

theorem decodeEntry_error_iff (layout : data.array = before ++ rest) :
    decodeEntry length data before.length = some (.error err) ↔
      err = errMetaKVMissing ∧ Missing length before.length rest := by
  -- The offset behind a key, as the length of what stands in front of the value.
  have behind : ∀ key : Bytes, (before ++ encodeField key).length = before.length + 4 + key.length := by
    intro key
    rw [List.length_append, length_encodeField, Nat.add_assoc]
  constructor
  · intro parsed
    obtain ⟨first, readKey, parsed⟩ := Option.bind_eq_some_iff.mp parsed
    cases first with
    | error failed =>
      cases parsed
      obtain ⟨same, overlong⟩ := (decodeField_error_iff layout).mp readKey
      exact ⟨same, .inl overlong⟩
    | ok first =>
      obtain ⟨second, readValue, same⟩ := Option.map_eq_some_iff.mp parsed
      cases second with
      | ok second => cases same
      | error failed =>
        cases same
        obtain ⟨more, rfl, keyEnd, within⟩ := (decodeField_ok_iff layout (sub32_lt ..)).mp readKey
        rw [keyEnd, ← behind] at readValue
        obtain ⟨same, overlong⟩ := (decodeField_error_iff (by rw [layout, List.append_assoc])).mp readValue
        rw [behind] at overlong
        exact ⟨same, .inr ⟨first.1, more, rfl, keyEnd ▸ within, overlong⟩⟩
  · rintro ⟨rfl, overlong | ⟨key, more, rfl, within, overlong⟩⟩
    · have readKey := (decodeField_error_iff layout).mpr ⟨rfl, overlong⟩
      simp [decodeEntry, readKey]
    · have readKey := (decodeField_ok_iff layout (sub32_lt length 4)).mpr ⟨more, rfl, rfl, within⟩
      rw [← behind] at overlong
      have readValue := (decodeField_error_iff (by rw [layout, List.append_assoc])).mpr ⟨rfl, overlong⟩
      rw [behind] at readValue
      simp [decodeEntry, readKey, readValue]

theorem decodeEntries_of_lt (inside : offset < length) (found : Metadata) :
    decodeEntries length data offset found =
      match decodeEntry length data offset with
      | none => none
      | some (.error err) => some (found, some err)
      | some (.ok (key, value, next)) => decodeEntries length data next (found.insert key value) := by
  rw [decodeEntries, if_pos inside]
  split <;> simp [*]

def insertAll (entries : List (Sigma fun _ : Bytes => Bytes)) (found : Metadata) : Metadata :=
  entries.foldl (fun found entry => found.insert entry.1 entry.2) found

theorem lookup_insertAll (entries : List (Sigma fun _ : Bytes => Bytes)) (unique : entries.NodupKeys)
    (found : Metadata) (key : Bytes) :
    (insertAll entries found).lookup key = (entries.dlookup key).or (found.lookup key) := by
  induction entries generalizing found with
  | nil => simp [insertAll]
  | cons entry rest ih =>
    obtain ⟨absent, uniqueRest⟩ := List.nodupKeys_cons.mp unique
    obtain ⟨name, value⟩ := entry
    refine (ih uniqueRest (found.insert name value)).trans ?_
    by_cases same : key = name
    · subst key
      have missing : rest.dlookup name = none := List.dlookup_eq_none.mpr absent
      simp [missing]
    · rw [Finmap.lookup_insert_of_ne _ same, List.dlookup_cons_ne _ _ same]

/-- Inserting the pairs of a map gives the map, whatever order they come in. -/
theorem insertAll_entries (order : IterationOrder) : insertAll order.entries ∅ = order.toFinmap := by
  apply Finmap.ext_lookup
  intro key
  rw [lookup_insertAll order.entries order.nodupKeys]
  simp [AList.lookup]

/-- How the walk over the pairs of a block ends: at the end of the block, or at a pair
that is not all there. -/
def EndsWith (length offset : Nat) (rest : Bytes) : Option GoError → Prop
  | none => offset = length
  | some err => err = errMetaKVMissing ∧ offset < length ∧ Missing length offset rest

theorem EndsWith.le (ends : EndsWith length offset rest err) : offset ≤ length := by
  cases err with
  | none => exact le_of_eq ends
  | some err => exact ends.2.1.le

theorem length_encodeEntry_pos (entry : Sigma fun _ : Bytes => Bytes) : 0 < (encodeEntry entry).length := by
  simp [encodeEntry]

/-- A walk that ends has read pairs up to the place where it ends. -/
theorem pairs_of_decodeEntries (layout : data.array = before ++ rest) (small : length < 2 ^ 32)
    (start : before.length ≤ length) {found : Metadata}
    (parsed : decodeEntries length data before.length found = some (result, err)) :
    ∃ entries more, rest = entries.flatMap encodeEntry ++ more ∧ result = insertAll entries found ∧
      EndsWith length (before.length + (entries.flatMap encodeEntry).length) more err := by
  induction bound : length - before.length using Nat.strong_induction_on generalizing before rest found with
  | _ distance ih =>
    by_cases inside : before.length < length
    · rw [decodeEntries_of_lt inside] at parsed
      split at parsed
      · cases parsed
      case h_2 failed =>
        cases parsed
        obtain ⟨same, missing⟩ := (decodeEntry_error_iff layout).mp failed
        exact ⟨[], rest, rfl, rfl, same, inside, missing⟩
      case h_3 key value next entry =>
        obtain ⟨behind, rfl, nextEnd, within⟩ := (decodeEntry_ok_iff layout small).mp entry
        have positive := length_encodeEntry_pos ⟨key, value⟩
        rw [nextEnd, ← List.length_append] at parsed
        rw [nextEnd] at within
        obtain ⟨entries, more, rfl, same, ends⟩ := ih (length - (before ++ encodeEntry ⟨key, value⟩).length)
          (by rw [List.length_append]; omega) (by rw [layout, List.append_assoc])
          (by rw [List.length_append]; exact within) parsed rfl
        refine ⟨⟨key, value⟩ :: entries, more, by simp, same, ?_⟩
        simpa [Nat.add_assoc] using ends
    · rw [decodeEntries, if_neg inside] at parsed
      cases parsed
      exact ⟨[], rest, rfl, rfl, le_antisymm start (not_lt.mp inside)⟩

theorem decodeEntries_of_pairs (entries : List (Sigma fun _ : Bytes => Bytes)) (small : length < 2 ^ 32)
    (layout : data.array = before ++ (entries.flatMap encodeEntry ++ more)) (found : Metadata)
    (ends : EndsWith length (before.length + (entries.flatMap encodeEntry).length) more err) :
    decodeEntries length data before.length found = some (insertAll entries found, err) := by
  induction entries generalizing before found with
  | nil =>
    rw [List.flatMap_nil, List.length_nil, Nat.add_zero] at ends
    cases err with
    | none =>
      rw [decodeEntries, if_neg (not_lt.mpr (le_of_eq (Eq.symm ends)))]
      rfl
    | some err =>
      obtain ⟨same, inside, missing⟩ := ends
      rw [decodeEntries_of_lt inside, (decodeEntry_error_iff layout).mpr ⟨same, missing⟩]
      rfl
  | cons entry rest ih =>
    have positive := length_encodeEntry_pos entry
    have within := ends.le
    simp only [List.flatMap_cons, List.length_append] at within
    have parsed := (decodeEntry_ok_iff layout small).mpr
      ⟨rest.flatMap encodeEntry ++ more, by simp, rfl, (by omega : before.length + (encodeEntry entry).length ≤ length)⟩
    have shifted : data.array = (before ++ encodeEntry entry) ++ (rest.flatMap encodeEntry ++ more) := by
      rw [layout]
      simp
    have remaining := ih shifted (found.insert entry.1 entry.2) (by simpa [Nat.add_assoc] using ends)
    rw [decodeEntries_of_lt (by omega), parsed]
    rw [List.length_append] at remaining
    exact remaining

/-- The metadata of a block that is walked through without a panic. -/
theorem decodeMetadata_eq_some_iff (small : length < 2 ^ 32) :
    decodeMetadata length data = some (result, err) ↔
      ∃ entries more, data.array = entries.flatMap encodeEntry ++ more ∧ result = insertAll entries ∅ ∧
        EndsWith length (entries.flatMap encodeEntry).length more err := by
  constructor
  · intro parsed
    obtain ⟨entries, more, layout, same, ends⟩ :=
      pairs_of_decodeEntries (List.nil_append data.array).symm small (Nat.zero_le _) parsed
    rw [List.length_nil, Nat.zero_add] at ends
    exact ⟨entries, more, layout, same, ends⟩
  · rintro ⟨entries, more, layout, rfl, ends⟩
    rw [← Nat.zero_add (entries.flatMap encodeEntry).length] at ends
    exact decodeEntries_of_pairs entries small (layout.trans (List.nil_append _).symm) ∅ ends

namespace Message

variable {config : Config} {message : Message}

/-- The metadata of `length` bytes at an offset, if they are walked through without a
panic. -/
theorem decodeMeta_eq_some_iff (layout : message.data.array = before ++ rest) (small : length < 2 ^ 32) :
    message.decodeMeta before.length length = some (next, err) ↔
      length ≤ rest.length ∧ ∃ entries more, rest = entries.flatMap encodeEntry ++ more ∧
        EndsWith length (entries.flatMap encodeEntry).length more err ∧
        next = { message with
          metadata := if 0 < length then some (insertAll entries ∅) else message.metadata } := by
  unfold decodeMeta
  split
  case isTrue positive =>
    constructor
    · intro decoded
      obtain ⟨block, cut, decoded⟩ := Option.bind_eq_some_iff.mp decoded
      obtain ⟨⟨metadata, failed⟩, parsed, same⟩ := Option.map_eq_some_iff.mp decoded
      cases same
      obtain ⟨-, room, array, -⟩ := Slice.slice_eq_some cut
      rw [layout, List.drop_left] at array
      rw [layout, List.length_append, Nat.add_le_add_iff_left] at room
      obtain ⟨entries, more, shape, rfl, ends⟩ := (decodeMetadata_eq_some_iff small).mp parsed
      exact ⟨room, entries, more, array ▸ shape, ends, rfl⟩
    · rintro ⟨room, entries, more, shape, ends, rfl⟩
      obtain ⟨block, cut, -, -, array⟩ := message.data.slice_middle before (rest.take length) (rest.drop length)
        (by rw [layout, List.append_assoc, List.take_append_drop])
      rw [List.length_take, Nat.min_eq_left room] at cut
      rw [List.take_append_drop] at array
      have parsed := (decodeMetadata_eq_some_iff small).mpr ⟨entries, more, array.trans shape, rfl, ends⟩
      simp [cut, parsed]
  case isFalse empty =>
    have zero : length = 0 := Nat.eq_zero_of_not_pos empty
    subst zero
    constructor
    · intro decoded
      cases decoded
      exact ⟨Nat.zero_le _, [], rest, rfl, rfl, rfl⟩
    · rintro ⟨-, entries, more, -, ends, rfl⟩
      cases err with
      | none => rfl
      | some err => exact absurd ends.2.1 (Nat.not_lt_zero _)

/-- The first three lengths of a body and what stands between them. -/
structure Cut (array path method : Bytes) (metaLength : Nat) (rest : Bytes) : Prop where
  layout : array = encodeField path ++ encodeField method ++ bigEndian 4 metaLength ++ rest
  path : path.length < 2 ^ 32
  method : method.length < 2 ^ 32
  metadata : metaLength < 2 ^ 32

def metaOffset (path method : Bytes) : Nat := 4 + path.length + 4 + method.length + 4

theorem decodeMeta_of_cut (cut : Cut message.data.array path method metaLength rest) :
    { message with servicePath := path, serviceMethod := method }.decodeMeta (metaOffset path method)
        metaLength = some (next, err) ↔
      metaLength ≤ rest.length ∧ ∃ entries more, rest = entries.flatMap encodeEntry ++ more ∧
        EndsWith metaLength (entries.flatMap encodeEntry).length more err ∧
        next = { message with
          servicePath := path, serviceMethod := method
          metadata := if 0 < metaLength then some (insertAll entries ∅) else message.metadata } := by
  have start : metaOffset path method =
      (encodeField path ++ encodeField method ++ bigEndian 4 metaLength).length := by
    simp only [List.length_append, length_encodeField, length_bigEndian, metaOffset]
    omega
  rw [start]
  exact decodeMeta_eq_some_iff cut.layout cut.metadata

/-- The part of `decodeBody` behind the metadata. -/
def decodePayload (config : Config) (data : Slice) (offset : Nat) (message : Message) :
    Option (Message × Option GoError) := do
  let _ ← uint32At data offset (offset + 4)
  let payload ← data.sliceFrom (offset + 4)
  return { message with payload := payload.bytes }.decompress config

theorem decodeBody_of_cut (cut : Cut message.data.array path method metaLength rest) :
    message.decodeBody config =
      ({ message with servicePath := path, serviceMethod := method }.decodeMeta (metaOffset path method)
        metaLength).bind fun (next, err) =>
          if err.isSome then some (next, err)
          else decodePayload config message.data (metaOffset path method + metaLength) next := by
  obtain ⟨layout, pathSmall, methodSmall, metaSmall⟩ := cut
  have pathRead := uint32At_encodeField message.data [] path
    (encodeField method ++ bigEndian 4 metaLength ++ rest) (by simp [layout]) rfl pathSmall
  obtain ⟨pathPart, pathCut, pathBytes, -⟩ := slice_encodeField message.data [] path
    (encodeField method ++ bigEndian 4 metaLength ++ rest) (by simp [layout]) rfl
  have methodStart : (encodeField path).length = 4 + path.length := length_encodeField path
  have methodRead := uint32At_encodeField message.data (encodeField path) method
    (bigEndian 4 metaLength ++ rest) (by simp [layout]) methodStart methodSmall
  obtain ⟨methodPart, methodCut, methodBytes, -⟩ := slice_encodeField message.data (encodeField path) method
    (bigEndian 4 metaLength ++ rest) (by simp [layout]) methodStart
  have metaStart : (encodeField path ++ encodeField method).length = 4 + path.length + 4 + method.length := by
    simp only [List.length_append, length_encodeField]
    omega
  have metaRead := (uint32At_eq_some (by rw [layout, List.append_assoc])).mpr ⟨rest, rfl, metaSmall⟩
  rw [metaStart] at metaRead
  simp only [List.length_nil, Nat.zero_add] at pathRead pathCut
  simp only [decodeBody, pathRead, pathCut, pathBytes, methodRead, methodCut, methodBytes, metaRead,
    Option.bind_eq_bind, Option.bind_some, metaOffset, decodePayload]
  rfl

theorem exists_cut_of_decodeBody (decoded : message.decodeBody config = some result) :
    ∃ path method metaLength rest, Cut message.data.array path method metaLength rest := by
  simp only [decodeBody, Option.bind_eq_bind, Option.bind_eq_some_iff] at decoded
  obtain ⟨pathLength, pathRead, path, pathCut, methodLength, methodRead, method, methodCut, metaLength,
    metaRead, -⟩ := decoded
  obtain ⟨behindPath, layout, rfl, pathSmall⟩ :=
    field_of_reads (List.nil_append message.data.array).symm rfl pathRead pathCut
  have methodStart := length_encodeField path.bytes
  obtain ⟨behindMethod, rfl, rfl, methodSmall⟩ := field_of_reads layout methodStart methodRead methodCut
  have metaStart : (encodeField path.bytes ++ encodeField method.bytes).length =
      4 + path.bytes.length + 4 + method.bytes.length := by
    simp only [List.length_append, length_encodeField]
    omega
  rw [← metaStart] at metaRead
  obtain ⟨rest, rfl, metaSmall⟩ := (uint32At_eq_some (by rw [layout, List.append_assoc])).mp metaRead
  exact ⟨path.bytes, method.bytes, metaLength, rest, by rw [layout]; simp, pathSmall, methodSmall, metaSmall⟩

/-- The metadata a block of pairs is read as: no map is made for an empty one. -/
def metadataOf (entries : List (Sigma fun _ : Bytes => Bytes)) (found : Option Metadata) : Option Metadata :=
  if 0 < (entries.flatMap encodeEntry).length then some (insertAll entries ∅) else found

theorem metadataOf_order (order : IterationOrder) : (metadataOf order.entries none).getD ∅ = order.toFinmap := by
  rw [← insertAll_entries]
  unfold metadataOf
  split
  · rfl
  case isFalse empty =>
    cases pairs : order.entries with
    | nil => rfl
    | cons entry rest => simp [pairs, encodeEntry] at empty

/-- The four segments of a body, the last one with any declared length. -/
def bodyOf (path method : Bytes) (entries : List (Sigma fun _ : Bytes => Bytes)) (declared : Nat)
    (payload : Bytes) : Bytes :=
  encodeField path ++ encodeField method ++ encodeField (entries.flatMap encodeEntry) ++
    (bigEndian 4 declared ++ payload)

theorem length_bodyOf (path method : Bytes) (entries : List (Sigma fun _ : Bytes => Bytes)) (declared : Nat)
    (payload : Bytes) : (bodyOf path method entries declared payload).length =
      metaOffset path method + (entries.flatMap encodeEntry).length + 4 + payload.length := by
  simp only [bodyOf, metaOffset, List.length_append, length_encodeField, length_bigEndian]
  omega

/-- A body in its segments is read as them. Bytes behind the length in use, left over in
a reused buffer, play no part. -/
theorem decodeBody_bodyOf (config : Config) (message : Message) {payload leftover : Bytes}
    (layout : message.data.array = bodyOf path method entries declared payload ++ leftover)
    (length : message.data.len = (bodyOf path method entries declared payload).length)
    (small : message.data.len < 2 ^ 32) (fits : declared < 2 ^ 32) :
    message.decodeBody config = some ({ message with
      servicePath := path, serviceMethod := method
      metadata := metadataOf entries message.metadata, payload := payload }.decompress config) := by
  have size := length.trans (length_bodyOf ..)
  have offsets : metaOffset path method = 4 + path.length + 4 + method.length + 4 := rfl
  let behind := bigEndian 4 declared ++ (payload ++ leftover)
  have cut : Cut message.data.array path method (entries.flatMap encodeEntry).length
      (entries.flatMap encodeEntry ++ behind) := by
    refine ⟨?_, by omega, by omega, by omega⟩
    rw [layout]
    simp [bodyOf, encodeField, behind]
  have ends : EndsWith (entries.flatMap encodeEntry).length (entries.flatMap encodeEntry).length behind none := rfl
  have decodedMeta := (decodeMeta_of_cut cut).mpr ⟨by simp, entries, behind, rfl, ends, rfl⟩
  have start : metaOffset path method + (entries.flatMap encodeEntry).length =
      (encodeField path ++ encodeField method ++ encodeField (entries.flatMap encodeEntry)).length := by
    simp only [metaOffset, List.length_append, length_encodeField]
    omega
  have split : message.data.array =
      encodeField path ++ encodeField method ++ encodeField (entries.flatMap encodeEntry) ++ behind := by
    rw [layout]
    simp [bodyOf, behind]
  have read := (uint32At_eq_some split).mpr ⟨payload ++ leftover, rfl, fits⟩
  obtain ⟨part, cutPayload, partBytes, -⟩ := message.data.slice_middle
    (encodeField path ++ encodeField method ++ encodeField (entries.flatMap encodeEntry) ++ bigEndian 4 declared)
    payload leftover (by rw [layout]; simp [bodyOf])
  rw [← start] at read
  rw [List.length_append, length_bigEndian, ← start, ← size] at cutPayload
  rw [decodeBody_of_cut cut, decodedMeta, Option.bind_some]
  simp only [Option.isSome_none, Bool.false_eq_true, if_false, decodePayload, Slice.sliceFrom, read, cutPayload,
    partBytes, metadataOf, Option.bind_eq_bind, Option.bind_some]
  rfl

end Message

end Irpc.Protocol
