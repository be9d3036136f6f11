import Irpc.Foundation.Loop
import Irpc.Protocol.Parsing

/-! The blocks `decodeMetadata` accepts, and what it makes of them. The block may have more bytes
behind it in its array, which the slice expressions of the loop can reach. -/
namespace Irpc.Protocol

open Irpc.Foundation

/-- One turn of the loop of `decodeMetadata`, which returns what it ends with; no result in it is
a panic. -/
def metadataTurn (length : Nat) (data : Slice) (state : Nat × Metadata) :
    LoopTurn (Nat × Metadata) (Option (Metadata × Option GoError)) :=
  if state.1 < length then
    match decodeEntry length data state.1 with
    | none => .ended none
    | some (.error err) => .ended (some (state.2, some err))
    | some (.ok (key, value, next)) => .again (next, state.2.insert key value)
  else .ended (some (state.2, none))

/-- The loop ends from everywhere, with or without a panic. -/
theorem metadataTurn_ends (length : Nat) (data : Slice) (offset : Nat) (found : Metadata) :
    LoopTurn.Ends (metadataTurn length data) (offset, found) (decodeEntries length data offset found) := by
  fun_induction decodeEntries length data offset found with
  | case1 offset found inside panics => exact .now (by simp only [metadataTurn, inside, panics, if_true])
  | case2 offset found inside err failed => exact .now (by simp only [metadataTurn, inside, failed, if_true])
  | case3 offset found inside key value next parsed ih =>
    exact .later (by simp only [metadataTurn, inside, parsed, if_true]) ih
  | case4 offset found outside => exact .now (by simp only [metadataTurn, outside, if_false])

theorem lookup_insertAll_last (entries : List (Sigma fun _ : Bytes => Bytes)) (key : Bytes) :
    (insertAll entries ∅).lookup key = entries.reverse.dlookup key := by
  induction entries using List.reverseRecOn with
  | nil => rfl
  | append_singleton earlier last ih =>
    obtain ⟨name, value⟩ := last
    rw [insertAll, List.foldl_concat, ← insertAll, List.reverse_concat]
    by_cases same : key = name
    · subst key
      simp
    · rw [Finmap.lookup_insert_of_ne _ same, List.dlookup_cons_ne _ _ same, ih]

def IsRecords (data : Slice) (entries : List (Sigma fun _ : Bytes => Bytes)) : Prop :=
  data.bytes = entries.flatMap encodeEntry

instance (data : Slice) (entries : List (Sigma fun _ : Bytes => Bytes)) : Decidable (IsRecords data entries) :=
  inferInstanceAs (Decidable (_ = _))

theorem isRecords_iff {data : Slice} {entries : List (Sigma fun _ : Bytes => Bytes)} :
    IsRecords data entries ↔
      ∃ more, data.array = entries.flatMap encodeEntry ++ more ∧ (entries.flatMap encodeEntry).length = data.len := by
  unfold IsRecords
  constructor
  · intro same
    refine ⟨data.array.drop data.len, ?_, by rw [← same, Slice.length_bytes]⟩
    rw [← same, Slice.bytes, List.take_append_drop]
  · rintro ⟨more, layout, length⟩
    rw [Slice.bytes, layout, ← length, List.take_left]

/-- The loop ends on every block. It returns a map without an error exactly if the block is a
sequence of records, and then the map with the last value of every key. -/
theorem decodeMetadata_records_iff (data : Slice) (small : data.len < 2 ^ 32) :
    LoopTurn.Ends (metadataTurn data.len data) (0, ∅) (decodeMetadata data.len data) ∧
    ((∃ metadata, decodeMetadata data.len data = some (metadata, none)) ↔ ∃ entries, IsRecords data entries) ∧
    ∀ entries, IsRecords data entries → ∃ metadata, decodeMetadata data.len data = some (metadata, none) ∧
      metadata = insertAll entries ∅ ∧ ∀ key, metadata.lookup key = entries.reverse.dlookup key := by
  have accepts : ∀ metadata, decodeMetadata data.len data = some (metadata, none) ↔
      ∃ entries, IsRecords data entries ∧ metadata = insertAll entries ∅ := by
    intro metadata
    rw [decodeMetadata_eq_some_iff small]
    constructor
    · rintro ⟨entries, more, layout, same, length⟩
      exact ⟨entries, isRecords_iff.mpr ⟨more, layout, length⟩, same⟩
    · rintro ⟨entries, records, same⟩
      obtain ⟨more, layout, length⟩ := isRecords_iff.mp records
      exact ⟨entries, more, layout, same, length⟩
  refine ⟨metadataTurn_ends data.len data 0 ∅, ?_, ?_⟩
  · constructor
    · rintro ⟨metadata, accepted⟩
      obtain ⟨entries, records, -⟩ := (accepts metadata).mp accepted
      exact ⟨entries, records⟩
    · rintro ⟨entries, records⟩
      exact ⟨insertAll entries ∅, (accepts _).mpr ⟨entries, records, rfl⟩⟩
  · intro entries records
    exact ⟨_, (accepts _).mpr ⟨entries, records, rfl⟩, rfl, lookup_insertAll_last entries⟩

/-- Two records with the same key, and a byte behind the block. -/
def twiceSet : List (Sigma fun _ : Bytes => Bytes) := [⟨[1], [2]⟩, ⟨[1], [3]⟩]

def twiceSetBlock : Slice := ⟨twiceSet.flatMap encodeEntry ++ [9], 20, by decide⟩

theorem decodeMetadata_records_iff_twice :
    ∃ metadata, decodeMetadata 20 twiceSetBlock = some (metadata, none) ∧ metadata.lookup [1] = some [3] := by
  have records : IsRecords twiceSetBlock twiceSet := by decide
  obtain ⟨metadata, accepted, -, found⟩ := (decodeMetadata_records_iff twiceSetBlock (by decide)).2.2 twiceSet records
  exact ⟨metadata, accepted, (found [1]).trans (by decide)⟩

end Irpc.Protocol
