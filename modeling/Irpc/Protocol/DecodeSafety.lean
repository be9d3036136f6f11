import Irpc.Protocol.Parsing

/-! When `Decode` panics: exactly the bodies whose lengths lead out of the buffer. -/
namespace Irpc.Protocol.Message

open Irpc.Foundation

variable {config : Config} {message : Message} {data : Slice}

/-- Following the lengths of a body stays within the buffer: up to the length of the
metadata, through the metadata to its end or to a pair that is not all there, and in the
first case up to the payload, which has to begin within the body. -/
def Readable (data : Slice) : Prop :=
  ∃ path method metaLength rest, Cut data.array path method metaLength rest ∧ metaLength ≤ rest.length ∧
    ∃ (entries : List (Sigma fun _ : Bytes => Bytes)) (more : Bytes) (err : Option GoError),
      rest = entries.flatMap encodeEntry ++ more ∧
      EndsWith metaLength (entries.flatMap encodeEntry).length more err ∧
      (err = none → metaOffset path method + metaLength + 4 ≤ data.len)

/-- The payload is cut if it begins within the body. -/
theorem decodePayload_isSome_iff :
    (decodePayload config data offset message).isSome = true ↔ offset + 4 ≤ data.len := by
  constructor
  · intro some
    obtain ⟨result, decoded⟩ := Option.isSome_iff_exists.mp some
    simp only [decodePayload, Option.bind_eq_bind, Option.bind_eq_some_iff] at decoded
    obtain ⟨declared, -, payload, cut, -⟩ := decoded
    exact (Slice.slice_eq_some cut).1
  · intro begins
    have within := data.within
    have room : offset ≤ offset + 4 ∧ offset + 4 ≤ data.array.length := by omega
    have behind : offset + 4 ≤ data.len ∧ data.len ≤ data.array.length := ⟨begins, within⟩
    simp [decodePayload, uint32At, Slice.sliceFrom, Slice.slice, room, behind]

theorem decodeBody_isSome_iff : (message.decodeBody config).isSome = true ↔ Readable message.data := by
  constructor
  · intro some
    obtain ⟨result, decoded⟩ := Option.isSome_iff_exists.mp some
    obtain ⟨path, method, metaLength, rest, cut⟩ := exists_cut_of_decodeBody decoded
    rw [decodeBody_of_cut cut] at decoded
    obtain ⟨⟨next, err⟩, decodedMeta, decoded⟩ := Option.bind_eq_some_iff.mp decoded
    obtain ⟨room, entries, more, shape, ends, -⟩ := (decodeMeta_of_cut cut).mp decodedMeta
    refine ⟨path, method, metaLength, rest, cut, room, entries, more, err, shape, ends, ?_⟩
    rintro rfl
    exact decodePayload_isSome_iff.mp (Option.isSome_iff_exists.mpr ⟨result, decoded⟩)
  · rintro ⟨path, method, metaLength, rest, cut, room, entries, more, err, shape, ends, begins⟩
    have decodedMeta := (decodeMeta_of_cut cut).mpr ⟨room, entries, more, shape, ends, rfl⟩
    rw [decodeBody_of_cut cut, decodedMeta]
    cases err with
    | some err => rfl
    | none => exact decodePayload_isSome_iff.mpr (begins rfl)

theorem decodeData_isSome (config : Config) (buffer : Slice) (reader : Reader) :
    (decodeData config buffer reader).isSome = true := by
  unfold decodeData
  split
  · rfl
  case h_2 lengthData rest received =>
    dsimp only
    split
    · rfl
    · obtain ⟨chosen, taken, size⟩ := exists_buffer buffer (ofBigEndian lengthData)
      have fits : 0 + (rest.readFull (ofBigEndian lengthData)).1.length ≤ chosen.len := by
        rw [Nat.zero_add, size]
        exact Reader.length_readFull_le ..
      rw [taken, Option.bind_some, Slice.store, dif_pos fits]
      rfl

/-- `Decode` returns exactly if the body can be read, in case one is received at all. -/
theorem decode_returns_iff (config : Config) (message : Message) (reader : Reader) :
    message.decode config reader ≠ none ↔
      ∀ header rest data behind, decodeHeader message.header reader = (header, rest, none) →
        decodeData config message.data rest = some (data, behind, none) → Readable data := by
  rw [← Option.isSome_iff_ne_none, decode]
  rcases parsed : decodeHeader message.header reader with ⟨header, rest, _ | err⟩
  · obtain ⟨⟨data, behind, err⟩, received⟩ := Option.isSome_iff_exists.mp (decodeData_isSome config message.data rest)
    have body := @decodeBody_isSome_iff config { message with header := header, data := data }
    dsimp only
    rw [received, Option.bind_some]
    constructor
    · rintro returned _ _ _ _ ⟨⟩ again
      cases received.symm.trans again
      rw [Option.isSome_map] at returned
      exact body.mp returned
    · intro readable
      cases err with
      | some err => rfl
      | none =>
        rw [Option.isSome_map]
        exact body.mpr (readable header rest data behind rfl received)
  · exact ⟨nofun, fun _ => rfl⟩

theorem decode_panics_on_empty_body :
    newMessage.decode plainConfig ⟨Header.fresh.bytes.toList ++ [0, 0, 0, 0], .eof⟩ = none := by
  decide +kernel

end Irpc.Protocol.Message
