import Irpc.Protocol.RoundTrip

/-! The frames `Decode` accepts, against the grammar of the format. -/
namespace Irpc.Protocol

open Irpc.Foundation Irpc.Util

namespace Message

variable {config : Config}

/-- A header that is accepted was the first twelve bytes of the stream. -/
theorem of_decodeHeader {old header : Header} {reader behind : Reader}
    (decoded : decodeHeader old reader = (header, behind, none)) :
    reader.rest = header.bytes.toList ++ behind.rest ∧ header.first = magicNumber := by
  have unfolded := decoded
  unfold decodeHeader at unfolded
  split at unfolded
  · cases unfolded
  case h_2 first later readFirst =>
    dsimp only at unfolded
    split at unfolded
    · rename_i magic
      rcases readRest : later.readFull 11 with ⟨others, last, err⟩
      rw [readRest] at unfolded
      cases unfolded
      obtain ⟨stream, one, -⟩ := Reader.of_readFull readFirst
      obtain ⟨streamRest, eleven, -⟩ := Reader.of_readFull readRest
      let sent : Header := ⟨⟨(first ++ others).toArray, by simp [one, eleven]⟩⟩
      have layout : reader.rest = sent.bytes.toList ++ last.rest := by
        rw [stream, streamRest]
        simp [sent]
      have same := decodeHeader_append old sent last.rest reader.failure (by rw [← layout, decoded])
      rw [← layout, decoded] at same
      refine ⟨layout.trans (congrArg (fun header : Header => header.bytes.toList ++ last.rest) same.symm), ?_⟩
      rw [first_store_behind]
      exact beq_iff_eq.mp magic
    · cases unfolded

/-- A body that is received fills the part of the buffer in use. -/
theorem of_decodeData {buffer data : Slice} {reader behind : Reader}
    (decoded : decodeData config buffer reader = some (data, behind, none)) :
    reader.rest = bigEndian 4 data.len ++ (data.bytes ++ behind.rest) ∧ data.len < 2 ^ 32 ∧
      (0 < config.maxMessageLength → (data.len : Int) ≤ config.maxMessageLength) := by
  unfold decodeData at decoded
  split at decoded
  · cases decoded
  case h_2 word later readWord =>
    obtain ⟨stream, four, -⟩ := Reader.of_readFull readWord
    dsimp only at decoded
    split at decoded
    · cases decoded
    · rename_i allowed
      obtain ⟨chosen, taken, size⟩ := exists_buffer buffer (ofBigEndian word)
      rw [taken, Option.bind_some] at decoded
      obtain ⟨written, store, same⟩ := Option.map_eq_some_iff.mp decoded
      rcases readBody : later.readFull (ofBigEndian word) with ⟨body, last, err⟩
      rw [readBody] at store same
      cases same
      obtain ⟨streamBody, length, -⟩ := Reader.of_readFull readBody
      obtain ⟨filled, stored, len, array⟩ := chosen.store_all body (size.trans length.symm)
      cases stored.symm.trans store
      have bytes : data.bytes = body := by rw [Slice.bytes, array, len, List.take_left]
      have bound := ofBigEndian_lt word
      have announced := bigEndian_ofBigEndian word
      rw [four, ← length] at bound announced
      rw [← length] at allowed
      refine ⟨?_, by rw [len]; exact bound, by rw [len]; omega⟩
      rw [stream, streamBody, bytes, len, announced]

/-- A body that is accepted consists of its segments. What a recycled buffer holds behind
the body is none of them: the payload begins within the body, and everything in front of it
ends before. -/
theorem of_decodeBody {message next : Message}
    (decoded : message.decodeBody config = some (next, none)) :
    ∃ path method entries declared payload, declared < 2 ^ 32 ∧
      message.data.bytes = bodyOf path method entries declared payload := by
  obtain ⟨path, method, metaLength, rest, cut⟩ := exists_cut_of_decodeBody decoded
  rw [decodeBody_of_cut cut] at decoded
  obtain ⟨⟨parsed, err⟩, decodedMeta, decoded⟩ := Option.bind_eq_some_iff.mp decoded
  obtain ⟨-, entries, more, rfl, ends, -⟩ := (decodeMeta_of_cut cut).mp decodedMeta
  cases err with
  | some err => cases decoded
  | none =>
    have length : (entries.flatMap encodeEntry).length = metaLength := ends
    obtain ⟨declared, read, decoded⟩ := Option.bind_eq_some_iff.mp decoded
    obtain ⟨part, cutPayload, -⟩ := Option.bind_eq_some_iff.mp decoded
    have begins := (Slice.slice_eq_some cutPayload).1
    subst length
    have layout : message.data.array = encodeField path ++ encodeField method ++
        encodeField (entries.flatMap encodeEntry) ++ more := by
      rw [cut.layout]
      simp [encodeField]
    have start : metaOffset path method + (entries.flatMap encodeEntry).length =
        (encodeField path ++ encodeField method ++ encodeField (entries.flatMap encodeEntry)).length := by
      simp only [metaOffset, List.length_append, length_encodeField]
      omega
    rw [start] at read begins
    obtain ⟨behind, rfl, fits⟩ := (uint32At_eq_some layout).mp read
    refine ⟨path, method, entries, declared, behind.take (message.data.len -
      ((encodeField path ++ encodeField method ++ encodeField (entries.flatMap encodeEntry)).length + 4)), fits, ?_⟩
    rw [Slice.bytes, layout, bodyOf, List.take_append, List.take_of_length_le (by omega), List.take_append,
      List.take_of_length_le (by rw [length_bigEndian]; omega), length_bigEndian, Nat.sub_sub]

theorem decompress_data (config : Config) (message : Message) (data : Slice) :
    { message with data := data }.decompress config =
      ({ (message.decompress config).1 with data := data }, (message.decompress config).2) := by
  unfold decompress
  dsimp only
  split
  · rfl
  · split
    · rfl
    · split <;> rfl

/-- A frame cut into its parts: the header, which has the magic number, and what stands
in the four segments of the body. -/
structure Segments where
  header : Header
  path : Bytes
  method : Bytes
  entries : List (Sigma fun _ : Bytes => Bytes)
  payload : Bytes
  magic : header.first = magicNumber
  small : totalLength path method (entries.flatMap encodeEntry) payload < 2 ^ 32

namespace Segments

def total (parts : Segments) : Nat :=
  totalLength parts.path parts.method (parts.entries.flatMap encodeEntry) parts.payload

def bytes (parts : Segments) : Bytes :=
  frame parts.header parts.path parts.method (parts.entries.flatMap encodeEntry) parts.payload

def declaring (parts : Segments) (declared : Nat) : Bytes :=
  frameDeclaring parts.header parts.path parts.method parts.entries declared parts.payload

/-- The message length limit, which applies if it is positive. -/
def Within (config : Config) (parts : Segments) : Prop :=
  0 < config.maxMessageLength → (parts.total : Int) ≤ config.maxMessageLength

theorem declaring_length (parts : Segments) : parts.declaring parts.payload.length = parts.bytes :=
  frameDeclaring_length ..

theorem length_body (parts : Segments) (declared : Nat) :
    (bodyOf parts.path parts.method parts.entries declared parts.payload).length = parts.total := by
  rw [length_bodyOf, total, totalLength, metaOffset]
  omega

/-- A frame can be cut in only one way as far as its lengths go. -/
theorem declaring_inj {first second : Segments} (firstFits : firstDeclared < 2 ^ 32)
    (secondFits : secondDeclared < 2 ^ 32)
    (same : first.declaring firstDeclared ++ left = second.declaring secondDeclared ++ right) :
    first.total = second.total ∧ firstDeclared = secondDeclared ∧ first.payload = second.payload := by
  have firstSmall := first.small
  have secondSmall := second.small
  simp only [declaring, frameDeclaring, length_body, List.append_assoc] at same
  obtain ⟨-, behind⟩ := Header.append_inj same
  obtain ⟨totals, bodies⟩ := bigEndian_append_inj firstSmall secondSmall behind
  obtain ⟨body, -⟩ := List.append_inj bodies (by rw [length_body, length_body]; exact totals)
  simp only [totalLength] at firstSmall secondSmall
  simp only [bodyOf, List.append_assoc] at body
  obtain ⟨-, body⟩ := encodeField_append_inj (by omega) (by omega) body
  obtain ⟨-, body⟩ := encodeField_append_inj (by omega) (by omega) body
  obtain ⟨-, body⟩ := encodeField_append_inj (by omega) (by omega) body
  exact ⟨totals, bigEndian_append_inj firstFits secondFits body⟩

/-- What a frame says, with the error of its decompression. -/
def content (config : Config) (parts : Segments) : Message × Option GoError :=
  (⟨parts.header, parts.path, parts.method, metadataOf parts.entries none, parts.payload, .empty⟩ :
    Message).decompress config

/-- A message without metadata of its own reads a frame as what the frame says. -/
theorem decode_content {parts : Segments} {message : Message} (unset : message.metadata = none)
    (within : parts.Within config) (fits : declared < 2 ^ 32) (rest : Bytes) (failure : GoError) :
    ∃ data, message.decode config ⟨parts.declaring declared ++ rest, failure⟩ =
      some ({ (parts.content config).1 with data := data }, ⟨rest, failure⟩, (parts.content config).2) := by
  have length := parts.length_body declared
  obtain ⟨data, decoded⟩ := decode_frameDeclaring config message parts.header parts.path parts.method
    parts.entries parts.payload parts.magic (by rw [length]; exact parts.small) fits
    (by rw [length]; exact within) rest failure
  have content := decompress_data config
    ⟨parts.header, parts.path, parts.method, metadataOf parts.entries none, parts.payload, .empty⟩ data
  refine ⟨data, ?_⟩
  rw [unset, content] at decoded
  exact decoded

theorem decode_declaring {parts : Segments} (within : parts.Within config) (fits : declared < 2 ^ 32)
    (plain : parts.header.compressType = .none) (rest : Bytes) (failure : GoError) :
    ∃ data, newMessage.decode config ⟨parts.declaring declared ++ rest, failure⟩ =
      some (⟨parts.header, parts.path, parts.method, metadataOf parts.entries none, parts.payload, data⟩,
        ⟨rest, failure⟩, none) := by
  have unset : newMessage.metadata = none := rfl
  obtain ⟨data, decoded⟩ := decode_content unset within fits rest failure
  have content : parts.content config = (_, none) := decompress_plain plain
  rw [content] at decoded
  exact ⟨data, decoded⟩

end Segments

/-- What a message accepts is a frame, with some number in front of its payload. -/
theorem exists_segments_of_decode {message : Message} {stream : Bytes} {failure : GoError}
    (decoded : message.decode config ⟨stream, failure⟩ = some (received, behind, none)) :
    ∃ (parts : Segments) (declared : Nat), declared < 2 ^ 32 ∧ parts.Within config ∧
      stream = parts.declaring declared ++ behind.rest := by
  unfold decode at decoded
  rcases parsed : decodeHeader message.header ⟨stream, failure⟩ with ⟨header, later, _ | err⟩
  · rw [parsed] at decoded
    obtain ⟨⟨data, last, _ | err⟩, readBody, decoded⟩ := Option.bind_eq_some_iff.mp decoded
    · obtain ⟨⟨next, err⟩, cutBody, same⟩ := Option.map_eq_some_iff.mp decoded
      cases same
      obtain ⟨layout, magic⟩ := of_decodeHeader parsed
      obtain ⟨body, small, limit⟩ := of_decodeData readBody
      obtain ⟨path, method, entries, declared, payload, fits, bytes⟩ := of_decodeBody cutBody
      dsimp only at bytes layout
      have length : data.len = totalLength path method (entries.flatMap encodeEntry) payload := by
        rw [← data.length_bytes, bytes, length_bodyOf, totalLength, metaOffset]
        omega
      refine ⟨⟨header, path, method, entries, payload, magic, length ▸ small⟩, declared, fits, ?_, ?_⟩
      · intro positive
        rw [Segments.total, ← length]
        exact limit positive
      · rw [layout, body, Segments.declaring, frameDeclaring, ← bytes, data.length_bytes]
        simp
    · cases decoded
  · rw [parsed] at decoded
    cases decoded

/-- The header at the front of a stream, if there is one, announces no compression. -/
def Plain (stream : Bytes) : Prop :=
  ∀ (header : Header) (rest : Bytes), stream = header.bytes.toList ++ rest → header.compressType = .none

def Accepts (config : Config) (stream : Bytes) (failure : GoError) : Prop :=
  ∃ received behind, newMessage.decode config ⟨stream, failure⟩ = some (received, behind, none)

/-- The stream starts with a frame of the format. -/
def InGrammar (config : Config) (stream : Bytes) : Prop :=
  ∃ (parts : Segments) (rest : Bytes), parts.Within config ∧ stream = parts.bytes ++ rest

/-- The stream starts with a frame of the format, but for the length in front of the
payload, which is not that of the payload. -/
def Mislabelled (config : Config) (stream : Bytes) : Prop :=
  ∃ (parts : Segments) (declared : Nat) (rest : Bytes), declared < 2 ^ 32 ∧ declared ≠ parts.payload.length ∧
    parts.Within config ∧ stream = parts.declaring declared ++ rest

theorem Segments.plain_of_declaring {parts : Segments} (plain : Plain stream)
    (layout : stream = parts.declaring declared ++ rest) : parts.header.compressType = .none :=
  plain parts.header _ (layout.trans (List.append_assoc ..))

/-- The stream is accepted exactly if it is in the grammar up to the length of the payload. -/
theorem accepts_iff (plain : Plain stream) (failure : GoError) :
    Accepts config stream failure ↔ InGrammar config stream ∨ Mislabelled config stream := by
  constructor
  · rintro ⟨received, behind, decoded⟩
    obtain ⟨parts, declared, fits, within, layout⟩ := exists_segments_of_decode decoded
    by_cases exact : declared = parts.payload.length
    · rw [exact, parts.declaring_length] at layout
      exact .inl ⟨parts, behind.rest, within, layout⟩
    · exact .inr ⟨parts, declared, behind.rest, fits, exact, within, layout⟩
  · rintro (⟨parts, rest, within, layout⟩ | ⟨parts, declared, rest, fits, -, within, layout⟩)
    · rw [← parts.declaring_length] at layout
      have fits : parts.payload.length < 2 ^ 32 := by
        have small := parts.small
        rw [totalLength] at small
        omega
      obtain ⟨data, decoded⟩ := Segments.decode_declaring within fits (parts.plain_of_declaring plain layout)
        rest failure
      exact ⟨_, _, layout ▸ decoded⟩
    · obtain ⟨data, decoded⟩ := Segments.decode_declaring within fits (parts.plain_of_declaring plain layout)
        rest failure
      exact ⟨_, _, layout ▸ decoded⟩

theorem not_inGrammar_of_mislabelled (mislabelled : Mislabelled config stream) : ¬ InGrammar config stream := by
  rintro ⟨parts, rest, -, layout⟩
  obtain ⟨other, declared, behind, fits, wrong, -, otherLayout⟩ := mislabelled
  have small := parts.small
  rw [totalLength] at small
  rw [← parts.declaring_length, otherLayout] at layout
  obtain ⟨-, declares, payload⟩ := Segments.declaring_inj fits (by omega) layout
  exact wrong (declares.trans (congrArg List.length payload.symm))

/-- Two frames that differ at most in the order of their metadata. -/
def SameUpToOrder (left right : Bytes) : Prop :=
  ∃ (header : Header) (path method payload : Bytes) (first second : List (Sigma fun _ : Bytes => Bytes)),
    first.Perm second ∧ left = frame header path method (first.flatMap encodeEntry) payload ∧
      right = frame header path method (second.flatMap encodeEntry) payload

def DistinctKeys (consumed : Bytes) : Prop :=
  ∃ (parts : Segments) (declared : Nat), declared < 2 ^ 32 ∧ consumed = parts.declaring declared ∧
    parts.entries.NodupKeys

/-- Encoding what was decoded gives the bytes back that were read, whichever way the map
is visited and whatever the recycled buffers hold. -/
def Reencodes (config : Config) (stream : Bytes) (failure : GoError) : Prop :=
  ∀ received behind consumed, newMessage.decode config ⟨stream, failure⟩ = some (received, behind, none) →
    stream = consumed ++ behind.rest → DistinctKeys consumed →
    ∀ sent : Transmission, sent.message = received → sent.order.toFinmap = received.metadata.getD ∅ →
      bufferPool.Reachable sent.pool → ∃ bytes, sent.encode config = some bytes ∧ SameUpToOrder consumed bytes

theorem reencodes_of_labelled (plain : Plain stream) (labelled : ¬ Mislabelled config stream)
    (failure : GoError) : Reencodes config stream failure := by
  rintro received behind consumed decoded layout ⟨parts, declared, fits, rfl, unique⟩ sent rfl sameMap reachable
  obtain ⟨cut, others, cutFits, cutWithin, cutLayout⟩ := exists_segments_of_decode decoded
  have total := (Segments.declaring_inj fits cutFits (layout.symm.trans cutLayout)).1
  have within : parts.Within config := by
    intro positive
    rw [total]
    exact cutWithin positive
  have plainHeader := parts.plain_of_declaring plain layout
  obtain ⟨data, again⟩ := Segments.decode_declaring within fits plainHeader behind.rest failure
  rw [← layout, decoded] at again
  obtain ⟨received, -⟩ := Prod.mk.inj (Option.some.inj again)
  have exact : declared = parts.payload.length := by
    by_contra wrong
    exact labelled ⟨parts, declared, behind.rest, fits, wrong, within, layout⟩
  have pairs : parts.entries.Perm sent.order.entries := by
    have read := metadataOf_order ⟨parts.entries, unique⟩
    rw [received] at sameMap
    exact (AList.toFinmap_eq.mp (sameMap.trans read)).symm
  refine ⟨_, Transmission.encode_eq reachable, parts.header, parts.path, parts.method, parts.payload,
    parts.entries, sent.order.entries, pairs, ?_, ?_⟩
  · rw [exact]
    exact parts.declaring_length
  · rw [frameOf, compress, received, if_pos plainHeader]
    rfl

/-- The shortest frame, with a number in front of its empty payload. -/
def shortest (declared : UInt8) : Bytes :=
  Header.fresh.bytes.toList ++ [0, 0, 0, 16, 0, 0, 0, 0, 0, 0, 0, 0, 0, 0, 0, 0, 0, 0, 0, declared]

theorem plain_shortest (declared : UInt8) : Plain (shortest declared) := by
  intro header rest layout
  rw [← (Header.append_inj layout).1]
  decide

/-- `Decode` accepts exactly the grammar, and what it accepts encodes back to it, for the
streams whose payload has the length in front of it. -/
theorem decode_grammar_iff (config : Config) (stream : Bytes) (failure : GoError) (plain : Plain stream) :
    (Accepts config stream failure ↔ InGrammar config stream) ∧ Reencodes config stream failure ↔
      ¬ Mislabelled config stream := by
  constructor
  · rintro ⟨exact, -⟩ mislabelled
    exact not_inGrammar_of_mislabelled mislabelled (exact.mp ((accepts_iff plain failure).mpr (.inr mislabelled)))
  · intro labelled
    refine ⟨?_, reencodes_of_labelled plain labelled failure⟩
    rw [accepts_iff plain, or_iff_left labelled]

def arithFrame : Segments where
  header := .fresh
  path := utf8 "Arith"
  method := utf8 "Mul"
  entries := [⟨utf8 "trace", utf8 "1"⟩]
  payload := [1, 2, 3]
  magic := by decide
  small := by decide

theorem plain_arithFrame : Plain arithFrame.bytes := by
  intro header rest layout
  rw [← arithFrame.declaring_length, Segments.declaring, frameDeclaring] at layout
  rw [← (Header.append_inj layout).1]
  decide

theorem decode_grammar_iff_arith :
    InGrammar plainConfig arithFrame.bytes ∧ Accepts plainConfig arithFrame.bytes .eof ∧
      Reencodes plainConfig arithFrame.bytes .eof := by
  have listed : InGrammar plainConfig arithFrame.bytes := ⟨arithFrame, [], fun _ => by decide, by simp⟩
  have labelled : ¬ Mislabelled plainConfig arithFrame.bytes :=
    fun mislabelled => not_inGrammar_of_mislabelled mislabelled listed
  obtain ⟨exact, reencodes⟩ :=
    (decode_grammar_iff plainConfig arithFrame.bytes .eof plain_arithFrame).mpr labelled
  exact ⟨listed, exact.mpr listed, reencodes⟩

/-- A frame that declares seven bytes of payload and ends there is accepted. -/
theorem accepts_mislabelled :
    Plain (shortest 7) ∧ Accepts plainConfig (shortest 7) .eof ∧ ¬ InGrammar plainConfig (shortest 7) := by
  have mislabelled : Mislabelled plainConfig (shortest 7) :=
    ⟨⟨.fresh, [], [], [], [], by decide, by decide⟩, 7, [], by decide, by decide, fun _ => by decide, by decide⟩
  exact ⟨plain_shortest 7, (accepts_iff (plain_shortest 7) .eof).mpr (.inr mislabelled),
    not_inGrammar_of_mislabelled mislabelled⟩

end Message

end Irpc.Protocol
