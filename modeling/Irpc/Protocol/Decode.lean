import Irpc.Protocol.Metadata

namespace Irpc.Protocol

open Irpc.Foundation

/-- A byte stream: what is still to be read, and the error behind it. -/
structure Reader where
  rest : Bytes
  failure : GoError
  deriving DecidableEq

/-- `io.ReadFull` for `count` bytes: the bytes delivered, the stream behind
them, and the error if there were too few. -/
def Reader.readFull (reader : Reader) (count : Nat) : Bytes × Reader × Option GoError :=
  if count ≤ reader.rest.length then
    (reader.rest.take count, { reader with rest := reader.rest.drop count }, none)
  else
    let err := if reader.rest ≠ [] ∧ reader.failure = .eof then .unexpectedEOF else reader.failure
    (reader.rest, { reader with rest := [] }, some err)

theorem Reader.readFull_append (segment rest : Bytes) (failure : GoError)
    (length : segment.length = count) :
    Reader.readFull ⟨segment ++ rest, failure⟩ count = (segment, ⟨rest, failure⟩, none) := by
  subst count
  simp [readFull]

/-- Bytes that were delivered in full were the first of the stream. -/
theorem Reader.of_readFull {reader : Reader} (read : reader.readFull count = (bytes, behind, none)) :
    reader.rest = bytes ++ behind.rest ∧ bytes.length = count ∧ behind.failure = reader.failure := by
  unfold readFull at read
  split at read
  case isTrue room =>
    cases read
    exact ⟨(List.take_append_drop ..).symm, List.length_take_of_le room, rfl⟩
  case isFalse => cases read

theorem Reader.length_readFull_le (reader : Reader) (count : Nat) :
    (reader.readFull count).1.length ≤ count := by
  unfold readFull
  split
  · exact List.length_take_le ..
  case isFalse short => exact (not_le.mp short).le

/-- Store bytes into a header in place, as far as they fit. -/
def Header.store (header : Header) (offset : Nat) (source : Bytes) : Header :=
  ⟨.ofFn fun index =>
    if offset ≤ index.val then (source[index.val - offset]?).getD header.bytes[index]
    else header.bytes[index]⟩

namespace Message

def errWrongMagicNumber (byte : UInt8) : GoError :=
  .plain (utf8 "wrong magic number: " ++ utf8 (toString byte.toNat))

/-- The header is overwritten in place, before it is validated. -/
def decodeHeader (header : Header) (reader : Reader) : Header × Reader × Option GoError :=
  match reader.readFull 1 with
  | (_, reader, some err) => (header, reader, some err)
  | (first, reader, none) =>
    let header := header.store 0 first
    if header.checkMagicNumber then
      let (rest, reader, err) := reader.readFull 11
      (header.store 1 rest, reader, err)
    else (header, reader, some (errWrongMagicNumber header.first))

/-- Read the total length and then that many bytes into the message's buffer,
which is reused when its capacity allows. -/
def decodeData (config : Config) (buffer : Slice) (reader : Reader) :
    Option (Slice × Reader × Option GoError) :=
  match reader.readFull 4 with
  | (_, reader, some err) => some (buffer, reader, some err)
  | (lengthData, reader, none) =>
    let length := ofBigEndian lengthData
    if 0 < config.maxMessageLength ∧ config.maxMessageLength < length then
      some (buffer, reader, some errMessageTooLong)
    else
      (if length ≤ buffer.cap then buffer.slice 0 length else some (.make length)).bind fun buffer =>
        let (received, reader, err) := reader.readFull length
        (buffer.store 0 received).map fun buffer => (buffer, reader, err)

theorem exists_buffer (buffer : Slice) (length : Nat) :
    ∃ chosen : Slice, (if length ≤ buffer.cap then buffer.slice 0 length else some (.make length)) =
      some chosen ∧ chosen.len = length := by
  split
  case isTrue room =>
    obtain ⟨part, cut, len, -⟩ := buffer.slice_zero room
    exact ⟨part, cut, len⟩
  case isFalse => exact ⟨_, rfl, rfl⟩

/-- The metadata segment of `length` bytes at `offset`, if it is not empty. -/
def decodeMeta (message : Message) (offset length : Nat) : Option (Message × Option GoError) :=
  if 0 < length then
    (message.data.slice offset (offset + length)).bind fun block =>
      (decodeMetadata length block).map fun
        (metadata, err) => ({ message with metadata := some metadata }, err)
  else some (message, none)

/-- Undo the compression the header announces. -/
def decompress (config : Config) (message : Message) : Message × Option GoError :=
  if message.header.compressType = .none then (message, none)
  else
    match config.compressors message.header.compressType with
    | none => (message, some errUnsupportedCompressor)
    | some compressor =>
      match compressor.unzip message.payload with
      | .ok unzipped => ({ message with payload := unzipped }, none)
      | .error err => ({ message with payload := [] }, some err)

/-- Cut the body into its four segments. Every slice expression is bounded by
the capacity of the buffer; no result is a panic. The declared length of the
payload is read and ignored. -/
def decodeBody (config : Config) (message : Message) : Option (Message × Option GoError) := do
  let data := message.data
  let pathLength ← uint32At data 0 4
  let path ← data.slice 4 (4 + pathLength)
  let offset := 4 + pathLength
  let methodLength ← uint32At data offset (offset + 4)
  let method ← data.slice (offset + 4) (offset + 4 + methodLength)
  let offset := offset + 4 + methodLength
  let metaLength ← uint32At data offset (offset + 4)
  let message := { message with servicePath := path.bytes, serviceMethod := method.bytes }
  let (message, err) ← message.decodeMeta (offset + 4) metaLength
  if err.isSome then return (message, err)
  let offset := offset + 4 + metaLength
  let _ ← uint32At data offset (offset + 4)
  let payload ← data.sliceFrom (offset + 4)
  return { message with payload := payload.bytes }.decompress config

/-- No result is a panic. An error leaves the message as far as it was read. -/
def decode (config : Config) (message : Message) (reader : Reader) :
    Option (Message × Reader × Option GoError) :=
  match decodeHeader message.header reader with
  | (header, reader, some err) => some ({ message with header := header }, reader, some err)
  | (header, reader, none) =>
    (decodeData config message.data reader).bind fun
      | (data, reader, some err) =>
        some ({ message with header := header, data := data }, reader, some err)
      | (data, reader, none) =>
        (decodeBody config { message with header := header, data := data }).map fun
          (message, err) => (message, reader, err)

theorem first_store (header : Header) (byte : UInt8) : (header.store 0 [byte]).first = byte := by
  simp [Header.first, Header.store]

theorem first_store_behind (header : Header) (source : Bytes) :
    (header.store 1 source).first = header.first := by
  simp [Header.first, Header.store]

/-- The first header byte is the first byte of the stream, if there is one. -/
theorem first_decodeHeader (header : Header) (reader : Reader) :
    (decodeHeader header reader).1.first = reader.rest.head?.getD header.first := by
  rcases reader with ⟨_ | ⟨byte, rest⟩, failure⟩
  · simp [decodeHeader, Reader.readFull]
  · simp only [decodeHeader, Reader.readFull, List.length_cons, Nat.le_add_left, ↓reduceIte,
      List.take_succ_cons, List.take_zero]
    split <;> simp [first_store, first_store_behind]

theorem header_decodeMeta {message : Message}
    (decoded : message.decodeMeta offset length = some (next, err)) : next.header = message.header := by
  unfold decodeMeta at decoded
  split at decoded
  · simp only [Option.bind_eq_some_iff, Option.map_eq_some_iff, Prod.exists] at decoded
    obtain ⟨_, _, _, _, _, same⟩ := decoded
    cases same
    rfl
  · cases decoded
    rfl

theorem header_decompress (config : Config) (message : Message) :
    (message.decompress config).1.header = message.header := by
  unfold decompress
  split
  · rfl
  · split
    · rfl
    · split <;> rfl

theorem header_decodeBody {message : Message} (decoded : message.decodeBody config = some (next, err)) :
    next.header = message.header := by
  simp only [decodeBody, Option.bind_eq_bind, Option.bind_eq_some_iff, Prod.exists] at decoded
  obtain ⟨_, -, _, -, _, -, _, -, _, -, cut, metaErr, cutMeta, decoded⟩ := decoded
  have kept := header_decodeMeta cutMeta
  split at decoded
  · cases decoded
    exact kept
  · simp only [Option.bind_eq_some_iff] at decoded
    obtain ⟨_, -, payload, -, same⟩ := decoded
    have final := header_decompress config { cut with payload := payload.bytes }
    have answer := congrArg (fun result => result.1.header) (Option.some.inj same)
    exact answer.symm.trans (final.trans kept)

/-- The header is read as `decodeHeader` reads it, and an error there is the error of
the whole. -/
theorem header_decode {message : Message} (decoded : message.decode config reader = some (next, rest, err)) :
    next.header = (decodeHeader message.header reader).1 ∧
      (err = none → (decodeHeader message.header reader).2.2 = none) := by
  unfold decode at decoded
  rcases parsed : decodeHeader message.header reader with ⟨header, behind, _ | failure⟩
  · refine ⟨?_, fun _ => rfl⟩
    simp only [parsed, Option.bind_eq_some_iff, Prod.exists] at decoded
    obtain ⟨data, last, failure, -, decoded⟩ := decoded
    cases failure with
    | some failure =>
      cases decoded
      rfl
    | none =>
      obtain ⟨⟨cut, _⟩, body, same⟩ := Option.map_eq_some_iff.mp decoded
      cases same
      exact header_decodeBody body
  · simp only [parsed] at decoded
    cases decoded
    exact ⟨rfl, nofun⟩

/-- Decoding copies the first byte of the stream into the header, whether or not
it goes on. -/
theorem first_decode {message : Message} (decoded : message.decode config reader = some (next, rest, err)) :
    next.header.first = reader.rest.head?.getD message.header.first := by
  rw [(header_decode decoded).1, first_decodeHeader]

end Message

end Irpc.Protocol
