import Irpc.Protocol.Encode
import Irpc.Protocol.Parsing

/-! A stream of encoded messages read back frame by frame. -/
namespace Irpc.Protocol

open Irpc.Foundation Irpc.Util

namespace Message

theorem store_header (header sent : Header) :
    (header.store 0 [sent.first]).store 1 (sent.bytes.toList.drop 1) = sent := by
  obtain ⟨sentBytes⟩ := sent
  simp only [Header.store, Header.mk.injEq]
  apply Vector.ext
  intro index within
  cases index with
  | zero => simp [Header.first]
  | succ index =>
    simp [Vector.getElem?_eq_getElem within]

theorem readFull_first (sent : Header) (rest : Bytes) (failure : GoError) :
    Reader.readFull ⟨sent.bytes.toList ++ rest, failure⟩ 1 =
      ([sent.first], ⟨sent.bytes.toList.drop 1 ++ rest, failure⟩, none) := by
  have split : sent.bytes.toList ++ rest = [sent.first] ++ (sent.bytes.toList.drop 1 ++ rest) := by
    conv_lhs => rw [sent.bytes_eq_cons]
    simp
  rw [split]
  exact Reader.readFull_append [sent.first] _ _ rfl

/-- A header with the magic number is read back whatever the message held. -/
theorem decodeHeader_encoded (header sent : Header) (magic : sent.first = magicNumber)
    (rest : Bytes) (failure : GoError) :
    decodeHeader header ⟨sent.bytes.toList ++ rest, failure⟩ = (sent, ⟨rest, failure⟩, none) := by
  have checked : (header.store 0 [sent.first]).checkMagicNumber = true := by
    rw [Header.checkMagicNumber, first_store, magic, beq_self_eq_true]
  rw [decodeHeader, readFull_first]
  simp only [checked, if_true]
  rw [Reader.readFull_append _ _ _ (by simp), store_header]

theorem decodeHeader_append (header sent : Header) (rest : Bytes) (failure : GoError)
    (accepted : (decodeHeader header ⟨sent.bytes.toList ++ rest, failure⟩).2.2 = none) :
    (decodeHeader header ⟨sent.bytes.toList ++ rest, failure⟩).1 = sent := by
  by_cases magic : sent.first = magicNumber
  · rw [decodeHeader_encoded header sent magic]
  · have refused : (header.store 0 [sent.first]).checkMagicNumber = false := by
      rw [Header.checkMagicNumber, first_store, beq_eq_false_iff_ne]
      exact magic
    rw [decodeHeader, readFull_first] at accepted
    simp [refused] at accepted

/-- A body within the length limit is read into the buffer; only a reused
buffer keeps anything behind it. -/
theorem decodeData_encoded (config : Config) (buffer : Slice) (body rest : Bytes) (failure : GoError)
    (small : body.length < 2 ^ 32)
    (limit : 0 < config.maxMessageLength → (body.length : Int) ≤ config.maxMessageLength) :
    ∃ data leftover, decodeData config buffer ⟨bigEndian 4 body.length ++ (body ++ rest), failure⟩ =
        some (data, ⟨rest, failure⟩, none) ∧
      data.array = body ++ leftover ∧ data.len = body.length := by
  have fits : body.length < 256 ^ 4 := by omega
  have accepted : ¬ (0 < config.maxMessageLength ∧ config.maxMessageLength < body.length) := by omega
  obtain ⟨reused, chosen, length⟩ := exists_buffer buffer body.length
  obtain ⟨data, stored, dataLength, dataArray⟩ := reused.store_all body length
  refine ⟨data, _, ?_, dataArray, dataLength⟩
  rw [decodeData, Reader.readFull_append _ _ _ (length_bigEndian ..)]
  simp only [ofBigEndian_bigEndian_of_lt fits, if_neg accepted, chosen, Option.bind_some,
    Reader.readFull_append _ _ _ rfl, stored, Option.map_some]

/-- Whatever a registered compressor zips it can unzip. -/
def Lossless (config : Config) : Prop :=
  ∀ type compressor payload zipped, config.compressors type = some compressor →
    compressor.zip payload = .ok zipped → compressor.unzip zipped = .ok payload

theorem lossless_plainConfig : Lossless plainConfig := by
  intro type compressor payload zipped registered success
  simp only [plainConfig] at registered
  split at registered
  · cases registered
    cases success
    rfl
  · cases registered

/-- The message asks for a compression the encoder cannot perform: there is
no such compressor, or it fails on the payload. -/
def FallsBack (config : Config) (message : Message) : Prop :=
  message.header.compressType ≠ .none ∧
    ∀ compressor, config.compressors message.header.compressType = some compressor →
      ∃ err, compressor.zip message.payload = .error err

/-- What the encoder can do with the payload: give up compressing it, find
that no compression is asked for, or compress it. -/
theorem compress_cases (config : Config) (message : Message) :
    (FallsBack config message ∧
      message.compress config = (message.header.setCompressType .none, message.payload)) ∨
    (¬ FallsBack config message ∧ message.header.compressType = .none ∧
      message.compress config = (message.header, message.payload)) ∨
    (¬ FallsBack config message ∧ message.header.compressType ≠ .none ∧
      ∃ compressor zipped, config.compressors message.header.compressType = some compressor ∧
        compressor.zip message.payload = .ok zipped ∧
        message.compress config = (message.header, zipped)) := by
  by_cases plain : message.header.compressType = .none
  · exact .inr (.inl ⟨fun falls => falls.1 plain, plain, by simp [compress, plain]⟩)
  · cases registered : config.compressors message.header.compressType with
    | none =>
      refine .inl ⟨⟨plain, ?_⟩, by simp [compress, plain, registered]⟩
      intro compressor found
      cases registered.symm.trans found
    | some compressor =>
      cases result : compressor.zip message.payload with
      | error err =>
        refine .inl ⟨⟨plain, ?_⟩, by simp [compress, plain, registered, result]⟩
        intro other found
        cases registered.symm.trans found
        exact ⟨err, result⟩
      | ok zipped =>
        refine .inr (.inr ⟨?_, plain, compressor, zipped, rfl, result, ?_⟩)
        · rintro ⟨_, failing⟩
          obtain ⟨err, failed⟩ := failing compressor registered
          cases result.symm.trans failed
        · simp [compress, plain, registered, result]

theorem decompress_plain {message : Message} (plain : message.header.compressType = .none) :
    message.decompress config = (message, none) := by
  simp [decompress, plain]

/-- Decompression undoes what `compress` did, fallbacks included. -/
theorem decompress_compress (lossless : Lossless config) (sent received : Message)
    (header : received.header = (sent.compress config).1)
    (payload : received.payload = (sent.compress config).2) :
    received.decompress config = ({ received with payload := sent.payload }, none) := by
  rcases compress_cases config sent with ⟨_, compressed⟩ | ⟨_, plain, compressed⟩ |
    ⟨_, asked, compressor, zipped, registered, success, compressed⟩
  · simp only [compressed] at header payload
    rw [decompress_plain (by rw [header, Header.compressType_setCompressType_none]), ← payload]
  · simp only [compressed] at header payload
    rw [decompress_plain (by rw [header, plain]), ← payload]
  · rw [compressed] at header payload
    have restored := lossless _ _ _ _ registered success
    simp [decompress, header, payload, asked, registered, restored]

/-- A frame whose payload is declared to have any number of bytes. -/
def frameDeclaring (header : Header) (path method : Bytes) (entries : List (Sigma fun _ : Bytes => Bytes))
    (declared : Nat) (payload : Bytes) : Bytes :=
  header.bytes.toList ++ (bigEndian 4 (bodyOf path method entries declared payload).length ++
    bodyOf path method entries declared payload)

theorem frameDeclaring_length (header : Header) (path method : Bytes)
    (entries : List (Sigma fun _ : Bytes => Bytes)) (payload : Bytes) :
    frameDeclaring header path method entries payload.length payload =
      frame header path method (entries.flatMap encodeEntry) payload := by
  have total : (bodyOf path method entries payload.length payload).length =
      totalLength path method (entries.flatMap encodeEntry) payload := by
    rw [length_bodyOf, totalLength, metaOffset]
    omega
  rw [frameDeclaring, total]
  simp [frame, bodyOf, encodeField]

/-- A frame is parsed into the fields it was laid out from, up to the
compression of its payload, and exactly its bytes are consumed. -/
theorem decode_frameDeclaring (config : Config) (message : Message) (header : Header) (path method : Bytes)
    (entries : List (Sigma fun _ : Bytes => Bytes)) (payload : Bytes) (magic : header.first = magicNumber)
    (small : (bodyOf path method entries declared payload).length < 2 ^ 32) (fits : declared < 2 ^ 32)
    (limit : 0 < config.maxMessageLength →
      ((bodyOf path method entries declared payload).length : Int) ≤ config.maxMessageLength)
    (rest : Bytes) (failure : GoError) :
    ∃ data, message.decode config ⟨frameDeclaring header path method entries declared payload ++ rest, failure⟩ =
      some (((⟨header, path, method, metadataOf entries message.metadata, payload, data⟩ : Message).decompress
        config).1, ⟨rest, failure⟩,
        ((⟨header, path, method, metadataOf entries message.metadata, payload, data⟩ : Message).decompress
          config).2) := by
  obtain ⟨data, leftover, received, dataArray, dataLength⟩ := decodeData_encoded config message.data
    (bodyOf path method entries declared payload) rest failure small limit
  have parsed := decodeBody_bodyOf config { message with header := header, data := data }
    dataArray dataLength (dataLength ▸ small) fits
  refine ⟨data, ?_⟩
  rw [frameDeclaring, List.append_assoc, List.append_assoc, decode,
    decodeHeader_encoded message.header header magic]
  simp only [received, Option.bind_some, parsed, Option.map_some]

/-- `received` says what `sent` said. A nil and an empty map are the same, and
the compress bits are cleared where the encoder fell back to no compression. -/
structure Delivers (config : Config) (sent received : Message) : Prop where
  header : ¬ FallsBack config sent → received.header = sent.header
  fallback : FallsBack config sent → received.header = sent.header.setCompressType .none
  servicePath : received.servicePath = sent.servicePath
  serviceMethod : received.serviceMethod = sent.serviceMethod
  metadata : received.metadata.getD ∅ = sent.metadata.getD ∅
  payload : received.payload = sent.payload

end Message

/-- One call of `EncodeSlicePointer`: the message, the order in which its map
is visited, and the buffer pool with the buffer it hands out. -/
structure Transmission where
  message : Message
  order : IterationOrder
  pool : LimitedPool
  pick : Nat

namespace Transmission

def encode (config : Config) (sent : Transmission) : Option Bytes :=
  (sent.message.encodeSlicePointer config sent.pool sent.pick sent.order).map fun result => result.1.bytes

def bodyLength (config : Config) (sent : Transmission) : Nat :=
  Message.totalLength sent.message.servicePath sent.message.serviceMethod (encodeMetadata sent.order)
    (sent.message.compress config).2

/-- What the format asks of a message, its encoder and the length limit. -/
structure Fits (config : Config) (sent : Transmission) : Prop where
  magic : sent.message.header.first = magicNumber
  order : sent.order.toFinmap = sent.message.metadata.getD ∅
  pool : bufferPool.Reachable sent.pool
  small : sent.bodyLength config < 2 ^ 32
  limit : config.maxMessageLength = 0 ∨ (sent.bodyLength config : Int) ≤ config.maxMessageLength

theorem encode_eq {sent : Transmission} (reachable : bufferPool.Reachable sent.pool) :
    sent.encode config = some (sent.message.frameOf config sent.order) := by
  obtain ⟨data, next, encoded, bytes, _⟩ := sent.message.encodeSlicePointer_eq config
    (valid_bufferPool reachable) sent.pick sent.order
  simp [encode, encoded, bytes]

/-- One frame is decoded to the message it was built from, and exactly its
bytes are consumed. -/
theorem Fits.decode_frame (lossless : Message.Lossless config) (fits : Fits config sent) (rest : Bytes)
    (failure : GoError) :
    ∃ received, Message.newMessage.decode config
        ⟨sent.message.frameOf config sent.order ++ rest, failure⟩ =
        some (received, ⟨rest, failure⟩, none) ∧
      sent.message.Delivers config received := by
  have magic : (sent.message.compress config).1.first = magicNumber := by
    rcases Message.compress_cases config sent.message with ⟨_, compressed⟩ | ⟨_, _, compressed⟩ |
      ⟨_, _, _, _, _, _, compressed⟩
    · rw [compressed, Header.first_setCompressType, fits.magic]
    · rw [compressed, fits.magic]
    · rw [compressed, fits.magic]
  have length : (Message.bodyOf sent.message.servicePath sent.message.serviceMethod sent.order.entries
      (sent.message.compress config).2.length (sent.message.compress config).2).length =
        sent.bodyLength config := by
    rw [Message.length_bodyOf, bodyLength, Message.totalLength, Message.metaOffset, encodeMetadata]
    omega
  have small := fits.small
  have limit := fits.limit
  obtain ⟨data, decoded⟩ := Message.decode_frameDeclaring config .newMessage
    (sent.message.compress config).1 sent.message.servicePath sent.message.serviceMethod sent.order.entries
    (sent.message.compress config).2 magic (length ▸ small) (by rw [Message.length_bodyOf] at length; omega)
    (by rw [length]; omega) rest failure
  rw [Message.frameDeclaring_length, Message.decompress_compress lossless sent.message _ rfl rfl] at decoded
  have sameMap := Message.metadataOf_order sent.order
  refine ⟨_, decoded, ?_, ?_, rfl, rfl, sameMap.trans fits.order, rfl⟩
  · intro kept
    rcases Message.compress_cases config sent.message with ⟨falls, _⟩ | ⟨_, _, compressed⟩ |
      ⟨_, _, _, _, _, _, compressed⟩
    · exact absurd falls kept
    · simp [compressed]
    · simp [compressed]
  · intro falls
    rcases Message.compress_cases config sent.message with ⟨_, compressed⟩ | ⟨kept, _⟩ | ⟨kept, _⟩
    · simp [compressed]
    · exact absurd falls kept
    · exact absurd falls kept

end Transmission

/-- Repeated `Decode` into fresh messages: each message with the stream as it
stands behind it. A panic or an error ends the reading without a result. -/
def readMessages (config : Config) : Nat → Reader → Option (List (Message × Reader))
  | 0, _ => some []
  | count + 1, reader =>
    match Message.newMessage.decode config reader with
    | some (message, reader, none) =>
      (readMessages config count reader).map ((message, reader) :: ·)
    | _ => none

/-- Reading the concatenated frames gives the messages back, each behind
exactly its own frame, for any contents of the recycled buffers and any order
of the metadata. -/
theorem readMessages_encoded (config : Config) (lossless : Message.Lossless config)
    (sent : List Transmission) (fits : ∀ transmission ∈ sent, transmission.Fits config)
    (rest : Bytes) (failure : GoError) :
    ∃ frames results, sent.mapM (Transmission.encode config) = some frames ∧
      readMessages config sent.length ⟨frames.flatten ++ rest, failure⟩ = some results ∧
      List.Forall₂ (fun transmission result => transmission.message.Delivers config result.1)
        sent results ∧
      results.map Prod.snd = frames.tails.tail.map fun later => ⟨later.flatten ++ rest, failure⟩ := by
  induction sent with
  | nil => exact ⟨[], [], rfl, rfl, .nil, rfl⟩
  | cons first later ih =>
    obtain ⟨frames, results, encoded, read, delivered, behind⟩ :=
      ih fun transmission member => fits transmission (List.mem_cons_of_mem first member)
    have firstFits := fits first List.mem_cons_self
    obtain ⟨received, decoded, delivers⟩ := firstFits.decode_frame lossless
      (frames.flatten ++ rest) failure
    refine ⟨first.message.frameOf config first.order :: frames,
      (received, ⟨frames.flatten ++ rest, failure⟩) :: results, ?_, ?_, .cons delivers delivered, ?_⟩
    · simp [List.mapM_cons, Transmission.encode_eq firstFits.pool, encoded]
    · simp [readMessages, decoded, read]
    · cases frames <;> simp_all

/-- A request that asks for a compressor nobody registered, with one metadata
entry, encoded into a buffer full of old bytes. -/
def sampleTransmission : Transmission where
  message :=
    { header := Header.setCompressType .fresh .gzip
      servicePath := utf8 "Arith"
      serviceMethod := utf8 "Mul"
      metadata := some (Finmap.singleton (utf8 "k") (utf8 "v"))
      payload := [1, 2, 3]
      data := .empty }
  order := AList.singleton (utf8 "k") (utf8 "v")
  pool := (LimitedPool.withLevels 512 4096).put (.ofBytes (List.replicate 512 0xff))
  pick := 0

theorem readMessages_encoded_sample :
    ∃ frames results,
      [sampleTransmission, sampleTransmission].mapM (Transmission.encode plainConfig) = some frames ∧
      readMessages plainConfig 2 ⟨frames.flatten ++ [0xff], .eof⟩ = some results ∧
      List.Forall₂ (fun transmission result => transmission.message.Delivers plainConfig result.1)
        [sampleTransmission, sampleTransmission] results ∧
      results.map Prod.snd = frames.tails.tail.map fun later => ⟨later.flatten ++ [0xff], .eof⟩ := by
  refine readMessages_encoded plainConfig Message.lossless_plainConfig [sampleTransmission, sampleTransmission] ?_
    [0xff] .eof
  intro transmission member
  have same : transmission = sampleTransmission := by simpa using member
  subst transmission
  have length : sampleTransmission.bodyLength plainConfig = 37 := by decide
  have reachable : bufferPool.Reachable sampleTransmission.pool :=
    .step (.start rfl) (.put (.ofBytes (List.replicate 512 0xff))) trivial
      (by simp only [bufferPool, LimitedPool.system, LimitedPool.step, sampleTransmission])
  exact ⟨by decide, rfl, reachable, by rw [length]; decide, by rw [length]; decide⟩

end Irpc.Protocol
