import Irpc.Foundation.Writer
import Irpc.Protocol.Encode

/-! `Message.WriteTo`: the frame piece by piece into a writer, without a buffer
of its own. -/
namespace Irpc.Protocol

open Irpc.Foundation Irpc.Util

namespace Message

/-- Where an error that `WriteTo` returns comes from. -/
inductive WriteFailure where
  | writer (err : GoError)
  | own (err : GoError)
  deriving DecidableEq

/-- The payload `WriteTo` sends. Unlike `EncodeSlicePointer` it does not fall back to
no compression. -/
def zipped (config : Config) (message : Message) : Except GoError Bytes :=
  if message.header.compressType = .none then .ok message.payload
  else
    match config.compressors message.header.compressType with
    | none => .error errUnsupportedCompressor
    | some compressor => compressor.zip message.payload

/-- What is written between the header and the payload, one write each. Every one of
these writes has the same exit. -/
def middle (path method metaBytes payload : Bytes) : List Bytes :=
  [bigEndian 4 (totalLength path method metaBytes payload),
    bigEndian 4 path.length,
    path,
    bigEndian 4 method.length,
    method,
    bigEndian 4 metaBytes.length,
    metaBytes,
    bigEndian 4 payload.length]

section Writing

variable {State : Type} (config : Config) (writer : ByteWriter State GoError) (order : IterationOrder)

/-- The writes behind the header, whose count is `n`. -/
def writeBody (message : Message) (payload : Bytes) (n : Nat) (sink : Sink State) :
    Written (Sink State) WriteFailure :=
  match writer.putAll (middle message.servicePath message.serviceMethod (encodeMetadata order) payload) sink with
  | (some err, sink) => ⟨n, some (.writer err), sink⟩
  | (none, sink) =>
    -- the count of the last write replaces that of the first
    let last := writer.put sink payload
    ⟨last.count, last.error.map .writer, last.next⟩

/-- The returned count with the returned error, and the sink. -/
def writeTo (message : Message) (sink : Sink State) : Written (Sink State) WriteFailure :=
  let first := writer.put sink message.header.bytes.toList
  match first.error with
  | some err => ⟨first.count, some (.writer err), first.next⟩
  | none =>
    match message.zipped config with
    | .error err => ⟨first.count, some (.own err), first.next⟩
    | .ok payload => message.writeBody writer order payload first.count first.next

end Writing

section Frames

variable {State : Type} {config : Config} {writer : ByteWriter State GoError} {message : Message} {sent : Bytes}

/-- Compression does not stand in the way of `WriteTo`: there is none, or its
compressor is registered and takes the payload. -/
def Compresses (config : Config) (message : Message) : Prop :=
  message.header.compressType = .none ∨
    ∃ compressor sent, config.compressors message.header.compressType = some compressor ∧
      compressor.zip message.payload = .ok sent

theorem compresses_iff : message.Compresses config ↔ ∃ sent, message.zipped config = .ok sent := by
  unfold Compresses zipped
  by_cases plain : message.header.compressType = .none
  · simp [plain]
  · cases registered : config.compressors message.header.compressType with
    | none => simp [plain]
    | some compressor => simp [plain]

/-- Where the compression succeeds, both encodings send the same header and payload. -/
theorem compress_of_zipped (ready : message.zipped config = .ok sent) :
    message.compress config = (message.header, sent) := by
  unfold zipped at ready
  unfold compress
  by_cases plain : message.header.compressType = .none
  · rw [if_pos plain] at ready ⊢
    rw [Except.ok.inj ready]
  · rw [if_neg plain] at ready ⊢
    cases registered : config.compressors message.header.compressType with
    | none => simp [registered] at ready
    | some compressor =>
      rw [registered] at ready
      simp only [show compressor.zip message.payload = .ok sent from ready]

theorem frame_eq_pieces (header : Header) (path method metaBytes sent : Bytes) :
    frame header path method metaBytes sent =
      header.bytes.toList ++ (middle path method metaBytes sent).flatten ++ sent := by
  simp [frame, middle, encodeField]

theorem flatten_middle_pos (path method metaBytes sent : Bytes) :
    0 < (middle path method metaBytes sent).flatten.length := by
  simp only [middle, List.flatten_cons, List.length_append, length_bigEndian]
  omega

theorem writeTo_of_zipped (order : IterationOrder) (sink : Sink State)
    (passed : (writer.put sink message.header.bytes.toList).error = none)
    (ready : message.zipped config = .ok sent) :
    message.writeTo config writer order sink = message.writeBody writer order sent 12
      (writer.put sink message.header.bytes.toList).next := by
  have whole := ByteWriter.count_put passed
  rw [Header.length_toList] at whole
  simp only [writeTo, passed, ready, whole]

/-- All writes behind the header pass a writer that never fails. -/
theorem writeBody_of_acceptsAll (accepts : writer.AcceptsAll) (order : IterationOrder) (message : Message)
    (sent : Bytes) (n : Nat) (sink : Sink State) :
    (message.writeBody writer order sent n sink).error = none ∧
      (message.writeBody writer order sent n sink).next.accepted = sink.accepted ++
        (middle message.servicePath message.serviceMethod (encodeMetadata order) sent).flatten ++ sent := by
  have all := accepts.putAll (middle message.servicePath message.serviceMethod (encodeMetadata order) sent) sink
  have pieces := ByteWriter.accepted_putAll _ _ _ all
  unfold writeBody
  generalize writer.putAll _ _ = written at all pieces
  obtain ⟨err, later⟩ := written
  obtain rfl : err = none := all
  have last : (writer.put later sent).error = none := accepts _ _
  refine ⟨by simp only [last, Option.map_none], ?_⟩
  rw [ByteWriter.accepted_put last, pieces]

/-- A message that compresses goes to a writer that never fails as the frame that
`EncodeSlicePointer` builds, whatever the buffer taken for it held. -/
theorem writeTo_eq_encodeSlicePointer (accepts : writer.AcceptsAll) (compresses : message.Compresses config)
    (reachable : bufferPool.Reachable pool) (pick : Nat) (order : IterationOrder) (sink : Sink State) :
    ∃ data next, message.encodeSlicePointer config pool pick order = some (data, message, next) ∧
      (message.writeTo config writer order sink).error = none ∧
      (message.writeTo config writer order sink).next.accepted = sink.accepted ++ data.bytes := by
  obtain ⟨sent, ready⟩ := compresses_iff.mp compresses
  have compressed := compress_of_zipped ready
  obtain ⟨data, next, encoded, framed, -⟩ :=
    encodeSlicePointer_eq config (valid_bufferPool reachable) pick order message
  have passed : (writer.put sink message.header.bytes.toList).error = none := accepts _ _
  obtain ⟨quiet, written⟩ := writeBody_of_acceptsAll accepts order message sent 12
    (writer.put sink message.header.bytes.toList).next
  refine ⟨data, next, by rw [encoded, compressed], ?_⟩
  rw [writeTo_of_zipped order sink passed ready]
  refine ⟨quiet, ?_⟩
  rw [written, ByteWriter.accepted_put passed, framed, frameOf, compressed, frame_eq_pieces]
  simp only [List.append_assoc]

def gzipRequest : Message :=
  { newMessage with
    header := Header.fresh.setCompressType .gzip
    servicePath := utf8 "Arith"
    serviceMethod := utf8 "Mul"
    payload := [1, 2, 3] }

theorem writeTo_eq_encodeSlicePointer_gzip :
    let config : Config := ⟨fun _ => some rawDataCompressor, 64⟩
    let sink : Sink Unit := ⟨(), []⟩
    ∃ data next, gzipRequest.encodeSlicePointer config (LimitedPool.withLevels 512 4096) 0 ∅ =
        some (data, gzipRequest, next) ∧
      (gzipRequest.writeTo config .unlimited ∅ sink).error = none ∧
      (gzipRequest.writeTo config .unlimited ∅ sink).next.accepted = [] ++ data.bytes :=
  writeTo_eq_encodeSlicePointer (fun _ _ => rfl) (.inr ⟨rawDataCompressor, [1, 2, 3], rfl, rfl⟩) (.start rfl) 0 ∅ _

/-- The count is that of the bytes the writer has taken, and an error of `WriteTo`
itself comes before the first of them. -/
structure Honest (sink : Sink State) (written : Written (Sink State) WriteFailure) : Prop where
  count : written.next.accepted.length = sink.accepted.length + written.count
  untouched : ∀ err, written.error = some (.own err) → written.next.accepted = sink.accepted

/-- The writer refuses the length of the frame outright. -/
def RefusesLength (writer : ByteWriter State GoError) (order : IterationOrder) (message : Message)
    (sent : Bytes) (sink : Sink State) : Prop :=
  let length := bigEndian 4 (totalLength message.servicePath message.serviceMethod (encodeMetadata order) sent)
  (writer.put sink length).error ≠ none ∧ (writer.put sink length).count = 0

/-- Behind the header the count is right only while nothing more has been taken. -/
theorem honest_writeBody_iff (order : IterationOrder) {sink first : Sink State}
    (grown : first.accepted.length = sink.accepted.length + 12) :
    Honest sink (message.writeBody writer order sent 12 first) ↔ message.RefusesLength writer order sent first := by
  have nonempty : bigEndian 4
      (totalLength message.servicePath message.serviceMethod (encodeMetadata order) sent) ≠ [] :=
    List.ne_nil_of_length_pos (by simp)
  have stopped := ByteWriter.length_putAll_eq_iff writer nonempty
    ((middle message.servicePath message.serviceMethod (encodeMetadata order) sent).drop 1) first
  have pieces := ByteWriter.accepted_putAll writer
    (middle message.servicePath message.serviceMethod (encodeMetadata order) sent) first
  change (writer.putAll (middle _ _ _ _) first).2.accepted.length = _ ↔ _ at stopped
  unfold RefusesLength writeBody
  dsimp only
  rw [← stopped]
  generalize writer.putAll _ first = written at pieces stopped
  obtain ⟨err, later⟩ := written
  cases err with
  | some err =>
    constructor
    · intro honest
      have counted := honest.count
      dsimp only at counted ⊢
      omega
    · intro same
      exact ⟨by dsimp only at same ⊢; omega, nofun⟩
  | none =>
    -- the count of the last write alone is short by all writes before it
    have length := congrArg List.length (pieces rfl)
    have last := ByteWriter.length_put writer later sent
    have more := flatten_middle_pos message.servicePath message.serviceMethod (encodeMetadata order) sent
    rw [List.length_append] at length
    dsimp only at length last ⊢
    constructor
    · intro honest
      have counted := honest.count
      dsimp only at counted
      omega
    · intro same
      omega

/-- `WriteTo` is honest exactly if the writer fails at the header, or if the message
compresses and the writer refuses the length behind the header outright. -/
theorem writeTo_honest_iff (config : Config) (writer : ByteWriter State GoError) (order : IterationOrder)
    (message : Message) (sink : Sink State) :
    Honest sink (message.writeTo config writer order sink) ↔
      (writer.put sink message.header.bytes.toList).error ≠ none ∨
        ∃ sent, message.zipped config = .ok sent ∧
          message.RefusesLength writer order sent (writer.put sink message.header.bytes.toList).next := by
  have grown := ByteWriter.length_put writer sink message.header.bytes.toList
  cases outcome : (writer.put sink message.header.bytes.toList).error with
  | some err =>
    have failed : message.writeTo config writer order sink =
        ⟨(writer.put sink message.header.bytes.toList).count, some (.writer err),
          (writer.put sink message.header.bytes.toList).next⟩ := by
      simp only [writeTo, outcome]
    rw [failed]
    exact iff_of_true ⟨grown, nofun⟩ (.inl nofun)
  | none =>
    have whole := ByteWriter.count_put outcome
    rw [Header.length_toList] at whole
    rw [whole] at grown
    cases ready : message.zipped config with
    | ok sent =>
      rw [writeTo_of_zipped order sink outcome ready, honest_writeBody_iff order grown]
      simp
    | error err =>
      -- the header is on its way when the compression fails
      have refused : message.writeTo config writer order sink =
          ⟨12, some (.own err), (writer.put sink message.header.bytes.toList).next⟩ := by
        simp only [writeTo, outcome, ready, whole]
      rw [refused]
      refine iff_of_false (fun honest => ?_) (by simp)
      have untouched := congrArg List.length (honest.untouched err rfl)
      dsimp only at untouched
      omega

/-- A whole frame is written and the count is that of its payload alone; and the header
of a message without a compressor is written before the error. -/
theorem writeTo_miscounts :
    let sink : Sink Unit := ⟨(), []⟩
    let whole := newMessage.writeTo plainConfig .unlimited ∅ sink
    let refused := gzipRequest.writeTo plainConfig .unlimited ∅ sink
    (whole.error = none ∧ whole.count = 0 ∧ whole.next.accepted.length = 32 ∧ ¬ Honest sink whole) ∧
      refused.error = some (.own errUnsupportedCompressor) ∧ refused.next.accepted.length = 12 := by
  refine ⟨⟨rfl, rfl, rfl, fun honest => ?_⟩, by decide +kernel, by decide +kernel⟩
  have counted := honest.count
  revert counted
  decide +kernel

end Frames

end Message

end Irpc.Protocol
