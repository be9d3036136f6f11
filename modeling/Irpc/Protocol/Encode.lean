import Irpc.Protocol.Metadata
import Irpc.Util.BufferPool

namespace Irpc.Protocol

open Irpc.Foundation Irpc.Util

/-- The recycled output buffers, in every state their use can bring them to. -/
def bufferPool : System LimitedPool LimitedPool.Event := LimitedPool.system 512 4096

theorem valid_bufferPool (reachable : bufferPool.Reachable pool) : pool.Valid :=
  LimitedPool.valid_of_reachable (by decide) reachable

namespace Message

/-- The header and payload that go on the wire. The header is shared with the
caller's message, so falling back to no compression is visible there. -/
def compress (config : Config) (message : Message) : Header × Bytes :=
  if message.header.compressType = .none then (message.header, message.payload)
  else
    match config.compressors message.header.compressType with
    | none => (message.header.setCompressType .none, message.payload)
    | some compressor =>
      match compressor.zip message.payload with
      | .ok zipped => (message.header, zipped)
      | .error _ => (message.header.setCompressType .none, message.payload)

def totalLength (path method metaBytes payload : Bytes) : Nat :=
  (4 + path.length) + (4 + method.length) + (4 + metaBytes.length) + (4 + payload.length)

/-- The stores of `EncodeSlicePointer` with their hand-computed offsets. -/
def frameStores (header : Header) (path method metaBytes payload : Bytes) : List (Nat × Bytes) :=
  let metaStart := 12 + 4 + (4 + path.length) + (4 + method.length)
  let payloadStart := metaStart + (4 + metaBytes.length)
  [(0, header.bytes.toList),
    (12, bigEndian 4 (totalLength path method metaBytes payload)),
    (16, bigEndian 4 path.length),
    (20, path),
    (20 + path.length, bigEndian 4 method.length),
    (24 + path.length, method),
    (metaStart, bigEndian 4 metaBytes.length),
    (metaStart + 4, metaBytes),
    (payloadStart, bigEndian 4 payload.length),
    (payloadStart + 4, payload)]

/-- `order` is the order in which the metadata map is visited and `pick` the
buffer the pool hands out. The result is the frame, the message as the call
leaves it, and the pool. -/
def encodeSlicePointer (config : Config) (pool : LimitedPool) (pick : Nat) (order : IterationOrder)
    (message : Message) : Option (Slice × Message × LimitedPool) := do
  let metaBytes := encodeMetadata order
  let (header, payload) := message.compress config
  let length := 12 + 4 + totalLength message.servicePath message.serviceMethod metaBytes payload
  let (data, pool) ← pool.get length pick
  let frame ← data.storeAll
    (frameStores header message.servicePath message.serviceMethod metaBytes payload)
  return (frame, { message with header := header }, pool)

/-- The layout of a frame, with no reference to offsets or buffers. -/
def frame (header : Header) (path method metaBytes payload : Bytes) : Bytes :=
  header.bytes.toList ++ bigEndian 4 (totalLength path method metaBytes payload) ++
    (encodeField path ++ encodeField method ++ encodeField metaBytes ++ encodeField payload)

theorem contiguous_frameStores (header : Header) (path method metaBytes payload : Bytes) :
    Slice.Contiguous 0 (frameStores header path method metaBytes payload) := by
  simp only [frameStores, Slice.Contiguous, Header.length_toList, length_bigEndian, and_true, true_and]
  omega

theorem flatten_frameStores (header : Header) (path method metaBytes payload : Bytes) :
    ((frameStores header path method metaBytes payload).map Prod.snd).flatten =
      frame header path method metaBytes payload := by
  simp [frameStores, frame, encodeField]

theorem length_frame (header : Header) (path method metaBytes payload : Bytes) :
    (frame header path method metaBytes payload).length =
      12 + 4 + totalLength path method metaBytes payload := by
  simp only [frame, totalLength, List.length_append, Header.length_toList, length_bigEndian,
    length_encodeField]

def frameOf (config : Config) (order : IterationOrder) (message : Message) : Bytes :=
  frame (message.compress config).1 message.servicePath message.serviceMethod
    (encodeMetadata order) (message.compress config).2

/-- Encoding never runs out of its buffer, and the frame does not depend on
what the recycled buffer held. -/
theorem encodeSlicePointer_eq (config : Config) (valid : pool.Valid) (pick : Nat)
    (order : IterationOrder) (message : Message) :
    ∃ data next, message.encodeSlicePointer config pool pick order =
        some (data, { message with header := (message.compress config).1 }, next) ∧
      data.bytes = message.frameOf config order ∧ next.Valid := by
  rcases compressed : message.compress config with ⟨header, payload⟩
  obtain ⟨buffer, next, taken, length, validNext⟩ := valid.get
    (12 + 4 + totalLength message.servicePath message.serviceMethod (encodeMetadata order) payload) pick
  obtain ⟨data, stored, dataBytes⟩ := Slice.storeAll_contiguous
    (frameStores header message.servicePath message.serviceMethod (encodeMetadata order) payload)
    buffer [] buffer.bytes (by simp) (contiguous_frameStores ..)
    (by rw [flatten_frameStores, length_frame, Slice.length_bytes, length])
  refine ⟨data, next, ?_, ?_, validNext⟩
  · simp [encodeSlicePointer, compressed, taken, stored]
  · rw [dataBytes, flatten_frameStores, frameOf, compressed]
    rfl

end Message

end Irpc.Protocol
