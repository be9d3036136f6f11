import Irpc.Protocol.Encode
import Irpc.Protocol.MessagePool

/-! The requests that `Client.send` and `Server.SendMessage` build in messages
taken from the pool. -/
namespace Irpc.Client

open Irpc.Foundation Irpc.Protocol

/-- The options of a client that shape its requests. -/
structure ClientOption where
  serializeType : SerializeType
  compressType : CompressType

/-- What a call asks for. Without a place for the reply it is one-way. -/
structure Call (Value : Type) where
  servicePath : Bytes
  serviceMethod : Bytes
  metadata : Option Metadata
  args : Option Value
  reply : Option Value

variable {Value : Type}

def Call.isHeartbeat (call : Call Value) : Bool :=
  call.servicePath == [] && call.serviceMethod == []

def Call.serializeType (option : ClientOption) (call : Call Value) : SerializeType :=
  if call.isHeartbeat then .msgPack else option.serializeType

/-- The plugins that see a request before it is encoded. They work on it through
its setters and fields. -/
abbrev BeforeEncode := Message → List Message.Edit

def BeforeEncode.run (hook : BeforeEncode) (message : Message) : Message :=
  (hook message).foldl Message.edit message

def sendHeader (option : ClientOption) (call : Call Value) (seq : UInt64) (data : Bytes)
    (header : Header) : Header :=
  let header := (header.setMessageType .request).setSeq seq
  let header := if call.reply.isNone then header.setOneway true else header
  let header := if call.isHeartbeat then header.setHeartbeat true else header
  let header := header.setSerializeType (call.serializeType option)
  if 1024 < data.length ∧ option.compressType ≠ .none then header.setCompressType option.compressType
  else header

/-- The request `Client.send` builds in `pooled` for the encoded arguments. -/
def sendRequest (option : ClientOption) (hook : BeforeEncode) (call : Call Value) (seq : UInt64)
    (data : Bytes) (pooled : Message) : Message :=
  hook.run
    { pooled with
      header := sendHeader option call seq data pooled.header
      metadata := if call.metadata.isSome then call.metadata else pooled.metadata
      servicePath := call.servicePath
      serviceMethod := call.serviceMethod
      payload := data }

theorem first_run (hook : BeforeEncode) (message : Message) :
    (hook.run message).header.first = message.header.first := by
  unfold BeforeEncode.run
  induction hook message generalizing message with
  | nil => rfl
  | cons edit rest ih => exact (ih _).trans (message.first_edit edit)

theorem data_run (hook : BeforeEncode) (message : Message) :
    (hook.run message).data = message.data := by
  unfold BeforeEncode.run
  induction hook message generalizing message with
  | nil => rfl
  | cons edit rest ih => exact (ih _).trans (message.data_edit edit)

theorem first_sendHeader (option : ClientOption) (call : Call Value) (seq : UInt64) (data : Bytes)
    (header : Header) : (sendHeader option call seq data header).first = header.first := by
  have oneway := fun header : Header => header.first_set (.oneway true)
  have heartbeat := fun header : Header => header.first_set (.heartbeat true)
  have compress := fun header : Header => header.first_set (.compressType option.compressType)
  have serialize := fun header : Header => header.first_set (.serializeType (call.serializeType option))
  have type := header.first_set (.messageType .request)
  have number := (header.setMessageType .request).first_set (.seq seq)
  simp only [Header.set] at *
  unfold sendHeader
  dsimp only
  split <;> split <;> split <;> simp only [oneway, heartbeat, compress, serialize, type, number]

end Irpc.Client

namespace Irpc.Server

open Irpc.Foundation Irpc.Protocol

/-- The request `Server.SendMessage` builds in `pooled`. -/
def sendMessageRequest (seq : UInt64) (servicePath serviceMethod : Bytes) (metadata : Option Metadata)
    (data : Bytes) (pooled : Message) : Message :=
  { pooled with
    header := (((pooled.header.setMessageType .request).setSeq seq).setOneway true).setSerializeType
      .serializeNone
    servicePath := servicePath
    serviceMethod := serviceMethod
    metadata := metadata
    payload := data }

end Irpc.Server

namespace Irpc.Protocol

open Irpc.Foundation Irpc.Client Irpc.Server

theorem first_compress (config : Config) (message : Message) :
    (message.compress config).1.first = message.header.first := by
  unfold Message.compress
  split
  · rfl
  · split
    · exact message.header.first_setCompressType .none
    · split
      · rfl
      · exact message.header.first_setCompressType .none

/-- Every frame the message can be encoded to starts with the magic number. -/
def FramedWithMagic (config : Config) (message : Message) : Prop :=
  ∀ buffers pick order, bufferPool.Reachable buffers →
    ∃ frame after rest, message.encodeSlicePointer config buffers pick order = some (frame, after, rest) ∧
      frame.bytes.head? = some magicNumber

theorem framedWithMagic (config : Config) (magic : message.header.first = magicNumber) :
    FramedWithMagic config message := by
  intro buffers pick order reachable
  obtain ⟨frame, rest, encoded, bytes, -⟩ :=
    Message.encodeSlicePointer_eq config (valid_bufferPool reachable) pick order message
  refine ⟨frame, _, rest, encoded, ?_⟩
  rw [bytes, Message.frameOf, Message.frame, Header.bytes_eq_cons, first_compress, magic]
  rfl

/-- What the users of a message from the pool rely on: it is clean, and a request
built in it goes out with the magic number the peer checks. -/
structure Usable (config : Config) (message : Message) : Prop where
  clean : message.Clean
  send : ∀ {Value : Type} option hook (call : Call Value) seq data,
    FramedWithMagic config (sendRequest option hook call seq data message)
  sendMessage : ∀ seq path method metadata data,
    FramedWithMagic config (sendMessageRequest seq path method metadata data message)

theorem usable_of_clean (config : Config) (clean : message.Clean) : Usable config message where
  clean := clean
  send option hook call seq data := by
    refine framedWithMagic config ?_
    rw [sendRequest, first_run, first_sendHeader, clean.header]
    rfl
  sendMessage seq path method metadata data := by
    refine framedWithMagic config ?_
    have serialized := fun header : Header => header.first_set (.serializeType .serializeNone)
    have oneway := fun header : Header => header.first_set (.oneway true)
    have number := fun header : Header => header.first_set (.seq seq)
    have type := fun header : Header => header.first_set (.messageType .request)
    simp only [Header.set] at serialized oneway number type
    rw [sendMessageRequest, serialized, oneway, number, type, clean.header]
    rfl

namespace MessagePool

/-- Every message a run hands out is clean and frames with the magic number, as
long as every decoded stream is empty or starts with it. -/
theorem usable_of_reached (config : Config) (reached : (system config).Reached ReadsMagic pool)
    (pick : Nat) : Usable config (pool.getPooledMsg pick).1 :=
  usable_of_clean config ((all_clean reached).getPooledMsg Message.clean_newMessage pick).1

/-- A message freed after its stream broke off behind the magic number. -/
theorem usable_after_short_stream :
    ∃ pool, (system plainConfig).Reached ReadsMagic pool ∧ pool.pooled ≠ [] ∧
      Usable plainConfig (pool.getPooledMsg 0).1 := by
  have start : (system plainConfig).Reached ReadsMagic empty := .start rfl
  have decoded := (start.step (.getPooledMsg 0) trivial rfl).step (.decode 0 ⟨[magicNumber], .eof⟩)
    (by simp [ReadsMagic]) rfl
  have freed := decoded.step (.freeMsg 0) trivial rfl
  exact ⟨_, freed, by decide, usable_of_reached plainConfig freed 0⟩

/-- A message freed after its stream started with another byte comes back with
that byte in place of the magic number. -/
theorem dirty_after_wrong_magic :
    ∃ pool, (system plainConfig).play empty
        [.getPooledMsg 0, .decode 0 ⟨[0x00], .eof⟩, .freeMsg 0] = some pool ∧
      (system plainConfig).Reachable pool ∧ ¬ Usable plainConfig (pool.getPooledMsg 0).1 := by
  have start : (system plainConfig).Reachable empty := .start rfl
  have played : (system plainConfig).play empty
      [.getPooledMsg 0, .decode 0 ⟨[0x00], .eof⟩, .freeMsg 0] = some _ := rfl
  refine ⟨_, played, start.play played, ?_⟩
  intro usable
  have first := congrArg Header.first usable.clean.header
  exact absurd first (by decide)

end MessagePool

end Irpc.Protocol
