import Irpc.Client.Client
import Irpc.Protocol.RoundTrip
import Irpc.Server.Response

/-! Client and server on the kinds of frames: the frames a server writes, and what the
client takes them for. -/
namespace Irpc.Client

open Irpc.Protocol

/-- The message `input` hands to `handleServerRequest`, if a channel for them is
registered. -/
def serverRequest (registered : Bool) (res : Message) : Option Message :=
  if isServerMessage res && registered then some res else none

end Irpc.Client

namespace Irpc.Protocol.Message

open Irpc.Foundation

/-- The message has the header of the frame. -/
def Carries (frame : Bytes) (received : Message) : Prop := received.header.bytes.toList = frame.take 12

variable {config : Config} {message received : Message}

theorem take_frameOf (config : Config) (order : IterationOrder) (message : Message) :
    (message.frameOf config order).take 12 = (message.compress config).1.bytes.toList := by
  rw [frameOf, frame, List.append_assoc]
  exact List.take_left' (Header.length_toList _)

theorem carries_frameOf_iff {order : IterationOrder} :
    Carries (message.frameOf config order) received ↔ received.header = (message.compress config).1 := by
  rw [Carries, take_frameOf]
  exact Header.ext_iff.symm

/-- What was decoded without an error has the header of its frame. -/
theorem carries_of_decode {order : IterationOrder} {rest : Bytes} {failure : GoError}
    (decoded : newMessage.decode config ⟨message.frameOf config order ++ rest, failure⟩ =
      some (received, reader, none)) : Carries (message.frameOf config order) received := by
  obtain ⟨header, accepted⟩ := header_decode decoded
  rw [frameOf, frame, List.append_assoc, List.append_assoc] at header accepted
  rw [carries_frameOf_iff, header, decodeHeader_append _ _ _ _ (accepted rfl)]

/-- Encoding may clear the compress type of the header and changes nothing else. -/
theorem header_compress (config : Config) (message : Message) :
    (message.compress config).1 = message.header ∨
      (message.compress config).1 = message.header.setCompressType .none := by
  rcases compress_cases config message with ⟨_, compressed⟩ | ⟨_, _, compressed⟩ |
    ⟨_, _, _, _, _, _, compressed⟩
  · exact .inr (congrArg Prod.fst compressed)
  · exact .inl (congrArg Prod.fst compressed)
  · exact .inl (congrArg Prod.fst compressed)

end Irpc.Protocol.Message

namespace Irpc.Server

open Irpc.Foundation Irpc.Protocol

variable {Value : Type}

/-- The messages a server writes in reply to a request. -/
inductive Reply (server : Server Value) (req : Message) : Message → Prop where
  /-- From `handleRequest` and `sendResponse`, or for a heartbeat. -/
  | served (written : server.serveRequest pooled req resMetadata = some res) : Reply server req res
  | failed (written : handleError pooled req err = some res) : Reply server req res
  | wrote (written : server.contextWrite pooled req resMetadata value result = some (some res, err)) :
      Reply server req res
  | wroteError (written : server.contextWriteError pooled req resMetadata reported = some (some res, err)) :
      Reply server req res

theorem Reply.respondsTo {server : Server Value} (reply : Reply server req res) :
    RespondsTo req.header res.header := by
  cases reply with
  | served written => exact respondsTo_serveRequest written
  | failed written => exact respondsTo_handleError written
  | wrote written => exact respondsTo_contextWrite written
  | wroteError written => exact respondsTo_contextWriteError written

theorem RespondsTo.frame {req res : Message} (responds : RespondsTo req.header res.header) (config : Config) :
    RespondsTo req.header (res.compress config).1 := by
  rcases res.header_compress config with kept | cleared
  · rw [kept]
    exact responds
  · rw [cleared]
    exact responds.setCompressType .none

theorem RespondsTo.not_serverMessage {req : Header} {received : Message}
    (responds : RespondsTo req received.header) : Client.isServerMessage received = false := by
  have other : (MessageType.response == MessageType.request) = false := by decide
  simp [Client.isServerMessage, responds.messageType, other]

/-- The flags of a message of the server, taken from a clean one: one-way, and nothing
else. -/
theorem flags_sendMessage {pooled : Message} (clean : pooled.Clean) (seq : UInt64)
    (servicePath serviceMethod : Bytes) (metadata : Option Metadata) (data : Bytes) :
    (sendMessage pooled seq servicePath serviceMethod metadata data).header.flags = 0x20 := by
  simp [sendMessage, sendMessageRequest, Header.setOneway, Header.setMessageType, clean.header, Header.fresh]
  decide

theorem isServerMessage_of_flags {received : Message} (flags : received.header.flags = 0x20) :
    Client.isServerMessage received = true := by
  rw [Client.isServerMessage, Header.messageType, Header.isHeartbeat, Header.isOneway, flags]
  decide

theorem compressType_of_flags {header : Header} (flags : header.flags = 0x20) : header.compressType = .none := by
  rw [Header.compressType, flags]
  decide

/-- Every frame written in reply to a request is a response for the client, with the
sequence number, version and serialize type of the request, and is not handed over as a
message of the server. Every frame of `SendMessage` is a message of the server and leaves
the client as it was, whatever its sequence number. This is said of every message with the
header of the frame, which those that `Decode` returns have. -/
theorem frames_classified {server : Server Value} {config : Config} {order : IterationOrder} :
    (∀ req res received, Reply server req res → received.Carries (res.frameOf config order) →
      Client.isServerMessage received = false ∧ received.header.seq = req.header.seq ∧
      received.header.version = req.header.version ∧
      received.header.serializeType = req.header.serializeType ∧
      ∀ registered, Client.serverRequest registered received = none) ∧
    (∀ pooled seq servicePath serviceMethod metadata data received, pooled.Clean →
      Message.Carries ((sendMessage pooled seq servicePath serviceMethod metadata data).frameOf config order)
        received →
      Client.isServerMessage received = true ∧
      ∀ client decoded, Client.stepRespond client received decoded = client) ∧
    ∀ (message received : Message) rest failure reader,
      Message.newMessage.decode config ⟨message.frameOf config order ++ rest, failure⟩ =
        some (received, reader, none) →
      received.Carries (message.frameOf config order) := by
  refine ⟨?_, ?_, fun _ _ _ _ _ decoded => Message.carries_of_decode decoded⟩
  · intro req res received reply carries
    have responds := reply.respondsTo.frame config
    rw [← Message.carries_frameOf_iff.mp carries] at responds
    have response := responds.not_serverMessage
    refine ⟨response, responds.seq, responds.version, responds.serializeType, ?_⟩
    intro registered
    simp [Client.serverRequest, response]
  · intro pooled seq servicePath serviceMethod metadata data received clean carries
    have flags := flags_sendMessage clean seq servicePath serviceMethod metadata data
    have header := Message.carries_frameOf_iff.mp carries
    rw [Message.compress, if_pos (compressType_of_flags flags)] at header
    have pushed : Client.isServerMessage received = true := by
      apply isServerMessage_of_flags
      rw [header]
      exact flags
    refine ⟨pushed, ?_⟩
    intro client decoded
    rw [Client.stepRespond, if_pos pushed]

theorem decode_frame_plain (message : Message) (magic : message.header.first = magicNumber)
    (bare : message.metadata = none)
    (short : Transmission.bodyLength plainConfig ⟨message, ∅, .withLevels 512 4096, 0⟩ ≤ 64) :
    ∃ received, Message.newMessage.decode plainConfig ⟨message.frameOf plainConfig ∅ ++ [], .eof⟩ =
      some (received, ⟨[], .eof⟩, none) := by
  have limit : plainConfig.maxMessageLength = 64 := rfl
  have fits : Transmission.Fits plainConfig ⟨message, ∅, .withLevels 512 4096, 0⟩ :=
    ⟨magic, by rw [bare]; rfl, .start rfl, by omega, .inr (by omega)⟩
  obtain ⟨received, decoded, -⟩ := fits.decode_frame Message.lossless_plainConfig [] .eof
  exact ⟨received, decoded⟩

/-- The reply to a heartbeat, and a message of the server with the same number, as the client
decodes them. -/
theorem frames_classified_heartbeat :
    (∃ received reader, Message.newMessage.decode plainConfig
        ⟨(heartbeatResponse heartbeat).frameOf plainConfig ∅ ++ [], .eof⟩ = some (received, reader, none) ∧
      Client.isServerMessage received = false ∧ received.header.seq = 0) ∧
    ∃ received reader, Message.newMessage.decode plainConfig
        ⟨(sendMessage .newMessage (-1) [] [] none []).frameOf plainConfig ∅ ++ [], .eof⟩ =
          some (received, reader, none) ∧
      Client.isServerMessage received = true ∧ received.header.seq = 0 := by
  obtain ⟨replies, pushes, carries⟩ := @frames_classified _ (echoServer fun argv _ => .returned argv none) plainConfig ∅
  have answered : (echoServer fun argv _ => .returned argv none).serveRequest .newMessage heartbeat ∅ =
      some (heartbeatResponse heartbeat) := serveRequest_heartbeat (by decide)
  constructor
  · obtain ⟨received, decoded⟩ := decode_frame_plain (heartbeatResponse heartbeat) (by decide) rfl (by decide)
    obtain ⟨response, seq, -⟩ := replies heartbeat _ received (.served answered) (carries _ _ _ _ _ decoded)
    exact ⟨received, _, decoded, response, seq.trans (by decide)⟩
  · obtain ⟨received, decoded⟩ := decode_frame_plain (sendMessage .newMessage (-1) [] [] none []) (by decide) rfl
      (by decide)
    have carried := carries _ _ _ _ _ decoded
    obtain ⟨pushed, -⟩ := pushes .newMessage (-1) [] [] none [] received Message.clean_newMessage carried
    refine ⟨received, _, decoded, pushed, ?_⟩
    rw [Message.carries_frameOf_iff.mp carried]
    decide

end Irpc.Server
