import Irpc.Protocol.PooledRequest
import Irpc.Server.HandleRequest

/-! The messages a server writes: the responses to a request, from the several places
that build one, and the messages it sends on its own. -/
namespace Irpc.Server

open Irpc.Foundation Irpc.Protocol

variable {Value : Type}

def errReqReachLimit : GoError := .plain (utf8 "request reached rate limit")

def errContextCodecNotFound (type : SerializeType) : GoError :=
  .plain (utf8 "can not find codec for " ++ utf8 (toString type.toNat))

/-- The clone of a request that a response starts from. -/
def newResponse (pooled req : Message) : Message :=
  (req.clone pooled).modifyHeader (·.setMessageType .response)

/-- Copy the metadata of the context into the response, in the order the map is visited.
A value that is there already stays unless it is empty. -/
def mergeMetadata (entries : IterationOrder) (res : Message) : Message :=
  { res with metadata := some <|
      match res.metadata with
      | none => entries.toFinmap
      | some present => entries.entries.foldl (fun merged entry =>
          if (merged.lookup entry.1).getD [] = [] then merged.insert entry.1 entry.2 else merged) present }

/-- A context may have no metadata for the response. -/
def mergeContext : Option IterationOrder → Message → Message
  | none, res => res
  | some entries, res => mergeMetadata entries res

@[simp] theorem header_mergeContext (resMetadata : Option IterationOrder) (res : Message) :
    (mergeContext resMetadata res).header = res.header := by
  cases resMetadata <;> rfl

/-- A long response is compressed as the request was. -/
def compressAsRequested (req res : Message) : Message :=
  if 1024 < res.payload.length ∧ req.header.compressType ≠ .none then
    res.modifyHeader (·.setCompressType req.header.compressType)
  else res

/-- The message `sendResponse` writes, as long as no `PreWriteResponse` plugin changes it. -/
def sendResponse (req res : Message) : Message := compressAsRequested req res

def handleError (pooled req : Message) (err : GoError) : Option Message :=
  if req.header.isOneway then none
  else some (sendResponse req ((newResponse pooled req).handleError (some err)))

/-- The request is reused as the response to a heartbeat. -/
def heartbeatResponse (req : Message) : Message := req.modifyHeader (·.setMessageType .response)

/-- What the goroutine of a request writes, if it writes anything. Where `handleRequest`
panics it does not. -/
def serveRequest (server : Server Value) (pooled req : Message) (resMetadata : IterationOrder) :
    Option Message :=
  if req.header.isHeartbeat then some (heartbeatResponse req)
  else
    match server.handleRequest pooled req with
    | none => none
    | some (res, _) =>
      if req.header.isOneway then none
      else
        let res := if resMetadata.entries = [] then res else mergeMetadata resMetadata res
        some (sendResponse req res)

theorem serveRequest_heartbeat {server : Server Value} (isHeartbeat : req.header.isHeartbeat = true) :
    server.serveRequest pooled req resMetadata = some (heartbeatResponse req) := by
  rw [serveRequest, if_pos isHeartbeat]

def heartbeat : Message := Message.newMessage.modifyHeader (·.setHeartbeat true)

/-- `Context.Write` of a handler: the message it writes, if any, and the error it
returns. `written` is what writing says. No result is a panic of the codec. -/
def contextWrite (server : Server Value) (pooled req : Message) (resMetadata : Option IterationOrder)
    (value : Option Value) (written : Option GoError) : Option (Option Message × Option GoError) :=
  if req.header.isOneway then some (none, none)
  else
    match server.codecs req.header.serializeType with
    | none => some (none, some (errContextCodecNotFound req.header.serializeType))
    | some coder =>
      let finish (res : Message) : Option (Option Message × Option GoError) :=
        some (some (compressAsRequested req (mergeContext resMetadata res)), written)
      match value with
      | none => finish (newResponse pooled req)
      | some value =>
        match coder.encode (some value) with
        | none => none
        | some (_, some err) => some (none, some err)
        | some (data, none) => finish { newResponse pooled req with payload := data }

/-- `Context.WriteError`. Storing the error into a nil map panics. -/
def contextWriteError (server : Server Value) (pooled req : Message) (resMetadata : Option IterationOrder)
    (err : GoError) : Option (Option Message × Option GoError) :=
  if req.header.isOneway then some (none, none)
  else
    match server.codecs req.header.serializeType with
    | none => some (none, some (errContextCodecNotFound req.header.serializeType))
    | some _ =>
      let res := mergeContext resMetadata (newResponse pooled req)
      if res.metadata.isNone then none else some (some (res.handleError (some err)), none)

/-- The message `SendMessage` writes. `seq` counts the messages of the server. -/
def sendMessage (pooled : Message) (seq : UInt64) (servicePath serviceMethod : Bytes)
    (metadata : Option Metadata) (data : Bytes) : Message :=
  sendMessageRequest (seq + 1) servicePath serviceMethod metadata data pooled

/-- A header that answers another one. -/
structure RespondsTo (req res : Header) : Prop where
  messageType : res.messageType = .response
  seq : res.seq = req.seq
  version : res.version = req.version
  serializeType : res.serializeType = req.serializeType

namespace RespondsTo

variable {req res : Header}

theorem setMessageType (header : Header) : RespondsTo header (header.setMessageType .response) :=
  ⟨header.messageType_setMessageType_response, header.seq_setFlags _, header.version_setFlags _,
    header.serializeType_setFlags _⟩

theorem clone (header : Header) :
    RespondsTo header ((header.setCompressType .none).setMessageType .response) :=
  ⟨Header.messageType_setMessageType_response _, (Header.seq_setFlags ..).trans (header.seq_setFlags _),
    (Header.version_setFlags ..).trans (header.version_setFlags _),
    (Header.serializeType_setFlags ..).trans (header.serializeType_setFlags _)⟩

theorem setCompressType (responds : RespondsTo req res) (type : CompressType) :
    RespondsTo req (res.setCompressType type) :=
  ⟨(res.messageType_setCompressType type).trans responds.messageType,
    (res.seq_setFlags _).trans responds.seq, (res.version_setFlags _).trans responds.version,
    (res.serializeType_setFlags _).trans responds.serializeType⟩

theorem setMessageStatusType (responds : RespondsTo req res) (type : MessageStatusType) :
    RespondsTo req (res.setMessageStatusType type) :=
  ⟨(res.messageType_setMessageStatusType type).trans responds.messageType,
    (res.seq_setFlags _).trans responds.seq, (res.version_setFlags _).trans responds.version,
    (res.serializeType_setFlags _).trans responds.serializeType⟩

end RespondsTo

section Responses

variable {server : Server Value} {pooled req res : Message}

theorem respondsTo_newResponse (pooled req : Message) : RespondsTo req.header (newResponse pooled req).header :=
  .clone req.header

theorem RespondsTo.handleError (responds : RespondsTo req.header res.header) (err : GoError) :
    RespondsTo req.header (res.handleError (some err)).header :=
  responds.setMessageStatusType .error

theorem RespondsTo.compressAsRequested (responds : RespondsTo req.header res.header) :
    RespondsTo req.header (Server.compressAsRequested req res).header := by
  unfold Server.compressAsRequested
  split
  · exact responds.setCompressType _
  · exact responds

theorem respondsTo_handleRequest (handled : server.handleRequest pooled req = some (res, err)) :
    RespondsTo req.header res.header := by
  have responds := respondsTo_newResponse pooled req
  unfold handleRequest at handled
  dsimp only at handled
  split at handled
  · cases handled
    exact responds.handleError _
  · split at handled
    · cases handled
      exact responds.handleError _
    · split at handled
      · rw [header_handleRequestForMethod handled]
        exact responds
      · split at handled
        case isTrue found =>
          obtain ⟨mType, found⟩ := Option.isSome_iff_exists.mp found
          rw [header_handleRequestForFunction found handled]
          exact responds
        case isFalse =>
          cases handled
          exact responds.handleError _

theorem respondsTo_handleError (answered : handleError pooled req err = some res) :
    RespondsTo req.header res.header := by
  unfold handleError at answered
  split at answered
  · cases answered
  · cases answered
    exact ((respondsTo_newResponse pooled req).handleError err).compressAsRequested

theorem respondsTo_serveRequest (served : serveRequest server pooled req resMetadata = some res) :
    RespondsTo req.header res.header := by
  unfold serveRequest at served
  split at served
  · cases served
    exact .setMessageType req.header
  · split at served
    · cases served
    case h_2 answer err handled =>
      have responds := respondsTo_handleRequest handled
      split at served
      · cases served
      · cases served
        apply RespondsTo.compressAsRequested
        split <;> exact responds

theorem RespondsTo.mergeContext (responds : RespondsTo req.header res.header)
    (resMetadata : Option IterationOrder) :
    RespondsTo req.header (Server.mergeContext resMetadata res).header := by
  rw [header_mergeContext]
  exact responds

theorem respondsTo_contextWrite
    (wrote : contextWrite server pooled req resMetadata value written = some (some res, err)) :
    RespondsTo req.header res.header := by
  have responds := respondsTo_newResponse pooled req
  unfold contextWrite at wrote
  split at wrote
  · cases wrote
  · split at wrote
    · cases wrote
    · dsimp only at wrote
      split at wrote
      · cases wrote
        exact (responds.mergeContext resMetadata).compressAsRequested
      · split at wrote
        · cases wrote
        · cases wrote
        case h_3 data _ =>
          cases wrote
          have filled : RespondsTo req.header { newResponse pooled req with payload := data }.header := responds
          exact (filled.mergeContext resMetadata).compressAsRequested

theorem respondsTo_contextWriteError
    (wrote : contextWriteError server pooled req resMetadata reported = some (some res, err)) :
    RespondsTo req.header res.header := by
  have responds := respondsTo_newResponse pooled req
  unfold contextWriteError at wrote
  split at wrote
  · cases wrote
  · split at wrote
    · cases wrote
    · dsimp only at wrote
      split at wrote
      · cases wrote
      · cases wrote
        exact (responds.mergeContext resMetadata).handleError reported

end Responses

end Irpc.Server
