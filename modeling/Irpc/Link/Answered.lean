import Irpc.Link.Invariant
import Irpc.Server.LocalReply

/-! What a server reads of a call, and the shortest run in which a call is answered. -/
namespace Irpc.Client

open Irpc.Foundation Irpc.Protocol

variable {Value : Type}

/-- The setters `send` calls on the header of a request. -/
def sendSetters (option : ClientOption) (call : Call Value) (seq : UInt64) (data : Bytes) : List Header.Setter :=
  [Header.Setter.messageType .request, .seq seq] ++ (if call.reply.isNone then [Header.Setter.oneway true] else []) ++
    (if call.isHeartbeat then [Header.Setter.heartbeat true] else []) ++
    [Header.Setter.serializeType (call.serializeType option)] ++
    if 1024 < data.length ∧ option.compressType ≠ .none then [Header.Setter.compressType option.compressType] else []

theorem sendHeader_eq (option : ClientOption) (call : Call Value) (seq : UInt64) (data : Bytes) (header : Header) :
    sendHeader option call seq data header = (sendSetters option call seq data).foldl Header.set header := by
  unfold sendHeader sendSetters
  split <;> split <;> split <;> rfl

theorem fields_sendHeader (option : ClientOption) (call : Call Value) (seq : UInt64) (data : Bytes) :
    (sendHeader option call seq data .fresh).fields = { Header.fresh.fields with
      heartbeat := call.isHeartbeat
      oneway := call.reply.isNone
      compressType := if 1024 < data.length ∧ option.compressType ≠ .none then option.compressType &&& 0x07 else .none
      serializeType := call.serializeType option &&& 0x0F
      seq := seq } := by
  rw [sendHeader_eq, Header.fields_foldl_set, sendSetters]
  by_cases long : 1024 < data.length ∧ option.compressType ≠ .none
  · rw [if_pos long, if_pos long]
    cases call.reply.isNone <;> cases call.isHeartbeat <;> rfl
  · rw [if_neg long, if_neg long]
    cases call.reply.isNone <;> cases call.isHeartbeat <;> rfl

def single (phase : CallPhase) : Client :=
  { connected with
    seq := 1
    pending := AList.singleton 0 0
    calls := Function.update connected.calls 0 { invocation := .call, phase := phase, registered := true }
    next := 1 }

theorem written_single : (single .sending).step (.written 0 false) = some (single .waiting) := by
  simp [Client.step, single, connected, Client.modify]

/-- A frame with its number completes the call. -/
theorem respond_single {res : Message} (response : isServerMessage res = false) (number : res.header.seq = 0)
    (decoded : Option (Option GoError)) :
    ∃ after, (single .waiting).step (.respond res decoded) = some after ∧
      completedBetween (single .waiting) after = [0] := by
  refine ⟨_, rfl, ?_⟩
  have blank : ((single .waiting).calls 0).Blank := ⟨by decide, rfl, rfl, rfl⟩
  obtain ⟨answered, err, answers, -⟩ := blank.answer res decoded
  have stored : (single .waiting).pending.lookup res.header.seq = some 0 := by
    rw [number]
    rfl
  have completions := (CallRecord.keeps_answer answers).2
  have before : ((single .waiting).calls 0).completions = 0 := rfl
  rw [before] at completions
  have range : List.range (single .waiting).next = [0] := rfl
  rw [completedBetween, range]
  simp [stepRespond, response, stored, answers, calls_modify, completions, CallRecord.finish, CallRecord.settle,
    before]

end Irpc.Client

namespace Irpc.Server

open Irpc.Protocol Irpc.Link

theorem RespondsTo.delivers {config : Config} {req : Header} {res received : Message}
    (responds : RespondsTo req res.header) (delivers : res.Delivers config received) :
    RespondsTo req received.header := by
  by_cases falls : res.FallsBack config
  · rw [delivers.fallback falls]
    exact responds.setCompressType .none
  · rw [delivers.header falls]
    exact responds

end Irpc.Server

namespace Irpc.Link

open Irpc.Foundation Irpc.Protocol Irpc.Client Irpc.Server Irpc.Util

variable {Value : Type} {setup : Setup Value} {call : Call Value} {data : Bytes} {encoding reply : Encoding}
  {req res : Message}

/-- What is delivered shows what was sent, but for the compression. -/
theorem fields_of_delivers {config : Config} {sent received : Message} (delivers : sent.Delivers config received) :
    received.header.fields = { sent.header.fields with compressType := received.header.compressType } := by
  by_cases falls : sent.FallsBack config
  · rw [delivers.fallback falls]
    have cleared := sent.header.fields_set (.compressType .none) nofun
    have shown : (sent.header.setCompressType .none).compressType = _ := congrArg Fields.compressType cleared
    rw [shown]
    exact cleared
  · rw [delivers.header falls]
    rfl

theorem first_of_delivers {config : Config} {sent received : Message} (delivers : sent.Delivers config received) :
    received.header.first = sent.header.first := by
  by_cases falls : sent.FallsBack config
  · rw [delivers.fallback falls, Header.first_setCompressType]
  · rw [delivers.header falls]

/-- What the server reads of a call whose request no plugin changes. -/
structure Reads (setup : Setup Value) (call : Call Value) (req : Message) (data : Bytes) : Prop where
  encoded : encodeArgs setup call = some (data, none)
  servicePath : req.servicePath = call.servicePath
  serviceMethod : req.serviceMethod = call.serviceMethod
  payload : req.payload = data
  magic : req.header.first = magicNumber
  heartbeat : req.header.isHeartbeat = call.isHeartbeat
  oneway : req.header.isOneway = call.reply.isNone
  status : req.header.messageStatusType = .normal
  serializeType : req.header.serializeType = call.serializeType setup.option &&& 0x0F

theorem exists_reads {message req : Message} (plain : setup.hook = fun _ => [])
    (asks : Asks setup call number message) (delivers : message.Delivers setup.config req) :
    ∃ data, Reads setup call req data := by
  obtain ⟨data, pooled, clean, encoded, rfl⟩ := asks
  have fields := fields_of_delivers delivers
  have header : (sendRequest setup.option setup.hook call number data pooled).header =
      sendHeader setup.option call number data .fresh := by
    rw [plain, ← clean.header]
    rfl
  have servicePath := delivers.servicePath
  have serviceMethod := delivers.serviceMethod
  have payload := delivers.payload
  rw [plain] at servicePath serviceMethod payload
  rw [header, fields_sendHeader] at fields
  refine ⟨data, encoded, servicePath, serviceMethod, payload, ?_, congrArg Fields.heartbeat fields,
    congrArg Fields.oneway fields, congrArg Fields.messageStatusType fields, congrArg Fields.serializeType fields⟩
  rw [first_of_delivers delivers, header, first_sendHeader]
  rfl

def firstRequest (setup : Setup Value) (call : Call Value) (data : Bytes) : Message :=
  sendRequest setup.option setup.hook call 0 data .newMessage

def asksOnly (call : Call Value) : Nat → Option (Call Value) := Function.update (fun _ => none) 0 (some call)

def posted (setup : Setup Value) (call : Call Value) (parcel : Parcel Nat) : Link Value where
  observed := ⟨single .waiting, []⟩
  asked := asksOnly call
  conn := .opened
  requests := Pipe.idle.write (framing setup.config) parcel
  responses := .idle

def accepted (call : Call Value) (parcel : Parcel Nat) (req res : Message) : Link Value where
  observed := ⟨single .waiting, []⟩
  asked := asksOnly call
  conn := ⟨.reading, [⟨Connection.acceptedRequest req, some res, .running, []⟩]⟩
  requests := ⟨[parcel], [req], [], false⟩
  responses := .idle

def answered (setup : Setup Value) (call : Call Value) (parcel : Parcel Nat) (req res : Message)
    (reply : Encoding) : Link Value :=
  { accepted call parcel req res with
    conn := ⟨.reading, [⟨Connection.acceptedRequest req, some res, .finished, [res]⟩]⟩
    responses := Pipe.idle.write (framing setup.config)
      (reply.parcel (some (Connection.acceptedRequest req)) res) }

theorem reached_posted (encoded : encodeArgs setup call = some (data, none))
    (fits : (encoding.parcel 0 (firstRequest setup call data)).transmission.Fits setup.config) :
    (system setup).Reached (Proper setup)
      (posted setup call (encoding.parcel 0 (firstRequest setup call data))) := by
  obtain ⟨coder, coded, -⟩ := Option.bind_eq_some_iff.mp encoded
  let sent : Link Value := ⟨⟨single .sending, []⟩, asksOnly call, .opened, .idle, .idle⟩
  have start : (system setup).Reached (Proper setup) established := .start rfl
  have few : ∀ link : Link Value, link.client.next ≤ 1 → link.client.next + 1 < 2 ^ 64 := by omega
  have sends : (system setup).step established (.send true call) = some sent := by
    simp only [system, Link.step, coded, Option.isSome_some, advance]
    rfl
  have requested : sent.request setup 0 .newMessage = some (firstRequest setup call data) := by
    simp [request, sent, asksOnly, encoded, Link.client, single, connected, firstRequest]
  have writes : (system setup).step sent (.write 0 .newMessage encoding false) =
      some (posted setup call (encoding.parcel 0 (firstRequest setup call data))) := by
    simp only [system, Link.step, requested, Option.bind_some]
    exact Option.map_eq_some_iff.mpr ⟨_, written_single, rfl⟩
  have made := start.step (.send true call) ⟨few _ (Nat.zero_le 1), trivial⟩ sends
  refine made.step (.write 0 .newMessage encoding false) ⟨few _ le_rfl, Message.clean_newMessage, ?_⟩ writes
  intro message same
  cases requested.symm.trans same
  exact ⟨rfl, fits⟩

/-- A request that is handed to a goroutine puts nothing on the wire yet. -/
theorem emits_acceptedRequest (setup : Setup Value) (conn : Connection) (req : Message) :
    emits setup conn (.read (Connection.acceptedRequest req)) = none := by
  rw [emits, Connection.handle_acceptedRequest]

theorem accepted_of_posted (sync : setup.asyncWrite = false) {parcel : Parcel Nat}
    (parsed : receive setup.config .newMessage ((framing setup.config).frame parcel ++ []) = some (req, []))
    (serves : setup.server.serveRequest .newMessage req ∅ = some res) :
    (system setup).step (posted setup call parcel) (.accept .newMessage .accepted none ∅ .newMessage reply none) =
      some (accepted call parcel req res) := by
  have reads : (posted setup call parcel).requests.read (receive setup.config .newMessage) =
      some (req, ⟨[parcel], [req], [], false⟩) := by
    rw [List.append_nil] at parsed
    simp [Pipe.read, posted, Pipe.write, Pipe.idle, parsed]
  have taken := Connection.read_acceptedRequest setup.server req
  rw [serves, ← sync] at taken
  simp only [system, Link.step, reads, Option.bind_some]
  refine Option.map_eq_some_iff.mpr ⟨_, taken, ?_⟩
  have silent := emits_acceptedRequest setup (posted setup call parcel).conn req
  rw [Connection.acceptedRequest] at silent
  rw [silent]
  rfl

theorem emits_accepted (sync : setup.asyncWrite = false) (call : Call Value) (parcel : Parcel Nat)
    (req res : Message) :
    emits setup (accepted call parcel req res).conn (.finish 0) = some (Connection.acceptedRequest req, res) := by
  simp [emits, accepted, Connection.isOpen, sync]

theorem answered_of_accepted (sync : setup.asyncWrite = false) {parcel : Parcel Nat}
    (serves : setup.server.serveRequest .newMessage req ∅ = some res) :
    (system setup).step (accepted call parcel req res) (.serve (.finish 0) reply none) =
      some (answered setup call parcel req res reply) := by
  have done := Connection.finish_acceptedRequest setup.server req
  rw [Connection.servedExchange, serves, ← sync] at done
  refine Option.map_eq_some_iff.mpr ⟨_, done, ?_⟩
  rw [emits_accepted sync]
  rfl

theorem completed_of_answered {parcel : Parcel Nat} {back : Message} {after : Client}
    {decoded : Option (Option GoError)} (ran : (single .waiting).step (.respond back decoded) = some after)
    (completes : completedBetween (single .waiting) after = [0])
    (arrives : receive setup.config .newMessage
      ((framing setup.config).frame (reply.parcel (some (Connection.acceptedRequest req)) res) ++ []) =
        some (back, [])) :
    (system setup).step (answered setup call parcel req res reply) (.receive decoded) =
      some { answered setup call parcel req res reply with
        observed := ⟨after, [⟨back, decoded, [0]⟩]⟩
        responses := ⟨[reply.parcel (some (Connection.acceptedRequest req)) res], [back], [], false⟩ } := by
  have reads : (answered setup call parcel req res reply).responses.read (receive setup.config .newMessage) =
      some (back, ⟨[reply.parcel (some (Connection.acceptedRequest req)) res], [back], [], false⟩) := by
    rw [List.append_nil] at arrives
    simp [Pipe.read, answered, Pipe.write, Pipe.idle, arrives]
  simp only [system, Link.step, reads, Option.bind_some]
  refine Option.map_eq_some_iff.mpr ⟨after, ran, ?_⟩
  rw [← completes]
  rfl

/-- A call whose frames fit, and that the server has an answer to, can be answered. -/
theorem exists_answered (sync : setup.asyncWrite = false) (encoded : encodeArgs setup call = some (data, none))
    (encoding : Encoding) (fits : (encoding.parcel 0 (firstRequest setup call data)).transmission.Fits setup.config)
    (reply : Encoding) (serves : ∀ req, (firstRequest setup call data).Delivers setup.config req →
      ∃ res, setup.server.serveRequest .newMessage req ∅ = some res ∧
        (reply.parcel () res).transmission.Fits setup.config) :
    ∃ link arrival, (system setup).Reached (Proper setup) link ∧ link.asked 0 = some call ∧
      link.observed.arrivals = [arrival] ∧ arrival.completed = [0] ∧ arrival.decoded = some none ∧
      ∀ exchange ∈ link.conn.exchanges,
        exchange.request.verdict = .accepted ∧ exchange.request.auth = none := by
  let parcel : Parcel Nat := encoding.parcel 0 (firstRequest setup call data)
  have reached := reached_posted encoded fits
  have few : ∀ link : Link Value, link.client.next ≤ 1 → link.client.next + 1 < 2 ^ 64 := by omega
  obtain ⟨req, parsed, reads⟩ :=
    (reads_receive setup.lossless (rfl : Message.newMessage.metadata = none)).whole parcel fits []
  obtain ⟨res, served, replyFits⟩ := serves req reads
  have accepts : Proper setup (posted setup call parcel)
      (.accept .newMessage .accepted none ∅ .newMessage reply none) := by
    refine ⟨few _ le_rfl, Message.clean_newMessage, ?_⟩
    intro taken rest read request other emitted
    cases (emits_acceptedRequest setup .opened taken).symm.trans emitted
  have accepting := reached.step _ accepts (accepted_of_posted sync parsed served)
  have finishes : Proper setup (accepted call parcel req res) (.serve (.finish 0) reply none) := by
    refine ⟨few _ le_rfl, ?_⟩
    intro request other emitted
    cases (emits_accepted sync call parcel req res).symm.trans emitted
    exact ⟨rfl, replyFits⟩
  have answering := accepting.step _ finishes (answered_of_accepted sync served)
  -- The frame of the answer has the number of the call.
  obtain ⟨back, arrives, delivers⟩ :=
    (reads_receive setup.lossless (rfl : Message.newMessage.metadata = none)).whole
      (reply.parcel (some (Connection.acceptedRequest req)) res) replyFits []
  have responds := (respondsTo_serveRequest served).delivers delivers
  have asks : Asks setup call 0 (firstRequest setup call data) :=
    ⟨data, .newMessage, Message.clean_newMessage, encoded, rfl⟩
  have number : back.header.seq = 0 := by
    rw [responds.seq, seq_of_delivers reads]
    exact asks.seq
  obtain ⟨after, ran, completes⟩ := respond_single responds.not_serverMessage number (some none)
  have received := answering.step (.receive (some none)) ⟨few _ le_rfl, trivial⟩
    (completed_of_answered ran completes arrives)
  refine ⟨_, ⟨back, some none, [0]⟩, received, ?_, rfl, rfl, rfl, ?_⟩
  · rfl
  · exact List.forall_mem_singleton.mpr ⟨rfl, rfl⟩

/-- Frames are limited by their length fields only, and nothing is compressed. -/
def bareConfig : Config := ⟨fun _ => none, 0⟩

def bareEncoding : Encoding := ⟨∅, LimitedPool.withLevels 512 4096, 0⟩

theorem fits_bare {Purpose : Type} {purpose : Purpose} {message : Message}
    (magic : message.header.first = magicNumber) (unset : message.metadata.getD ∅ = ∅)
    (small : message.servicePath.length + message.serviceMethod.length + message.payload.length < 1024) :
    (bareEncoding.parcel purpose message).transmission.Fits bareConfig := by
  have plain : (message.compress bareConfig).2 = message.payload := by
    unfold Message.compress bareConfig
    split <;> rfl
  refine ⟨magic, unset.symm, .start rfl, ?_, .inl rfl⟩
  have none : encodeMetadata bareEncoding.order = [] := rfl
  simp only [Encoding.parcel, Transmission.bodyLength, Message.totalLength, plain, none]
  simp only [List.length_nil]
  omega

/-- A server with a method that returns its argument, and a client that uses its codec. -/
def echoSetup : Setup Bytes where
  config := bareConfig
  lossless _ _ _ _ registered := by cases registered
  option := ⟨.json, .none⟩
  hook _ := []
  keepsSeq _ := rfl
  codecs := (echoServer fun argv _ => .returned argv none).codecs
  server := echoServer fun argv _ => .returned argv none
  asyncWrite := false

def echoCall : Call Bytes := ⟨utf8 "Arith", utf8 "Mul", none, some [1, 2], some []⟩

theorem serveRequest_echo {req : Message} (reads : Reads echoSetup echoCall req data) :
    ∃ res, echoSetup.server.serveRequest .newMessage req ∅ = some res ∧
      (bareEncoding.parcel () res).transmission.Fits bareConfig := by
  have same : data = [1, 2] := by
    have encoded : encodeArgs echoSetup echoCall = some ([1, 2], none) := rfl
    cases encoded.symm.trans reads.encoded
    rfl
  have alive : req.header.isHeartbeat = false := reads.heartbeat
  have twoWay : req.header.isOneway = false := reads.oneway
  have replied : echoSetup.server.localReply req.servicePath req.serviceMethod req.header.serializeType req.payload =
      .ok [1, 2] := by
    rw [reads.servicePath, reads.serviceMethod, reads.serializeType, reads.payload, same]
    rfl
  have handled : echoSetup.server.handleRequest .newMessage req = _ := handleRequest_of_localReply twoWay replied
  refine ⟨{ newResponse .newMessage req with payload := [1, 2] }, ?_, fits_bare ?_ rfl ?_⟩
  · simp [serveRequest, alive, twoWay, handled, sendResponse, compressAsRequested]
  · have typed := (req.header.setCompressType .none).first_set (.messageType .response)
    rw [Header.first_setCompressType, reads.magic] at typed
    exact typed
  · have path : (newResponse .newMessage req).servicePath = utf8 "Arith" := reads.servicePath
    have method : (newResponse .newMessage req).serviceMethod = utf8 "Mul" := reads.serviceMethod
    dsimp only
    rw [path, method]
    decide

theorem exists_echo : ∃ link arrival, (system echoSetup).Reached (Proper echoSetup) link ∧
    link.asked 0 = some echoCall ∧ link.observed.arrivals = [arrival] ∧ arrival.completed = [0] ∧
      arrival.decoded = some none ∧ ∀ exchange ∈ link.conn.exchanges,
        exchange.request.verdict = .accepted ∧ exchange.request.auth = none := by
  have encoded : encodeArgs echoSetup echoCall = some ([1, 2], none) := rfl
  have magic : (firstRequest echoSetup echoCall [1, 2]).header.first = magicNumber := by decide
  refine exists_answered rfl encoded bareEncoding (fits_bare magic rfl (by decide)) bareEncoding ?_
  intro req delivers
  have asks : Asks echoSetup echoCall 0 (firstRequest echoSetup echoCall [1, 2]) :=
    ⟨[1, 2], .newMessage, Message.clean_newMessage, encoded, rfl⟩
  obtain ⟨data, reads⟩ := exists_reads rfl asks delivers
  exact serveRequest_echo reads

end Irpc.Link
