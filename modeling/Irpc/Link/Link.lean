import Irpc.Client.Correlation
import Irpc.Client.Phases
import Irpc.Link.Frames
import Irpc.Server.Classification
import Irpc.Server.ServeConn

/-! A connection with both its ends. The goroutines of the client and of the server move
independently, and the bytes they write are read at the other end in the order in which they
were written. -/
namespace Irpc.Link

open Irpc.Foundation Irpc.Protocol Irpc.Client Irpc.Server Irpc.Util

/-- What the two ends are set up with: the variables of the wire format, the options, the
plugins and the codecs of the client, and the server. The plugins leave the number of a
request alone. -/
structure Setup (Value : Type) where
  config : Config
  lossless : Message.Lossless config
  option : ClientOption
  hook : BeforeEncode
  keepsSeq : ∀ message, (hook.run message).header.seq = message.header.seq
  codecs : SerializeType → Option (Codec Value)
  server : Server Value
  asyncWrite : Bool

/-- What `EncodeSlicePointer` does not decide: the order in which the metadata is visited,
and the pool of buffers with the one it hands out. -/
structure Encoding where
  order : IterationOrder
  pool : LimitedPool
  pick : Nat

def Encoding.parcel {Purpose : Type} (encoding : Encoding) (purpose : Purpose) (message : Message) :
    Parcel Purpose :=
  ⟨purpose, message, encoding.order, encoding.pool, encoding.pick⟩

end Irpc.Link

namespace Irpc

open Irpc.Foundation Irpc.Protocol Irpc.Link

/-- `asked` is what the calls ask for. A request is sent for a call, and a response for a
request that was read; a message the server sends on its own is for none. -/
structure Link (Value : Type) where
  observed : Client.Observed
  asked : Nat → Option (Client.Call Value)
  conn : Server.Connection
  requests : Pipe (Parcel Nat) Message
  responses : Pipe (Parcel (Option Server.Request)) Message

end Irpc

namespace Irpc.Link

open Irpc.Foundation Irpc.Protocol Irpc.Client Irpc.Server

variable {Value : Type}

def established : Link Value where
  observed := ⟨connected, []⟩
  asked _ := none
  conn := .opened
  requests := .idle
  responses := .idle

def client (link : Link Value) : Client := link.observed.client

inductive Event (Value : Type) where
  /-- `Call` or `Go` up to the first unlock of `send`. -/
  | send (waits : Bool) (call : Call Value)
  | encodeFailed (id : Nat)
  /-- The frame of a request built in `pooled` is written, and the request tested for
  one-way. -/
  | write (id : Nat) (pooled : Message) (encoding : Encoding) (oneway : Bool)
  /-- Writing it fails when `count` bytes are through. -/
  | writeFailed (id : Nat) (pooled : Message) (encoding : Encoding) (count : Nat) (err : GoError)
  /-- `input` decodes the next frame. -/
  | receive (decoded : Option (Option GoError))
  /-- Anything the client does without the connection. -/
  | proceed (event : Client.Event)
  /-- `serveConn` decodes the next request into `pooled`. If the loop itself answers it,
  `through` says after how many bytes the write fails. -/
  | accept (pooled : Message) (verdict : Verdict) (auth : Option GoError) (resMetadata : IterationOrder)
      (response : Message) (encoding : Encoding) (through : Option Nat)
  | serve (event : Connection.Event) (encoding : Encoding) (through : Option Nat)
  /-- `SendMessage`. -/
  | push (pooled : Message) (seq : UInt64) (servicePath serviceMethod : Bytes) (metadata : Option Metadata)
      (data : Bytes) (encoding : Encoding) (through : Option Nat)

/-- A step of the client that touches neither the connection nor what the calls ask for. -/
def isLocal : Client.Event → Bool
  | .cancel .. | .receive .. | .disconnect .. | .terminate | .close | .unlockAgain => true
  | _ => false

/-- What the codec of the client makes of the arguments of a call. -/
def encodeArgs (setup : Setup Value) (call : Call Value) : Option (Bytes × Option GoError) :=
  (setup.codecs (call.serializeType setup.option)).bind fun coder => coder.encode call.args

/-- The request of a call, if its arguments encode. -/
def request (setup : Setup Value) (link : Link Value) (id : Nat) (pooled : Message) : Option Message :=
  (link.asked id).bind fun call =>
    match encodeArgs setup call with
    | some (data, none) =>
      some (sendRequest setup.option setup.hook call (link.client.calls id).seq data pooled)
    | _ => none

def advance (link : Link Value) (event : Client.Event) : Option (Link Value) :=
  (link.client.step event).map fun after => { link with observed := link.observed.note event after }

/-- What an event of the server puts on the wire, with the request it answers. With
`AsyncWrite` that is left to the goroutine behind the channel. -/
def emits (setup : Setup Value) (conn : Connection) : Connection.Event → Option (Request × Message)
  | .read request =>
    match setup.server.handle request with
    | .inLoop (some res) _ => if setup.asyncWrite then none else some (request, res)
    | _ => none
  | .finish index => conn.exchanges[index]?.bind fun exchange =>
    if conn.isOpen && !setup.asyncWrite then exchange.response.map fun res => (exchange.request, res) else none
  | .flush index => conn.exchanges[index]?.bind fun exchange =>
    if conn.isOpen then exchange.response.map fun res => (exchange.request, res) else none
  | _ => none

/-- The server does not look at the result of a write. -/
def transmit {Purpose : Type} (config : Config) (pipe : Pipe (Parcel Purpose) Message) (parcel : Parcel Purpose) :
    Option Nat → Pipe (Parcel Purpose) Message
  | none => pipe.write (framing config) parcel
  | some count => pipe.writePart (framing config) parcel count

def serve (setup : Setup Value) (link : Link Value) (event : Connection.Event) (encoding : Encoding)
    (through : Option Nat) : Option (Link Value) :=
  (link.conn.step setup.server setup.asyncWrite event).map fun conn =>
    { link with
      conn := conn
      responses := match emits setup link.conn event with
        | none => link.responses
        | some (request, res) =>
          transmit setup.config link.responses (encoding.parcel (some request) res) through }

def step (setup : Setup Value) (link : Link Value) : Event Value → Option (Link Value)
  | .send waits call =>
    { link with asked := Function.update link.asked link.client.next (some call) }.advance
      (.send waits (setup.codecs (call.serializeType setup.option)).isSome)
  | .encodeFailed id =>
    match (link.asked id).bind (encodeArgs setup) with
    | some (_, some err) => link.advance (.encodeFailed id err)
    | _ => none
  | .write id pooled encoding oneway => (link.request setup id pooled).bind fun message =>
    { link with
      requests := link.requests.write (framing setup.config) (encoding.parcel id message) }.advance
      (.written id oneway)
  | .writeFailed id pooled encoding count err => (link.request setup id pooled).bind fun message =>
    { link with
      requests := link.requests.writePart (framing setup.config) (encoding.parcel id message) count }.advance
      (.writeFailed id err)
  | .receive decoded => (link.responses.read (receive setup.config .newMessage)).bind fun (res, responses) =>
    { link with responses := responses }.advance (.respond res decoded)
  | .proceed event => if isLocal event then link.advance event else none
  | .accept pooled verdict auth resMetadata response encoding through =>
    (link.requests.read (receive setup.config pooled)).bind fun (req, requests) =>
      { link with requests := requests }.serve setup (.read ⟨req, verdict, auth, resMetadata, response⟩)
        encoding through
  | .serve (.read _) _ _ => none
  | .serve event encoding through => link.serve setup event encoding through
  | .push pooled seq servicePath serviceMethod metadata data encoding through =>
    some { link with
      responses := transmit setup.config link.responses
        (encoding.parcel none (sendMessage pooled seq servicePath serviceMethod metadata data)) through }

def system (setup : Setup Value) : System (Link Value) (Event Value) where
  initial link := link = established
  step := step setup

/-- The frame has the size the format allows, and no write has broken off before it. -/
def Writable {Purpose : Type} (config : Config) (pipe : Pipe (Parcel Purpose) Message)
    (parcel : Parcel Purpose) : Prop :=
  pipe.torn = false ∧ parcel.transmission.Fits config

/-- Messages from the pool are clean, and frames are writable. -/
def Sends (setup : Setup Value) (link : Link Value) : Event Value → Prop
  | .write id pooled encoding _ => pooled.Clean ∧ ∀ message, link.request setup id pooled = some message →
    Writable setup.config link.requests (encoding.parcel id message)
  | .writeFailed id pooled encoding _ _ => pooled.Clean ∧ ∀ message,
    link.request setup id pooled = some message →
      Writable setup.config link.requests (encoding.parcel id message)
  | .accept pooled verdict auth resMetadata response encoding _ => pooled.Clean ∧
    ∀ req rest, link.requests.read (receive setup.config pooled) = some (req, rest) →
      ∀ request res, emits setup link.conn (.read ⟨req, verdict, auth, resMetadata, response⟩) =
        some (request, res) → Writable setup.config link.responses (encoding.parcel (some request) res)
  | .serve event encoding _ => ∀ request res, emits setup link.conn event = some (request, res) →
    Writable setup.config link.responses (encoding.parcel (some request) res)
  | .push pooled seq servicePath serviceMethod metadata data encoding _ => pooled.Clean ∧
    Writable setup.config link.responses
      (encoding.parcel none (sendMessage pooled seq servicePath serviceMethod metadata data))
  | _ => True

/-- Fewer than 2^64 calls are made, and what is sent is clean and writable. -/
def Proper (setup : Setup Value) (link : Link Value) (event : Event Value) : Prop :=
  link.client.next + 1 < 2 ^ 64 ∧ link.Sends setup event

section Emission

variable {setup : Setup Value} {conn after : Connection} {event : Connection.Event} {request : Request} {res : Message}

/-- What is put on the wire is written by the exchange of its request. -/
theorem written_of_emits (moves : Connection.Moves setup.server setup.asyncWrite conn event after)
    (emitted : emits setup conn event = some (request, res)) :
    ∃ exchange ∈ after.exchanges, exchange.request = request ∧ exchange.response = some res ∧
      res ∈ exchange.written := by
  cases moves with
  | dispatch reading handled =>
    simp only [emits, handled] at emitted
    cases emitted
  | @answer request response continues reading handled =>
    simp only [emits, handled] at emitted
    cases response with
    | none => cases emitted
    | some answer =>
      obtain ⟨sync, same⟩ := Option.ite_none_left_eq_some.mp emitted
      cases same
      refine ⟨_, List.mem_cons_self, Exchange.request_submit .., ?_⟩
      simp [Exchange.submit, Exchange.write, sync]
  | stop reading => cases emitted
  | @finish index exchange found running =>
    simp only [emits, found, Option.bind_some] at emitted
    obtain ⟨ready, written⟩ := Option.ite_none_right_eq_some.mp emitted
    obtain ⟨answer, responds, same⟩ := Option.map_eq_some_iff.mp written
    cases same
    obtain ⟨isOpen, sync⟩ : conn.isOpen = true ∧ setup.asyncWrite = false := by simpa using ready
    have bound := (List.getElem?_eq_some_iff.mp found).1
    refine ⟨_, List.mem_set bound _, Exchange.request_submit .., ?_⟩
    simp [Exchange.submit, Exchange.write, sync, isOpen, responds]
  | @flush index exchange found queued =>
    simp only [emits, found, Option.bind_some] at emitted
    obtain ⟨isOpen, written⟩ := Option.ite_none_right_eq_some.mp emitted
    obtain ⟨answer, responds, same⟩ := Option.map_eq_some_iff.mp written
    cases same
    have bound := (List.getElem?_eq_some_iff.mp found).1
    refine ⟨_, List.mem_set bound _, rfl, responds, ?_⟩
    simp [Exchange.write, isOpen, responds]
  | close returned => cases emitted

def readBy : Connection.Event → List Request
  | .read request => [request]
  | _ => []

theorem requests_of_moves (moves : Connection.Moves setup.server setup.asyncWrite conn event after) :
    after.exchanges.map Exchange.request = readBy event ++ conn.exchanges.map Exchange.request := by
  cases moves with
  | dispatch reading handled => rfl
  | answer reading handled => simp [readBy, Exchange.request_submit]
  | stop reading => rfl
  | finish found running => exact map_set_of_eq found (Exchange.request_submit ..)
  | flush found queued => exact map_set_of_eq found rfl
  | close returned => rfl

end Emission

end Irpc.Link
