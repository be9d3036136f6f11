import Irpc.Foundation.System
import Irpc.Server.Response

/-! One connection of a server: the loop of `serveConn` that reads requests, the goroutines
that handle them, and with `AsyncWrite` the goroutine behind the channel of responses. -/
namespace Irpc.Server

open Irpc.Foundation Irpc.Protocol

variable {Value : Type}

/-- What the plugins say to a request that was read. -/
inductive Verdict where
  | accepted
  | reachedLimit
  | refused (err : GoError)
  deriving DecidableEq

/-- A request as it was decoded, with everything that its handling does not decide
itself: the verdict of the plugins, the result of the authentication, the metadata the
service leaves in the context, and the message its response is built in. -/
structure Request where
  req : Message
  verdict : Verdict
  auth : Option GoError
  resMetadata : IterationOrder
  pooled : Message

inductive Handling where
  /-- The loop writes a response, if there is one, and goes on or returns. -/
  | inLoop (response : Option Message) (continues : Bool)
  /-- A goroutine is started. -/
  | dispatched (response : Option Message)

def Handling.response : Handling → Option Message
  | .inLoop response _ => response
  | .dispatched response => response

def handle (server : Server Value) (request : Request) : Handling :=
  match request.verdict with
  | .refused _ => .inLoop none false
  | .reachedLimit => .inLoop (handleError request.pooled request.req errReqReachLimit) true
  | .accepted =>
    match if request.req.header.isHeartbeat then none else request.auth with
    | some err => .inLoop (handleError request.pooled request.req err) false
    | none => .dispatched (server.serveRequest request.pooled request.req request.resMetadata)

inductive Stage where
  | running
  /-- The response is in the channel. -/
  | queued
  | finished
  deriving DecidableEq

/-- `response` is what is to be written, and `written` what was. -/
structure Exchange where
  request : Request
  response : Option Message
  stage : Stage
  written : List Message

/-- The loop of `serveConn`. When it has returned, the channel and the connection are
closed. -/
inductive Loop where
  | reading
  | returned
  | closed
  deriving DecidableEq

structure Connection where
  loop : Loop
  /-- The requests that were read, the last one first. -/
  exchanges : List Exchange

namespace Exchange

def write (exchange : Exchange) (isOpen : Bool) : Exchange :=
  { exchange with
    stage := .finished
    written := exchange.written ++ if isOpen then exchange.response.toList else [] }

/-- `writeResponse`. The channel holds one response. Sending to it when it is closed
panics, and so nothing is written. -/
def submit (exchange : Exchange) (asyncWrite isOpen : Bool) : Exchange :=
  if asyncWrite && isOpen && exchange.response.isSome then { exchange with stage := .queued }
  else exchange.write isOpen

end Exchange

namespace Connection

def opened : Connection := ⟨.reading, []⟩

def isOpen (conn : Connection) : Bool := conn.loop != .closed

/-- Whether the response can be handed to `writeResponse` without waiting for the
channel, which holds one response while it is open. -/
def accepts (conn : Connection) (asyncWrite : Bool) (response : Option Message) : Bool :=
  !asyncWrite || response.isNone || !conn.isOpen ||
    conn.exchanges.all fun exchange => exchange.stage != .queued

inductive Event where
  | read (request : Request)
  /-- Nothing more is read: the connection failed, a plugin refused to read, or the
  server shuts down. -/
  | stop
  /-- The goroutine of a request writes its response and ends. -/
  | finish (index : Nat)
  /-- The goroutine behind the channel writes a response. -/
  | flush (index : Nat)
  | close

/-- The loop handles a request it has read. -/
def stepRead (conn : Connection) (server : Server Value) (asyncWrite : Bool) (request : Request) :
    Option Connection :=
  match server.handle request with
  | .dispatched response =>
    some { conn with exchanges := ⟨request, response, .running, []⟩ :: conn.exchanges }
  | .inLoop response continues =>
    if conn.accepts asyncWrite response then
      some {
        loop := if continues then .reading else .returned
        exchanges := Exchange.submit ⟨request, response, .running, []⟩ asyncWrite true :: conn.exchanges }
    else none

def step (server : Server Value) (asyncWrite : Bool) (conn : Connection) : Event → Option Connection
  | .read request => if conn.loop = .reading then conn.stepRead server asyncWrite request else none
  | .stop => if conn.loop = .reading then some { conn with loop := .returned } else none
  | .finish index =>
    match conn.exchanges[index]? with
    | some exchange =>
      if exchange.stage = .running ∧ conn.accepts asyncWrite exchange.response then
        some { conn with exchanges := conn.exchanges.set index (exchange.submit asyncWrite conn.isOpen) }
      else none
    | none => none
  | .flush index =>
    match conn.exchanges[index]? with
    | some exchange =>
      if exchange.stage = .queued then
        some { conn with exchanges := conn.exchanges.set index (exchange.write conn.isOpen) }
      else none
    | none => none
  | .close => if conn.loop = .returned then some { conn with loop := .closed } else none

def system (server : Server Value) (asyncWrite : Bool) : System Connection Event where
  initial conn := conn = opened
  step := step server asyncWrite

variable {server : Server Value} {asyncWrite : Bool} {conn after : Connection} {event : Event}

/-- Everything a step can do, with what it needs. -/
inductive Moves (server : Server Value) (asyncWrite : Bool) (conn : Connection) :
    Event → Connection → Prop where
  | dispatch (reading : conn.loop = .reading) (handled : server.handle request = .dispatched response) :
      Moves server asyncWrite conn (.read request)
        { conn with exchanges := ⟨request, response, .running, []⟩ :: conn.exchanges }
  | answer (reading : conn.loop = .reading)
      (handled : server.handle request = .inLoop response continues) :
      Moves server asyncWrite conn (.read request)
        { loop := if continues then .reading else .returned
          exchanges := Exchange.submit ⟨request, response, .running, []⟩ asyncWrite true :: conn.exchanges }
  | stop (reading : conn.loop = .reading) :
      Moves server asyncWrite conn .stop { conn with loop := .returned }
  | finish (found : conn.exchanges[index]? = some exchange) (running : exchange.stage = .running) :
      Moves server asyncWrite conn (.finish index)
        { conn with exchanges := conn.exchanges.set index (exchange.submit asyncWrite conn.isOpen) }
  | flush (found : conn.exchanges[index]? = some exchange) (queued : exchange.stage = .queued) :
      Moves server asyncWrite conn (.flush index)
        { conn with exchanges := conn.exchanges.set index (exchange.write conn.isOpen) }
  | close (returned : conn.loop = .returned) : Moves server asyncWrite conn .close { conn with loop := .closed }

theorem moves_of_step (moved : conn.step server asyncWrite event = some after) :
    Moves server asyncWrite conn event after := by
  cases event with
  | read request =>
    dsimp only [step] at moved
    split at moved
    case isTrue reading =>
      unfold stepRead at moved
      split at moved
      case h_1 response handled =>
        cases moved
        exact .dispatch reading handled
      case h_2 response continues handled =>
        split at moved
        · cases moved
          exact .answer reading handled
        · cases moved
    case isFalse => cases moved
  | stop =>
    obtain ⟨reading, ⟨⟩⟩ := Option.ite_none_right_eq_some.mp moved
    exact .stop reading
  | finish index =>
    dsimp only [step] at moved
    split at moved
    case h_1 exchange found =>
      obtain ⟨ready, ⟨⟩⟩ := Option.ite_none_right_eq_some.mp moved
      exact .finish found ready.1
    case h_2 => cases moved
  | flush index =>
    dsimp only [step] at moved
    split at moved
    case h_1 exchange found =>
      obtain ⟨queued, ⟨⟩⟩ := Option.ite_none_right_eq_some.mp moved
      exact .flush found queued
    case h_2 => cases moved
  | close =>
    obtain ⟨returned, ⟨⟩⟩ := Option.ite_none_right_eq_some.mp moved
    exact .close returned

/-- The goroutines get to write before the connection is closed. -/
def Timely (conn : Connection) : Event → Prop
  | .finish _ => conn.isOpen = true
  | .flush _ => conn.isOpen = true
  | _ => True

end Connection

/-- The response of an exchange is the one its request calls for, and it is written once
the exchange is finished. -/
structure Exchange.Faithful (server : Server Value) (exchange : Exchange) : Prop where
  response : exchange.response = (server.handle exchange.request).response
  unwritten : exchange.stage ≠ .finished → exchange.written = []
  written : exchange.stage = .finished → exchange.written = exchange.response.toList

namespace Exchange

variable {server : Server Value} {exchange : Exchange}

theorem faithful_new {request : Request} {response : Option Message}
    (due : response = (server.handle request).response) :
    Faithful server ⟨request, response, .running, []⟩ := by
  refine ⟨due, fun _ => rfl, ?_⟩
  intro finished
  cases finished

theorem Faithful.write (faithful : exchange.Faithful server) (unfinished : exchange.stage ≠ .finished) :
    (exchange.write true).Faithful server := by
  refine ⟨faithful.response, fun other => absurd rfl other, fun _ => ?_⟩
  simp [Exchange.write, faithful.unwritten unfinished]

theorem Faithful.submit (faithful : exchange.Faithful server) (running : exchange.stage = .running)
    (asyncWrite : Bool) : (exchange.submit asyncWrite true).Faithful server := by
  unfold Exchange.submit
  split
  · exact ⟨faithful.response, fun _ => faithful.unwritten (by simp [running]), nofun⟩
  · exact faithful.write (by simp [running])

end Exchange

namespace Connection

variable {server : Server Value} {asyncWrite : Bool} {conn after : Connection} {event : Event}

def Faithful (server : Server Value) (conn : Connection) : Prop :=
  ∀ exchange ∈ conn.exchanges, exchange.Faithful server

theorem Faithful.cons (faithful : conn.Faithful server) (new : exchange.Faithful server) (loop : Loop) :
    Faithful server ⟨loop, exchange :: conn.exchanges⟩ :=
  List.forall_mem_cons.mpr ⟨new, faithful⟩

theorem Faithful.set (faithful : conn.Faithful server) (new : exchange.Faithful server) (index : Nat) :
    Faithful server { conn with exchanges := conn.exchanges.set index exchange } :=
  forall_mem_set faithful new index

theorem Faithful.step (faithful : conn.Faithful server) (timely : Timely conn event)
    (moves : Moves server asyncWrite conn event after) : after.Faithful server := by
  cases moves with
  | dispatch reading handled => exact faithful.cons (Exchange.faithful_new (by rw [handled]; rfl)) _
  | answer reading handled =>
    exact faithful.cons ((Exchange.faithful_new (by rw [handled]; rfl)).submit rfl asyncWrite) _
  | stop reading => exact faithful
  | finish found running =>
    rw [show conn.isOpen = true from timely]
    exact faithful.set ((faithful _ (List.mem_of_getElem? found)).submit running asyncWrite) _
  | flush found queued =>
    rw [show conn.isOpen = true from timely]
    exact faithful.set ((faithful _ (List.mem_of_getElem? found)).write (by simp [queued])) _
  | close returned => exact faithful

theorem faithful_of_reached (reached : (system server asyncWrite).Reached Timely conn) :
    conn.Faithful server := by
  refine reached.invariant ?_ ?_
  · rintro _ rfl
    exact List.forall_mem_nil _
  · intro conn event after faithful timely moved
    exact faithful.step timely (moves_of_step moved)

end Connection

/-- One response with the number of the request, and none to a one-way request. -/
def Exchange.Answered (exchange : Exchange) : Prop :=
  if exchange.request.req.header.isOneway then exchange.written = []
  else ∃ res, exchange.written = [res] ∧ res.header.seq = exchange.request.req.header.seq

/-- A one-way request is no heartbeat, unless the plugins turn it away; another request
is not refused by the plugins, and nothing panics while it is handled. -/
def Served (server : Server Value) (request : Request) : Prop :=
  if request.req.header.isOneway then
    request.req.header.isHeartbeat = true → request.verdict ≠ .accepted
  else (∀ err, request.verdict ≠ .refused err) ∧ (request.verdict = .accepted →
    request.req.header.isHeartbeat = false → request.auth = none →
      server.handleRequest request.pooled request.req ≠ none)

section Served

variable {server : Server Value} {request : Request}

theorem handleError_isSome {pooled req : Message} {err : GoError} :
    (handleError pooled req err).isSome = !req.header.isOneway := by
  unfold handleError
  split
  case isTrue oneway => simp [oneway]
  case isFalse twoway => simp [twoway]

theorem serveRequest_isSome {pooled req : Message} {resMetadata : IterationOrder} :
    (server.serveRequest pooled req resMetadata).isSome = true ↔
      req.header.isHeartbeat = true ∨
        (req.header.isOneway = false ∧ server.handleRequest pooled req ≠ none) := by
  unfold serveRequest
  split
  case isTrue heartbeat => simp [heartbeat]
  case isFalse normal =>
    split
    case h_1 panics => simp [normal, panics]
    case h_2 res err handled =>
      cases oneway : req.header.isOneway <;> simp [normal, handled]

/-- A request has a response exactly if it should have one, just when it is served. -/
theorem served_iff : Served server request ↔
    (server.handle request).response.isSome = !request.req.header.isOneway := by
  unfold Served handle
  cases verdict : request.verdict with
  | refused err => cases oneway : request.req.header.isOneway <;> simp [Handling.response]
  | reachedLimit => simp [Handling.response, handleError_isSome]
  | accepted =>
    have served := @serveRequest_isSome _ server request.pooled request.req request.resMetadata
    cases heartbeat : request.req.header.isHeartbeat with
    | true =>
      have responds : (server.serveRequest request.pooled request.req request.resMetadata).isSome = true :=
        served.mpr (.inl heartbeat)
      cases oneway : request.req.header.isOneway <;> simp [Handling.response, responds]
    | false =>
      cases authenticated : request.auth with
      | some err => simp [Handling.response, handleError_isSome]
      | none =>
        cases oneway : request.req.header.isOneway with
        | true => simpa [Handling.response, heartbeat, oneway] using served
        | false => simp [Handling.response, served, heartbeat, oneway]

theorem respondsTo_handle (answered : (server.handle request).response = some res) :
    RespondsTo request.req.header res.header := by
  unfold handle at answered
  split at answered
  · cases answered
  · exact respondsTo_handleError answered
  · split at answered
    · exact respondsTo_handleError answered
    · exact respondsTo_serveRequest answered

/-- A finished exchange is answered as it should be just when its request is served. -/
theorem Exchange.Faithful.answered_iff {exchange : Exchange} (faithful : exchange.Faithful server)
    (finished : exchange.stage = .finished) : exchange.Answered ↔ Served server exchange.request := by
  rw [served_iff, ← faithful.response, Exchange.Answered, faithful.written finished]
  cases responds : exchange.response with
  | none => cases oneway : exchange.request.req.header.isOneway <;> simp
  | some res =>
    have seq := (respondsTo_handle (faithful.response.symm.trans responds)).seq
    cases oneway : exchange.request.req.header.isOneway <;> simp [seq]

end Served

/-- The steps an exchange still has before it. -/
def Stage.weight : Stage → Nat
  | .running => 2
  | .queued => 1
  | .finished => 0

theorem Exchange.weight_submit {exchange : Exchange} (asyncWrite isOpen : Bool) :
    (exchange.submit asyncWrite isOpen).stage.weight < 2 := by
  unfold Exchange.submit
  split
  · exact Nat.one_lt_two
  · exact Nat.two_pos

theorem Exchange.request_submit {exchange : Exchange} (asyncWrite isOpen : Bool) :
    (exchange.submit asyncWrite isOpen).request = exchange.request := by
  unfold Exchange.submit
  split <;> rfl

namespace Connection

variable {server : Server Value} {asyncWrite : Bool} {conn after : Connection} {event : Event}

def Finished (conn : Connection) : Prop := ∀ exchange ∈ conn.exchanges, exchange.stage = .finished

def weight (conn : Connection) : Nat := (conn.exchanges.map fun exchange => exchange.stage.weight).sum

/-- While the connection is open, some unfinished exchange can go on. -/
theorem exists_step (isOpen : conn.isOpen = true) (unfinished : ¬ conn.Finished) :
    ∃ event after, Timely conn event ∧ conn.step server asyncWrite event = some after ∧
      after.loop = conn.loop ∧
      after.exchanges.map Exchange.request = conn.exchanges.map Exchange.request ∧
      after.weight < conn.weight := by
  by_cases queued : ∃ exchange ∈ conn.exchanges, exchange.stage = .queued
  · obtain ⟨exchange, member, queued⟩ := queued
    obtain ⟨index, found⟩ := List.getElem?_of_mem member
    have written : (exchange.write conn.isOpen).stage.weight < exchange.stage.weight := by
      rw [queued]
      exact Nat.one_pos
    refine ⟨.flush index, { conn with exchanges := conn.exchanges.set index (exchange.write conn.isOpen) },
      isOpen, by simp only [step, found, queued, if_pos], rfl, ?_, ?_⟩
    · exact map_set_of_eq found rfl
    · exact sum_map_set_lt found written
  · push Not at queued
    obtain ⟨exchange, member, running⟩ : ∃ exchange ∈ conn.exchanges, exchange.stage ≠ .finished := by
      simpa [Finished] using unfinished
    have running : exchange.stage = .running := by
      cases stage : exchange.stage with
      | running => rfl
      | queued => exact absurd stage (queued exchange member)
      | finished => exact absurd stage running
    have accepts : conn.accepts asyncWrite exchange.response = true := by
      have free : (conn.exchanges.all fun exchange => exchange.stage != .queued) = true := by
        simpa using queued
      simp [accepts, free]
    obtain ⟨index, found⟩ := List.getElem?_of_mem member
    have submitted : (exchange.submit asyncWrite conn.isOpen).stage.weight < exchange.stage.weight := by
      rw [running]
      exact Exchange.weight_submit ..
    refine ⟨.finish index,
      { conn with exchanges := conn.exchanges.set index (exchange.submit asyncWrite conn.isOpen) },
      isOpen, by simp only [step, found, running, accepts, and_self, if_pos], rfl, ?_, ?_⟩
    · exact map_set_of_eq found (Exchange.request_submit ..)
    · exact sum_map_set_lt found submitted

/-- A run on an open connection can always be brought to the end of all its goroutines. -/
theorem exists_finished (reached : (system server asyncWrite).Reached Timely conn)
    (isOpen : conn.isOpen = true) :
    ∃ final, (system server asyncWrite).Reached Timely final ∧ final.Finished ∧
      final.exchanges.map Exchange.request = conn.exchanges.map Exchange.request := by
  induction bound : conn.weight using Nat.strong_induction_on generalizing conn with
  | _ weight ih =>
    by_cases finished : conn.Finished
    · exact ⟨conn, reached, finished, rfl⟩
    · obtain ⟨event, after, timely, moved, loop, requests, less⟩ :=
        @exists_step _ server asyncWrite conn isOpen finished
      have remains : after.isOpen = true := by
        rw [Connection.isOpen, loop]
        exact isOpen
      obtain ⟨final, reaches, finished, same⟩ :=
        ih after.weight (bound ▸ less) (reached.step event timely moved) remains rfl
      exact ⟨final, reaches, finished, same.trans requests⟩

/-- In a run whose goroutines write before the connection is closed, all requests that
were read are answered as they should be, once they are finished, exactly if all of them
are served; and as long as the connection is open they can all be finished. -/
theorem one_response_iff (reached : (system server asyncWrite).Reached Timely conn) :
    (conn.Finished → ((∀ exchange ∈ conn.exchanges, exchange.Answered) ↔
      ∀ exchange ∈ conn.exchanges, Served server exchange.request)) ∧
    (conn.isOpen = true → ∃ final, (system server asyncWrite).Reached Timely final ∧ final.Finished ∧
      final.exchanges.map Exchange.request = conn.exchanges.map Exchange.request) := by
  refine ⟨?_, exists_finished reached⟩
  intro finished
  apply forall₂_congr
  intro exchange member
  exact (faithful_of_reached reached exchange member).answered_iff (finished exchange member)

/-- A request that neither the plugins nor the authentication object to. -/
def acceptedRequest (req : Message) : Request := ⟨req, .accepted, none, ∅, .newMessage⟩

/-- What becomes of such a request, if its goroutine writes before the connection is
closed. -/
def servedExchange (server : Server Value) (req : Message) : Exchange :=
  let response := server.serveRequest .newMessage req ∅
  ⟨acceptedRequest req, response, .finished, response.toList⟩

theorem handle_acceptedRequest (server : Server Value) (req : Message) :
    server.handle (acceptedRequest req) = .dispatched (server.serveRequest .newMessage req ∅) := by
  cases heartbeat : req.header.isHeartbeat <;> simp [handle, acceptedRequest, heartbeat]

theorem read_acceptedRequest (server : Server Value) (req : Message) :
    opened.step server false (.read (acceptedRequest req)) =
      some ⟨.reading, [⟨acceptedRequest req, server.serveRequest .newMessage req ∅, .running, []⟩]⟩ := by
  simp [step, stepRead, handle_acceptedRequest, opened]

theorem finish_acceptedRequest (server : Server Value) (req : Message) :
    Connection.step server false
      ⟨.reading, [⟨acceptedRequest req, server.serveRequest .newMessage req ∅, .running, []⟩]⟩ (.finish 0) =
        some ⟨.reading, [servedExchange server req]⟩ := by
  simp [step, accepts, Exchange.submit, Exchange.write, isOpen, servedExchange]

theorem one_response_iff_echo :
    ∃ conn, (system (echoServer fun argv _ => .returned argv none) false).Reached Timely conn ∧
      conn.Finished ∧ conn.exchanges.length = 1 ∧ ∀ exchange ∈ conn.exchanges, exchange.Answered := by
  have start : (system (echoServer fun argv _ => .returned argv none) false).Reached Timely opened :=
    .start rfl
  have read := start.step (.read (acceptedRequest mulRequest)) trivial (read_acceptedRequest _ mulRequest)
  have run := read.step (.finish 0) rfl (finish_acceptedRequest _ mulRequest)
  have finished : Finished ⟨.reading, [servedExchange (echoServer fun argv _ => .returned argv none) mulRequest]⟩ :=
    List.forall_mem_singleton.mpr rfl
  refine ⟨_, run, finished, rfl, ((one_response_iff run).1 finished).mpr ?_⟩
  refine List.forall_mem_singleton.mpr ⟨nofun, fun _ _ _ => ?_⟩
  have handled : ((echoServer fun argv _ => .returned argv none).handleRequest .newMessage mulRequest).isSome =
      true := by decide +kernel
  exact Option.isSome_iff_ne_none.mp handled

theorem play_acceptedRequest (server : Server Value) (req : Message) :
    (system server false).play opened [.read (acceptedRequest req), .finish 0] =
      some ⟨.reading, [servedExchange server req]⟩ := by
  simp [System.play, system, read_acceptedRequest, finish_acceptedRequest]

/-- A request without serialization for a method that takes no byte slice. -/
def rawRequest : Message := { mulRequest with header := .fresh }

def byteServer : Server Bytes :=
  { echoServer (fun argv _ => .returned argv none) with
    codecs := fun type => if type = .serializeNone then
      some (byteCodec (fun _ => none) (fun _ => false) id (fun _ => utf8 "*main.Args")) else none }

theorem serveRequest_byteServer : byteServer.serveRequest .newMessage rawRequest ∅ = none := by
  have panics : (byteServer.handleRequest .newMessage rawRequest).isNone = true := by decide +kernel
  rw [serveRequest, if_neg (by decide), Option.isNone_iff_eq_none.mp panics]

/-- A one-way heartbeat is answered, a request whose argument is no byte slice is not, and
neither is one that is handled when its connection is closed. -/
theorem response_unwanted_or_missing :
    (∃ exchange, (system byteServer false).play opened
        [.read (acceptedRequest (heartbeat.modifyHeader (·.setOneway true))), .finish 0] =
          some ⟨.reading, [exchange]⟩ ∧
      exchange.stage = .finished ∧ exchange.request.req.header.isOneway = true ∧ exchange.written ≠ []) ∧
    (∃ exchange, (system byteServer false).play opened
        [.read (acceptedRequest rawRequest), .finish 0] = some ⟨.reading, [exchange]⟩ ∧
      exchange.stage = .finished ∧ exchange.request.req.header.isOneway = false ∧ exchange.written = []) ∧
    (∃ exchange, (system byteServer false).play opened
        [.read (acceptedRequest heartbeat), .stop, .close, .finish 0] = some ⟨.closed, [exchange]⟩ ∧
      exchange.stage = .finished ∧ exchange.request.req.header.isOneway = false ∧ exchange.written = []) := by
  refine ⟨⟨_, play_acceptedRequest _ _, rfl, by decide, ?_⟩, ⟨_, play_acceptedRequest _ _, rfl, by decide, ?_⟩,
    ⟨⟨acceptedRequest heartbeat, byteServer.serveRequest .newMessage heartbeat ∅, .finished, []⟩, ?_, rfl,
      by decide, rfl⟩⟩
  · rw [servedExchange, serveRequest_heartbeat (by decide)]
    exact List.cons_ne_nil _ _
  · rw [servedExchange, serveRequest_byteServer]
    rfl
  · simp [System.play, system, step, stepRead, handle_acceptedRequest, opened, accepts, Exchange.submit,
      Exchange.write, isOpen]

end Connection

end Irpc.Server
