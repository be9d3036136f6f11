import Irpc.Server.FileTransfer
import Irpc.XClient.FileLoops

/-! Files on their way to a server: any number of calls of `SendFile`, the port on which the
server accepts their connections, and connections of strangers. -/
namespace Irpc.XClient.Transfer

open Irpc.Foundation

variable {Conn : Type} {transfer : Transfer Conn}

/-- Writing to the connection does not fail with `io.EOF`, which the loop takes for the end of
the file. -/
def Candid (transfer : Transfer Conn) : Prop := ∀ state data, (transfer.conn.write state data).error ≠ some .eof

theorem sendTurn_of_nil (candid : transfer.Candid) {pos : TransferPosition Conn} {whole accepted : Bytes}
    (filled : ∀ chunk ∈ pos.rest, 0 < chunk.length) (holds : pos.sink.accepted ++ pos.rest.flatten = whole)
    {fuel : Nat} (ran : LoopTurn.run transfer.sendTurn fuel pos = some (none, accepted)) : accepted = whole := by
  induction fuel generalizing pos with
  | zero => cases ran
  | succ fuel ih =>
    have turned := exchanges_sendTurn transfer pos filled
    unfold exchange at turned
    split at turned
    case isTrue =>
      rw [LoopTurn.run_again turned] at ran
      have unread : ∀ chunk ∈ { pos with turn := pos.turn + 1 }.rest, 0 < chunk.length := filled
      exact ih unread holds ran
    case isFalse =>
      split at turned
      case h_1 empty =>
        simp only [LoopTurn.run, turned, Option.some.injEq, Prod.mk.injEq] at ran
        rw [← ran.2, ← holds, empty, List.flatten_nil, List.append_nil]
      case h_2 chunk rest next =>
        split at turned
        case h_1 err failed =>
          simp only [LoopTurn.run, turned, Option.some.injEq, Prod.mk.injEq, unlessEOF] at ran
          have other : err ≠ .eof := by
            rintro rfl
            exact candid _ _ failed
          simp [other] at ran
        case h_2 passed =>
          rw [LoopTurn.run_again turned] at ran
          rw [next] at filled holds
          refine ih (List.forall_mem_cons.mp filled).2 ?_ ran
          rw [← holds, ByteWriter.accepted_put passed, List.flatten_cons, List.append_assoc]

/-- `SendFile` returns nil only if everything was written. -/
theorem accepted_of_nil (candid : transfer.Candid) {accepted : Bytes} {fuel : Nat}
    (returned : transfer.sendFile fuel = some (none, accepted)) :
    accepted = transfer.token ++ transfer.chunks.flatten := by
  by_cases unopened : transfer.Unopened
  · obtain ⟨err, conn, fails⟩ := opened_of_unopened unopened
    simp [sendFile, fails] at returned
  · simp only [sendFile, opened_of_not_unopened unopened] at returned
    have token : transfer.tokenSent.next.accepted = transfer.token :=
      ByteWriter.accepted_put (not_not.mp (not_or.mp unopened).2)
    refine sendTurn_of_nil candid (fun chunk member => (transfer.filled chunk member).1) ?_ returned
    rw [token]

end Irpc.XClient.Transfer

namespace Irpc.Link

open Irpc.Foundation Irpc.Server Irpc.XClient

/-- A call of `SendFile`, or one of `DownloadFile`, which has no file to send, that has got a
token. -/
structure Sender (Request Conn : Type) where
  request : Request
  token : Token
  transfer : Transfer Conn
  presents : transfer.token = token.bytes
  dialled : Bool
  /-- How many bytes have gone onto the connection. -/
  written : Nat
  /-- The call has returned nil. -/
  returned : Bool

namespace Sender

variable {Request Conn : Type}

def start (request : Request) (transfer : Transfer Conn) (token : Token) : Sender Request Conn where
  request := request
  token := token
  transfer := { transfer with token := token.bytes }
  presents := rfl
  dialled := false
  written := 0
  returned := false

def content (sender : Sender Request Conn) : Bytes := sender.transfer.chunks.flatten

def wire (sender : Sender Request Conn) : Bytes := (sender.token.bytes ++ sender.content).take sender.written

theorem take_wire (sender : Sender Request Conn) (enough : 32 ≤ sender.wire.length) :
    sender.wire.take 32 = sender.token.bytes := by
  have size := sender.token.size
  have written : 32 ≤ sender.written := by
    rw [wire, List.length_take] at enough
    omega
  rw [wire, List.take_take, Nat.min_eq_left written, List.take_left' size]

end Sender

/-- The other end of a connection to the port. -/
inductive Peer where
  | sender (index : Nat)
  | stranger (bytes : Bytes)

structure Uploads (Request Info Launch Cache Conn : Type) where
  service : TokenService.State Request Info Launch Cache
  senders : List (Sender Request Conn)
  /-- Connections that have not been accepted yet. -/
  backlog : List Peer
  /-- The ends of the accepted connections, by number. -/
  peers : List Peer
  /-- How much of the file the handler of a connection has read. -/
  consumed : Nat → Nat

namespace Uploads

variable {Request Info Launch Cache Conn : Type}

def sent (state : Uploads Request Info Launch Cache Conn) : Peer → Bytes
  | .sender index => (state.senders[index]?.map Sender.wire).getD []
  | .stranger bytes => bytes

def sentOn (state : Uploads Request Info Launch Cache Conn) (conn : Nat) : Bytes :=
  (state.peers[conn]?.map state.sent).getD []

def input (state : Uploads Request Info Launch Cache Conn) (conn : Nat) : Bytes :=
  ((state.sentOn conn).drop 32).take (state.consumed conn)

inductive Event (Request Conn : Type) where
  /-- A call of `SendFile` asks for a token. -/
  | call (request : Request) (random : Except GoError Token) (transfer : Transfer Conn)
  | dial (index : Nat)
  | write (index count : Nat)
  | finish (index fuel : Nat)
  | intrude (bytes : Bytes)
  | accept
  /-- The loop reads a token, unless it cannot. -/
  | readToken (failed : Bool)
  | acceptFailed (temporary : Bool)
  | advance
  /-- A handler reads on. -/
  | consume (conn count : Nat)

def change (state : Uploads Request Info Launch Cache Conn) (index : Nat)
    (next : Sender Request Conn → Option (Sender Request Conn)) : Option (Uploads Request Info Launch Cache Conn) :=
  state.senders[index]?.bind fun sender =>
    (next sender).map fun sender => { state with senders := state.senders.set index sender }

/-- The first bytes on a connection, if there are enough of them. -/
def tokenOf (bytes : Bytes) : Option Token :=
  if enough : 32 ≤ bytes.length then some ⟨bytes.take 32, List.length_take_of_le enough⟩ else none

def obtained (service : TokenService Request Info Launch Cache) (cachedTokens : Option Cache) (request : Request)
    (random : Except GoError Token) : Option Token :=
  match service.grant cachedTokens request random with
  | .failed _ => none
  | .returned reply _ | .panicked reply => some reply.token

def step (service : TokenService Request Info Launch Cache) (state : Uploads Request Info Launch Cache Conn) :
    Event Request Conn → Option (Uploads Request Info Launch Cache Conn)
  | .call request random transfer =>
    (service.step state.service (.request request random)).map fun next =>
      { state with
        service := next
        senders := state.senders ++
          (obtained service state.service.cachedTokens request random).toList.map (Sender.start request transfer) }
  | .dial index =>
    (state.change index fun sender => if sender.dialled then none else some { sender with dialled := true }).map
      fun next => { next with backlog := next.backlog ++ [.sender index] }
  | .write index count => state.change index fun sender =>
    if sender.dialled && !sender.returned then some { sender with written := sender.written + count } else none
  | .finish index fuel => state.change index fun sender =>
    if sender.dialled = true ∧ sender.transfer.sendFile fuel = some (none, sender.wire) then
      some { sender with returned := true }
    else none
  | .intrude bytes => some { state with backlog := state.backlog ++ [.stranger bytes] }
  | .accept =>
    match state.backlog with
    | [] => none
    | peer :: rest => (service.step state.service .accept).map fun next =>
      { state with service := next, backlog := rest, peers := state.peers ++ [peer] }
  | .readToken failed =>
    match state.service.loop with
    | .reading conn =>
      if failed then (service.step state.service (.read none)).map fun next => { state with service := next }
      else (tokenOf (state.sentOn conn)).bind fun token =>
        (service.step state.service (.read (some token))).map fun next => { state with service := next }
    | _ => none
  | .acceptFailed temporary =>
    (service.step state.service (.acceptFailed temporary)).map fun next => { state with service := next }
  | .advance => (service.step state.service .advance).map fun next => { state with service := next }
  | .consume conn count =>
    if conn ∈ state.service.started.map Handover.conn ∧
        32 + (state.consumed conn + count) ≤ (state.sentOn conn).length then
      some { state with consumed := Function.update state.consumed conn (state.consumed conn + count) }
    else none

def idle (service : TokenService Request Info Launch Cache) : Uploads Request Info Launch Cache Conn :=
  ⟨service.start, [], [], [], fun _ => 0⟩

def system (service : TokenService Request Info Launch Cache) :
    System (Uploads Request Info Launch Cache Conn) (Event Request Conn) where
  initial state := state = idle service
  step := step service

def Excludes (peers : List Peer) (token : Token) : Prop :=
  ∀ bytes, Peer.stranger bytes ∈ peers → bytes.take 32 ≠ token.bytes

theorem Excludes.mono {peers others : List Peer} {token : Token} (excludes : Excludes peers token)
    (subset : others ⊆ peers) : Excludes others token :=
  fun bytes member => excludes bytes (subset member)

/-- Tokens are not guessed, and connections do not fail with `io.EOF`. -/
def Proper (state : Uploads Request Info Launch Cache Conn) : Event Request Conn → Prop
  | .call _ random transfer => transfer.Candid ∧
    ∀ token, random = .ok token → Excludes (state.backlog ++ state.peers) token
  | .intrude bytes => ∀ entry ∈ state.service.issued, bytes.take 32 ≠ entry.1.bytes
  | _ => True

section Service

variable {service : TokenService Request Info Launch Cache} {state next : TokenService.State Request Info Launch Cache}

/-- The connection in hand, and the token it has presented. -/
def presented? : AcceptLoop Info → Option (Nat × Token)
  | .lookingUp conn token | .found conn token _ | .removed conn token _ => some (conn, token)
  | _ => none

/-- A request changes nothing of the loop and the handlers. -/
theorem answer_cases (service : TokenService Request Info Launch Cache)
    (state : TokenService.State Request Info Launch Cache) (request : Request) (random : Except GoError Token) :
    (service.answer state request random).loop = state.loop ∧
      (service.answer state request random).started = state.started ∧
      (service.answer state request random).issued =
        (obtained service state.cachedTokens request random).toList.map (·, request) ++ state.issued := by
  unfold TokenService.answer obtained
  cases service.grant state.cachedTokens request random with
  | failed err => exact ⟨rfl, rfl, rfl⟩
  | returned reply cache => exact ⟨rfl, rfl, rfl⟩
  | panicked reply => exact ⟨rfl, rfl, rfl⟩

theorem random_of_obtained {cachedTokens : Option Cache} {request : Request} {random : Except GoError Token}
    (granted : obtained service cachedTokens request random = some token) : random = .ok token := by
  unfold obtained TokenService.grant at granted
  cases refused : service.refuse request with
  | some err =>
    rw [refused] at granted
    cases granted
  | none =>
    rw [refused] at granted
    cases random with
    | error err => cases granted
    | ok fresh => cases cachedTokens <;> cases granted <;> rfl

/-- What the loop does with a token it has read. -/
theorem advance_cases (moved : service.advance state = some next) :
    next.issued = state.issued ∧
      (∀ conn token, presented? next.loop = some (conn, token) → presented? state.loop = some (conn, token)) ∧
      ∀ handover ∈ next.started, handover ∈ state.started ∨
        presented? state.loop = some (handover.conn, handover.token) ∧
          ∃ info, state.loop.taken? = some (handover.token, info) := by
  unfold TokenService.advance at moved
  split at moved
  case h_1 conn token looking =>
    cases moved
    rw [looking]
    unfold TokenService.lookUp
    split
    · exact ⟨rfl, nofun, fun handover member => .inl member⟩
    · split
      · exact ⟨rfl, nofun, fun handover member => .inl member⟩
      · exact ⟨rfl, fun _ _ same => same, fun handover member => .inl member⟩
  case h_2 conn token info found =>
    cases moved
    rw [found]
    unfold TokenService.useUp
    split
    · exact ⟨rfl, nofun, fun handover member => .inl member⟩
    · exact ⟨rfl, fun _ _ same => same, fun handover member => .inl member⟩
  case h_3 conn token info removed =>
    cases moved
    rw [removed]
    unfold TokenService.dispatch
    split
    · exact ⟨rfl, nofun, fun handover member => .inl member⟩
    · refine ⟨rfl, nofun, fun handover member => ?_⟩
      rcases List.mem_cons.mp member with rfl | before
      · exact .inr ⟨rfl, info, rfl⟩
      · exact .inl before
  case h_4 => cases moved

end Service

variable {service : TokenService Request Info Launch Cache} {state next : Uploads Request Info Launch Cache Conn}
  {conn : Nat} {token : Token}

def tokens (state : Uploads Request Info Launch Cache Conn) : List Token := state.senders.map Sender.token

/-- The connection is that of the call that has this token. -/
def Owned (state : Uploads Request Info Launch Cache Conn) (conn : Nat) (token : Token) : Prop :=
  ∃ index, state.peers[conn]? = some (.sender index) ∧ state.tokens[index]? = some token

/-- Whoever is at the other end has presented this token. -/
def Holds (state : Uploads Request Info Launch Cache Conn) (conn : Nat) (token : Token) : Prop :=
  state.Owned conn token ∨ ∃ bytes, state.peers[conn]? = some (.stranger bytes) ∧ bytes.take 32 = token.bytes

structure Orderly (service : TokenService Request Info Launch Cache)
    (state : Uploads Request Info Launch Cache Conn) : Prop where
  valid : TokenService.Valid service state.service
  issued : ∀ sender ∈ state.senders, (sender.token, sender.request) ∈ state.service.issued
  candid : ∀ sender ∈ state.senders, sender.transfer.Candid
  complete : ∀ sender ∈ state.senders, sender.returned = true → sender.wire = sender.token.bytes ++ sender.content
  excluded : ∀ entry ∈ state.service.issued, Excludes (state.backlog ++ state.peers) entry.1
  presented : ∀ conn token, presented? state.service.loop = some (conn, token) → state.Holds conn token
  started : ∀ handover ∈ state.service.started, state.Owned handover.conn handover.token

theorem Owned.grow (owned : state.Owned conn token) (peers : state.peers <+: next.peers)
    (tokens : state.tokens <+: next.tokens) : next.Owned conn token := by
  obtain ⟨index, peer, held⟩ := owned
  obtain ⟨morePeers, grown⟩ := peers
  obtain ⟨moreTokens, more⟩ := tokens
  refine ⟨index, ?_, ?_⟩
  · rw [← grown, List.getElem?_append_left (List.getElem?_eq_some_iff.mp peer).1, peer]
  · rw [← more, List.getElem?_append_left (List.getElem?_eq_some_iff.mp held).1, held]

theorem Holds.grow (holds : state.Holds conn token) (peers : state.peers <+: next.peers)
    (tokens : state.tokens <+: next.tokens) : next.Holds conn token := by
  rcases holds with owned | ⟨bytes, peer, presents⟩
  · exact .inl (owned.grow peers tokens)
  · obtain ⟨more, grown⟩ := peers
    refine .inr ⟨bytes, ?_, presents⟩
    rw [← grown, List.getElem?_append_left (List.getElem?_eq_some_iff.mp peer).1, peer]

theorem tokenOf_eq_some {bytes : Bytes} (read : tokenOf bytes = some token) :
    32 ≤ bytes.length ∧ bytes.take 32 = token.bytes := by
  unfold tokenOf at read
  split at read
  case isFalse => cases read
  case isTrue enough =>
    cases read
    exact ⟨enough, rfl⟩

theorem token_eq {first second : Token} (same : first.bytes = second.bytes) : first = second := by
  cases first
  cases second
  cases same
  rfl

/-- A token that is read was presented by the other end. -/
theorem holds_of_tokenOf (read : tokenOf (state.sentOn conn) = some token) : state.Holds conn token := by
  obtain ⟨enough, presents⟩ := tokenOf_eq_some read
  unfold sentOn at enough presents
  cases peer : state.peers[conn]? with
  | none => simp [peer] at enough
  | some other =>
    rw [peer, Option.map_some, Option.getD_some] at enough presents
    cases other with
    | stranger bytes => exact .inr ⟨bytes, peer, presents⟩
    | sender index =>
      unfold sent at enough presents
      dsimp only at enough presents
      cases found : state.senders[index]? with
      | none => simp [found] at enough
      | some sender =>
        rw [found, Option.map_some, Option.getD_some] at enough presents
        have own : sender.token = token := token_eq ((sender.take_wire enough).symm.trans presents)
        refine .inl ⟨index, peer, ?_⟩
        rw [tokens, List.getElem?_map, found, Option.map_some, own]

theorem Orderly.serve (orderly : Orderly service state) {after : TokenService.State Request Info Launch Cache}
    (valid : TokenService.Valid service after) (issued : after.issued = state.service.issued)
    (presented : ∀ conn token, presented? after.loop = some (conn, token) → state.Holds conn token)
    (started : ∀ handover ∈ after.started, state.Owned handover.conn handover.token) :
    Orderly service { state with service := after } where
  valid := valid
  issued := by
    intro sender member
    rw [issued]
    exact orderly.issued sender member
  candid := orderly.candid
  complete := orderly.complete
  excluded := by
    rw [issued]
    exact orderly.excluded
  presented := presented
  started := started

theorem Orderly.change (orderly : Orderly service state) {index : Nat}
    {update : Sender Request Conn → Option (Sender Request Conn)}
    (keeps : ∀ sender after, update sender = some after → after.token = sender.token ∧
      after.request = sender.request ∧ after.transfer = sender.transfer)
    (complete : ∀ sender after, sender ∈ state.senders → update sender = some after → after.returned = true →
      after.wire = after.token.bytes ++ after.content)
    (changed : state.change index update = some next) :
    Orderly service next := by
  obtain ⟨sender, found, changed⟩ := Option.bind_eq_some_iff.mp changed
  obtain ⟨after, updated, rfl⟩ := Option.map_eq_some_iff.mp changed
  have member := List.mem_of_getElem? found
  obtain ⟨token, request, transfer⟩ := keeps sender after updated
  have same : { state with senders := state.senders.set index after }.tokens = state.tokens :=
    map_set_of_eq found token
  refine ⟨orderly.valid, ?_, ?_, ?_, orderly.excluded, ?_, ?_⟩
  · refine forall_mem_set orderly.issued ?_ index
    rw [token, request]
    exact orderly.issued sender member
  · refine forall_mem_set orderly.candid ?_ index
    rw [transfer]
    exact orderly.candid sender member
  · exact forall_mem_set orderly.complete (complete sender after member updated) index
  · intro conn token shown
    exact (orderly.presented conn token shown).grow List.prefix_rfl (same ▸ List.prefix_rfl)
  · intro handover started
    exact (orderly.started handover started).grow List.prefix_rfl (same ▸ List.prefix_rfl)

theorem Orderly.connect (orderly : Orderly service state) {backlog peers : List Peer}
    (grown : state.peers <+: peers)
    (excluded : ∀ entry ∈ state.service.issued, Excludes (backlog ++ peers) entry.1) :
    Orderly service { state with backlog := backlog, peers := peers } where
  valid := orderly.valid
  issued := orderly.issued
  candid := orderly.candid
  complete := orderly.complete
  excluded := excluded
  presented conn token shown := (orderly.presented conn token shown).grow grown List.prefix_rfl
  started handover member := (orderly.started handover member).grow grown List.prefix_rfl

theorem Orderly.call (orderly : Orderly service state) {request : Request} {random : Except GoError Token}
    {transfer : Transfer Conn} (candid : transfer.Candid)
    (unguessed : ∀ token, random = .ok token → Excludes (state.backlog ++ state.peers) token)
    (moved : service.step state.service (.request request random) = some after) :
    Orderly service { state with
      service := after
      senders := state.senders ++
        (obtained service state.service.cachedTokens request random).toList.map (Sender.start request transfer) } := by
  have valid := orderly.valid.step (TokenService.moves_of_step moved)
  obtain ⟨-, same⟩ := Option.ite_none_right_eq_some.mp moved
  cases same
  obtain ⟨loop, started, issued⟩ := answer_cases service state.service request random
  cases granted : obtained service state.service.cachedTokens request random with
  | none =>
    rw [granted, Option.toList_none, List.map_nil, List.nil_append] at issued
    rw [Option.toList_none, List.map_nil, List.append_nil]
    refine orderly.serve valid issued ?_ ?_
    · rw [loop]
      exact orderly.presented
    · rw [started]
      exact orderly.started
  | some token =>
    rw [granted, Option.toList_some, List.map_singleton, List.singleton_append] at issued
    rw [Option.toList_some, List.map_singleton]
    have tokens : state.tokens <+: (state.senders ++ [Sender.start request transfer token]).map Sender.token := by
      rw [List.map_append]
      exact List.prefix_append _ _
    refine ⟨valid, ?_, ?_, ?_, ?_, ?_, ?_⟩
    · rw [issued]
      refine List.forall_mem_append.mpr ⟨fun sender member => ?_, List.forall_mem_singleton.mpr List.mem_cons_self⟩
      exact List.mem_cons_of_mem _ (orderly.issued sender member)
    · exact List.forall_mem_append.mpr ⟨orderly.candid, List.forall_mem_singleton.mpr candid⟩
    · exact List.forall_mem_append.mpr ⟨orderly.complete, List.forall_mem_singleton.mpr nofun⟩
    · rw [issued]
      exact List.forall_mem_cons.mpr ⟨unguessed token (random_of_obtained granted), orderly.excluded⟩
    · rw [loop]
      intro conn other shown
      exact (orderly.presented conn other shown).grow List.prefix_rfl tokens
    · rw [started]
      intro handover member
      exact (orderly.started handover member).grow List.prefix_rfl tokens

/-- The loop hands a connection over only to the call that has its token. -/
theorem Orderly.advance (orderly : Orderly service state) (moved : service.step state.service .advance = some after) :
    Orderly service { state with service := after } := by
  have valid := orderly.valid.step (TokenService.moves_of_step moved)
  obtain ⟨issued, presented, started⟩ := advance_cases moved
  refine orderly.serve valid issued ?_ ?_
  · intro conn token shown
    exact orderly.presented conn token (presented conn token shown)
  intro handover member
  rcases started handover member with before | ⟨shown, info, taken⟩
  · exact orderly.started handover before
  · obtain ⟨request, entry, -⟩ := (orderly.valid.taken _ info taken).issued
    rcases orderly.presented _ _ shown with owned | ⟨bytes, peer, presents⟩
    · exact owned
    · have member := List.mem_append_right state.backlog (List.mem_of_getElem? peer)
      exact absurd presents (orderly.excluded _ entry bytes member)

theorem Orderly.arrive (orderly : Orderly service state) {peer : Peer}
    (unguessed : ∀ bytes, peer = .stranger bytes → ∀ entry ∈ state.service.issued, bytes.take 32 ≠ entry.1.bytes) :
    Orderly service { state with backlog := state.backlog ++ [peer] } := by
  refine orderly.connect List.prefix_rfl fun entry issued bytes member => ?_
  simp only [List.mem_append, List.mem_singleton] at member
  rcases member with (waiting | arrives) | accepted
  · exact orderly.excluded entry issued bytes (List.mem_append_left _ waiting)
  · exact unguessed bytes arrives.symm entry issued
  · exact orderly.excluded entry issued bytes (List.mem_append_right _ accepted)

theorem Orderly.turn (orderly : Orderly service state) {after : TokenService.State Request Info Launch Cache}
    {event : TokenService.Event Request} (moved : service.step state.service event = some after)
    (issued : after.issued = state.service.issued) (started : after.started = state.service.started)
    (waits : presented? after.loop = none) : Orderly service { state with service := after } := by
  refine orderly.serve (orderly.valid.step (TokenService.moves_of_step moved)) issued ?_ ?_
  · rw [waits]
    exact nofun
  · rw [started]
    exact orderly.started

theorem Orderly.accept (orderly : Orderly service state) (waiting : state.backlog = peer :: rest)
    (moved : service.step state.service .accept = some after) :
    Orderly service { state with service := after, backlog := rest, peers := state.peers ++ [peer] } := by
  have idle := moved
  dsimp only [TokenService.step] at idle
  split at idle
  case h_2 => cases idle
  case h_1 =>
    cases idle
    have turned := orderly.turn moved rfl rfl rfl
    refine turned.connect (List.prefix_append _ _) fun entry issued => ?_
    refine (turned.excluded entry issued).mono fun other member => ?_
    rw [waiting]
    simp only [List.mem_append, List.mem_cons] at member ⊢
    tauto

theorem Orderly.readToken (orderly : Orderly service state) {failed : Bool}
    (moved : state.step service (.readToken failed) = some next) : Orderly service next := by
  dsimp only [step] at moved
  split at moved
  case h_2 => cases moved
  case h_1 conn reading =>
    split at moved
    case isTrue =>
      obtain ⟨after, ran, rfl⟩ := Option.map_eq_some_iff.mp moved
      have closed := ran
      simp only [TokenService.step, reading, Option.some.injEq] at closed
      subst closed
      exact orderly.turn ran rfl rfl rfl
    case isFalse =>
      obtain ⟨token, read, moved⟩ := Option.bind_eq_some_iff.mp moved
      obtain ⟨after, ran, rfl⟩ := Option.map_eq_some_iff.mp moved
      have looks := ran
      simp only [TokenService.step, reading, Option.some.injEq] at looks
      subst looks
      refine orderly.serve (orderly.valid.step (TokenService.moves_of_step ran)) rfl ?_ orderly.started
      rintro _ _ ⟨⟩
      exact holds_of_tokenOf read

theorem Orderly.acceptFailed (orderly : Orderly service state) {temporary : Bool}
    (moved : service.step state.service (.acceptFailed temporary) = some after) :
    Orderly service { state with service := after } := by
  have fails := moved
  dsimp only [TokenService.step] at fails
  split at fails
  case h_2 => cases fails
  case h_1 accepting =>
    cases temporary with
    | true =>
      cases fails
      exact orderly.turn moved rfl rfl (by simp [accepting, presented?])
    | false =>
      cases fails
      exact orderly.turn moved rfl rfl rfl

theorem Orderly.step {event : Event Request Conn} (orderly : Orderly service state) (proper : Proper state event)
    (moved : state.step service event = some next) : Orderly service next := by
  cases event with
  | call request random transfer =>
    obtain ⟨after, ran, rfl⟩ := Option.map_eq_some_iff.mp moved
    exact orderly.call proper.1 proper.2 ran
  | dial index =>
    obtain ⟨after, changed, rfl⟩ := Option.map_eq_some_iff.mp moved
    refine (orderly.change ?_ ?_ changed).arrive nofun
    · intro sender after updated
      obtain ⟨-, ⟨⟩⟩ := Option.ite_none_left_eq_some.mp updated
      exact ⟨rfl, rfl, rfl⟩
    · intro sender after member updated returned
      obtain ⟨-, ⟨⟩⟩ := Option.ite_none_left_eq_some.mp updated
      exact orderly.complete sender member returned
  | write index count =>
    refine orderly.change ?_ ?_ moved
    · intro sender after updated
      obtain ⟨-, ⟨⟩⟩ := Option.ite_none_right_eq_some.mp updated
      exact ⟨rfl, rfl, rfl⟩
    · intro sender after member updated returned
      obtain ⟨running, ⟨⟩⟩ := Option.ite_none_right_eq_some.mp updated
      have unfinished : sender.returned = false := by simpa using (Bool.and_eq_true_iff.mp running).2
      exact absurd (unfinished.symm.trans returned) Bool.false_ne_true
  | finish index fuel =>
    refine orderly.change ?_ ?_ moved
    · intro sender after updated
      obtain ⟨-, ⟨⟩⟩ := Option.ite_none_right_eq_some.mp updated
      exact ⟨rfl, rfl, rfl⟩
    · intro sender after member updated returned
      obtain ⟨⟨-, finished⟩, ⟨⟩⟩ := Option.ite_none_right_eq_some.mp updated
      have accepted := Transfer.accepted_of_nil (orderly.candid sender member) finished
      rw [sender.presents] at accepted
      exact accepted
  | intrude bytes =>
    cases moved
    refine orderly.arrive fun other arrives entry issued => ?_
    cases arrives
    exact proper entry issued
  | accept =>
    dsimp only [Uploads.step] at moved
    split at moved
    case h_1 => cases moved
    case h_2 peer rest waiting =>
      obtain ⟨after, ran, rfl⟩ := Option.map_eq_some_iff.mp moved
      exact orderly.accept waiting ran
  | readToken failed => exact orderly.readToken moved
  | acceptFailed temporary =>
    obtain ⟨after, ran, rfl⟩ := Option.map_eq_some_iff.mp moved
    exact orderly.acceptFailed ran
  | advance =>
    obtain ⟨after, ran, rfl⟩ := Option.map_eq_some_iff.mp moved
    exact orderly.advance ran
  | consume conn count =>
    obtain ⟨-, same⟩ := Option.ite_none_right_eq_some.mp moved
    cases same
    exact ⟨orderly.valid, orderly.issued, orderly.candid, orderly.complete, orderly.excluded, orderly.presented,
      orderly.started⟩

theorem orderly_idle : Orderly service (idle service : Uploads Request Info Launch Cache Conn) where
  valid := TokenService.valid_start
  issued := List.forall_mem_nil _
  candid := List.forall_mem_nil _
  complete := List.forall_mem_nil _
  excluded := List.forall_mem_nil _
  presented := nofun
  started := List.forall_mem_nil _

theorem orderly_of_reached (reached : (system service).Reached Proper state) : Orderly service state := by
  induction reached with
  | start initial =>
    cases initial
    exact orderly_idle
  | step earlier event proper moved ih => exact ih.step proper moved

theorem Owned.exists_sender (owned : state.Owned conn token) :
    ∃ index sender, state.peers[conn]? = some (.sender index) ∧ state.senders[index]? = some sender ∧
      sender.token = token ∧ state.sentOn conn = sender.wire := by
  obtain ⟨index, peer, held⟩ := owned
  rw [tokens, List.getElem?_map] at held
  obtain ⟨sender, found, same⟩ := Option.map_eq_some_iff.mp held
  refine ⟨index, sender, peer, found, same, ?_⟩
  simp [sentOn, peer, sent, found]

theorem drop_wire (sender : Sender Request Conn) :
    sender.wire.drop 32 = sender.content.take (sender.written - 32) := by
  rw [Sender.wire, List.drop_take, List.drop_left' sender.token.size]

/-- The connections that the handlers have got are of different calls. -/
theorem Orderly.apart (orderly : Orderly service state) :
    (state.service.started.map fun handover => state.peers[handover.conn]?).Nodup := by
  have once := orderly.valid.once
  refine List.Nodup.map_on ?_ once.of_map
  intro first firstStarted second secondStarted same
  obtain ⟨index, peer, token⟩ := orderly.started first firstStarted
  obtain ⟨other, otherPeer, otherToken⟩ := orderly.started second secondStarted
  rw [peer, otherPeer] at same
  cases same
  exact List.inj_on_of_nodup_map once firstStarted secondStarted
    (Option.some.inj (token.symm.trans otherToken))

section FileTransfer

variable {Handler DownloadHandler : Type} {transfer : FileTransfer Handler DownloadHandler Cache}
  {state : Uploads TransferRequest TransferInfo (TransferCall Handler DownloadHandler) Cache Conn}

/-- However the calls and the connections interleave, a handler runs on the connection of a
call that has asked for this handler, and for no other handler. What it reads is the beginning
of the file of this call, and all of it once the call has returned nil and the handler has
read everything. -/
theorem handler_gets_own_file (reached : (system transfer.service).Reached Proper state) :
    (∀ handover ∈ state.service.started, ∃ index sender, state.peers[handover.conn]? = some (.sender index) ∧
      state.senders[index]? = some sender ∧ transfer.Serves sender.request handover.launch ∧
      state.input handover.conn <+: sender.content ∧
      (sender.returned = true → 32 + state.consumed handover.conn = (state.sentOn handover.conn).length →
        state.input handover.conn = sender.content)) ∧
    (state.service.started.map fun handover => state.peers[handover.conn]?).Nodup := by
  have orderly := orderly_of_reached reached
  refine ⟨fun handover started => ?_, orderly.apart⟩
  obtain ⟨index, sender, peer, found, same, wire⟩ := (orderly.started handover started).exists_sender
  have member := List.mem_of_getElem? found
  have issued := orderly.issued sender member
  rw [same] at issued
  refine ⟨index, sender, peer, found, ?_, ?_, fun returned read => ?_⟩
  · exact transfer.serves_of_launch (orderly.valid.launch_of_issued started issued)
  · rw [input, wire, drop_wire]
    exact (List.take_prefix _ _).trans (List.take_prefix _ _)
  · have whole := orderly.complete sender member returned
    have size := sender.token.size
    rw [wire, whole, List.length_append, size] at read
    have all : state.consumed handover.conn = sender.content.length := by omega
    rw [input, wire, whole, List.drop_left' size, all, List.take_length]

def smallFile : Transfer Unit where
  setup := none
  conn := .unlimited
  connState := ()
  token := []
  chunks := [[1, 2], [3]]
  filled := by decide
  last := .eof
  cancelAt := none

/-- Behind a stranger, a file is sent and read. -/
def upload : List (Event TransferRequest Unit) :=
  [.dial 0, .write 0 35, .finish 0 3, .accept, .readToken false, .advance,
    .accept, .readToken false, .advance, .advance, .advance, .consume 1 3]

theorem proper_upload : ∀ event ∈ upload, ∀ state : Uploads TransferRequest Info Launch Cache Unit,
    state.Proper event := by
  simp [upload, Proper]

theorem handler_gets_small_file :
    ∃ state : Uploads TransferRequest TransferInfo (TransferCall Unit Unit) (Lru Token TransferInfo) Unit,
      state.service.closed = [0] ∧ state.service.started.map Handover.conn = [1] ∧ state.input 1 = [1, 2, 3] ∧
      (∀ handover ∈ state.service.started, ∃ index sender, state.peers[handover.conn]? = some (.sender index) ∧
        state.senders[index]? = some sender ∧ FileTransfer.sampleTransfer.Serves sender.request handover.launch ∧
        state.input handover.conn <+: sender.content ∧
        (sender.returned = true → 32 + state.consumed handover.conn = (state.sentOn handover.conn).length →
          state.input handover.conn = sender.content)) := by
  have start : (system FileTransfer.sampleTransfer.service).Reached Proper
      (idle _ : Uploads _ _ _ _ Unit) := .start rfl
  have intruded := start.step (.intrude (List.replicate 32 9)) (List.forall_mem_nil _) rfl
  have candid : smallFile.Candid := by simp [Transfer.Candid, smallFile, ByteWriter.unlimited]
  have called := intruded.step
    (.call (.transferFile ⟨utf8 "a.txt", 3, none⟩) (.ok FileTransfer.uploadToken) smallFile)
    ⟨candid, fun token drawn bytes member => by
      cases drawn
      cases List.mem_singleton.mp member
      decide⟩ rfl
  have done := called.playAll (by rfl) proper_upload
  exact ⟨_, rfl, rfl, rfl, (handler_gets_own_file done).1⟩

end FileTransfer

section Stalled

variable {peer : Peer}

theorem length_sent_change {index : Nat} {update : Sender Request Conn → Option (Sender Request Conn)}
    (grows : ∀ sender after, update sender = some after → sender.wire.length ≤ after.wire.length)
    (changed : state.change index update = some next) (peer : Peer) :
    (state.sent peer).length ≤ (next.sent peer).length := by
  obtain ⟨sender, found, changed⟩ := Option.bind_eq_some_iff.mp changed
  obtain ⟨after, updated, rfl⟩ := Option.map_eq_some_iff.mp changed
  cases peer with
  | stranger bytes => exact le_refl _
  | sender other =>
    by_cases same : index = other
    · subst same
      have bound := (List.getElem?_eq_some_iff.mp found).1
      simpa [sent, found, List.getElem?_set_self bound] using grows sender after updated
    · simp [sent, List.getElem?_set_ne same]

theorem length_sent_step {event : Event Request Conn} (moved : state.step service event = some next) (peer : Peer) :
    (state.sent peer).length ≤ (next.sent peer).length := by
  cases event with
  | call request random transfer =>
    obtain ⟨after, -, rfl⟩ := Option.map_eq_some_iff.mp moved
    cases peer with
    | stranger bytes => exact le_refl _
    | sender index =>
      cases found : state.senders[index]? with
      | none => simp [sent, found]
      | some sender =>
        have bound := (List.getElem?_eq_some_iff.mp found).1
        simp [sent, found, List.getElem?_append_left bound]
  | dial index =>
    obtain ⟨after, changed, rfl⟩ := Option.map_eq_some_iff.mp moved
    have grown := length_sent_change (fun sender after updated => ?_) changed peer
    · cases peer with
      | stranger bytes => exact le_refl _
      | sender index => exact grown
    · obtain ⟨-, same⟩ := Option.ite_none_left_eq_some.mp updated
      cases same
      exact le_refl _
  | write index count =>
    refine length_sent_change (fun sender after updated => ?_) moved peer
    obtain ⟨-, same⟩ := Option.ite_none_right_eq_some.mp updated
    cases same
    simp only [Sender.wire, Sender.content, List.length_take]
    omega
  | finish index fuel =>
    refine length_sent_change (fun sender after updated => ?_) moved peer
    obtain ⟨-, same⟩ := Option.ite_none_right_eq_some.mp updated
    cases same
    exact le_refl _
  | intrude bytes =>
    cases moved
    cases peer <;> exact le_refl _
  | accept =>
    dsimp only [Uploads.step] at moved
    split at moved
    · cases moved
    · obtain ⟨after, -, rfl⟩ := Option.map_eq_some_iff.mp moved
      cases peer <;> exact le_refl _
  | readToken failed =>
    dsimp only [Uploads.step] at moved
    split at moved
    · split at moved
      · obtain ⟨after, -, rfl⟩ := Option.map_eq_some_iff.mp moved
        cases peer <;> exact le_refl _
      · obtain ⟨token, -, moved⟩ := Option.bind_eq_some_iff.mp moved
        obtain ⟨after, -, rfl⟩ := Option.map_eq_some_iff.mp moved
        cases peer <;> exact le_refl _
    · cases moved
  | acceptFailed temporary =>
    obtain ⟨after, -, rfl⟩ := Option.map_eq_some_iff.mp moved
    cases peer <;> exact le_refl _
  | advance =>
    obtain ⟨after, -, rfl⟩ := Option.map_eq_some_iff.mp moved
    cases peer <;> exact le_refl _
  | consume conn count =>
    obtain ⟨-, same⟩ := Option.ite_none_right_eq_some.mp moved
    cases same
    cases peer <;> exact le_refl _

theorem length_sent_play {events : List (Event Request Conn)}
    (played : (system service).play state events = some final) (peer : Peer) :
    (state.sent peer).length ≤ (final.sent peer).length := by
  induction events generalizing state with
  | nil =>
    cases played
    exact le_refl _
  | cons event rest ih =>
    obtain ⟨next, moved, remaining⟩ := Option.bind_eq_some_iff.mp played
    exact (length_sent_step moved peer).trans (ih remaining)

/-- The loop waits for the token on the connection of a peer. -/
structure Stalled (state : Uploads Request Info Launch Cache Conn) (conn : Nat) (peer : Peer) : Prop where
  reading : state.service.loop = .reading conn
  known : state.peers[conn]? = some peer

theorem Stalled.change (stalled : state.Stalled conn peer) (changed : state.change index update = some next) :
    next.Stalled conn peer ∧ next.service.started = state.service.started := by
  obtain ⟨sender, -, changed⟩ := Option.bind_eq_some_iff.mp changed
  obtain ⟨after, -, rfl⟩ := Option.map_eq_some_iff.mp changed
  exact ⟨⟨stalled.reading, stalled.known⟩, rfl⟩

/-- Before the token is there, nothing moves the loop on but a failure of the read. -/
theorem Stalled.step {event : Event Request Conn} (stalled : state.Stalled conn peer)
    (short : (state.sent peer).length < 32) (kept : event ≠ .readToken true)
    (moved : state.step service event = some next) :
    next.Stalled conn peer ∧ next.service.started = state.service.started := by
  have reading := stalled.reading
  cases event with
  | call request random transfer =>
    obtain ⟨after, ran, rfl⟩ := Option.map_eq_some_iff.mp moved
    obtain ⟨-, same⟩ := Option.ite_none_right_eq_some.mp ran
    cases same
    obtain ⟨loop, started, -⟩ := answer_cases service state.service request random
    exact ⟨⟨loop.trans reading, stalled.known⟩, started⟩
  | dial index =>
    obtain ⟨after, changed, rfl⟩ := Option.map_eq_some_iff.mp moved
    obtain ⟨still, started⟩ := stalled.change changed
    exact ⟨⟨still.reading, still.known⟩, started⟩
  | write index count => exact stalled.change moved
  | finish index fuel => exact stalled.change moved
  | intrude bytes =>
    cases moved
    exact ⟨⟨reading, stalled.known⟩, rfl⟩
  | accept =>
    dsimp only [Uploads.step] at moved
    split at moved
    · cases moved
    · simp [TokenService.step, reading] at moved
  | readToken failed =>
    cases failed with
    | true => exact absurd rfl kept
    | false =>
      have missing : tokenOf (state.sentOn conn) = none := by
        rw [sentOn, stalled.known, Option.map_some, Option.getD_some, tokenOf, dif_neg (not_le.mpr short)]
      simp [Uploads.step, reading, missing] at moved
  | acceptFailed temporary => simp [Uploads.step, TokenService.step, reading] at moved
  | advance => simp [Uploads.step, TokenService.step, TokenService.advance, reading] at moved
  | consume conn count =>
    obtain ⟨-, same⟩ := Option.ite_none_right_eq_some.mp moved
    cases same
    exact ⟨⟨reading, stalled.known⟩, rfl⟩

/-- The loop reads a token before it accepts the next connection, and sets no deadline: as long
as fewer than 32 bytes have been sent on this connection and it is kept open, no handler is
started for anyone, whatever is called, sent and connected. -/
theorem silent_peer_stops_port {events : List (Event Request Conn)} (stalled : state.Stalled conn peer)
    (kept : Event.readToken true ∉ events) (played : (system service).play state events = some final)
    (short : (final.sent peer).length < 32) :
    final.Stalled conn peer ∧ final.service.started = state.service.started := by
  induction events generalizing state with
  | nil =>
    cases played
    exact ⟨stalled, rfl⟩
  | cons event rest ih =>
    have before : (state.sent peer).length < 32 := (length_sent_play played peer).trans_lt short
    obtain ⟨next, moved, remaining⟩ := Option.bind_eq_some_iff.mp played
    obtain ⟨other, later⟩ := List.ne_and_not_mem_of_not_mem_cons kept
    obtain ⟨still, started⟩ := stalled.step before (Ne.symm other) moved
    obtain ⟨stays, same⟩ := ih still later remaining
    exact ⟨stays, same.trans started⟩

end Stalled

def stopped : Uploads TransferRequest TransferInfo (TransferCall Unit Unit) (Lru Token TransferInfo) Unit where
  service := { FileTransfer.sampleTransfer.service.start with loop := .reading 0, accepted := 1 }
  senders := []
  backlog := []
  peers := [.stranger [9]]
  consumed _ := 0

def unheard : List (Event TransferRequest Unit) :=
  [.call (.transferFile ⟨utf8 "a.txt", 3, none⟩) (.ok FileTransfer.uploadToken) smallFile,
    .dial 0, .write 0 35, .finish 0 3]

theorem one_byte_stops_port :
    (system FileTransfer.sampleTransfer.service).Reachable stopped ∧ stopped.Stalled 0 (.stranger [9]) ∧
      ∃ after, (system FileTransfer.sampleTransfer.service).play stopped unheard = some after ∧
        after.senders.map Sender.returned = [true] ∧
        after.Stalled 0 (.stranger [9]) ∧ after.service.started = stopped.service.started := by
  have start : (system FileTransfer.sampleTransfer.service).Reachable
      (idle _ : Uploads _ _ _ _ Unit) := .start rfl
  have played : (system FileTransfer.sampleTransfer.service).play (idle _) [.intrude [9], .accept] =
      some stopped := rfl
  have stalled : stopped.Stalled 0 (.stranger [9]) := ⟨rfl, rfl⟩
  have sends : (system FileTransfer.sampleTransfer.service).play stopped unheard = some _ := rfl
  exact ⟨start.play played, stalled, _, sends, rfl,
    silent_peer_stops_port stalled (by simp [unheard]) sends (by decide)⟩

end Uploads

end Irpc.Link
