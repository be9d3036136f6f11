import Irpc.Protocol.Message
import Irpc.Server.TokenInvariant

/-! Streams on a port of their own. -/
namespace Irpc.Server

open Irpc.Foundation Irpc.Protocol

def errNotAccept : GoError := .plain (utf8 "server refused the connection")

structure StreamServiceArgs where
  metadata : Option Metadata

structure StreamRequest (Context : Type) where
  ctx : Context
  args : StreamServiceArgs

/-- The call of the handler for a connection. -/
structure StreamCall (Handler : Type) where
  handler : Handler
  args : StreamServiceArgs

/-- A nil handler or acceptor is `none`. -/
structure StreamService (Context Handler Cache : Type) where
  addr : Bytes
  advertiseAddr : Bytes
  handler : Option Handler
  acceptor : Option (Context → StreamServiceArgs → Bool)
  tokens : EvictingMap Token StreamServiceArgs Cache
  waitNum : Int

variable {Context Handler Cache : Type}

/-- The acceptor is a parameter without a name. -/
def newStreamService (tokens : EvictingMap Token StreamServiceArgs Cache) (addr : Bytes)
    (streamHandler : Option Handler) (_ : Option (Context → StreamServiceArgs → Bool)) (waitNum : Int) :
    StreamService Context Handler Cache where
  addr := addr
  advertiseAddr := []
  handler := streamHandler
  acceptor := none
  tokens := tokens
  waitNum := waitNum

namespace StreamService

variable (streams : StreamService Context Handler Cache)

def refuse (request : StreamRequest Context) : Option GoError :=
  match streams.acceptor with
  | none => none
  | some acceptor => if acceptor request.ctx request.args then none else some errNotAccept

def stream (cachedTokens : Option Cache) (request : StreamRequest Context) (random : Except GoError Token) :
    Issuance Cache :=
  match streams.refuse request with
  | some err => .failed err
  | none => issueToken streams.tokens streams.addr streams.advertiseAddr cachedTokens request.args random

def launch (args : StreamServiceArgs) : Option (StreamCall Handler) :=
  streams.handler.map fun handler => ⟨handler, args⟩

def service : TokenService (StreamRequest Context) StreamServiceArgs (StreamCall Handler) Cache where
  addr := streams.addr
  advertiseAddr := streams.advertiseAddr
  cache := streams.tokens
  waitNum := streams.waitNum
  refuse := streams.refuse
  infoOf := StreamRequest.args
  launch := streams.launch

theorem grant_service (cachedTokens : Option Cache) (request : StreamRequest Context) (random : Except GoError Token) :
    streams.service.grant cachedTokens request random = streams.stream cachedTokens request random :=
  rfl

abbrev State (Context Handler Cache : Type) : Type :=
  TokenService.State (StreamRequest Context) StreamServiceArgs (StreamCall Handler) Cache

/-- Tokens and the handler are for accepted requests only, and a token is used once. -/
structure Gated (acceptor : Context → StreamServiceArgs → Bool) (state : State Context Handler Cache) : Prop where
  issued : ∀ entry ∈ state.issued, acceptor entry.2.ctx entry.2.args = true
  started : ∀ handover ∈ state.started, ∃ request, (handover.token, request) ∈ state.issued ∧
    handover.launch.args = request.args ∧ acceptor request.ctx request.args = true
  once : (state.started.map Handover.token).Nodup

variable {streams} {acceptor : Context → StreamServiceArgs → Bool} {state : State Context Handler Cache}

theorem args_of_launch {call : StreamCall Handler} (launches : streams.launch args = some call) : call.args = args := by
  obtain ⟨handler, _, rfl⟩ := Option.map_eq_some_iff.mp launches
  rfl

/-- The loop starts the handler with what `Stream` was called with, so that all depends on whom
`Stream` gives a token. -/
theorem gated_of_issued (reachable : streams.service.system.Reachable state)
    (issued : ∀ entry ∈ state.issued, acceptor entry.2.ctx entry.2.args = true) : Gated acceptor state where
  issued := issued
  started := by
    intro handover started
    obtain ⟨request, obtained, launches⟩ := (TokenService.valid_of_reachable reachable).paired handover started
    exact ⟨request, obtained, args_of_launch launches, issued _ obtained⟩
  once := (TokenService.valid_of_reachable reachable).once

theorem gated_of_acceptor (set : streams.acceptor = some acceptor)
    (reachable : streams.service.system.Reachable state) : Gated acceptor state := by
  refine gated_of_issued reachable fun entry issued => ?_
  have welcome : streams.refuse entry.2 = none := (TokenService.valid_of_reachable reachable).welcome entry issued
  by_contra refused
  simp [refuse, set, refused] at welcome

/-- A service without an acceptor serves all requests. It heeds one just when the requests that
are made are all accepted. -/
theorem gated_iff_of_unset (unset : streams.acceptor = none) (made : StreamRequest Context → Prop) :
    (∀ state : State Context Handler Cache, streams.service.system.Reached (TokenService.Only made) state →
      Gated acceptor state) ↔
      ∀ request, made request → acceptor request.ctx request.args = true := by
  constructor
  · intro gated request asked
    have welcome : streams.service.refuse request = none := by simp only [service, refuse, unset]
    obtain ⟨state, reached, issued⟩ := TokenService.exists_issued welcome asked ⟨List.replicate 32 0, rfl⟩
    exact (gated state reached).issued _ issued
  · intro accepted state reached
    refine gated_of_issued (reached.mono fun _ _ _ => trivial) fun entry issued => ?_
    exact accepted entry.2 (TokenService.issued_permitted reached entry issued)

/-- The constructor loses the acceptor, whatever `AdvertiseAddr` is set to later. -/
theorem newStreamService_gated_iff (tokens : EvictingMap Token StreamServiceArgs Cache) (addr advertiseAddr : Bytes)
    (streamHandler : Option Handler) (acceptor : Context → StreamServiceArgs → Bool) (waitNum : Int)
    (made : StreamRequest Context → Prop) :
    (∀ state : State Context Handler Cache,
      { newStreamService tokens addr streamHandler (some acceptor) waitNum with
          advertiseAddr := advertiseAddr }.service.system.Reached (TokenService.Only made) state →
        Gated acceptor state) ↔
      ∀ request, made request → acceptor request.ctx request.args = true :=
  gated_iff_of_unset rfl made

/-- A service with room for one token, and an acceptor that refuses everyone. -/
def closedStreams : StreamService Unit Unit (Lru Token StreamServiceArgs) :=
  newStreamService Lru.evictingMap (utf8 ":8974") (some ()) (some fun _ _ => false) 1

/-- Someone asks for a token, and connects with it. -/
def intrusion : List (TokenService.Event (StreamRequest Unit)) :=
  [.request ⟨(), ⟨none⟩⟩ (.ok ⟨List.replicate 32 0, rfl⟩), .accept, .read (some ⟨List.replicate 32 0, rfl⟩),
    .advance, .advance, .advance]

theorem closedStreams_not_gated :
    ∃ state, closedStreams.service.system.Reachable state ∧ state.started ≠ [] ∧ ¬ Gated (fun _ _ => false) state := by
  have played : closedStreams.service.system.play closedStreams.service.start intrusion = some _ := rfl
  refine ⟨_, .play (.start rfl) played, List.cons_ne_nil _ _, fun gated => ?_⟩
  cases gated.issued _ List.mem_cons_self

end StreamService

end Irpc.Server
