import Irpc.Foundation.EvictingMap
import Irpc.Server.ServeListener

/-! Tokens for a second port. A request obtains one, and the connection that presents it to the
port is handed over to the request's handler. -/
namespace Irpc.Server

open Irpc.Foundation

structure Token where
  bytes : Bytes
  size : bytes.length = 32
  deriving DecidableEq

structure TokenReply where
  token : Token
  addr : Bytes

/-- How a method that issues tokens ends. -/
inductive Issuance (Cache : Type) where
  | failed (err : GoError)
  | returned (reply : TokenReply) (cachedTokens : Cache)
  /-- `Add` of a nil cache panics, with the reply assigned. -/
  | panicked (reply : TokenReply)

/-- The part that the services' methods share. -/
def issueToken (tokens : EvictingMap Token Info Cache) (addr advertiseAddr : Bytes) (cachedTokens : Option Cache)
    (info : Info) (random : Except GoError Token) : Issuance Cache :=
  match random with
  | .error err => .failed err
  | .ok token =>
    let reply : TokenReply := ⟨token, if advertiseAddr = [] then addr else advertiseAddr⟩
    match cachedTokens with
    | none => .panicked reply
    | some cache => .returned reply (tokens.add cache token info)

/-- What the services with tokens have in common. A request is refused or obtains a token for
its `infoOf`, and `launch` is the handler's call for a connection, unless there is no handler. -/
structure TokenService (Request Info Launch Cache : Type) where
  addr : Bytes
  advertiseAddr : Bytes
  cache : EvictingMap Token Info Cache
  waitNum : Int
  refuse : Request → Option GoError
  infoOf : Request → Info
  launch : Info → Option Launch

/-- The loop that accepts connections on the port. There is one, because of `startOnce`. -/
inductive AcceptLoop (Info : Type) where
  | accepting
  | reading (conn : Nat)
  | lookingUp (conn : Nat) (token : Token)
  | found (conn : Nat) (token : Token) (info : Info)
  | removed (conn : Nat) (token : Token) (info : Info)
  | ended

namespace AcceptLoop

def conn? : AcceptLoop Info → Option Nat
  | .accepting | .ended => none
  | .reading conn | .lookingUp conn _ | .found conn _ _ | .removed conn _ _ => some conn

/-- The token that was found in the cache, with its entry. -/
def taken? : AcceptLoop Info → Option (Token × Info)
  | .found _ token info | .removed _ token info => some (token, info)
  | _ => none

end AcceptLoop

structure Handover (Launch : Type) where
  conn : Nat
  token : Token
  launch : Launch

namespace TokenService

variable {Request Info Launch Cache : Type}

/-- The connections are numbered in the order in which they are accepted. -/
structure State (Request Info Launch Cache : Type) where
  /-- A nil pointer if the cache could not be created. -/
  cachedTokens : Option Cache
  tempDelay : Nat
  loop : AcceptLoop Info
  accepted : Nat
  issued : List (Token × Request)
  /-- The tokens that were pushed out of the cache before the loop had found them. -/
  evicted : Set Token
  started : List (Handover Launch)
  closed : List Nat

inductive Event (Request : Type) where
  /-- A request, with what `rand.Read` returns for it. -/
  | request (request : Request) (random : Except GoError Token)
  | acceptFailed (temporary : Bool)
  | accept
  /-- The token that the connection sends, unless it cannot be read. -/
  | read (token : Option Token)
  /-- The loop's next step that depends on nothing else. -/
  | advance

variable (service : TokenService Request Info Launch Cache)

def grant (cachedTokens : Option Cache) (request : Request) (random : Except GoError Token) : Issuance Cache :=
  match service.refuse request with
  | some err => .failed err
  | none => issueToken service.cache service.addr service.advertiseAddr cachedTokens (service.infoOf request) random

def known (cachedTokens : Option Cache) (token : Token) : Option Info :=
  cachedTokens.bind fun cache => service.cache.lookup cache token

/-- The tokens that the cache loses, but for the one that the loop has found. -/
def lost (cachedTokens next : Option Cache) (loop : AcceptLoop Info) : Set Token :=
  { token | service.known cachedTokens token ≠ none ∧ service.known next token = none ∧
    ∀ info, loop.taken? ≠ some (token, info) }

def issue (state : State Request Info Launch Cache) (request : Request) (reply : TokenReply)
    (next : Option Cache) : State Request Info Launch Cache :=
  { state with
    cachedTokens := next
    issued := (reply.token, request) :: state.issued
    evicted := state.evicted ∪ service.lost state.cachedTokens next state.loop }

/-- A panic is recovered, and `handleRequest` sends the reply that was assigned before it. -/
def answer (state : State Request Info Launch Cache) (request : Request) (random : Except GoError Token) :
    State Request Info Launch Cache :=
  match service.grant state.cachedTokens request random with
  | .failed _ => state
  | .returned reply next => service.issue state request reply (some next)
  | .panicked reply => service.issue state request reply state.cachedTokens

/-- The bytes from the random source repeat no token. -/
def Fresh (state : State Request Info Launch Cache) (random : Except GoError Token) : Prop :=
  ∀ token, random = .ok token → token ∉ state.issued.map Prod.fst

instance (state : State Request Info Launch Cache) (random : Except GoError Token) :
    Decidable (Fresh state random) :=
  match random with
  | .error _ => .isTrue (by simp [Fresh])
  | .ok token => decidable_of_iff (token ∉ state.issued.map Prod.fst) (by simp [Fresh])

def close (state : State Request Info Launch Cache) (conn : Nat) (next : AcceptLoop Info) :
    State Request Info Launch Cache :=
  { state with loop := next, closed := conn :: state.closed }

/-- With a nil cache the loop panics, which ends the process and its connections. -/
def lookUp (state : State Request Info Launch Cache) (conn : Nat) (token : Token) :
    State Request Info Launch Cache :=
  match state.cachedTokens with
  | none => close state conn .ended
  | some cache =>
    match service.cache.get cache token with
    | (none, next) => { close state conn .accepting with cachedTokens := some next }
    | (some info, next) => { state with cachedTokens := some next, loop := .found conn token info }

def useUp (state : State Request Info Launch Cache) (conn : Nat) (token : Token) (info : Info) :
    State Request Info Launch Cache :=
  match state.cachedTokens with
  | none => close state conn .ended
  | some cache => { state with
      cachedTokens := some (service.cache.remove cache token), loop := .removed conn token info }

def dispatch (state : State Request Info Launch Cache) (conn : Nat) (token : Token) (info : Info) :
    State Request Info Launch Cache :=
  match service.launch info with
  | none => close state conn .accepting
  | some launch => { state with loop := .accepting, started := ⟨conn, token, launch⟩ :: state.started }

/-- From the token that was read to the end of the loop's body. -/
def advance (state : State Request Info Launch Cache) : Option (State Request Info Launch Cache) :=
  match state.loop with
  | .lookingUp conn token => some (service.lookUp state conn token)
  | .found conn token info => some (service.useUp state conn token info)
  | .removed conn token info => some (service.dispatch state conn token info)
  | _ => none

def step (state : State Request Info Launch Cache) : Event Request → Option (State Request Info Launch Cache)
  | .request request random => if Fresh state random then some (service.answer state request random) else none
  | .acceptFailed temporary =>
    match state.loop with
    | .accepting => some (if temporary then { state with tempDelay := Listener.nextDelay state.tempDelay }
        else { state with loop := .ended })
    | _ => none
  | .accept =>
    match state.loop with
    | .accepting => some { state with
        tempDelay := 0, loop := .reading state.accepted, accepted := state.accepted + 1 }
    | _ => none
  | .read token =>
    match state.loop with
    | .reading conn => some (token.elim (close state conn .accepting) fun token =>
        { state with loop := .lookingUp conn token })
    | _ => none
  | .advance => service.advance state

def start : State Request Info Launch Cache := ⟨service.cache.new service.waitNum, 0, .accepting, 0, [], ∅, [], []⟩

def system : System (State Request Info Launch Cache) (Event Request) :=
  ⟨fun state => state = service.start, service.step⟩

variable {service} {state next : State Request Info Launch Cache}

/-- What a step does, with the cache seen from outside. -/
inductive Moves (service : TokenService Request Info Launch Cache) (state : State Request Info Launch Cache) :
    Event Request → State Request Info Launch Cache → Prop where
  | granted (welcome : service.refuse request = none) (fresh : token ∉ state.issued.map Prod.fst)
      (cachedTokens : Option Cache)
      (added : ∀ other info, service.known cachedTokens other = some info →
        other = token ∧ info = service.infoOf request ∨
          other ≠ token ∧ service.known state.cachedTokens other = some info) :
      Moves service state (.request request random) { state with
        cachedTokens := cachedTokens
        issued := (token, request) :: state.issued
        evicted := state.evicted ∪ service.lost state.cachedTokens cachedTokens state.loop }
  | refused : Moves service state event state
  | idle (free : state.loop.conn? = none) (tempDelay : Nat) (loop : AcceptLoop Info) (still : loop.conn? = none) :
      Moves service state event { state with tempDelay := tempDelay, loop := loop }
  | accepted (free : state.loop.conn? = none) :
      Moves service state event { state with
        tempDelay := 0, loop := .reading state.accepted, accepted := state.accepted + 1 }
  | read (reading : state.loop = .reading conn) (token : Token) :
      Moves service state event { state with loop := .lookingUp conn token }
  | closed (inHand : state.loop.conn? = some conn) (cachedTokens : Option Cache)
      (kept : ∀ token, service.known cachedTokens token = service.known state.cachedTokens token)
      (loop : AcceptLoop Info) (free : loop.conn? = none) :
      Moves service state event { close state conn loop with cachedTokens := cachedTokens }
  | found (presented : state.loop = .lookingUp conn token) (cachedTokens : Option Cache)
      (kept : ∀ token, service.known cachedTokens token = service.known state.cachedTokens token)
      (cached : service.known state.cachedTokens token = some info) :
      Moves service state event { state with cachedTokens := cachedTokens, loop := .found conn token info }
  | removed (found : state.loop = .found conn token info) (cachedTokens : Option Cache)
      (gone : service.known cachedTokens token = none)
      (kept : ∀ other, other ≠ token → service.known cachedTokens other = service.known state.cachedTokens other) :
      Moves service state event { state with cachedTokens := cachedTokens, loop := .removed conn token info }
  | started (removed : state.loop = .removed conn token info) (launches : service.launch info = some launched) :
      Moves service state event { state with loop := .accepting, started := ⟨conn, token, launched⟩ :: state.started }

theorem moves_answer (fresh : Fresh state random) :
    Moves service state (.request request random) (service.answer state request random) := by
  cases refused : service.refuse request with
  | some err => simpa only [answer, grant, refused] using Moves.refused
  | none =>
    cases random with
    | error err => simpa only [answer, grant, issueToken, refused] using Moves.refused
    | ok token =>
      cases cached : state.cachedTokens with
      | none =>
        simp only [answer, grant, issueToken, refused, cached]
        refine Moves.granted refused (fresh token rfl) none fun other info held => ?_
        cases held
      | some cache =>
        simp only [answer, grant, issueToken, refused, cached]
        refine Moves.granted refused (fresh token rfl) _ fun other info held => ?_
        rw [cached]
        exact service.cache.of_lookup_add held

theorem moves_lookUp (looking : state.loop = .lookingUp conn token) :
    Moves service state .advance (service.lookUp state conn token) := by
  have inHand : state.loop.conn? = some conn := by rw [looking]; rfl
  rw [lookUp]
  split
  · exact .closed inHand _ (fun _ => rfl) _ rfl
  · rename_i cache cached
    have found : (service.cache.get cache token).1 = service.cache.lookup cache token := service.cache.get_fst
    have kept (other : Token) : service.known (some (service.cache.get cache token).2) other =
        service.known state.cachedTokens other := by
      rw [cached]
      exact service.cache.lookup_get
    split <;> rename_i next got <;> rw [got] at found kept
    · exact .closed inHand _ kept _ rfl
    · exact .found looking _ kept (by rw [cached]; exact found.symm)

theorem moves_useUp (found : state.loop = .found conn token info) :
    Moves service state .advance (service.useUp state conn token info) := by
  have inHand : state.loop.conn? = some conn := by rw [found]; rfl
  rw [useUp]
  split
  · exact .closed inHand _ (fun _ => rfl) _ rfl
  · rename_i cache cached
    refine .removed found _ service.cache.lookup_remove fun other different => ?_
    rw [cached]
    exact service.cache.lookup_remove_ne different

theorem moves_dispatch (removed : state.loop = .removed conn token info) :
    Moves service state .advance (service.dispatch state conn token info) := by
  have inHand : state.loop.conn? = some conn := by rw [removed]; rfl
  rw [dispatch]
  split
  · exact .closed inHand _ (fun _ => rfl) _ rfl
  · exact .started removed (by assumption)

theorem moves_of_step (moved : service.step state event = some next) : Moves service state event next := by
  cases event with
  | request request random =>
    obtain ⟨fresh, ⟨⟩⟩ := Option.ite_none_right_eq_some.mp moved
    exact moves_answer fresh
  | acceptFailed temporary =>
    rw [step] at moved
    split at moved
    · rename_i accepting
      have free : state.loop.conn? = none := by rw [accepting]; rfl
      cases temporary <;> cases moved
      · exact .idle free _ _ rfl
      · exact .idle free _ _ free
    · cases moved
  | accept =>
    rw [step] at moved
    split at moved
    · rename_i accepting
      cases moved
      exact .accepted (by rw [accepting]; rfl)
    · cases moved
  | read token =>
    rw [step] at moved
    split at moved
    · rename_i conn reading
      cases token <;> cases moved
      · exact .closed (by rw [reading]; rfl) _ (fun _ => rfl) _ rfl
      · exact .read reading _
    · cases moved
  | advance =>
    rw [step, advance] at moved
    split at moved <;> cases moved
    · exact moves_lookUp (by assumption)
    · exact moves_useUp (by assumption)
    · exact moves_dispatch (by assumption)

end TokenService

end Irpc.Server
