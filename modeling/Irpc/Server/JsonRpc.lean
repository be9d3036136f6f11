import Irpc.Server.HandleRequest
import Irpc.XClient.Discovery
import Irpc.XClient.ReqMetadata

/-! Requests that arrive as JSON-RPC. -/
namespace Irpc.Server

open Irpc.Foundation Irpc.Protocol

/-- A request identifier, with a name or a number. -/
structure ID where
  name : Bytes
  number : Int
  deriving DecidableEq

structure JSONRPCError where
  code : Int
  message : Bytes

def codeMethodNotFound : Int := -32601
def codeInternalJSONRPCError : Int := -32603

structure JsonrpcRequest where
  method : Bytes
  params : Option Bytes
  id : Option ID

structure JsonrpcResponse where
  result : Option Bytes
  error : Option JSONRPCError
  id : Option ID

/-- What the server asks of its plugins and of `AuthFunc`. The plugins get the request by
reference, and may change it. -/
structure Hooks where
  postReadRequest : Message → Message × Option GoError
  authFunc : Option (Message → Bytes → Option GoError)

def xMeta : Bytes := utf8 "X-IRPC-Meta"

/-- `strings.LastIndex` for a dot. -/
def lastDot : Bytes → Int
  | [] => -1
  | byte :: rest =>
    if 0 ≤ lastDot rest then lastDot rest + 1
    else if byte = 46 then 0
    else -1

/-- Add the settings of `X-IRPC-Meta` that can be parsed, with the first value of each key, and
the token. -/
def addMetadata (metadata : Metadata) (header : Bytes → Bytes) : Metadata :=
  let settings := (((header xMeta).splitOn 38).filter fun setting => !setting.isEmpty).filterMap XClient.parseSetting
  let metadata := settings.foldr (fun setting metadata => metadata.insert setting.1 setting.2) metadata
  if header (utf8 "Authorization") = [] then metadata
  else metadata.insert XClient.authKey (header (utf8 "Authorization"))

/-- The message that is made of a request, from a pooled one. -/
def messageOf (pooled : Message) (r : JsonrpcRequest) (params : Bytes) (header : Bytes → Bytes) : Message :=
  let oneway := if r.id.isNone then pooled.header.setOneway true else pooled.header
  { pooled with
    header := (oneway.setMessageType .request).setSerializeType .json
    servicePath := r.method.take (lastDot r.method).toNat
    serviceMethod := r.method.drop ((lastDot r.method).toNat + 1)
    metadata := some (addMetadata (pooled.metadata.getD ∅) header)
    payload := params }

def auth (hooks : Hooks) (req : Message) : Option GoError :=
  hooks.authFunc.bind fun authFunc => authFunc req ((req.metadata.bind (·.lookup XClient.authKey)).getD [])

/-- Assign to a field behind a pointer, which panics if the pointer is nil. -/
def assign (res : Option JsonrpcResponse) (change : JsonrpcResponse → JsonrpcResponse) :
    Option (Option JsonrpcResponse) :=
  res.map fun res => some (change res)

def setError (code : Int) (message : Bytes) (res : JsonrpcResponse) : JsonrpcResponse :=
  { res with error := some ⟨code, message⟩ }

/-- The body of `handleJSONRPCRequest`, with the value its named result starts with. The
results of the other hooks are ignored. -/
def handleInto (res : Option JsonrpcResponse) (server : Server Value) (hooks : Hooks) (pooled spare : Message)
    (r : JsonrpcRequest) (header : Bytes → Bytes) : Option (Option JsonrpcResponse) := do
  let res ← assign res fun res => { res with id := r.id }
  if lastDot r.method ≤ 0 then
    assign res (setError codeMethodNotFound (utf8 "must contains servicePath and method"))
  else
    -- The parameters are dereferenced whether they were sent or not.
    let params ← r.params
    match hooks.postReadRequest (messageOf pooled r params header) with
    | (_, some err) => assign res (setError codeInternalJSONRPCError err.error)
    | (req, none) =>
      match auth hooks req with
      | some err => assign res (setError codeInternalJSONRPCError err.error)
      | none =>
        let (resp, err) ← server.handleRequest spare req
        if r.id.isNone then some none
        else
          match err with
          | some err => assign res (setError codeInternalJSONRPCError err.error)
          | none => assign res fun res => { res with result := some resp.payload }

/-- The named result is a nil pointer, and is never given another value. -/
def handleJSONRPCRequest (server : Server Value) (hooks : Hooks) (pooled spare : Message) (r : JsonrpcRequest)
    (header : Bytes → Bytes) : Option (Option JsonrpcResponse) :=
  handleInto none server hooks pooled spare r header

variable {Value : Type} {server : Server Value} {hooks : Hooks} {pooled spare : Message} {r : JsonrpcRequest}
  {header : Bytes → Bytes}

def Malformed (r : JsonrpcRequest) : Prop := lastDot r.method ≤ 0

/-- The message that comes out of the plugins, and their verdict. -/
def readMessage (hooks : Hooks) (pooled : Message) (r : JsonrpcRequest) (header : Bytes → Bytes) :
    Message × Option GoError :=
  hooks.postReadRequest (messageOf pooled r (r.params.getD []) header)

def Refused (hooks : Hooks) (read : Message × Option GoError) : Prop := read.2 ≠ none ∨ auth hooks read.1 ≠ none

/-- The request is to be answered by an error: its method names no service, a plugin or
`AuthFunc` refuses it, or its invocation fails. -/
def Rejected (server : Server Value) (hooks : Hooks) (pooled : Message) (r : JsonrpcRequest)
    (header : Bytes → Bytes) : Prop :=
  Malformed r ∨ Refused hooks (readMessage hooks pooled r header) ∨ Fails server (readMessage hooks pooled r header).1

/-- A response with the identifier of the request, and with a result, or with an error if the
request is rejected. -/
def Answers (server : Server Value) (hooks : Hooks) (pooled : Message) (r : JsonrpcRequest) (header : Bytes → Bytes)
    (outcome : Option (Option JsonrpcResponse)) : Prop :=
  ∃ res, outcome = some (some res) ∧ res.id = r.id ∧ (res.result.isSome ↔ res.error = none) ∧
    (res.error.isSome ↔ Rejected server hooks pooled r header)

theorem not_answers_of_panic : ¬ Answers server hooks pooled r header none := by
  rintro ⟨res, answered, _⟩
  cases answered

/-- The first assignment to the response panics, for every request. -/
theorem handleJSONRPCRequest_not_answers (server : Server Value) (hooks : Hooks) (pooled spare : Message)
    (r : JsonrpcRequest) (header : Bytes → Bytes) :
    ¬ Answers server hooks pooled r header (handleJSONRPCRequest server hooks pooled spare r header) :=
  not_answers_of_panic

def mulByJsonrpc : JsonrpcRequest := ⟨utf8 "Arith.Mul", some [1], some ⟨utf8 "1", 0⟩⟩

/-- A server that has the method, without plugins and headers. -/
theorem mulByJsonrpc_unanswered :
    ¬ Answers (echoServer fun argv _ => .returned argv none) ⟨fun req => (req, none), none⟩ .newMessage mulByJsonrpc
      (fun _ => []) (handleJSONRPCRequest (echoServer fun argv _ => .returned argv none)
        ⟨fun req => (req, none), none⟩ .newMessage .newMessage mulByJsonrpc fun _ => []) :=
  not_answers_of_panic

theorem answers_error_iff {answer : JsonrpcResponse} {reported : JSONRPCError} (result : answer.result = none)
    (error : answer.error = some reported) (id : answer.id = r.id) :
    Answers server hooks pooled r header (some (some answer)) ↔ Rejected server hooks pooled r header := by
  constructor
  · rintro ⟨_, ⟨⟩, _, _, reason⟩
    exact reason.mp (by rw [error]; rfl)
  · intro rejected
    exact ⟨answer, rfl, id, by simp [result, error], iff_of_true (by rw [error]; rfl) rejected⟩

theorem answers_result_iff {answer : JsonrpcResponse} {payload : Bytes} (result : answer.result = some payload)
    (error : answer.error = none) (id : answer.id = r.id) :
    Answers server hooks pooled r header (some (some answer)) ↔ ¬ Rejected server hooks pooled r header := by
  constructor
  · rintro ⟨_, ⟨⟩, _, _, reason⟩ rejected
    have set := reason.mpr rejected
    rw [error] at set
    cases set
  · intro accepted
    exact ⟨answer, rfl, id, by simp [result, error], iff_of_false (by simp [error]) accepted⟩

/-- With a response to fill in, a request is answered unless it comes without parameters, or
`handleRequest` panics or does not report a failure. -/
theorem answers_into_iff (hasId : r.id.isSome) :
    Answers server hooks pooled r header (handleInto (some ⟨none, none, none⟩) server hooks pooled spare r header) ↔
      Malformed r ∨ r.params.isSome ∧ (Refused hooks (readMessage hooks pooled r header) ∨
        ∃ resp err, server.handleRequest spare (readMessage hooks pooled r header).1 = some (resp, err) ∧
          (err.isSome ↔ Fails server (readMessage hooks pooled r header).1)) := by
  have identified : r.id ≠ none := Option.isSome_iff_ne_none.mp hasId
  by_cases malformed : Malformed r
  · have named : lastDot r.method ≤ 0 := malformed
    simp only [handleInto, assign, named, setError, Option.map_some, Option.bind_eq_bind, Option.bind_some, if_true]
    rw [answers_error_iff rfl rfl rfl]
    exact iff_of_true (.inl malformed) (.inl malformed)
  have named : ¬ lastDot r.method ≤ 0 := malformed
  cases sent : r.params with
  | none => simpa [handleInto, assign, named, sent, malformed] using not_answers_of_panic
  | some params =>
    have read : readMessage hooks pooled r header = hooks.postReadRequest (messageOf pooled r params header) := by
      rw [readMessage, sent, Option.getD_some]
    simp only [handleInto, assign, named, sent, setError, Option.map_some, Option.bind_eq_bind, Option.bind_some,
      if_false, ← read, malformed, false_or, Option.isSome_some, true_and, Option.isNone_iff_eq_none, identified]
    rcases verdict : readMessage hooks pooled r header with ⟨req, _ | err⟩
    · cases allowed : auth hooks req with
      | some err =>
        have refused : Refused hooks (req, none) := .inr (by rw [allowed]; simp)
        simp only [allowed]
        rw [answers_error_iff rfl rfl rfl, Rejected, verdict]
        exact iff_of_true (.inr (.inl refused)) (.inl refused)
      | none =>
        have welcome : ¬ Refused hooks (req, none) := by simp [Refused, allowed]
        have rejected : Rejected server hooks pooled r header ↔ Fails server req := by
          simp only [Rejected, verdict, malformed, welcome, false_or]
        simp only [allowed, welcome, false_or]
        rcases handled : server.handleRequest spare req with _ | ⟨resp, _ | err⟩
        · simpa using not_answers_of_panic
        · simp only [Option.bind_some]
          rw [answers_result_iff rfl rfl rfl, rejected]
          simp
        · simp only [Option.bind_some]
          rw [answers_error_iff rfl rfl rfl, rejected]
          simp
    · have refused : Refused hooks (req, some err) := .inl (by simp)
      dsimp only
      rw [answers_error_iff rfl rfl rfl, Rejected, verdict]
      exact iff_of_true (.inr (.inl refused)) (.inl refused)

end Irpc.Server
