import Irpc.Client.RawResponse
import Irpc.Server.LocalReply

/-! Requests that arrive over HTTP, up to the response of the gateway, and how it compares
with what the same request gets on a connection. -/
namespace Irpc.Server

open Irpc.Foundation Irpc.Protocol

variable {Value : Type}

section Headers

def isTokenByte (byte : UInt8) : Bool :=
  (48 ≤ byte && byte ≤ 57) || (65 ≤ byte && byte ≤ 90) || (97 ≤ byte && byte ≤ 122) ||
    (utf8 "!#$%&'*+-.^_`|~").contains byte

def toUpper (byte : UInt8) : UInt8 := if 97 ≤ byte ∧ byte ≤ 122 then byte - 32 else byte

def toLower (byte : UInt8) : UInt8 := if 65 ≤ byte ∧ byte ≤ 90 then byte + 32 else byte

/-- The first letter and those behind a hyphen become capitals, and all others small. -/
def capitalize : Bool → Bytes → Bytes
  | _, [] => []
  | upper, byte :: rest => (if upper then toUpper byte else toLower byte) :: capitalize (byte = 45) rest

/-- `textproto.CanonicalMIMEHeaderKey`. -/
def canonicalKey (name : Bytes) : Bytes := if name.all isTokenByte then capitalize true name else name

/-- `Header.Get`, for a header with the first value of each of its keys. -/
def headerGet (header : Metadata) (name : Bytes) : Bytes := (header.lookup (canonicalKey name)).getD []

def headerSet (header : Metadata) (name value : Bytes) : Metadata := header.insert (canonicalKey name) value

end Headers

def xErrorMessage : Bytes := utf8 "X-IRPC-ErrorMessage"

/-- `servicePath` is the parameter of the route, with a slash in front. -/
structure GatewayRequest where
  header : Metadata
  servicePath : Bytes
  body : Except GoError Bytes

structure HTTPResponse where
  status : Nat
  header : Metadata
  body : Bytes

/-- The server with what its plugins and the standard library do: the verdict before a request
is read, what is made of a response before it is written, the text about a request that cannot
be converted, and the order in which a map is visited. -/
structure Gateway (Value : Type) where
  server : Server Value
  hooks : Hooks
  preReadRequest : Option GoError
  preWriteResponse : Message → Message
  errorText : ConvertError → Bytes
  visit : Metadata → IterationOrder
  visits : ∀ metadata, (visit metadata).toFinmap = metadata

def httpError (header : Metadata) (text : Bytes) (status : Nat) : HTTPResponse where
  status := status
  header := headerSet (headerSet header (utf8 "Content-Type") (utf8 "text/plain; charset=utf-8"))
    (utf8 "X-Content-Type-Options") (utf8 "nosniff")
  body := text ++ [10]

/-- The headers of a response that reports an error. -/
def errorHeader (header : Metadata) (text : Bytes) : Metadata :=
  headerSet (headerSet header Client.xMessageStatusType (utf8 "Error")) xErrorMessage text

namespace Gateway

/-- A header that must not be empty is copied into the response, or its absence is the error
of the request unless there is one already. -/
def requireHeader (name value text : Bytes) (state : Option Bytes × Metadata) : Option Bytes × Metadata :=
  if state.1 = none ∧ value = [] then (some text, state.2) else (state.1, headerSet state.2 name value)

/-- The headers of a request, with the path of its service from the route if none is named. -/
def requestHeader (r : GatewayRequest) : Metadata :=
  if headerGet r.header xServicePath = [] then
    headerSet r.header xServicePath (if r.servicePath.head? = some 47 then r.servicePath.tail else r.servicePath)
  else r.header

/-- The error a request is refused with before the plugins see it, and the headers of the
response. -/
def checkHeaders (header : Metadata) (err : Option Bytes) : Option Bytes × Metadata :=
  let wh := headerSet (headerSet ∅ Client.xVersion (headerGet header Client.xVersion)) xMessageID
    (headerGet header xMessageID)
  let state := requireHeader xServicePath (headerGet header xServicePath) (utf8 "empty servicePath") (err, wh)
  let state := requireHeader xServiceMethod (headerGet header xServiceMethod) (utf8 "empty serviceMethod") state
  requireHeader xSerializeType (headerGet header xSerializeType) (utf8 "empty serialized type") state

/-- The headers of a refused request that are copied as they are. -/
def echoHeaders (gateway : Gateway Value) (header wh : Metadata) : Metadata :=
  (gateway.visit header).entries.foldl
    (fun wh entry => if utf8 "X-IRPC-" <+: entry.1 then headerSet wh entry.1 entry.2 else wh) wh

/-- The response to a request that is refused before the plugins see it. -/
def refuse (gateway : Gateway Value) (header wh : Metadata) (text : Bytes) : HTTPResponse :=
  ⟨200, errorHeader (gateway.echoHeaders header wh) text, []⟩

/-- `handleGatewayRequest` up to `handleRequest`: the response to a request that does not get
so far, or the message that is handled and the headers set up to then. -/
def take (gateway : Gateway Value) (pooled : Message) (r : GatewayRequest) :
    Except HTTPResponse (Message × Metadata) :=
  match gateway.preReadRequest with
  | some err => .error (httpError ∅ err.error 500)
  | none =>
    let header := requestHeader r
    match httpRequest2IrpcRequest pooled ⟨headerGet header, r.body⟩ with
    | .error err =>
      let text := gateway.errorText err
      .error (gateway.refuse header (checkHeaders header (some text)).2 text)
    | .ok message =>
      match checkHeaders header none with
      | (some text, wh) => .error (gateway.refuse header wh text)
      | (none, wh) =>
        match gateway.hooks.postReadRequest message with
        | (_, some err) => .error (httpError wh err.error 500)
        | (req, none) =>
          match auth gateway.hooks req with
          | some err => .error ⟨401, errorHeader wh err.error, []⟩
          | none => .ok (req, wh)

section Answer

variable {gateway : Gateway Value} {pooled spare req : Message} {r : GatewayRequest} {wh : Metadata}
  {resMetadata : IterationOrder}

end Answer

end Gateway

end Irpc.Server
