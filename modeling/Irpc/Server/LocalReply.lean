import Irpc.Protocol.HeaderFields
import Irpc.Server.Registry
import Irpc.Server.Response

/-! What a service replies to a call of its own process, and what a server writes for the
same call when it comes as a request. -/
namespace Irpc.Server

open Irpc.Foundation Irpc.Protocol

variable {Value : Type}

/-- The codec and the target of a request, or the error it is refused with. -/
def lookup (server : Server Value) (servicePath serviceMethod : Bytes) (type : SerializeType) :
    Except GoError (Codec Value × Target Value) :=
  match server.getService servicePath with
  | none => .error (errServiceNotFound servicePath)
  | some service =>
    match server.codecs type with
    | none => .error (errCodecNotFound type)
    | some coder =>
      match service.resolve serviceMethod with
      | none => .error (errMethodNotFound serviceMethod)
      | some target => .ok (coder, target)

/-- Invoke a target on a copy of its arguments, up to the first failure. -/
def Target.perform (server : Server Value) (coder : Codec Value) (servicePath serviceMethod data : Bytes) :
    Target Value → Except Failure (Option Value)
  | .method mType => do
    let argv ← require (coder.decode data (server.typePool mType.argType))
    let args ← require (server.doPreCall servicePath serviceMethod (some argv))
    let reply ← require (server.call mType (server.argument mType.argType args) (server.typePool mType.replyType))
    require (server.doPostCall servicePath serviceMethod args (some reply))
  | .function mType => do
    let argv ← require (coder.decode data (server.typePool mType.argType))
    let reply ← require (server.callForFunction mType (server.argument mType.argType (some argv))
      (server.typePool mType.replyType))
    .ok (some reply)

/-- What a service replies to encoded arguments, encoded again. -/
def localReply (server : Server Value) (servicePath serviceMethod : Bytes) (type : SerializeType) (data : Bytes) :
    Except Failure Bytes :=
  match server.lookup servicePath serviceMethod type with
  | .error err => .error (.reported err.error)
  | .ok (coder, target) => do
    let reply ← target.perform server coder servicePath serviceMethod data
    require (coder.encode reply)

section Handled

variable {server : Server Value} {pooled req : Message}

theorem lookup_eq_ok {coder : Codec Value} {target : Target Value}
    (found : server.lookup servicePath serviceMethod type = .ok (coder, target)) :
    ∃ service, server.getService servicePath = some service ∧ server.codecs type = some coder ∧
      service.resolve serviceMethod = some target := by
  unfold lookup at found
  split at found
  · cases found
  case h_2 service served =>
    split at found
    · cases found
    case h_2 coder coded =>
      split at found
      · cases found
      case h_2 target resolved =>
        cases found
        exact ⟨service, served, coded, resolved⟩

theorem Target.handle_of_perform {coder : Codec Value} {target : Target Value} {res : Message}
    (twoWay : req.header.isOneway = false)
    (performed : target.perform server coder req.servicePath req.serviceMethod req.payload = .ok reply)
    (encoded : coder.encode reply = some (data, none)) :
    target.handle server coder req res = some ({ res with payload := data }, none) := by
  cases target with
  | method mType =>
    simp only [Target.perform, bind_eq_ok, require_eq_ok] at performed
    obtain ⟨argv, decoded, args, allowed, filled, called, approved⟩ := performed
    simp [Target.handle, handleRequestForMethod, decoded, allowed, called, approved, respond, encodeUnlessOneway,
      twoWay, encodeReply, encoded]
  | function mType =>
    simp only [Target.perform, bind_eq_ok, require_eq_ok] at performed
    obtain ⟨argv, decoded, filled, called, same⟩ := performed
    cases same
    simp [Target.handle, handleRequestForFunction, decoded, called, encodeUnlessOneway, twoWay, encodeReply, encoded]

theorem handleRequest_of_localReply (twoWay : req.header.isOneway = false)
    (replied : server.localReply req.servicePath req.serviceMethod req.header.serializeType req.payload = .ok data) :
    server.handleRequest pooled req = some ({ newResponse pooled req with payload := data }, none) := by
  unfold localReply at replied
  split at replied
  · cases replied
  case h_2 coder target found =>
    obtain ⟨reply, performed, encoded⟩ := bind_eq_ok.mp replied
    obtain ⟨service, served, coded, resolved⟩ := lookup_eq_ok found
    rw [handleRequest_of_resolve served coded resolved]
    exact Target.handle_of_perform twoWay performed (require_eq_ok.mp encoded)

end Handled

end Irpc.Server
