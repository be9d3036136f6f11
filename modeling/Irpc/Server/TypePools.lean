import Irpc.Server.HandleRequest

/-! The pools of argument and reply objects. With `UsePool` an object that was put back
serves a later request, so that a request may see what an earlier one has left. -/
namespace Irpc.Server

open Irpc.Foundation Irpc.Protocol

variable {Value : Type}

/-- `reflectTypePools`: the objects in the pool of each type. -/
abbrev TypePools (Value : Type) : Type := GoType → List Value

/-- The objects a server makes and takes back. A type has a method `Reset`, or not. -/
structure PoolOps (Value : Type) where
  usePool : Bool
  new : GoType → Value
  reset : GoType → Option (Value → Value)

namespace PoolOps

variable (ops : PoolOps Value)

/-- An object as `Put` leaves it in the pool. -/
def clean (type : GoType) (value : Value) : Value :=
  match ops.reset type with
  | some reset => reset value
  | none => value

/-- The pool decides which of its objects it hands out, and whether it makes a new one. -/
def get (pools : TypePools Value) (type : GoType) (choice : Nat) : Value × TypePools Value :=
  if ops.usePool then
    match (pools type)[choice]? with
    | some value => (value, Function.update pools type ((pools type).eraseIdx choice))
    | none => (ops.new type, pools)
  else (ops.new type, pools)

def put (pools : TypePools Value) (type : GoType) (value : Value) : TypePools Value :=
  if ops.usePool then Function.update pools type (ops.clean type value :: pools type) else pools

end PoolOps

/-- A request with everything its handling does not decide itself: the message its
response is built in, the objects the pools pick, and what a codec that panics leaves of
an argument of a type. -/
structure PooledRequest (Value : Type) where
  req : Message
  pooled : Message
  argChoice : Nat
  replyChoice : Nat
  torn : GoType → Value

/-- The part of `handleRequest` behind the two objects, with what it leaves in the reply. -/
def callMethod (server : Server Value) (coder : Codec Value) (mType : MethodType Value) (req res : Message)
    (argv reply : Value) : Value × Option (Message × Option GoError) :=
  match server.doPreCall req.servicePath req.serviceMethod (some argv) with
  | none => (reply, none)
  | some (_, some err) => (reply, some (res, some err))
  | some (args, none) =>
    match server.call mType (server.argument mType.argType args) reply with
    | none => (reply, none)
    | some (filled, some err) => (filled, respond coder req res (some filled) (some err))
    | some (filled, none) =>
      (filled, (server.doPostCall req.servicePath req.serviceMethod args (some filled)).bind fun final =>
        respond coder req res final.1 final.2)

def callFunction (server : Server Value) (coder : Codec Value) (mType : FunctionType Value) (req res : Message)
    (argv reply : Value) : Value × Option (Message × Option GoError) :=
  match server.callForFunction mType (server.argument mType.argType (some argv)) reply with
  | none => (reply, none)
  | some (filled, some err) => (filled, some (res, some err))
  | some (filled, none) => (filled, encodeUnlessOneway coder req res (some filled))

/-- Decode the argument and call the target. The objects are put back at the end, however
it comes, and before they were replaced by a plugin. -/
def withObjects (ops : PoolOps Value) (pools : TypePools Value) (request : PooledRequest Value)
    (coder : Codec Value) (target : Callable Value) (res : Message)
    (call : (argv reply : Value) → Value × Option (Message × Option GoError)) :
    TypePools Value × Option (Message × Option GoError) :=
  let arg := ops.get pools target.argType request.argChoice
  match coder.decode request.req.payload arg.1 with
  | none => (ops.put arg.2 target.argType (request.torn target.argType), none)
  | some (argv, some err) => (ops.put arg.2 target.argType argv, some (res, some err))
  | some (argv, none) =>
    let reply := ops.get arg.2 target.replyType request.replyChoice
    let called := call argv reply.1
    (ops.put (ops.put reply.2 target.replyType called.1) target.argType argv, called.2)

def handlePooled (server : Server Value) (ops : PoolOps Value) (pools : TypePools Value)
    (request : PooledRequest Value) : TypePools Value × Option (Message × Option GoError) :=
  let req := request.req
  let res := (req.clone request.pooled).modifyHeader (·.setMessageType .response)
  match server.getService req.servicePath with
  | none => (pools, some (res.handleError (some (errServiceNotFound req.servicePath)), none))
  | some service =>
    match server.codecs req.header.serializeType with
    | none =>
      let err := errCodecNotFound req.header.serializeType
      (pools, some (res.handleError (some err), some err))
    | some coder =>
      match service.method req.serviceMethod with
      | some mType =>
        withObjects ops pools request coder mType res (server.callMethod coder mType req res)
      | none =>
        match service.function req.serviceMethod with
        | some mType =>
          withObjects ops pools request coder mType res (server.callFunction coder mType req res)
        | none => (pools, some (res.handleError (some (errMethodNotFound req.serviceMethod)), none))

/-- What comes out of requests that are handled one after another. -/
def serveAll (server : Server Value) (ops : PoolOps Value) (pools : TypePools Value) :
    List (PooledRequest Value) → List (Option (Message × Option GoError))
  | [] => []
  | request :: rest =>
    (server.handlePooled ops pools request).2 ::
      serveAll server ops (server.handlePooled ops pools request).1 rest

/-- A method or function of a registered service. -/
def Offers (server : Server Value) (target : Callable Value) : Prop :=
  ∃ path service name, server.getService path = some service ∧
    (service.method name = some target ∨ service.function name = some target)

/-- The type of an argument or a reply, for which registering has made a pool. -/
def Registers (server : Server Value) (type : GoType) : Prop :=
  ∃ target, server.Offers target ∧ (type = target.argType ∨ type = target.replyType)

/-- The reply object as an invocation leaves it. -/
def Invocation.reply : Invocation Value → Value
  | .returned reply _ => reply
  | .panicked reply _ _ => reply

/-- Objects keep their types: a new one has the type it is made for, codecs fill it and
methods fill a reply in place. -/
structure Typed (server : Server Value) (hasType : GoType → Value → Prop) : Prop where
  new : ∀ type, server.Registers type → hasType type (server.typePool type)
  decode : ∀ coding coder, server.codecs coding = some coder → ∀ type, server.Registers type →
    ∀ payload value, hasType type value → ∀ decoded ∈ coder.decode payload value, hasType type decoded.1
  run : ∀ target, server.Offers target → ∀ argv reply, hasType target.replyType reply →
    hasType target.replyType (target.run argv reply).reply

section Pools

variable {server : Server Value} {ops : PoolOps Value} {pools : TypePools Value} {request : PooledRequest Value}
  {coder : Codec Value} {req res : Message}

/-- Without pools the objects are new, and nothing is kept. -/
theorem withObjects_unpooled (unpooled : ops.usePool = false) (target : Callable Value)
    (call : (argv reply : Value) → Value × Option (Message × Option GoError)) :
    withObjects ops pools request coder target res call =
      (pools, (coder.decode request.req.payload (ops.new target.argType)).bind fun decoded =>
        if decoded.2.isSome then some (res, decoded.2) else (call decoded.1 (ops.new target.replyType)).2) := by
  simp only [withObjects, PoolOps.get, PoolOps.put, unpooled, Bool.false_eq_true, if_false]
  rcases coder.decode request.req.payload (ops.new target.argType) with _ | ⟨argv, _ | err⟩ <;> rfl

theorem handleRequestForMethod_eq (mType : MethodType Value) :
    server.handleRequestForMethod coder mType req res =
      (coder.decode req.payload (server.typePool mType.argType)).bind fun decoded =>
        if decoded.2.isSome then some (res, decoded.2)
        else (server.callMethod coder mType req res decoded.1 (server.typePool mType.replyType)).2 := by
  unfold handleRequestForMethod callMethod
  rcases coder.decode req.payload (server.typePool mType.argType) with _ | ⟨argv, _ | err⟩
  · rfl
  · rcases pre : server.doPreCall req.servicePath req.serviceMethod (some argv) with _ | ⟨args, _ | err⟩
    · simp [pre]
    · rcases called : server.call mType (server.argument mType.argType args) (server.typePool mType.replyType)
        with _ | ⟨filled, _ | err⟩ <;> simp [pre, called]
    · simp [pre]
  · rfl

theorem handleRequestForFunction_eq {service : Service Value} {mType : FunctionType Value}
    (found : service.function req.serviceMethod = some mType) :
    server.handleRequestForFunction service coder req res =
      (coder.decode req.payload (server.typePool mType.argType)).bind fun decoded =>
        if decoded.2.isSome then some (res, decoded.2)
        else (server.callFunction coder mType req res decoded.1 (server.typePool mType.replyType)).2 := by
  simp only [handleRequestForFunction, found, callFunction]
  rcases coder.decode req.payload (server.typePool mType.argType) with _ | ⟨argv, _ | err⟩
  · rfl
  · rcases called : server.callForFunction mType (server.argument mType.argType (some argv))
      (server.typePool mType.replyType) with _ | ⟨filled, _ | err⟩ <;> simp [called]
  · rfl

/-- A call leaves the reply as it was, or as the target left it. -/
def FillsReply (target : Callable Value) (call : (argv reply : Value) → Value × Option (Message × Option GoError)) :
    Prop :=
  ∀ argv reply, (call argv reply).1 = reply ∨ ∃ args, (call argv reply).1 = (target.run args reply).reply

theorem reply_of_invoke {kind : String} {target : Callable Value} {argv : Option Value} {reply filled : Value}
    {err : Option GoError} (invoked : server.invoke kind target argv reply = some (filled, err)) :
    ∃ args, filled = (target.run args reply).reply := by
  obtain ⟨args, -, same⟩ := Option.map_eq_some_iff.mp invoked
  refine ⟨args, ?_⟩
  cases ran : target.run args reply with
  | returned left err =>
    rw [ran] at same
    cases same
    rfl
  | panicked left recovered stack =>
    rw [ran] at same
    cases same
    rfl

theorem fillsReply_callMethod (server : Server Value) (coder : Codec Value) (mType : MethodType Value)
    (req res : Message) : FillsReply mType (server.callMethod coder mType req res) := by
  intro argv reply
  unfold callMethod
  split
  · exact .inl rfl
  · exact .inl rfl
  · split
    · exact .inl rfl
    case h_2 invoked => exact .inr (reply_of_invoke invoked)
    case h_3 invoked => exact .inr (reply_of_invoke invoked)

theorem fillsReply_callFunction (server : Server Value) (coder : Codec Value) (mType : FunctionType Value)
    (req res : Message) : FillsReply mType (server.callFunction coder mType req res) := by
  intro argv reply
  unfold callFunction
  split
  · exact .inl rfl
  case h_2 invoked => exact .inr (reply_of_invoke invoked)
  case h_3 invoked => exact .inr (reply_of_invoke invoked)

/-- What a request comes to depends on the objects it gets. When they are as new,
it is handled as `handleRequest` does it. -/
theorem handlePooled_cases (made : server.typePool = ops.new) (holds : TypePools Value → Prop) (start : holds pools)
    (objects : ∀ coding coder target res call, server.codecs coding = some coder → server.Offers target →
      FillsReply target call →
      (withObjects ops pools request coder target res call).2 =
        ((coder.decode request.req.payload (ops.new target.argType)).bind fun decoded =>
          if decoded.2.isSome then some (res, decoded.2) else (call decoded.1 (ops.new target.replyType)).2) ∧
      holds (withObjects ops pools request coder target res call).1) :
    (server.handlePooled ops pools request).2 = server.handleRequest request.pooled request.req ∧
      holds (server.handlePooled ops pools request).1 := by
  simp only [handlePooled, handleRequest]
  cases served : server.getService request.req.servicePath with
  | none => exact ⟨rfl, start⟩
  | some service =>
    simp only
    cases coded : server.codecs request.req.header.serializeType with
    | none => exact ⟨rfl, start⟩
    | some coder =>
      simp only
      cases found : service.method request.req.serviceMethod with
      | some mType =>
        simp only [handleRequestForMethod_eq, made]
        exact objects _ coder mType _ _ coded ⟨_, service, _, served, .inl found⟩
          (fillsReply_callMethod server coder mType _ _)
      | none =>
        cases found : service.function request.req.serviceMethod with
        | some mType =>
          simp only [Option.isSome_some, if_pos, handleRequestForFunction_eq found, made]
          exact objects _ coder mType _ _ coded ⟨_, service, _, served, .inr found⟩
            (fillsReply_callFunction server coder mType _ _)
        | none => exact ⟨rfl, start⟩

/-- Requests are handled as without pools while something holds of the pools that makes each
request be handled so and survives it. -/
theorem serveAll_of_keeps {holds : TypePools Value → Prop} {requests : List (PooledRequest Value)}
    (keeps : ∀ pools, holds pools → ∀ request ∈ requests,
      (server.handlePooled ops pools request).2 = server.handleRequest request.pooled request.req ∧
        holds (server.handlePooled ops pools request).1)
    (start : holds pools) :
    serveAll server ops pools requests =
      requests.map fun request => server.handleRequest request.pooled request.req := by
  induction requests generalizing pools with
  | nil => rfl
  | cons request rest ih =>
    obtain ⟨handled, remains⟩ := keeps pools start request List.mem_cons_self
    have later := ih (fun pools held other member => keeps pools held other (List.mem_cons_of_mem _ member)) remains
    rw [serveAll, handled, later, List.map_cons]

theorem serveAll_unpooled (unpooled : ops.usePool = false) (made : server.typePool = ops.new)
    (requests : List (PooledRequest Value)) :
    serveAll server ops pools requests =
      requests.map fun request => server.handleRequest request.pooled request.req := by
  refine serveAll_of_keeps ?_ (rfl : pools = pools)
  rintro _ rfl request -
  apply handlePooled_cases made (_ = ·) rfl
  intro coding coder target res call _ _ _
  rw [withObjects_unpooled unpooled]
  exact ⟨rfl, rfl⟩

end Pools

namespace PoolOps

variable {server : Server Value} {hasType : GoType → Value → Prop} {ops : PoolOps Value} {pools : TypePools Value}
  {type : GoType}

def Clean (server : Server Value) (ops : PoolOps Value) (pools : TypePools Value) : Prop :=
  ∀ type, server.Registers type → ∀ value ∈ pools type, value = ops.new type

/-- Every object of a type of the server goes into the pool as new. -/
def Restores (server : Server Value) (hasType : GoType → Value → Prop) (ops : PoolOps Value) : Prop :=
  ∀ type, server.Registers type → ∀ value, hasType type value → ops.clean type value = ops.new type

theorem Clean.update (clean : Clean server ops pools) {values : List Value}
    (new : ∀ value ∈ values, value = ops.new type) : Clean server ops (Function.update pools type values) := by
  intro other registered
  by_cases same : other = type
  · subst same
    rwa [Function.update_self]
  · rw [Function.update_of_ne same]
    exact clean other registered

theorem Clean.get (clean : Clean server ops pools) (registered : server.Registers type) (choice : Nat) :
    (ops.get pools type choice).1 = ops.new type ∧ Clean server ops (ops.get pools type choice).2 := by
  unfold PoolOps.get
  split
  · split
    case h_1 value found =>
      refine ⟨clean type registered value (List.mem_of_getElem? found), clean.update ?_⟩
      intro other member
      exact clean type registered other (List.mem_of_mem_eraseIdx member)
    case h_2 => exact ⟨rfl, clean⟩
  · exact ⟨rfl, clean⟩

theorem Clean.put (clean : Clean server ops pools) (restores : Restores server hasType ops)
    (registered : server.Registers type) {value : Value} (typed : hasType type value) :
    Clean server ops (ops.put pools type value) := by
  unfold PoolOps.put
  split
  · exact clean.update (List.forall_mem_cons.mpr ⟨restores type registered value typed, clean type registered⟩)
  · exact clean

end PoolOps

/-- What a codec that panics leaves of an object still has its type. -/
def PooledRequest.Typed (server : Server Value) (hasType : GoType → Value → Prop) (request : PooledRequest Value) :
    Prop :=
  ∀ type, server.Registers type → hasType type (request.torn type)

section Pools

variable {server : Server Value} {hasType : GoType → Value → Prop} {ops : PoolOps Value} {pools : TypePools Value}

theorem withObjects_of_clean (typed : server.Typed hasType) (made : server.typePool = ops.new)
    (clean : PoolOps.Clean server ops pools) (restores : PoolOps.Restores server hasType ops)
    {request : PooledRequest Value} (torn : request.Typed server hasType) {coding : SerializeType} {coder : Codec Value}
    (coded : server.codecs coding = some coder) {target : Callable Value} (offered : server.Offers target)
    (res : Message) {call : (argv reply : Value) → Value × Option (Message × Option GoError)}
    (fills : FillsReply target call) :
    (withObjects ops pools request coder target res call).2 =
      ((coder.decode request.req.payload (ops.new target.argType)).bind fun decoded =>
        if decoded.2.isSome then some (res, decoded.2) else (call decoded.1 (ops.new target.replyType)).2) ∧
    PoolOps.Clean server ops (withObjects ops pools request coder target res call).1 := by
  have argRegistered : server.Registers target.argType := ⟨target, offered, .inl rfl⟩
  have replyRegistered : server.Registers target.replyType := ⟨target, offered, .inr rfl⟩
  obtain ⟨argument, kept⟩ := clean.get argRegistered request.argChoice
  obtain ⟨reply, remaining⟩ := kept.get replyRegistered request.replyChoice
  have new := typed.new
  rw [made] at new
  have decodes := typed.decode coding coder coded _ argRegistered request.req.payload _ (new _ argRegistered)
  simp only [withObjects, argument, reply]
  rcases decoded : coder.decode request.req.payload (ops.new target.argType) with _ | ⟨argv, _ | err⟩
  · exact ⟨rfl, kept.put restores argRegistered (torn _ argRegistered)⟩
  · have filled : hasType target.replyType (call argv (ops.new target.replyType)).1 := by
      rcases fills argv (ops.new target.replyType) with same | ⟨args, same⟩
      · rw [same]
        exact new _ replyRegistered
      · rw [same]
        exact typed.run target offered args _ (new _ replyRegistered)
    exact ⟨rfl, (remaining.put restores replyRegistered filled).put restores argRegistered (decodes _ decoded)⟩
  · exact ⟨rfl, kept.put restores argRegistered (decodes _ decoded)⟩

theorem serveAll_of_clean (typed : server.Typed hasType) (made : server.typePool = ops.new)
    (clean : PoolOps.Clean server ops pools) (restores : PoolOps.Restores server hasType ops)
    {requests : List (PooledRequest Value)} (torn : ∀ request ∈ requests, request.Typed server hasType) :
    serveAll server ops pools requests =
      requests.map fun request => server.handleRequest request.pooled request.req := by
  refine serveAll_of_keeps ?_ clean
  intro pools clean request member
  refine handlePooled_cases made (PoolOps.Clean server ops) clean ?_
  intro coding coder target res call coded offered fills
  exact withObjects_of_clean typed made clean restores (torn request member) coded offered res fills

/-- The responses are the same with and without pools, whichever objects the pools pick. -/
def Transparent (server : Server Value) (hasType : GoType → Value → Prop)
    (reset : GoType → Option (Value → Value)) : Prop :=
  ∀ requests : List (PooledRequest Value), (∀ request ∈ requests, request.Typed server hasType) →
    serveAll server ⟨true, server.typePool, reset⟩ (fun _ => []) requests =
      serveAll server ⟨false, server.typePool, reset⟩ (fun _ => []) requests

theorem transparent_of_restores (typed : server.Typed hasType) {reset : GoType → Option (Value → Value)}
    (restores : PoolOps.Restores server hasType ⟨true, server.typePool, reset⟩) :
    server.Transparent hasType reset := by
  intro requests torn
  rw [serveAll_of_clean typed rfl (fun _ _ => List.forall_mem_nil _) restores torn, serveAll_unpooled rfl rfl]

/-- A payload that is empty sets no field of the argument, and any other one makes it
`value`. -/
def overwrite (value : Value) (payload : Bytes) (argv : Value) : Value := if payload.isEmpty then argv else value

def echoArgument (new : GoType → Value) (type : GoType) (value : Value) (answer : Value → Value)
    (encode : Value → Bytes) : Server Value where
  serviceMap _ := some ⟨fun _ => some ⟨[], type, type, fun argv _ => .returned (answer argv) none⟩, fun _ => none⟩
  codecs _ := some ⟨fun reply => some ((reply.map encode).getD [], none),
    fun payload argv => some (overwrite value payload argv, none)⟩
  plugins := []
  typePool := new
  elem := some
  format _ := []

/-- A request that takes the first object of each pool. -/
def echoRequest (torn : GoType → Value) (payload : Bytes) : PooledRequest Value :=
  ⟨{ Message.newMessage with payload := payload }, .newMessage, 0, 0, torn⟩

section Echo

variable {new torn : GoType → Value} {type : GoType} {value : Value} {answer : Value → Value} {encode : Value → Bytes}

def echoResponse (payload : Bytes) : Message :=
  (Message.clone { Message.newMessage with payload := payload } .newMessage).modifyHeader
    (·.setMessageType .response)

theorem handlePooled_echoArgument (payload : Bytes) :
    (echoArgument new type value answer encode).handlePooled ops pools (echoRequest torn payload) =
      let argv := overwrite value payload (ops.get pools type 0).1
      (ops.put (ops.put (ops.get (ops.get pools type 0).2 type 0).2 type (answer argv)) type argv,
        some ({ echoResponse payload with payload := encode (answer argv) }, none)) := by
  have twoway : Message.newMessage.header.isOneway = false := by decide
  cases type <;>
    simp [handlePooled, getService, echoArgument, withObjects, echoRequest, echoResponse, callMethod, doPreCall,
      doPostCall, runHooks, argument, GoType.isPtr, call, invoke, respond, encodeUnlessOneway, encodeReply, twoway]

/-- The second request gets the argument object of the first. -/
theorem serveAll_echoArgument (usePool : Bool) (reset : GoType → Option (Value → Value)) (set : payload ≠ []) :
    serveAll (echoArgument new type value answer encode) ⟨usePool, new, reset⟩ (fun _ => [])
      [echoRequest torn payload, echoRequest torn []] =
        [some ({ echoResponse payload with payload := encode (answer value) }, none),
          some ({ echoResponse [] with payload := encode (answer
            (if usePool then PoolOps.clean ⟨usePool, new, reset⟩ type value else new type)) }, none)] := by
  have first (argv : Value) : overwrite value payload argv = value := by simp [overwrite, set]
  have second (argv : Value) : overwrite value [] argv = argv := rfl
  cases usePool <;> simp [serveAll, handlePooled_echoArgument, PoolOps.get, PoolOps.put, first, second]

theorem registers_echoArgument {other : GoType} :
    (echoArgument new type value answer encode).Registers other ↔ other = type := by
  constructor
  · rintro ⟨target, ⟨path, service, name, ⟨⟩, found | found⟩, same⟩
    · cases found
      exact same.elim id id
    · cases found
  · rintro rfl
    exact ⟨_, ⟨[], _, [], rfl, .inl rfl⟩, .inl rfl⟩

theorem typed_echoArgument {hasType : GoType → Value → Prop} (made : hasType type (new type))
    (typed : hasType type value) (answers : ∀ argv, hasType type (answer argv)) :
    (echoArgument new type value answer encode).Typed hasType where
  new other registered := by
    rw [registers_echoArgument] at registered
    subst registered
    exact made
  decode := by
    rintro coding coder ⟨⟩ other registered payload argv argTyped _ ⟨⟩
    rw [registers_echoArgument] at registered
    subst registered
    unfold overwrite
    dsimp only
    split
    · exact argTyped
    · exact typed
  run := by
    rintro target ⟨path, service, name, ⟨⟩, found | found⟩ argv reply -
    · cases found
      exact answers argv
    · cases found

end Echo

/-- The pools of a server do not show if every object of its argument and reply types is as
new after `Reset`. A type without `Reset` has to have no other value. For each type with an
object that is not, there is a server that registers this type alone and whose pools show. -/
theorem pooling_transparent (hasType : GoType → Value → Prop) (new : GoType → Value)
    (reset : GoType → Option (Value → Value)) :
    (∀ server : Server Value, server.typePool = new → server.Typed hasType →
      PoolOps.Restores server hasType ⟨true, new, reset⟩ → server.Transparent hasType reset) ∧
    ∀ type value, hasType type (new type) → hasType type value →
      hasType type (PoolOps.clean ⟨true, new, reset⟩ type value) →
      PoolOps.clean ⟨true, new, reset⟩ type value ≠ new type →
      ∃ server : Server Value, server.typePool = new ∧ server.Typed hasType ∧
        (∀ other, server.Registers other ↔ other = type) ∧ ¬ server.Transparent hasType reset := by
  constructor
  · rintro server rfl typed restores
    exact transparent_of_restores typed restores
  · intro type value made typed cleaned left
    classical
    -- The answer to the second request shows whether its argument is a new object.
    let answer (argv : Value) : Value :=
      if argv = new type then new type else PoolOps.clean ⟨true, new, reset⟩ type value
    let encode (reply : Value) : Bytes := if reply = new type then utf8 "new" else utf8 "old"
    have answers : ∀ argv, hasType type (answer argv) := by
      intro argv
      dsimp only [answer]
      split
      · exact made
      · exact cleaned
    refine ⟨echoArgument new type value answer encode, rfl, typed_echoArgument made typed answers,
      fun _ => registers_echoArgument, ?_⟩
    intro transparent
    have torn : ∀ request ∈ [echoRequest new (utf8 "set"), echoRequest new []],
        request.Typed (echoArgument new type value answer encode) hasType := by
      intro request member other registered
      rw [registers_echoArgument] at registered
      subst registered
      rcases List.mem_pair.mp member with rfl | rfl <;> exact made
    have shown := transparent _ torn
    have set : utf8 "set" ≠ [] := by decide
    have differ : utf8 "old" ≠ utf8 "new" := by decide
    have same : (echoArgument new type value answer encode).typePool = new := rfl
    rw [same, serveAll_echoArgument true reset set, serveAll_echoArgument false reset set] at shown
    simp [answer, encode, left, differ] at shown

/-- What the first request sets is seen by the second, which sets nothing. -/
theorem argument_leaks :
    ((serveAll (echoArgument (fun _ => 0) (.named (utf8 "Args")) 42 id fun argv => [argv])
        ⟨true, fun _ => 0, fun _ => none⟩ (fun _ => [])
        [echoRequest (fun _ => 0) (utf8 "42"), echoRequest (fun _ => 0) []]).map
      fun response => response.map fun result => result.1.payload) = [some [42], some [42]] ∧
    ((serveAll (echoArgument (fun _ => 0) (.named (utf8 "Args")) 42 id fun argv => [argv])
        ⟨false, fun _ => 0, fun _ => none⟩ (fun _ => [])
        [echoRequest (fun _ => 0) (utf8 "42"), echoRequest (fun _ => 0) []]).map
      fun response => response.map fun result => result.1.payload) = [some [42], some [0]] := by
  have set : utf8 "42" ≠ [] := by decide
  rw [serveAll_echoArgument true _ set, serveAll_echoArgument false _ set]
  exact ⟨rfl, rfl⟩

/-- With a `Reset` that sets the field to zero the same server answers alike. -/
theorem reset_argument_hidden :
    (echoArgument (fun _ => (0 : UInt8)) (.named (utf8 "Args")) 42 id fun argv => [argv]).Transparent
      (fun _ _ => True) fun _ => some fun _ => 0 := by
  refine (pooling_transparent (fun _ _ => True) _ _).1 _ rfl (typed_echoArgument trivial trivial fun _ => trivial) ?_
  exact fun _ _ _ _ => rfl

end Pools

end Irpc.Server
