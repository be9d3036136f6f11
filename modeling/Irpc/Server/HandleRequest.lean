import Irpc.Server.Service

namespace Irpc.Server

open Irpc.Foundation Irpc.Protocol

variable {Value : Type}

def errServiceNotFound (serviceName : Bytes) : GoError :=
  .plain (utf8 "irpc: can't find service " ++ serviceName)

def errMethodNotFound (methodName : Bytes) : GoError :=
  .plain (utf8 "irpc: can't find method " ++ methodName)

def errCodecNotFound (type : SerializeType) : GoError :=
  .plain (utf8 "can't find codec for " ++ utf8 (toString type.toNat))

/-- Encode the reply into the response. The payload is assigned even when
encoding fails. -/
def encodeReply (coder : Codec Value) (reply : Option Value) (res : Message) :
    Option (Message × Option GoError) :=
  (coder.encode reply).map fun (data, err) => ({ res with payload := data }, err)

/-- A one-way request gets no reply. -/
def encodeUnlessOneway (coder : Codec Value) (req res : Message) (reply : Option Value) :
    Option (Message × Option GoError) :=
  if req.header.isOneway then some (res, none) else encodeReply coder reply res

def handleRequestForFunction (server : Server Value) (service : Service Value) (coder : Codec Value)
    (req res : Message) : Option (Message × Option GoError) :=
  match service.function req.serviceMethod with
  | none => some (res.handleError (some (errMethodNotFound req.serviceMethod)), none)
  | some mType => do
    let (argv, err) ← coder.decode req.payload (server.typePool mType.argType)
    if err.isSome then return (res, err)
    let reply := server.typePool mType.replyType
    let (reply, err) ← server.callForFunction mType (server.argument mType.argType (some argv)) reply
    if err.isSome then return (res, err)
    encodeUnlessOneway coder req res (some reply)

/-- The end of `handleRequest`, behind the call and the plugins. The result of
encoding takes the place of an error that came with a reply. -/
def respond (coder : Codec Value) (req res : Message) (reply : Option Value)
    (err : Option GoError) : Option (Message × Option GoError) :=
  if err.isSome then
    if reply.isSome then encodeReply coder reply res else some (res, err)
  else encodeUnlessOneway coder req res reply

/-- The part of `handleRequest` behind the lookup of the method. -/
def handleRequestForMethod (server : Server Value) (coder : Codec Value) (mType : MethodType Value)
    (req res : Message) : Option (Message × Option GoError) := do
  let (argv, err) ← coder.decode req.payload (server.typePool mType.argType)
  if err.isSome then return (res, err)
  let reply := server.typePool mType.replyType
  let (argv, err) ← server.doPreCall req.servicePath req.serviceMethod (some argv)
  if err.isSome then return (res, err)
  let (reply, err) ← server.call mType (server.argument mType.argType argv) reply
  if err.isSome then respond coder req res (some reply) err
  else
    let (reply, err) ← server.doPostCall req.servicePath req.serviceMethod argv (some reply)
    respond coder req res reply err

/-- `pooled` is the message the response is built in. The deferred call of
`HandleError` has its arguments evaluated on entry, where the error is nil, so
it adds nothing to what the exits below do. -/
def handleRequest (server : Server Value) (pooled req : Message) :
    Option (Message × Option GoError) :=
  let res := (req.clone pooled).modifyHeader (·.setMessageType .response)
  match server.getService req.servicePath with
  | none => some (res.handleError (some (errServiceNotFound req.servicePath)), none)
  | some service =>
    match server.codecs req.header.serializeType with
    | none =>
      let err := errCodecNotFound req.header.serializeType
      some (res.handleError (some err), some err)
    | some coder =>
      match service.method req.serviceMethod with
      | some mType => server.handleRequestForMethod coder mType req res
      | none =>
        if (service.function req.serviceMethod).isSome then
          server.handleRequestForFunction service coder req res
        else some (res.handleError (some (errMethodNotFound req.serviceMethod)), none)

inductive Failure where
  | reported (text : Bytes)
  | panicked

/-- The value of a step, or the failure it ends in. -/
def require : Option (α × Option GoError) → Except Failure α
  | none => .error .panicked
  | some (_, some err) => .error (.reported err.error)
  | some (value, none) => .ok value

def attemptEncode (coder : Codec Value) (req : Message) (reply : Option Value) :
    Except Failure Unit :=
  if req.header.isOneway then .ok () else (require (coder.encode reply)).map fun _ => ()

/-- What serving a request asks for, step by step: the first step that fails
is the failure of the request. -/
def attemptMethod (server : Server Value) (coder : Codec Value) (mType : MethodType Value)
    (req : Message) : Except Failure Unit := do
  let argv ← require (coder.decode req.payload (server.typePool mType.argType))
  let argv ← require (server.doPreCall req.servicePath req.serviceMethod (some argv))
  let reply ← require (server.call mType (server.argument mType.argType argv)
    (server.typePool mType.replyType))
  let reply ← require (server.doPostCall req.servicePath req.serviceMethod argv (some reply))
  attemptEncode coder req reply

/-- No plugin sees the call of a function. -/
def attemptFunction (server : Server Value) (coder : Codec Value) (mType : FunctionType Value)
    (req : Message) : Except Failure Unit := do
  let argv ← require (coder.decode req.payload (server.typePool mType.argType))
  let reply ← require (server.callForFunction mType (server.argument mType.argType (some argv))
    (server.typePool mType.replyType))
  attemptEncode coder req (some reply)

/-- Serve a request, or say why it could not be served. -/
def attempt (server : Server Value) (req : Message) : Except Failure Unit :=
  match server.getService req.servicePath, server.codecs req.header.serializeType with
  | none, _ => .error (.reported (errServiceNotFound req.servicePath).error)
  | some _, none => .error (.reported (errCodecNotFound req.header.serializeType).error)
  | some service, some coder =>
    match service.method req.serviceMethod, service.function req.serviceMethod with
    | some mType, _ => server.attemptMethod coder mType req
    | none, some mType => server.attemptFunction coder mType req
    | none, none => .error (.reported (errMethodNotFound req.serviceMethod).error)

/-- Something failed while the request was served. -/
def Fails (server : Server Value) (req : Message) : Prop :=
  ∃ failure, server.attempt req = .error failure

/-- The response announces an error and carries the text of the failure. -/
def Announces (server : Server Value) (req res : Message) : Prop :=
  res.header.messageStatusType = .error ∧
    ∃ text, res.metadata.bind (·.lookup serviceErrorKey) = some text ∧
      ∀ failure, server.attempt req = .error failure → failure = .reported text

/-- A request's outcome tells failure from success in the response and in the
error alike. -/
def Consistent (server : Server Value) (req : Message)
    (outcome : Option (Message × Option GoError)) : Prop :=
  ∃ res err, outcome = some (res, err) ∧
    (Fails server req ↔ Announces server req res) ∧ (Fails server req ↔ err.isSome)

section Exits

variable {server : Server Value} {coder : Codec Value} {req res answer : Message}

theorem bind_eq_ok {ε α β : Type} {first : Except ε α} {next : α → Except ε β} {value : β} :
    first >>= next = .ok value ↔ ∃ middle, first = .ok middle ∧ next middle = .ok value := by
  cases first <;> simp [bind, Except.bind]

theorem require_eq_ok {step : Option (α × Option GoError)} {value : α} :
    require step = .ok value ↔ step = some (value, none) := by
  rcases step with _ | ⟨_, _ | _⟩ <;> simp [require]

/-- Encoding the reply touches nothing of the response but its payload. -/
theorem header_encodeReply (encoded : encodeReply coder reply res = some (answer, err)) :
    answer.header = res.header := by
  obtain ⟨⟨data, _⟩, _, same⟩ := Option.map_eq_some_iff.mp encoded
  cases same
  rfl

theorem header_encodeUnlessOneway
    (encoded : encodeUnlessOneway coder req res reply = some (answer, err)) :
    answer.header = res.header := by
  unfold encodeUnlessOneway at encoded
  split at encoded
  · cases encoded
    rfl
  · exact header_encodeReply encoded

theorem encodeUnlessOneway_of_attempt (res : Message) (served : attemptEncode coder req reply = .ok ()) :
    ∃ payload, encodeUnlessOneway coder req res reply =
      some ({ res with payload := payload }, none) := by
  unfold attemptEncode at served
  split at served
  case isTrue oneway => exact ⟨res.payload, by simp [encodeUnlessOneway, oneway]⟩
  case isFalse twoway =>
    cases encoded : require (coder.encode reply) with
    | error failure => simp [encoded, Except.map] at served
    | ok data =>
      rw [require_eq_ok] at encoded
      exact ⟨data, by simp [encodeUnlessOneway, twoway, encodeReply, encoded]⟩

theorem header_respond (responded : respond coder req res reply err = some (answer, final)) :
    answer.header = res.header := by
  unfold respond at responded
  split at responded
  · split at responded
    · exact header_encodeReply responded
    · cases responded
      rfl
  · exact header_encodeUnlessOneway responded

/-- Behind the lookup of the method no exit marks the response. -/
theorem header_handleRequestForMethod
    (handled : server.handleRequestForMethod coder mType req res = some (answer, err)) :
    answer.header = res.header := by
  simp only [handleRequestForMethod, Option.bind_eq_bind, Option.bind_eq_some_iff, Prod.exists] at handled
  obtain ⟨argv, decodeErr, -, handled⟩ := handled
  split at handled
  · cases handled
    rfl
  simp only [Option.bind_eq_some_iff, Prod.exists] at handled
  obtain ⟨argv, preErr, -, handled⟩ := handled
  split at handled
  · cases handled
    rfl
  simp only [Option.bind_eq_some_iff, Prod.exists] at handled
  obtain ⟨reply, callErr, -, handled⟩ := handled
  split at handled
  · exact header_respond handled
  · simp only [Option.bind_eq_some_iff, Prod.exists] at handled
    obtain ⟨reply, postErr, -, handled⟩ := handled
    exact header_respond handled

theorem handleRequestForMethod_of_attempt (res : Message)
    (served : server.attemptMethod coder mType req = .ok ()) :
    ∃ payload, server.handleRequestForMethod coder mType req res =
      some ({ res with payload := payload }, none) := by
  simp only [attemptMethod, bind_eq_ok, require_eq_ok] at served
  obtain ⟨argv, decoded, args, allowed, reply, called, final, approved, served⟩ := served
  obtain ⟨payload, encoded⟩ := encodeUnlessOneway_of_attempt res served
  exact ⟨payload, by
    simp [handleRequestForMethod, decoded, allowed, called, approved, respond, encoded]⟩

theorem header_handleRequestForFunction {service : Service Value}
    (found : service.function req.serviceMethod = some mType)
    (handled : server.handleRequestForFunction service coder req res = some (answer, err)) :
    answer.header = res.header := by
  simp only [handleRequestForFunction, found, Option.bind_eq_bind, Option.bind_eq_some_iff,
    Prod.exists] at handled
  obtain ⟨argv, decodeErr, -, handled⟩ := handled
  split at handled
  · cases handled
    rfl
  simp only [Option.bind_eq_some_iff, Prod.exists] at handled
  obtain ⟨reply, callErr, -, handled⟩ := handled
  split at handled
  · cases handled
    rfl
  · exact header_encodeUnlessOneway handled

theorem handleRequestForFunction_of_attempt {service : Service Value} (res : Message)
    (found : service.function req.serviceMethod = some mType)
    (served : server.attemptFunction coder mType req = .ok ()) :
    ∃ payload, server.handleRequestForFunction service coder req res =
      some ({ res with payload := payload }, none) := by
  simp only [attemptFunction, bind_eq_ok, require_eq_ok] at served
  obtain ⟨argv, decoded, reply, called, served⟩ := served
  obtain ⟨payload, encoded⟩ := encodeUnlessOneway_of_attempt res served
  exact ⟨payload, by simp [handleRequestForFunction, found, decoded, called, encoded]⟩

end Exits

section Consistency

variable {server : Server Value} {req res : Message}
  {outcome : Option (Message × Option GoError)}

theorem not_announces_of_normal (normal : res.header.messageStatusType = .normal) :
    ¬ Announces server req res := by
  rintro ⟨marked, -⟩
  rw [normal] at marked
  exact absurd marked (by decide)

theorem consistent_of_served (served : server.attempt req = .ok ())
    (handled : outcome = some (res, none)) (normal : res.header.messageStatusType = .normal) :
    Consistent server req outcome := by
  have holds : ¬ Fails server req := by
    rintro ⟨failure, failed⟩
    rw [served] at failed
    cases failed
  exact ⟨res, none, handled, iff_of_false holds (not_announces_of_normal normal),
    iff_of_false holds (by simp)⟩

/-- A failure that leaves the response unmarked is inconsistent, whatever the
error is. -/
theorem not_consistent_of_unmarked (failed : Fails server req)
    (unmarked : ∀ res err, outcome = some (res, err) → res.header.messageStatusType = .normal) :
    ¬ Consistent server req outcome := by
  rintro ⟨res, err, handled, announced, -⟩
  exact not_announces_of_normal (unmarked res err handled) (announced.mp failed)

theorem not_consistent_of_silent (failed : Fails server req) (handled : outcome = some (res, none)) :
    ¬ Consistent server req outcome := by
  rintro ⟨other, err, same, -, returned⟩
  have nonnil := returned.mp failed
  rw [handled] at same
  cases same
  cases nonnil

/-- Where no exit marks the response, the outcome is consistent just when
nothing failed. -/
theorem consistent_iff_of_unmarked (normal : res.header.messageStatusType = .normal)
    (unmarked : ∀ answer err, outcome = some (answer, err) → answer.header = res.header)
    (serves : server.attempt req = .ok () →
      ∃ payload, outcome = some ({ res with payload := payload }, none)) :
    Consistent server req outcome ↔ ¬ Fails server req := by
  constructor
  · intro consistent failed
    refine not_consistent_of_unmarked failed ?_ consistent
    intro answer err handled
    rw [unmarked answer err handled, normal]
  · intro holds
    cases attempted : server.attempt req with
    | error failure => exact absurd ⟨failure, attempted⟩ holds
    | ok =>
      obtain ⟨payload, handled⟩ := serves attempted
      exact consistent_of_served attempted handled normal

end Consistency

theorem status_response (header : Header) :
    ((header.setCompressType .none).setMessageType .response).messageStatusType =
      header.messageStatusType := by
  have kept : ∀ byte : UInt8,
      (((andNot byte 0x1C ||| ((CompressType.none <<< 2) &&& (0x1C : UInt8))) |||
        MessageType.response <<< 7) &&& 0x03 : UInt8) = byte &&& 0x03 := by
    decide +kernel
  simpa [Header.messageStatusType, Header.setMessageType, Header.setCompressType]
    using kept header.flags

/-- For a request with a normal status, failure is told consistently just when
the service is registered, and then only a missing codec may fail. -/
theorem handleRequest_consistent_iff (server : Server Value) (pooled req : Message)
    (normal : req.header.messageStatusType = .normal) :
    Consistent server req (server.handleRequest pooled req) ↔
      (server.getService req.servicePath).isSome ∧
        (server.codecs req.header.serializeType = none ∨ ¬ Fails server req) := by
  have status : ((req.clone pooled).modifyHeader (·.setMessageType .response)).header.messageStatusType =
      .normal := (status_response req.header).trans normal
  unfold handleRequest
  generalize (req.clone pooled).modifyHeader (·.setMessageType .response) = res at status ⊢
  cases registered : server.getService req.servicePath with
  | none =>
    have failed : Fails server req := ⟨_, by rw [attempt, registered]⟩
    exact iff_of_false (not_consistent_of_silent failed rfl) (by simp)
  | some service =>
    cases coded : server.codecs req.header.serializeType with
    | none =>
      have failed : server.attempt req =
          .error (.reported (errCodecNotFound req.header.serializeType).error) := by
        rw [attempt, registered, coded]
      refine iff_of_true ⟨_, _, rfl, ?_, ?_⟩ (by simp)
      · refine iff_of_true ⟨_, failed⟩ ⟨Message.status_handleError _ _, _, Message.lookup_handleError _ _, ?_⟩
        intro failure same
        rw [failed] at same
        exact (Except.error.inj same).symm
      · exact iff_of_true ⟨_, failed⟩ rfl
    | some coder =>
      simp only [Option.isSome_some, true_and, reduceCtorEq, false_or]
      cases found : service.method req.serviceMethod with
      | some mType =>
        have reduced : server.attempt req = server.attemptMethod coder mType req := by
          simp only [attempt, registered, coded, found]
        refine consistent_iff_of_unmarked status (fun _ _ => header_handleRequestForMethod) ?_
        rw [reduced]
        exact handleRequestForMethod_of_attempt res
      | none =>
        cases function : service.function req.serviceMethod with
        | some mType =>
          have reduced : server.attempt req = server.attemptFunction coder mType req := by
            simp only [attempt, registered, coded, found, function]
          refine consistent_iff_of_unmarked status
            (fun _ _ => header_handleRequestForFunction function) ?_
          rw [reduced]
          exact handleRequestForFunction_of_attempt res function
        | none =>
          have failed : Fails server req := ⟨.reported (errMethodNotFound req.serviceMethod).error, by
            simp only [attempt, registered, coded, found, function]⟩
          exact iff_of_false (not_consistent_of_silent failed rfl) (not_not.mpr failed)

/-- One service with one method, whose codec passes payloads through. -/
def echoServer (run : (argv reply : Bytes) → Invocation Bytes) : Server Bytes where
  serviceMap name := if name = utf8 "Arith" then
    some ⟨fun method => if method = utf8 "Mul" then
      some ⟨utf8 "Mul", .named (utf8 "Args"), .pointer (.named (utf8 "Reply")), run⟩ else none,
      fun _ => none⟩ else none
  codecs type := if type = .json then
    some ⟨fun value => some (value.getD [], none), fun data _ => some (data, none)⟩ else none
  plugins := []
  typePool _ := []
  elem value := some value
  format value := value

def mulRequest : Message :=
  { Message.newMessage with
    header := Header.fresh.setSerializeType .json
    servicePath := utf8 "Arith"
    serviceMethod := utf8 "Mul"
    payload := [1, 2] }

theorem handleRequest_consistent_echo :
    Consistent (echoServer fun argv _ => .returned argv none) mulRequest
      ((echoServer fun argv _ => .returned argv none).handleRequest .newMessage mulRequest) :=
  (handleRequest_consistent_iff _ _ _ (by decide)).mpr ⟨by decide, .inr (by
    rintro ⟨failure, failed⟩
    have served : (echoServer fun argv _ => .returned argv none).attempt mulRequest = .ok () := rfl
    rw [served] at failed
    cases failed)⟩

/-- A method that returns an error and a reply that encodes: the response is
marked as normal and the error is nil. -/
theorem handleRequest_hides_error :
    ¬ Consistent (echoServer fun _ reply => .returned reply (some (.plain (utf8 "overflow"))))
      mulRequest ((echoServer fun _ reply => .returned reply (some (.plain (utf8 "overflow")))).handleRequest
        .newMessage mulRequest) :=
  not_consistent_of_silent ⟨.reported (utf8 "overflow"), rfl⟩ rfl

end Irpc.Server
