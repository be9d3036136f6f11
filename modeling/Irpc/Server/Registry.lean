import Irpc.Server.HandleRequest

/-! The registration of services: what `Register`, `RegisterName`, `RegisterFunction` and
`RegisterFunctionName` put into the service map, and what `handleRequest` finds there. -/
namespace Irpc.Server

open Irpc.Foundation Irpc.Protocol

variable {Value : Type}

/-- The type behind all pointers. -/
def GoType.base : GoType → GoType
  | .named name => .named name
  | .pointer elem => elem.base

/-- What the reflection library says about types. -/
structure Reflection where
  name : GoType → Bytes
  pkgPath : GoType → Bytes
  /-- `Type.String`. -/
  text : GoType → Bytes
  implementsContext : GoType → Bool
  typeOfError : GoType
  /-- `unicode.IsUpper` of the first rune. -/
  isUpper : Bytes → Bool

/-- The type of a method, whose first parameter is the receiver, or of a function. -/
structure Signature where
  ins : List GoType
  outs : List GoType
  /-- `Type.String`. -/
  text : Bytes

structure ReflectMethod (Value : Type) where
  name : Bytes
  /-- Empty for an exported method. -/
  pkgPath : Bytes
  type : Signature
  run : (argv reply : Value) → Invocation Value

structure Receiver (Value : Type) where
  /-- The name of the type the receiver has or points to. -/
  typeName : Bytes
  methods : List (ReflectMethod Value)
  /-- The methods of a pointer to the receiver. -/
  pointerMethods : List (ReflectMethod Value)

structure Func (Value : Type) where
  /-- What `runtime.FuncForPC` calls the function. -/
  pcName : Bytes
  type : Signature
  run : (argv reply : Value) → Invocation Value

namespace Reflection

variable (reflection : Reflection)

def isExported (name : Bytes) : Bool := reflection.isUpper name

def isExportedOrBuiltinType (type : GoType) : Bool :=
  reflection.isExported (reflection.name type.base) || reflection.pkgPath type.base == []

def suitableMethod (method : ReflectMethod Value) : Option (MethodType Value) :=
  match method.type.ins with
  | [_, ctxType, argType, replyType] =>
    if method.pkgPath = [] ∧ reflection.implementsContext ctxType ∧ reflection.isExportedOrBuiltinType argType ∧
        replyType.isPtr ∧ reflection.isExportedOrBuiltinType replyType ∧
        method.type.outs = [reflection.typeOfError] then
      some ⟨method.name, argType, replyType, method.run⟩
    else none
  | _ => none

def suitableMethods (methods : List (ReflectMethod Value)) : List (MethodType Value) :=
  methods.filterMap reflection.suitableMethod

def checkServiceName (serviceName : Bytes) (useName : Bool) : Option GoError :=
  if serviceName = [] then some (.plain (utf8 "irpc.checkServiceName: serviceName should be set"))
  else if !useName && !reflection.isExported serviceName then
    some (.plain (utf8 "irpc.checkServiceName: type " ++ serviceName ++ utf8 " is not exported."))
  else none

end Reflection

/-- What a registration puts into the service map once its checks have passed. -/
inductive Entry (Value : Type) where
  | receiver (servicePath : Bytes) (methods : List (MethodType Value))
  | function (servicePath name : Bytes) (target : FunctionType Value)

namespace Reflection

variable (reflection : Reflection)

def receiverEntry (receiver : Receiver Value) (name : Bytes) (useName : Bool) : Except GoError (Entry Value) :=
  let serviceName := if useName then name else receiver.typeName
  match reflection.checkServiceName serviceName useName with
  | some err => .error err
  | none =>
    let methods := reflection.suitableMethods receiver.methods
    if methods.isEmpty then
      let hint := if (reflection.suitableMethods receiver.pointerMethods).isEmpty then []
        else utf8 " (hint: pass a pointer to value of that type)"
      .error (.plain (utf8 "irpc.Register: type " ++ serviceName ++
        utf8 " has no exported methods of suitable type" ++ hint))
    else .ok (.receiver serviceName methods)

def lastSegment (name : Bytes) : Bytes := (name.reverse.takeWhile (· != 46)).reverse

/-- The checks of `registerFunction`. A value that is no function is `none`. -/
def functionEntry (servicePath : Bytes) (fn : Option (Func Value)) (name : Bytes) (useName : Bool) :
    Except GoError (Entry Value) :=
  match fn with
  | none => .error (.plain (utf8 "function must be func or bound method"))
  | some fn =>
    let fName := if useName then name else lastSegment fn.pcName
    let error (before after : Bytes) : Except GoError (Entry Value) :=
      .error (.plain (before ++ fn.type.text ++ after))
    if fName = [] then error (utf8 "irpc.registerFunction: no func name for type ") []
    else
      match fn.type.ins with
      | [ctxType, argType, replyType] =>
        match fn.type.outs with
        | [returnType] =>
          if !reflection.implementsContext ctxType then
            error (utf8 "function ") (utf8 " must use context as  the first parameter")
          else if !reflection.isExportedOrBuiltinType argType then
            error (utf8 "function ") (utf8 " parameter type not exported: " ++ reflection.text argType)
          else if !replyType.isPtr then
            error (utf8 "function ") (utf8 " reply type not a pointer: " ++ reflection.text replyType)
          else if !reflection.isExportedOrBuiltinType replyType then
            error (utf8 "function ") (utf8 " reply type not exported: " ++ reflection.text replyType)
          else if returnType ≠ reflection.typeOfError then
            error (utf8 "function ") (utf8 " returns " ++ reflection.text returnType ++ utf8 ", not error")
          else .ok (.function servicePath fName ⟨fn.pcName, argType, replyType, fn.run⟩)
        | _ => error (utf8 "irpc.registerFunction: has wrong number of outs: ") []
      | _ => error (utf8 "irpc.registerFunction: has wrong number of ins: ") []

end Reflection

/-- The record of a service. The map of functions may be nil. -/
structure Record (Value : Type) where
  method : Bytes → Option (MethodType Value)
  function : Option (Bytes → Option (FunctionType Value))

/-- The record that `registerFunction` creates. -/
def Record.new : Record Value := ⟨fun _ => none, some fun _ => none⟩

/-- A nil map is read as an empty one. -/
def Record.service (record : Record Value) : Service Value :=
  ⟨record.method, record.function.getD fun _ => none⟩

def Registry (Value : Type) : Type := Bytes → Option (Record Value)

namespace Registry

def empty : Registry Value := fun _ => none

def serviceMap (registry : Registry Value) (servicePath : Bytes) : Option (Service Value) :=
  (registry servicePath).map Record.service

def set (registry : Registry Value) (servicePath : Bytes) (record : Record Value) : Registry Value :=
  Function.update registry servicePath (some record)

/-- A method replaces an earlier one of the same name. -/
def methodMap (methods : List (MethodType Value)) (name : Bytes) : Option (MethodType Value) :=
  methods.reverse.find? fun method => method.name = name

/-- A receiver comes with a new record, which has no map of functions. An assignment to a
nil map panics. -/
def install (registry : Registry Value) : Entry Value → Option (Registry Value)
  | .receiver servicePath methods => some (registry.set servicePath ⟨methodMap methods, none⟩)
  | .function servicePath name target =>
    let record := (registry servicePath).getD .new
    record.function.map fun functions =>
      registry.set servicePath { record with function := some (Function.update functions name (some target)) }

end Registry

inductive Registration (Value : Type) where
  | register (receiver : Receiver Value)
  | registerName (name : Bytes) (receiver : Receiver Value)
  | registerFunction (servicePath : Bytes) (fn : Option (Func Value))
  | registerFunctionName (servicePath name : Bytes) (fn : Option (Func Value))

def Reflection.entry (reflection : Reflection) : Registration Value → Except GoError (Entry Value)
  | .register receiver => reflection.receiverEntry receiver [] false
  | .registerName name receiver => reflection.receiverEntry receiver name true
  | .registerFunction servicePath fn => reflection.functionEntry servicePath fn [] false
  | .registerFunctionName servicePath name fn => reflection.functionEntry servicePath fn name true

/-- What `handleRequest` calls for a service path and a method name. -/
inductive Target (Value : Type) where
  | method (mType : MethodType Value)
  | function (mType : FunctionType Value)

def Service.resolve (service : Service Value) (name : Bytes) : Option (Target Value) :=
  match service.method name with
  | some mType => some (.method mType)
  | none => (service.function name).map .function

def Target.handle (server : Server Value) (coder : Codec Value) (req res : Message) :
    Target Value → Option (Message × Option GoError)
  | .method mType => server.handleRequestForMethod coder mType req res
  | .function mType => server.handleRequestForFunction ⟨fun _ => none, fun _ => some mType⟩ coder req res

/-- The resolution decides what a request is handled by. -/
theorem handleRequest_of_resolve {server : Server Value} {pooled req : Message} {service : Service Value}
    {coder : Codec Value} {target : Target Value} (found : server.getService req.servicePath = some service)
    (coded : server.codecs req.header.serializeType = some coder)
    (resolved : service.resolve req.serviceMethod = some target) :
    server.handleRequest pooled req =
      target.handle server coder req ((req.clone pooled).modifyHeader (·.setMessageType .response)) := by
  cases method : service.method req.serviceMethod with
  | some mType =>
    have same : target = .method mType := by simpa [Service.resolve, method] using resolved.symm
    subst same
    simp only [handleRequest, found, coded, method, Target.handle]
  | none =>
    obtain ⟨mType, function, rfl⟩ : ∃ mType, service.function req.serviceMethod = some mType ∧
        .function mType = target := by simpa [Service.resolve, method] using resolved
    simp [handleRequest, found, coded, method, function, Target.handle, handleRequestForFunction]

namespace Registry

def resolve (registry : Registry Value) (servicePath name : Bytes) : Option (Target Value) :=
  (registry.serviceMap servicePath).bind fun service => service.resolve name

variable (reflection : Reflection)

/-- A registration: the new service map and its error, or `none` when it panics. -/
def perform (registry : Registry Value) (registration : Registration Value) :
    Option (Registry Value × Option GoError) :=
  match reflection.entry registration with
  | .error err => some (registry, some err)
  | .ok entry => (registry.install entry).map fun after => (after, none)

/-- The service map after some registrations, the last one first. One that panics leaves
it as it is. -/
def after : List (Registration Value) → Registry Value
  | [] => empty
  | registration :: earlier =>
    (((after earlier).perform reflection registration).map Prod.fst).getD (after earlier)

def panics : List (Registration Value) → Bool
  | [] => false
  | registration :: earlier =>
    panics earlier || ((after reflection earlier).perform reflection registration).isNone

/-- What was registered last under a service path and a name. -/
def latest (servicePath name : Bytes) : List (Registration Value) → Option (Target Value)
  | [] => none
  | registration :: earlier =>
    match reflection.entry registration with
    | .error _ => latest servicePath name earlier
    | .ok (.receiver path methods) =>
      match if path = servicePath then methodMap methods name else none with
      | some mType => some (.method mType)
      | none => latest servicePath name earlier
    | .ok (.function path fName target) =>
      if path = servicePath ∧ fName = name then some (.function target) else latest servicePath name earlier

/-- The methods of the receiver that was registered last under a service path. -/
def lastReceiver (servicePath : Bytes) : List (Registration Value) → Option (List (MethodType Value))
  | [] => none
  | registration :: earlier =>
    match reflection.entry registration with
    | .ok (.receiver path methods) => if path = servicePath then some methods else lastReceiver servicePath earlier
    | _ => lastReceiver servicePath earlier

/-- No registration panics, one that fails changes nothing, and each service path and
name is resolved to what was registered under it last. -/
structure Lawful (history : List (Registration Value)) : Prop where
  calm : panics reflection history = false
  unchanged : ∀ (registry later : Registry Value) registration err,
    registry.perform reflection registration = some (later, some err) → later = registry
  resolved : ∀ servicePath name target, latest reflection servicePath name history = some target →
    (after reflection history).resolve servicePath name = some target

variable {reflection} {history earlier : List (Registration Value)} {registration : Registration Value}
  {servicePath path name : Bytes} {methods : List (MethodType Value)} {target : FunctionType Value}

theorem perform_unchanged {registry later : Registry Value} {err : GoError}
    (failed : registry.perform reflection registration = some (later, some err)) : later = registry := by
  unfold perform at failed
  split at failed
  · cases failed
    rfl
  · obtain ⟨_, _, same⟩ := Option.map_eq_some_iff.mp failed
    cases same

theorem after_cons (performed : (after reflection earlier).perform reflection registration = some (registry, err)) :
    after reflection (registration :: earlier) = registry := by
  simp [after, performed]

theorem perform_error (registry : Registry Value) (failed : reflection.entry registration = .error err) :
    registry.perform reflection registration = some (registry, some err) := by
  simp [perform, failed]

theorem perform_receiver (registry : Registry Value)
    (entry : reflection.entry registration = .ok (.receiver path methods)) :
    registry.perform reflection registration = some (registry.set path ⟨methodMap methods, none⟩, none) := by
  simp [perform, entry, install]

theorem perform_function (registry : Registry Value)
    (entry : reflection.entry registration = .ok (.function path name target)) :
    registry.perform reflection registration = ((registry path).getD .new).function.map fun functions =>
      (registry.set path { (registry path).getD .new with
        function := some (Function.update functions name (some target)) }, none) := by
  simp [perform, entry, install, Function.comp_def]

@[simp] theorem set_self (registry : Registry Value) (record : Record Value) :
    registry.set path record path = some record :=
  Function.update_self ..

theorem set_of_ne (registry : Registry Value) (record : Record Value) (other : servicePath ≠ path) :
    registry.set path record servicePath = registry servicePath :=
  Function.update_of_ne other ..

theorem resolve_eq (registry : Registry Value) :
    registry.resolve servicePath name = ((registry servicePath).getD .new).service.resolve name := by
  cases found : registry servicePath <;> simp [resolve, serviceMap, found, Record.new, Record.service, Service.resolve]

/-- The record of a service path, as the registrations so far have made it. With a
receiver it has the methods of the last one and no map of functions, without one it has
the functions. -/
structure Recorded (reflection : Reflection) (history : List (Registration Value)) (servicePath : Bytes) :
    Prop where
  receiver : ∀ methods, lastReceiver reflection servicePath history = some methods →
    after reflection history servicePath = some ⟨methodMap methods, none⟩ ∧
      ∀ name mType, methodMap methods name = some mType →
        latest reflection servicePath name history = some (.method mType)
  functions : lastReceiver reflection servicePath history = none →
    ∃ functions, (after reflection history servicePath).getD .new = ⟨fun _ => none, some functions⟩ ∧
      ∀ name, latest reflection servicePath name history = (functions name).map .function

theorem Recorded.of_same (recorded : Recorded reflection earlier servicePath)
    (record : after reflection history servicePath = after reflection earlier servicePath)
    (last : lastReceiver reflection servicePath history = lastReceiver reflection servicePath earlier)
    (known : ∀ name, latest reflection servicePath name history = latest reflection servicePath name earlier) :
    Recorded reflection history servicePath := by
  refine ⟨?_, ?_⟩
  all_goals
    rw [record, last]
    simp only [known]
  · exact recorded.receiver
  · exact recorded.functions

theorem recorded_error (recorded : Recorded reflection earlier servicePath)
    (failed : reflection.entry registration = .error err) :
    Recorded reflection (registration :: earlier) servicePath := by
  apply recorded.of_same
  · rw [after_cons (perform_error (after reflection earlier) failed)]
  · simp only [lastReceiver, failed]
  · simp only [latest, failed, implies_true]

theorem recorded_receiver (recorded : Recorded reflection earlier servicePath)
    (entry : reflection.entry registration = .ok (.receiver path methods)) :
    Recorded reflection (registration :: earlier) servicePath := by
  have same := after_cons (perform_receiver (after reflection earlier) entry)
  by_cases here : path = servicePath
  · subst here
    refine ⟨?_, ?_⟩
    · intro last found
      simp only [lastReceiver, entry, if_pos, Option.some.injEq] at found
      subst found
      refine ⟨by rw [same, set_self], ?_⟩
      intro name mType found
      simp only [latest, entry, if_pos, found]
    · intro missing
      simp [lastReceiver, entry] at missing
  · apply recorded.of_same
    · rw [same, set_of_ne _ _ (Ne.symm here)]
    · simp only [lastReceiver, entry, if_neg here]
    · simp only [latest, entry, if_neg here, implies_true]

theorem recorded_function (recorded : Recorded reflection earlier servicePath)
    (entry : reflection.entry registration = .ok (.function path name target))
    (fresh : lastReceiver reflection path earlier = none)
    (mapped : Recorded reflection earlier path) :
    Recorded reflection (registration :: earlier) servicePath := by
  obtain ⟨functions, record, known⟩ := mapped.functions fresh
  have performed := perform_function (after reflection earlier) entry
  rw [record] at performed
  have same := after_cons performed
  by_cases here : path = servicePath
  · subst here
    refine ⟨?_, ?_⟩
    · intro last found
      simp only [lastReceiver, entry, fresh] at found
      cases found
    · intro _
      refine ⟨Function.update functions name (some target), by rw [same, set_self]; rfl, ?_⟩
      intro other
      by_cases named : name = other
      · subst named
        simp [latest, entry]
      · simp [latest, entry, named, known, Function.update_of_ne (Ne.symm named)]
  · apply recorded.of_same
    · rw [same, set_of_ne _ _ (Ne.symm here)]
    · simp only [lastReceiver, entry]
    · simp only [latest, entry, here, false_and, if_false, implies_true]

/-- A function panics under a service path that has a receiver. -/
theorem perform_function_isNone (recorded : Recorded reflection earlier path)
    (entry : reflection.entry registration = .ok (.function path name target)) :
    ((after reflection earlier).perform reflection registration).isNone =
      (lastReceiver reflection path earlier).isSome := by
  rw [perform_function _ entry]
  cases last : lastReceiver reflection path earlier with
  | none =>
    obtain ⟨functions, record, _⟩ := recorded.functions last
    simp [record]
  | some methods => simp [(recorded.receiver methods last).1]

theorem recorded_of_calm (calm : panics reflection history = false) (servicePath : Bytes) :
    Recorded reflection history servicePath := by
  induction history generalizing servicePath with
  | nil => exact ⟨nofun, fun _ => ⟨fun _ => none, rfl, fun _ => rfl⟩⟩
  | cons registration earlier ih =>
    obtain ⟨before, performed⟩ : panics reflection earlier = false ∧
        ((after reflection earlier).perform reflection registration).isNone = false := by
      simpa [panics] using calm
    have recorded := ih before
    cases entry : reflection.entry registration with
    | error err => exact recorded_error (recorded servicePath) entry
    | ok entered =>
      cases entered with
      | receiver path methods => exact recorded_receiver (recorded servicePath) entry
      | function path name target =>
        rw [perform_function_isNone (recorded path) entry] at performed
        exact recorded_function (recorded servicePath) entry (by simpa using performed) (recorded path)

/-- No function is registered under a service path after a receiver. -/
def FunctionsFirst (reflection : Reflection) (history : List (Registration Value)) : Prop :=
  ∀ registration earlier, registration :: earlier <:+ history → ∀ path name target,
    reflection.entry registration = .ok (.function path name target) → lastReceiver reflection path earlier = none

theorem functionsFirst_cons : FunctionsFirst reflection (registration :: earlier) ↔
    FunctionsFirst reflection earlier ∧ ∀ path name target,
      reflection.entry registration = .ok (.function path name target) →
        lastReceiver reflection path earlier = none := by
  refine ⟨fun first => ⟨?_, first registration earlier List.suffix_rfl⟩, ?_⟩
  · intro other rest behind
    exact first other rest (behind.trans (List.suffix_cons ..))
  · rintro ⟨before, now⟩ other rest behind
    rcases List.suffix_cons_iff.mp behind with same | within
    · cases same
      exact now
    · exact before other rest within

theorem calm_iff (history : List (Registration Value)) :
    panics reflection history = false ↔ FunctionsFirst reflection history := by
  induction history with
  | nil => simp [panics, FunctionsFirst]
  | cons registration earlier ih =>
    rw [functionsFirst_cons, ← ih, panics, Bool.or_eq_false_iff]
    apply and_congr_right
    intro calm
    cases entry : reflection.entry registration with
    | error err => simp [perform_error _ entry]
    | ok entered =>
      cases entered with
      | receiver path methods => simp [perform_receiver _ entry]
      | function path name target =>
        rw [perform_function_isNone (recorded_of_calm calm path) entry]
        simp

/-- The last receiver under a service path has a method for every name that was
registered under it. -/
def ReceiversCover (reflection : Reflection) (history : List (Registration Value)) : Prop :=
  ∀ servicePath methods, lastReceiver reflection servicePath history = some methods →
    ∀ name, (latest reflection servicePath name history).isSome → (methodMap methods name).isSome

theorem resolved_iff (calm : panics reflection history = false) :
    (∀ servicePath name target, latest reflection servicePath name history = some target →
      (after reflection history).resolve servicePath name = some target) ↔
    ReceiversCover reflection history := by
  constructor
  · intro resolved servicePath methods last name registered
    obtain ⟨target, found⟩ := Option.isSome_iff_exists.mp registered
    have finds := resolved servicePath name target found
    rw [resolve_eq, ((recorded_of_calm calm servicePath).receiver methods last).1] at finds
    cases covered : methodMap methods name with
    | some mType => rfl
    | none => simp [Service.resolve, Record.service, covered] at finds
  · intro covers servicePath name target found
    have recorded := recorded_of_calm calm servicePath
    rw [resolve_eq]
    cases last : lastReceiver reflection servicePath history with
    | none =>
      obtain ⟨functions, record, known⟩ := recorded.functions last
      simpa [record, Service.resolve, Record.service, known] using found
    | some methods =>
      obtain ⟨mType, method⟩ := Option.isSome_iff_exists.mp (covers servicePath methods last name (by simp [found]))
      obtain ⟨record, known⟩ := recorded.receiver methods last
      rw [known name mType method] at found
      simpa [record, Service.resolve, Record.service, method] using found

/-- The registry keeps its promise exactly if functions are registered under a service
path before receivers only, and the last receiver covers all names registered under it. -/
theorem registry_lawful_iff (reflection : Reflection) (history : List (Registration Value)) :
    Lawful reflection history ↔ FunctionsFirst reflection history ∧ ReceiversCover reflection history := by
  rw [← calm_iff]
  constructor
  · intro lawful
    exact ⟨lawful.calm, (resolved_iff lawful.calm).mp lawful.resolved⟩
  · rintro ⟨calm, covers⟩
    exact ⟨calm, fun _ _ _ _ => perform_unchanged, (resolved_iff calm).mpr covers⟩

/-- Types that are known by their names, all of them builtin. -/
def plainReflection : Reflection where
  name _ := []
  pkgPath _ := []
  text _ := []
  implementsContext type := type = .named (utf8 "context.Context")
  typeOfError := .named (utf8 "error")
  isUpper name := name.head?.any fun byte => 65 ≤ byte ∧ byte ≤ 90

def plainSignature (ins : List GoType) : Signature :=
  ⟨ins ++ [.named (utf8 "context.Context"), .named (utf8 "int"), .pointer (.named (utf8 "int"))],
    [.named (utf8 "error")], []⟩

def arith : Receiver Nat :=
  ⟨utf8 "Arith", [⟨utf8 "Mul", [], plainSignature [.named (utf8 "Arith")], fun argv _ => .returned argv none⟩], []⟩

def addFunction : Func Nat := ⟨utf8 "main.add", plainSignature [], fun argv _ => .returned argv none⟩

/-- A function under the service path of a receiver panics, and a receiver under the
service path of a function makes the function disappear. -/
theorem registry_forgets :
    panics plainReflection [.registerFunction (utf8 "Arith") (some addFunction), .register arith] = true ∧
    panics plainReflection [.register arith, .registerFunction (utf8 "Arith") (some addFunction)] = false ∧
    (latest plainReflection (utf8 "Arith") (utf8 "add")
      [.register arith, .registerFunction (utf8 "Arith") (some addFunction)]).isSome = true ∧
    ((after plainReflection [.register arith, .registerFunction (utf8 "Arith") (some addFunction)]).resolve
      (utf8 "Arith") (utf8 "add")).isNone = true := by
  decide +kernel

end Registry

end Irpc.Server
