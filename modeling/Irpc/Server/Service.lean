import Irpc.Protocol.Message

/-! What a server dispatches to: codecs, plugins, and the methods and functions
of its services. Code the server only calls (a codec, a plugin, a service) may
panic, which is `none`. An interface value is an `Option`, since it may be nil. -/
namespace Irpc.Server

open Irpc.Foundation Irpc.Protocol

/-- Types as far as the dispatcher looks at them. -/
inductive GoType where
  | named (name : Bytes)
  | pointer (elem : GoType)
  deriving DecidableEq

def GoType.isPtr : GoType → Bool
  | .named _ => false
  | .pointer _ => true

/-- How an invoked method or function ends. The reply is an object it fills in
place, so it is there after a panic too. -/
inductive Invocation (Value : Type) where
  | returned (reply : Value) (err : Option GoError)
  | panicked (reply : Value) (recovered stack : Bytes)

/-- A registered method (`methodType`) or function (`functionType`). -/
structure Callable (Value : Type) where
  name : Bytes
  argType : GoType
  replyType : GoType
  run : (argv reply : Value) → Invocation Value

abbrev MethodType := Callable
abbrev FunctionType := Callable

structure Service (Value : Type) where
  method : Bytes → Option (MethodType Value)
  function : Bytes → Option (FunctionType Value)

structure Codec (Value : Type) where
  encode : Option Value → Option (Bytes × Option GoError)
  decode : Bytes → Value → Option (Value × Option GoError)

/-- `ByteCodec`. `slice` is the byte slice a value is or points to, and `settable` says
whether the value points to one, as `reflect` needs it to store the bytes. -/
def byteCodec (slice : Value → Option Bytes) (settable : Value → Bool) (store : Bytes → Value)
    (typeName : Option Value → Bytes) : Codec Value where
  encode value :=
    match value.bind slice with
    | some data => some (data, none)
    | none => some ([], some (.plain (typeName value ++ utf8 " is not a []byte")))
  decode data value := if settable value then some (store data, none) else none

/-- `ThriftCodec`. Encoding tests whether the value is a `thrift.TStruct`, and decoding
takes it for one. -/
def thriftCodec (isTStruct : Value → Bool) (write : Value → Bytes × Option GoError)
    (read : Bytes → Value → Value × Option GoError) : Codec Value where
  encode value :=
    match value.filter isTStruct with
    | some msg => some (write msg)
    | none => some ([], some (.plain (utf8 "type assertion failed")))
  decode data value := if isTStruct value then some (read data value) else none

/-- A hook is `none` when the plugin does not implement its interface. -/
structure Plugin (Value : Type) where
  preCall : Option ((serviceName methodName : Bytes) → (args : Option Value) →
    Option (Option Value × Option GoError))
  postCall : Option ((serviceName methodName : Bytes) → (args reply : Option Value) →
    Option (Option Value × Option GoError))

end Irpc.Server

namespace Irpc

open Irpc.Foundation Irpc.Protocol Irpc.Server

/-- The parts of a server, of the package tables and of the reflection library
that request handling reads. -/
structure Server (Value : Type) where
  serviceMap : Bytes → Option (Service Value)
  codecs : SerializeType → Option (Codec Value)
  plugins : List (Plugin Value)
  /-- What `reflectTypePools` hands out for a type: always a pointer. -/
  typePool : GoType → Value
  /-- `reflect.Value.Elem`, with no result for what does not point to a value. -/
  elem : Value → Option Value
  /-- The text of a value under `%+v`. -/
  format : Value → Bytes

end Irpc

namespace Irpc.Server

open Irpc.Foundation Irpc.Protocol

variable {Value : Type}

/-- Run hooks one after another on one value, up to the first error. -/
def runHooks : List (Option Value → Option (Option Value × Option GoError)) →
    Option Value → Option (Option Value × Option GoError)
  | [], value => some (value, none)
  | hook :: rest, value => (hook value).bind fun
    | (value, some err) => some (value, some err)
    | (value, none) => runHooks rest value

def getService (server : Server Value) (serviceName : Bytes) : Option (Service Value) :=
  server.serviceMap serviceName

def doPreCall (server : Server Value) (serviceName methodName : Bytes) (args : Option Value) :
    Option (Option Value × Option GoError) :=
  runHooks (server.plugins.filterMap fun plugin =>
    plugin.preCall.map fun hook => hook serviceName methodName) args

def doPostCall (server : Server Value) (serviceName methodName : Bytes) (args reply : Option Value) :
    Option (Option Value × Option GoError) :=
  runHooks (server.plugins.filterMap fun plugin =>
    plugin.postCall.map fun hook => hook serviceName methodName args) reply

def errServiceInternal (server : Server Value) (kind : String) (target : Callable Value)
    (argv : Value) (recovered stack : Bytes) : GoError :=
  .plain (utf8 "[service internal error]: " ++ recovered ++ utf8 ", " ++ utf8 kind ++ utf8 ": " ++
    target.name ++ utf8 ", argv: " ++ server.format argv ++ utf8 ", stack: " ++ stack)

/-- Invoke a target and turn its panic into an error. Without an argument the
invocation panics, and formatting the argument for that error panics again. -/
def invoke (server : Server Value) (kind : String) (target : Callable Value)
    (argv : Option Value) (reply : Value) : Option (Value × Option GoError) :=
  argv.map fun argv =>
    match target.run argv reply with
    | .returned reply err => (reply, err)
    | .panicked reply recovered stack =>
      (reply, some (server.errServiceInternal kind target argv recovered stack))

def call (server : Server Value) (mType : MethodType Value) (argv : Option Value) (reply : Value) :
    Option (Value × Option GoError) :=
  server.invoke "method" mType argv reply

def callForFunction (server : Server Value) (mType : FunctionType Value) (argv : Option Value)
    (reply : Value) : Option (Value × Option GoError) :=
  server.invoke "function" mType argv reply

/-- The argument handed to the target: the pooled object itself for a pointer
type, what it points to otherwise. -/
def argument (server : Server Value) (type : GoType) (argv : Option Value) : Option Value :=
  if type.isPtr then argv else argv.bind server.elem

end Irpc.Server
