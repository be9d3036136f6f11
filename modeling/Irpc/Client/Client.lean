import Irpc.Foundation.System
import Irpc.Protocol.Message

/-! One client connection as a system of steps. A step is one section under the
client's mutex, together with what its goroutine does before it next needs the
mutex or blocks. -/
namespace Irpc.Client

open Irpc.Foundation Irpc.Protocol

def errShutdown : GoError := .plain (utf8 "connection is shut down")
def errUnsupportedCodec : GoError := .plain (utf8 "unsupported codec")

inductive Invocation where
  | go
  | call
  | sendRaw
  deriving DecidableEq

/-- How far the goroutine that issued a call has come. -/
inductive CallPhase where
  | sending
  | waiting
  | returned
  deriving DecidableEq

/-- A `Call` object. `seq` is the number its goroutine remembers, zero until it
has one. -/
structure CallRecord where
  invocation : Invocation
  seq : UInt64 := 0
  phase : CallPhase
  error : Option GoError := none
  resMetadata : Option Metadata := none
  /-- The payload that went into the reply. -/
  filled : Option Bytes := none
  /-- How often `done` was invoked. -/
  completions : Nat := 0
  /-- Whether the call was stored in `pending`. -/
  registered : Bool := false
  /-- Whether the client was shut down when that happened. -/
  late : Bool := false

namespace CallRecord

def settle (record : CallRecord) (err : Option GoError) : CallRecord :=
  { record with error := err, completions := record.completions + 1 }

def fail (err : GoError) (record : CallRecord) : CallRecord := record.settle (some err)

def finish (record : CallRecord) : CallRecord := record.settle record.error

/-- Behind `send` the goroutine of `Go` returns and that of `Call` waits. -/
def afterSend (record : CallRecord) : CallRecord :=
  { record with phase := if record.invocation = .call then .waiting else .returned }

def noteMetadata (record : CallRecord) (res : Message) : CallRecord :=
  if res.metadata.getD ∅ = ∅ then record else { record with resMetadata := res.metadata }

/-- The error an error response sets, if it has metadata at all. -/
def responseError (res : Message) (previous : Option GoError) : Option GoError :=
  if res.metadata.getD ∅ = ∅ then previous
  else some (.serviceError (((res.metadata.getD ∅).lookup serviceErrorKey).getD []))

/-- An error response. For a raw call the text of the error is read, which
panics when there is none. `decoded` is what the codec of the response says, if
there is one. -/
def answerError (record : CallRecord) (res : Message) (decoded : Option (Option GoError)) :
    Option CallRecord :=
  let failed := { record.noteMetadata res with error := responseError res record.error }
  if record.invocation = .sendRaw then
    if failed.error.isNone then none else some { failed with filled := some res.payload }
  else if res.payload = [] ∨ decoded.isNone then some failed
  else some { failed with filled := some res.payload }

/-- A normal response, with the error that ends the loop of `input`. -/
def answerNormal (record : CallRecord) (res : Message) (decoded : Option (Option GoError)) :
    CallRecord × Option GoError :=
  if record.invocation = .sendRaw then ({ record with filled := some res.payload }, none)
  else if res.payload = [] then (record.noteMetadata res, none)
  else
    match decoded with
    | none => ({ record.noteMetadata res with
        error := some (.serviceError errUnsupportedCodec.error) }, none)
    | some none => ({ record.noteMetadata res with filled := some res.payload }, none)
    | some (some err) => ({ record.noteMetadata res with
        error := some (.serviceError err.error) }, some err)

/-- What `input` does with a response to the call, up to the invocation of
`done`. No result is a panic. -/
def answer (record : CallRecord) (res : Message) (decoded : Option (Option GoError)) :
    Option (CallRecord × Option GoError) :=
  if res.header.messageStatusType = .error then (record.answerError res decoded).map fun record => (record, none)
  else some (record.answerNormal res decoded)

end CallRecord

/-- The goroutine that reads responses: in its loop, behind it, or gone. -/
inductive Input where
  | reading
  | ended (err : GoError)
  | stopped
  deriving DecidableEq

abbrev Pending := AList fun _ : UInt64 => Nat

end Irpc.Client

namespace Irpc

open Irpc.Foundation Irpc.Protocol Irpc.Client

/-- Calls are known by a number; `next` is the first one not in use. -/
structure Client where
  seq : UInt64
  pending : Pending
  closing : Bool
  shutdown : Bool
  input : Input
  calls : Nat → CallRecord
  next : Nat
  /-- Second invocations of `Close` that have unlocked the mutex and still have
  their deferred unlock before them. -/
  unlocks : Nat
  crashed : Bool

end Irpc

namespace Irpc.Client

open Irpc.Foundation Irpc.Protocol

def unused : CallRecord := { invocation := .go, phase := .returned }

def connected : Client where
  seq := 0
  pending := ∅
  closing := false
  shutdown := false
  input := .reading
  calls _ := unused
  next := 0
  unlocks := 0
  crashed := false

def modify (client : Client) (id : Nat) (change : CallRecord → CallRecord) : Client :=
  { client with calls := Function.update client.calls id (change (client.calls id)) }

/-- Take the call out of `pending` that is stored under a number, and settle it. -/
def take (client : Client) (seq : UInt64) (settle : CallRecord → CallRecord) : Client :=
  match client.pending.lookup seq with
  | none => client
  | some id => { client with pending := client.pending.erase seq }.modify id settle

def reject (client : Client) (invocation : Invocation) (err : GoError) : Client :=
  let record : CallRecord := { invocation, phase := .sending }
  { client with
    calls := Function.update client.calls client.next (record.fail err).afterSend
    next := client.next + 1 }

/-- Issue a call and store it in `pending`, whatever is stored there. `counter`
is the next number `send` will draw. -/
def register (client : Client) (invocation : Invocation) (seq counter : UInt64) : Client :=
  { client with
    seq := counter
    calls := Function.update client.calls client.next
      { invocation, seq, phase := .sending, registered := true, late := client.shutdown }
    pending := client.pending.insert seq client.next
    next := client.next + 1 }

def failAll (calls : Nat → CallRecord) (err : GoError) (ids : List Nat) : Nat → CallRecord :=
  ids.foldl (fun calls id => Function.update calls id ((calls id).fail err)) calls

def pendingCalls (client : Client) : List Nat := client.pending.entries.map Sigma.snd

inductive Event where
  /-- `send` up to its first unlock, for `Call` or for `Go`. -/
  | send (waits codec : Bool)
  | sendRaw (seq : UInt64)
  | encodeFailed (id : Nat) (err : GoError)
  | writeFailed (id : Nat) (err : GoError)
  /-- The frame is written and the request tested for one-way. -/
  | written (id : Nat) (oneway : Bool)
  | cancel (id : Nat) (err : GoError)
  | receive (id : Nat)
  | respond (res : Message) (decoded : Option (Option GoError))
  | disconnect (err : GoError)
  | terminate
  | close
  | unlockAgain

/-- A request pushed by the server, as opposed to a response. -/
def isServerMessage (res : Message) : Bool :=
  res.header.messageType == .request && !res.header.isHeartbeat && res.header.isOneway

def stepSend (client : Client) (waits codec : Bool) : Client :=
  let invocation := if waits then .call else .go
  if client.shutdown || client.closing then client.reject invocation errShutdown
  else if !codec then client.reject invocation errUnsupportedCodec
  else client.register invocation client.seq (client.seq + 1)

/-- `input` handles one response. The loop ends when the reply does not decode. -/
def stepRespond (client : Client) (res : Message) (decoded : Option (Option GoError)) : Client :=
  if isServerMessage res then client
  else
    match client.pending.lookup res.header.seq with
    | none => client
    | some id =>
      let client := { client with pending := client.pending.erase res.header.seq }
      match (client.calls id).answer res decoded with
      | none => { client with crashed := true }
      | some (record, err) =>
        { client.modify id fun _ => record.finish with
          input := match err with
            | none => client.input
            | some err => .ended err }

/-- The block behind the loop of `input`. The calls stay in `pending`. -/
def stepTerminate (client : Client) (err : GoError) : Client :=
  let err := if err = .eof then (if client.closing then errShutdown else .unexpectedEOF) else err
  { client with
    shutdown := true
    input := .stopped
    calls := failAll client.calls err client.pendingCalls }

/-- A second `Close` unlocks the mutex itself and once more when it returns. -/
def stepClose (client : Client) : Client :=
  let settled := { client with pending := ∅, calls := failAll client.calls errShutdown client.pendingCalls }
  if client.closing || client.shutdown then { settled with unlocks := settled.unlocks + 1 }
  else { settled with closing := true }

/-- The deferred unlock of a free mutex is fatal, and so is a panic of `input`. -/
def step (client : Client) (event : Event) : Option Client :=
  if client.crashed then none
  else
    match event with
    | .send waits codec => some (client.stepSend waits codec)
    | .sendRaw seq => some (client.register .sendRaw seq client.seq)
    | .encodeFailed id err =>
      let record := client.calls id
      if record.phase = .sending ∧ record.invocation ≠ .sendRaw then
        some ({ client with pending := client.pending.erase record.seq }.modify id
          fun record => (record.fail err).afterSend)
      else none
    | .writeFailed id err =>
      let record := client.calls id
      if record.phase = .sending then
        some ((client.take record.seq (·.fail err)).modify id CallRecord.afterSend)
      else none
    | .written id oneway =>
      let record := client.calls id
      if record.phase = .sending then
        if oneway then some ((client.take record.seq CallRecord.finish).modify id CallRecord.afterSend)
        else some (client.modify id fun record =>
          { record with phase := if record.invocation = .go then .returned else .waiting })
      else none
    | .cancel id err =>
      let record := client.calls id
      if record.phase = .waiting then
        some ((client.take record.seq (·.fail err)).modify id fun record =>
          { record with phase := .returned })
      else none
    | .receive id =>
      let record := client.calls id
      if record.phase = .waiting ∧ 0 < record.completions then
        some (client.modify id fun record => { record with phase := .returned })
      else none
    | .respond res decoded =>
      if client.input = .reading then some (client.stepRespond res decoded) else none
    | .disconnect err =>
      if client.input = .reading then some { client with input := .ended err } else none
    | .terminate =>
      match client.input with
      | .ended err => some (client.stepTerminate err)
      | _ => none
    | .close => some client.stepClose
    | .unlockAgain =>
      if 0 < client.unlocks then some { client with unlocks := client.unlocks - 1, crashed := true }
      else none

def system : System Client Event where
  initial client := client = connected
  step := step

end Irpc.Client
