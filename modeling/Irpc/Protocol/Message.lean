import Irpc.Errors
import Irpc.Protocol.Header

namespace Irpc.Protocol

open Irpc.Foundation

/-- A string-to-string map. A nil map is `none` of an `Option`. -/
abbrev Metadata := Finmap fun _ : Bytes => Bytes

/-- One enumeration of a map's entries: the order a `range` loop visits them. -/
abbrev IterationOrder := AList fun _ : Bytes => Bytes

/-- A compressor of the `Compressors` table. -/
structure Compressor where
  zip : Bytes → Except GoError Bytes
  unzip : Bytes → Except GoError Bytes

def rawDataCompressor : Compressor := ⟨.ok, .ok⟩

/-- The package variables the codec reads. -/
structure Config where
  compressors : CompressType → Option Compressor
  maxMessageLength : Int

/-- Only uncompressed payloads, and a length limit. -/
def plainConfig : Config :=
  ⟨fun type => if type = .none then some rawDataCompressor else none, 64⟩

/-- The metadata key under which a response carries its error text. -/
def serviceErrorKey : Bytes := utf8 "__irpc_error__"

def errMetaKVMissing : GoError := .plain (utf8 "wrong metadata lines. some keys or values are missing")
def errMessageTooLong : GoError := .plain (utf8 "message is too long")
def errUnsupportedCompressor : GoError := .plain (utf8 "unsupported compressor")

structure Message where
  header : Header
  servicePath : Bytes
  serviceMethod : Bytes
  metadata : Option Metadata
  payload : Bytes
  /-- The read buffer of `Decode`, which outlives a `Reset`. -/
  data : Slice
  deriving DecidableEq

namespace Message

def newMessage : Message := ⟨.fresh, [], [], none, [], .empty⟩

/-- Zero the header except for its first byte. -/
def resetHeader (header : Header) : Header := .ofFirst header.first

def reset (message : Message) : Message where
  header := resetHeader message.header
  servicePath := []
  serviceMethod := []
  metadata := none
  payload := []
  data := ⟨message.data.array, 0, Nat.zero_le _⟩

/-- `pooled` is the message the clone is built in. -/
def clone (message pooled : Message) : Message :=
  { pooled with
    header := message.header.setCompressType .none
    servicePath := message.servicePath
    serviceMethod := message.serviceMethod }

def handleError (message : Message) : Option GoError → Message
  | none => message
  | some err =>
    { message with
      header := message.header.setMessageStatusType .error
      metadata := some ((message.metadata.getD ∅).insert serviceErrorKey err.error) }

theorem lookup_handleError (message : Message) (err : GoError) :
    (message.handleError (some err)).metadata.bind (·.lookup serviceErrorKey) = some err.error := by
  simp [handleError]

theorem status_handleError (message : Message) (err : GoError) :
    (message.handleError (some err)).header.messageStatusType = .error := by
  have marked : ∀ byte : UInt8,
      (andNot byte 0x03 ||| (MessageStatusType.error &&& 0x03)) &&& 0x03 = MessageStatusType.error := by
    decide +kernel
  simpa [handleError, Header.messageStatusType, Header.setMessageStatusType]
    using marked message.header.flags

def modifyHeader (message : Message) (update : Header → Header) : Message :=
  { message with header := update message.header }

/-- What a holder of a message does to it: call a header setter or assign one of
the exported fields. -/
inductive Edit where
  | header (setter : Header.Setter)
  | servicePath (path : Bytes)
  | serviceMethod (method : Bytes)
  | metadata (entries : Option Metadata)
  | payload (data : Bytes)

def edit (message : Message) : Edit → Message
  | .header setter => message.modifyHeader (·.set setter)
  | .servicePath path => { message with servicePath := path }
  | .serviceMethod method => { message with serviceMethod := method }
  | .metadata entries => { message with metadata := entries }
  | .payload data => { message with payload := data }

theorem first_edit (message : Message) (edit : Edit) :
    (message.edit edit).header.first = message.header.first := by
  cases edit with
  | header setter => exact message.header.first_set setter
  | _ => rfl

theorem data_edit (message : Message) (edit : Edit) : (message.edit edit).data = message.data := by
  cases edit <;> rfl

/-- What a user of the pool may assume about a message taken from it. -/
structure Clean (message : Message) : Prop where
  header : message.header = .fresh
  metadata : message.metadata = none
  payload : message.payload = []
  servicePath : message.servicePath = []
  serviceMethod : message.serviceMethod = []

theorem clean_newMessage : newMessage.Clean := ⟨rfl, rfl, rfl, rfl, rfl⟩

theorem resetHeader_of_magic {header : Header} (magic : header.first = magicNumber) :
    resetHeader header = .fresh := by
  rw [resetHeader, magic, Header.fresh]

/-- `Reset` cleans everything but the first header byte. -/
theorem clean_reset_iff (message : Message) :
    message.reset.Clean ↔ message.header.first = magicNumber := by
  constructor
  · intro clean
    have first := congrArg Header.first clean.header
    simpa [reset, resetHeader, Header.fresh] using first
  · intro magic
    exact ⟨resetHeader_of_magic magic, rfl, rfl, rfl, rfl⟩

end Message

end Irpc.Protocol
