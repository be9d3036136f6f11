import Irpc.Client.Isolation
import Irpc.Server.Service

/-! Error responses. What `input` does with one depends on the metadata of the frame
and on the codec that the frame names: some codecs panic on a reply of another kind
than theirs. -/
namespace Irpc.Client

open Irpc.Foundation Irpc.Protocol Irpc.Server

variable {Value : Type} {res : Message} {table : SerializeType → Option (Codec Value)}

/-- The codec for the type of the response, if `share.Codecs` has one, does not panic on
the payload. -/
def DecodesQuietly (table : SerializeType → Option (Codec Value)) (res : Message) (reply : Value) : Prop :=
  ∀ codec, table res.header.serializeType = some codec → codec.decode res.payload reply ≠ none

/-- Two codecs trust the frame to name the kind of the reply. -/
theorem decodesQuietly_byteCodec_iff {slice : Value → Option Bytes} {settable : Value → Bool}
    {store : Bytes → Value} {typeName : Option Value → Bytes}
    (named : table res.header.serializeType = some (byteCodec slice settable store typeName)) (reply : Value) :
    DecodesQuietly table res reply ↔ settable reply = true := by
  simp [DecodesQuietly, named, byteCodec]

theorem decodesQuietly_thriftCodec_iff {isTStruct : Value → Bool} {write : Value → Bytes × Option GoError}
    {read : Bytes → Value → Value × Option GoError}
    (named : table res.header.serializeType = some (thriftCodec isTStruct write read)) (reply : Value) :
    DecodesQuietly table res reply ↔ isTStruct reply = true := by
  simp [DecodesQuietly, named, thriftCodec]

/-- `input` with one frame, the codec included. -/
def receive (table : SerializeType → Option (Codec Value)) (replies : Nat → Value) (client : Client)
    (res : Message) : Client :=
  if isServerMessage res then client
  else
    match client.pending.lookup res.header.seq with
    | none => client
    | some id =>
      if (client.calls id).invocation = .sendRaw ∨ res.payload = [] then client.stepRespond res none
      else
        match table res.header.serializeType with
        | none => client.stepRespond res none
        | some codec =>
          match codec.decode res.payload (replies id) with
          | none => { client with pending := client.pending.erase res.header.seq, crashed := true }
          | some (_, err) => client.stepRespond res (some err)

/-- A pending call of a running client has no error yet. -/
def PendingUnfailed (client : Client) : Prop :=
  client.shutdown = false → ∀ seq id, client.pending.lookup seq = some id → (client.calls id).error = none

variable {client after : Client} {event : Event} {id : Nat}

theorem PendingUnfailed.step (unfailed : PendingUnfailed client) (wf : WellFormed client)
    (moved : client.step event = some after) : PendingUnfailed after := by
  intro running seq id stored
  rcases step_cases wf moved with ⟨invocation, err, rfl⟩ | ⟨invocation, number, counter, -, rfl⟩ | advances
  · rw [calls_reject_of_used (wf.used_of_pending stored)]
    exact unfailed running seq id stored
  · rw [lookup_register] at stored
    split at stored
    · cases stored
      rw [calls_register, if_pos rfl]
    · rw [calls_register_of_used (wf.used_of_pending stored)]
      exact unfailed running seq id stored
  · obtain ⟨earlier, terminates⟩ := advances.pending seq id stored
    rw [← Bool.not_eq_true, advances.shutdown, not_or, Bool.not_eq_true] at running
    have unsettled : ¬ Settled client event id := fun settled => running.2 (terminates settled)
    rw [(advances.same id unsettled).2]
    exact unfailed running.1 seq id earlier

theorem pendingUnfailed_of_reachable (reachable : system.Reachable client) :
    WellFormed client ∧ PendingUnfailed client := by
  induction reachable with
  | start initial =>
    cases initial
    exact ⟨wellFormed_connected, nofun⟩
  | step _ event _ moved ih => exact ⟨ih.1.step moved, ih.2.step ih.1 moved⟩

/-- The call is completed with an error, and the process lives. -/
structure Reported (client : Client) (id : Nat) (after : Client) : Prop where
  alive : after.crashed = false
  completed : (after.calls id).completions = (client.calls id).completions + 1
  failed : (after.calls id).error ≠ none

/-- Without a codec that panics, an error response is reported exactly if it has metadata. -/
theorem reported_stepRespond_iff {decoded : Option (Option GoError)} (alive : client.crashed = false)
    (unfailed : (client.calls id).error = none) (response : isServerMessage res = false)
    (failed : res.header.messageStatusType = .error) (stored : client.pending.lookup res.header.seq = some id) :
    Reported client id (client.stepRespond res decoded) ↔ res.metadata.getD ∅ ≠ ∅ := by
  have error := answerError_reports (client.calls id) res decoded
  have silent : CallRecord.responseError res (client.calls id).error = none ↔ _ := responseError_eq_none_iff
  rw [← error, unfailed, and_iff_left rfl] at silent
  rw [Ne, ← silent]
  unfold stepRespond
  simp only [response, stored, Bool.false_eq_true, if_false, CallRecord.answer, failed, if_true]
  cases answers : (client.calls id).answerError res decoded with
  | none => exact iff_of_false (fun reported => Bool.noConfusion reported.alive) (by simp)
  | some record =>
    have kept := (CallRecord.keeps_answerError answers).2
    simp only [Option.map_some, Option.bind_some]
    constructor
    · intro reported
      simpa [calls_modify, CallRecord.finish, CallRecord.settle] using reported.failed
    · intro failed
      refine ⟨alive, ?_, ?_⟩
      · simp [calls_modify, kept, CallRecord.finish, CallRecord.settle]
      · simpa [calls_modify, CallRecord.finish, CallRecord.settle] using failed

section Receive

variable {replies : Nat → Value}

/-- The payload of a response is not handed to a codec that panics on it. -/
def Handles (table : SerializeType → Option (Codec Value)) (record : CallRecord) (res : Message) (reply : Value) :
    Prop :=
  record.invocation = .sendRaw ∨ res.payload = [] ∨ DecodesQuietly table res reply

/-- With a codec that does not panic, `input` takes a step of the connection. -/
theorem receive_of_handles (response : isServerMessage res = false)
    (stored : client.pending.lookup res.header.seq = some id)
    (handles : Handles table (client.calls id) res (replies id)) :
    ∃ decoded, client.receive table replies res = client.stepRespond res decoded := by
  unfold receive
  simp only [response, stored, Bool.false_eq_true, if_false]
  split
  · exact ⟨none, rfl⟩
  case isFalse decodes =>
    rw [Handles, ← or_assoc, or_iff_right decodes] at handles
    cases named : table res.header.serializeType with
    | none => exact ⟨none, rfl⟩
    | some codec =>
      obtain ⟨⟨_, err⟩, decoded⟩ := Option.ne_none_iff_exists'.mp (handles codec named)
      exact ⟨some err, by simp only [decoded]⟩

theorem crashed_receive (response : isServerMessage res = false)
    (stored : client.pending.lookup res.header.seq = some id)
    (panics : ¬ Handles table (client.calls id) res (replies id)) :
    (client.receive table replies res).crashed = true := by
  simp only [Handles, DecodesQuietly, ← or_assoc, not_or, not_forall, Classical.not_not] at panics
  obtain ⟨decodes, codec, named, panics⟩ := panics
  unfold receive
  simp only [response, stored, Bool.false_eq_true, if_false]
  rw [if_neg (not_or.mpr decodes), named]
  simp only [panics]

/-- An error response to a pending call is reported exactly if it has metadata and no codec
panics on its payload. -/
theorem error_response_reported_iff (table : SerializeType → Option (Codec Value)) (replies : Nat → Value)
    (reachable : system.Reachable client) (alive : client.crashed = false) (reading : client.input = .reading)
    (response : isServerMessage res = false) (failed : res.header.messageStatusType = .error)
    (stored : client.pending.lookup res.header.seq = some id) :
    Reported client id (client.receive table replies res) ↔
      res.metadata.getD ∅ ≠ ∅ ∧ Handles table (client.calls id) res (replies id) := by
  obtain ⟨wf, unfailed⟩ := pendingUnfailed_of_reachable reachable
  have running : client.shutdown = false := by
    rw [← Bool.not_eq_true, wf.stopped, reading]
    nofun
  by_cases handles : Handles table (client.calls id) res (replies id)
  · obtain ⟨decoded, steps⟩ := receive_of_handles response stored handles
    rw [steps, reported_stepRespond_iff alive (unfailed running _ _ stored) response failed stored,
      and_iff_left handles]
  · refine iff_of_false (fun reported => ?_) (fun holds => handles holds.2)
    have crashed := crashed_receive response stored handles
    rw [reported.alive] at crashed
    cases crashed

/-- A table with the codec for bytes alone, for replies that all are bytes or all are not. -/
def byteTable (settable : Bool) (type : SerializeType) : Option (Codec Bytes) :=
  if type = .serializeNone then
    some (byteCodec some (fun _ => settable) (fun data => data) fun _ => utf8 "*main.Reply")
  else none

def errorReply (metadata : Option Metadata) (payload : Bytes) : Message :=
  { answerTo 0 with
    header := (answerTo 0).header.setMessageStatusType .error
    metadata, payload }

def refusal : Metadata := (∅ : Metadata).insert serviceErrorKey (utf8 "refused")

theorem error_response_reported_refusal :
    let client := connected.stepSend true true
    Reported client 0 (client.receive (byteTable true) (fun _ => []) (errorReply (some refusal) [1])) := by
  refine (error_response_reported_iff (byteTable true) (fun _ => [])
    (.step (.start rfl) (.send true true) trivial rfl) rfl rfl (by decide) (by decide) (by decide)).mpr ⟨?_, ?_⟩
  · decide
  · exact .inr (.inr ((decodesQuietly_byteCodec_iff rfl []).mpr rfl))

/-- Without metadata a call is completed with a nil error and a raw one panics; and so
does a call whose reply is a struct if the frame says that its payload is raw bytes. -/
theorem error_response_unreported :
    let call := connected.stepSend true true
    let raw := connected.register .sendRaw 0 0
    let table := byteTable false
    let completed := call.receive table (fun _ => []) (errorReply none [])
    (completed.crashed = false ∧ (completed.calls 0).completions = 1 ∧ (completed.calls 0).error = none) ∧
      (raw.receive table (fun _ => []) (errorReply none [])).crashed = true ∧
      (call.receive table (fun _ => []) (errorReply (some refusal) [1])).crashed = true := by
  refine ⟨⟨?_, ?_, ?_⟩, ?_, ?_⟩ <;> decide +kernel

end Receive

end Irpc.Client
