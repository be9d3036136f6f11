import Irpc.Client.Completion
import Irpc.Protocol.PooledRequest

/-! `Client.send` from its first lock to its return, with the message it builds
the request in. -/
namespace Irpc.Client

open Irpc.Foundation Irpc.Protocol

variable {Value : Type}

/-- The message as `FreeMsg` leaves it for a caller that still looks at it. -/
def freed (message : Message) : Message :=
  if message.data.cap < 1024 then message.reset else message

/-- `encoded` is what the codec makes of the arguments, if there is a codec;
`write` is the error of writing the frame; and `reuse` is what other goroutines,
which may find the freed message in the pool, do to it before `send` looks at its
one-way bit. -/
def send (client : Client) (option : ClientOption) (hook : BeforeEncode) (call : Call Value)
    (waits : Bool) (encoded : Option (Except GoError Bytes)) (pooled : Message)
    (write : Option GoError) (reuse : List Message.Edit) : Option Client :=
  (client.step (.send waits encoded.isSome)).bind fun issued =>
    if client.shutdown || client.closing then some issued
    else
      match encoded, write with
      | none, _ => some issued
      | some (.error err), _ => issued.step (.encodeFailed client.next err)
      | some (.ok _), some err => issued.step (.writeFailed client.next err)
      | some (.ok data), none =>
        let req := freed (sendRequest option hook call client.seq data pooled)
        issued.step (.written client.next (reuse.foldl Message.edit req).header.isOneway)

/-- The one-way bit of a cleared message after some edits. -/
def SetsOneway (reuse : List Message.Edit) : Prop :=
  (reuse.foldl Message.edit .newMessage).header.isOneway = true

theorem flags_edit {left right : Message} (same : left.header.flags = right.header.flags)
    (edit : Message.Edit) : (left.edit edit).header.flags = (right.edit edit).header.flags := by
  cases edit with
  | header setter => exact Header.flags_set same setter
  | _ => exact same

theorem flags_edits (edits : List Message.Edit) (left right : Message)
    (same : left.header.flags = right.header.flags) :
    (edits.foldl Message.edit left).header.flags = (edits.foldl Message.edit right).header.flags := by
  induction edits generalizing left right with
  | nil => exact same
  | cons edit rest ih => exact ih _ _ (flags_edit same edit)

/-- A request built in a message from the pool is cleared when it is freed, so the
one-way bit that `send` tests is what others have made of it. -/
theorem isOneway_freed (small : pooled.data.cap < 1024) (option : ClientOption) (hook : BeforeEncode)
    (call : Call Value) (seq : UInt64) (data : Bytes) (reuse : List Message.Edit) :
    (reuse.foldl Message.edit (freed (sendRequest option hook call seq data pooled))).header.isOneway =
        true ↔ SetsOneway reuse := by
  have kept : (sendRequest option hook call seq data pooled).data = pooled.data := by
    rw [sendRequest, data_run]
  rw [freed, kept, if_pos small, SetsOneway, Header.isOneway, Header.isOneway]
  rw [flags_edits reuse _ .newMessage (by
    simp [Message.reset, Message.resetHeader, Message.newMessage, Header.fresh])]

/-- Sending a one-way call without error takes it out of `pending` and completes
it. -/
structure CompletesOnSend (client after : Client) : Prop where
  removed : after.pending.lookup client.seq = none
  completed : (after.calls client.next).completions = 1

/-- A one-way call is completed on sending just when another goroutine has found
the freed message and set its one-way bit. Otherwise the call stays in `pending`
after `send` has returned, although no response will come. -/
theorem oneway_completes_iff (client : Client) (alive : client.crashed = false)
    (running : client.shutdown = false) (accepting : client.closing = false)
    (reachable : (MessagePool.system config).Reachable pool) (pick : Nat) (option : ClientOption)
    (hook : BeforeEncode) (path method : Bytes) (metadata : Option Metadata) (args : Option Value)
    (waits : Bool) (data : Bytes) (reuse : List Message.Edit) :
    ∃ after, client.send option hook ⟨path, method, metadata, args, none⟩ waits (some (.ok data))
        (pool.getPooledMsg pick).1 none reuse = some after ∧
      (CompletesOnSend client after ↔ SetsOneway reuse) ∧
      (¬ SetsOneway reuse → after.pending.lookup client.seq = some client.next ∧
        (after.calls client.next).completions = 0 ∧ (after.calls client.next).phase ≠ .sending) := by
  have small := ((MessagePool.all_small reachable).getPooledMsg (by decide) pick).1
  have tested := isOneway_freed small option hook
    (⟨path, method, metadata, args, none⟩ : Call Value) client.seq data reuse
  have issued : client.step (.send waits true) =
      some (client.register (if waits then .call else .go) client.seq (client.seq + 1)) := by
    simp [step, stepSend, alive, running, accepting]
  generalize (if waits then Invocation.call else .go) = invocation at issued
  have stored : (client.register invocation client.seq (client.seq + 1)).pending.lookup client.seq =
      some client.next := by rw [lookup_register, if_pos rfl]
  have sending : (client.register invocation client.seq (client.seq + 1)).calls client.next =
      { invocation, seq := client.seq, phase := .sending, registered := true, late := client.shutdown } := by
    rw [calls_register, if_pos rfl]
  have lives : (client.register invocation client.seq (client.seq + 1)).crashed = false := alive
  simp only [send, Option.isSome_some, issued, Option.bind_some, running, accepting, Bool.or_self,
    Bool.false_eq_true, ↓reduceIte]
  generalize client.register invocation client.seq (client.seq + 1) = issued at stored sending lives ⊢
  by_cases set : SetsOneway reuse
  · have seen := tested.mpr set
    refine ⟨(issued.take client.seq CallRecord.finish).modify client.next CallRecord.afterSend, ?_,
      iff_of_true ⟨?_, ?_⟩ set, fun unset => absurd set unset⟩
    · simp [step, lives, sending, seen]
    · rw [pending_modify, lookup_take, if_pos rfl]
    · rw [calls_modify, if_pos rfl, calls_take, if_pos stored, sending]
      rfl
  · have seen := (Bool.not_eq_true _).mp (mt tested.mp set)
    refine ⟨issued.modify client.next fun record =>
      { record with phase := if record.invocation = .go then .returned else .waiting }, ?_, ?_, ?_⟩
    · simp [step, lives, sending, seen]
    · refine iff_of_false (fun completes => ?_) set
      have missing := completes.removed
      rw [pending_modify, stored] at missing
      cases missing
    · intro _
      refine ⟨stored, ?_, ?_⟩
      · rw [calls_modify, if_pos rfl, sending]
      · rw [calls_modify, if_pos rfl, sending]
        cases invocation <;> simp

/-- Another goroutine takes the freed message for a one-way request of its own. -/
theorem oneway_completes_reused :
    ∃ after, connected.send ⟨.msgPack, .none⟩ (fun _ => [])
        (⟨utf8 "Log", utf8 "Write", none, none, none⟩ : Call Unit) false (some (.ok [1]))
        .newMessage none [.header (.oneway true)] = some after ∧ CompletesOnSend connected after := by
  have start : (MessagePool.system plainConfig).Reachable .empty := .start rfl
  obtain ⟨after, sent, completes, -⟩ := oneway_completes_iff connected rfl rfl rfl start 0
    ⟨.msgPack, .none⟩ (fun _ => []) (utf8 "Log") (utf8 "Write") none (none : Option Unit) false [1]
    [.header (.oneway true)]
  exact ⟨after, sent, completes.mpr (by rw [SetsOneway]; decide)⟩

/-- The first one-way call of a client, in a new message and without interference. -/
theorem oneway_stays_pending :
    ∃ after, connected.send ⟨.msgPack, .none⟩ (fun _ => [])
        (⟨utf8 "Log", utf8 "Write", none, none, none⟩ : Call Unit) false (some (.ok [1]))
        .newMessage none [] = some after ∧
      system.Reachable after ∧ (∀ id, (after.calls id).phase ≠ .sending) ∧
      ¬ CompletesOnSend connected after ∧ after.pending.lookup 0 = some 0 := by
  have start : system.Reachable connected := .start rfl
  have played : system.play connected [.send false true, .written 0 false] = some _ := rfl
  refine ⟨_, rfl, start.play played, ?_, ?_, rfl⟩
  · intro id
    cases id <;> exact nofun
  · intro completes
    cases completes.completed

end Irpc.Client
