import Irpc.Client.Steps

/-! What becomes of a call: it is completed at most once, and once it is pending
it stays so until it is completed. Each needs a condition on the run. -/
namespace Irpc.Client

open Irpc.Foundation Irpc.Protocol

variable {client after : Client} {event : Event} {id : Nat} {seq : UInt64}

/-- What is stored under a number was stored after the shutdown, if there was one. -/
def Fresh (client : Client) (seq : UInt64) : Prop :=
  client.shutdown = true → ∀ id, client.pending.lookup seq = some id → (client.calls id).late = true

/-- The call whose arguments do not encode is still pending, and nothing that was
pending at the shutdown is taken out of `pending` afterwards. -/
def CompletesFresh (client : Client) : Event → Prop
  | .encodeFailed id _ =>
    client.shutdown = false ∧ client.pending.lookup (client.calls id).seq = some id
  | .writeFailed id _ => Fresh client (client.calls id).seq
  | .written id oneway => oneway = true → Fresh client (client.calls id).seq
  | .cancel id _ => Fresh client (client.calls id).seq
  | .close => ∀ seq, Fresh client seq
  | _ => True

/-- A pending call is not complete, unless it was pending at the shutdown. -/
structure Once (client : Client) : Prop where
  wellFormed : WellFormed client
  fresh : ∀ seq id, client.pending.lookup seq = some id →
    (client.shutdown = true → (client.calls id).late = true) → (client.calls id).completions = 0
  once : ∀ id, (client.calls id).completions ≤ 1

/-- The goroutine that reads responses runs before the shutdown only. -/
theorem WellFormed.running_of_input (wf : WellFormed client) (moved : client.step event = some after)
    (input : event = .terminate ∨ ∃ res decoded, event = .respond res decoded) :
    client.shutdown = false := by
  have running : client.input ≠ .stopped := by
    intro stopped
    unfold Client.step at moved
    split at moved
    · cases moved
    · rcases input with rfl | ⟨res, decoded, rfl⟩
      · simp [stopped] at moved
      · simp [stopped] at moved
  rw [Ne, ← wf.stopped, Bool.not_eq_true] at running
  exact running

theorem Once.settles_fresh (once : Once client) (fresh : CompletesFresh client event)
    (moved : client.step event = some after) (settled : Settled client event id) :
    (client.calls id).completions = 0 := by
  have pending : ∀ seq, client.pending.lookup seq = some id → Fresh client seq →
      (client.calls id).completions = 0 := fun seq stored fresh =>
    once.fresh seq id stored fun shutdown => fresh shutdown id stored
  have running : ∀ seq, client.pending.lookup seq = some id → client.shutdown = false →
      (client.calls id).completions = 0 := fun seq stored active =>
    once.fresh seq id stored fun shutdown => by simp [active] at shutdown
  cases event with
  | encodeFailed failed err =>
    cases settled
    exact running _ fresh.2 fresh.1
  | writeFailed failed err => exact pending _ settled fresh
  | written sent oneway => exact pending _ settled.2 (fresh settled.1)
  | cancel cancelled err => exact pending _ settled fresh
  | respond res decoded =>
    exact running _ settled.2.1 (once.wellFormed.running_of_input moved (.inr ⟨res, decoded, rfl⟩))
  | terminate =>
    obtain ⟨seq, stored⟩ := mem_pendingCalls.mp settled
    exact running seq stored (once.wellFormed.running_of_input moved (.inl rfl))
  | close =>
    obtain ⟨seq, stored⟩ := mem_pendingCalls.mp settled
    exact pending seq stored (fresh seq)
  | _ => exact settled.elim

theorem Once.step (once : Once client) (fresh : CompletesFresh client event)
    (moved : client.step event = some after) : Once after := by
  have wf := once.wellFormed
  refine ⟨wf.step moved, ?_, ?_⟩
  · intro seq id stored isFresh
    rcases step_cases wf moved with ⟨invocation, err, rfl⟩ | ⟨invocation, number, counter, -, rfl⟩ | advances
    · have used : id < client.next := wf.used_of_pending stored
      rw [calls_reject_of_used used] at isFresh ⊢
      exact once.fresh seq id stored isFresh
    · rw [lookup_register] at stored
      split at stored
      · cases stored
        rw [calls_register, if_pos rfl]
      · have used := wf.used_of_pending stored
        rw [calls_register_of_used used] at isFresh ⊢
        exact once.fresh seq id stored isFresh
    · obtain ⟨earlier, terminates⟩ := advances.pending seq id stored
      rw [(advances.keeps id).late] at isFresh
      by_cases settled : Settled client event id
      · have shutdown := wf.late id (isFresh (advances.shutdown.mpr (.inr (terminates settled))))
        have running := wf.running_of_input moved (.inl (terminates settled))
        rw [running] at shutdown
        cases shutdown
      · rw [(advances.same id settled).1]
        exact once.fresh seq id earlier fun shutdown => isFresh (advances.shutdown.mpr (.inl shutdown))
  · intro id
    rcases step_cases wf moved with ⟨invocation, err, rfl⟩ | ⟨invocation, number, counter, -, rfl⟩ | advances
    · rw [calls_reject]
      split
      · exact le_rfl
      · exact once.once id
    · rw [calls_register]
      split
      · exact Nat.zero_le _
      · exact once.once id
    · by_cases settled : Settled client event id
      · rw [advances.settled id settled, once.settles_fresh fresh moved settled]
      · rw [(advances.same id settled).1]
        exact once.once id

theorem Once.completed_same (once : Once client) (fresh : CompletesFresh client event)
    (moved : client.step event = some after) (completed : 0 < (client.calls id).completions) :
    (after.calls id).completions = (client.calls id).completions ∧
      (after.calls id).error = (client.calls id).error := by
  have used : id < client.next := by
    by_contra beyond
    rw [once.wellFormed.unused id (by omega)] at completed
    exact absurd completed (by decide)
  rcases step_cases once.wellFormed moved with
    ⟨invocation, err, rfl⟩ | ⟨invocation, number, counter, -, rfl⟩ | advances
  · rw [calls_reject_of_used used]
    exact ⟨rfl, rfl⟩
  · rw [calls_register_of_used used]
    exact ⟨rfl, rfl⟩
  · refine advances.same id fun settled => ?_
    rw [once.settles_fresh fresh moved settled] at completed
    exact absurd completed (lt_irrefl 0)

/-- In a run whose steps complete only fresh calls, `done` is invoked at most once
on each call, and the error of a completed call does not change any more. -/
theorem completed_at_most_once (reached : system.Reached CompletesFresh client) :
    (∀ id, (client.calls id).completions ≤ 1) ∧
      ∀ event after id, CompletesFresh client event → client.step event = some after →
        0 < (client.calls id).completions →
        (after.calls id).completions = (client.calls id).completions ∧
          (after.calls id).error = (client.calls id).error := by
  have once : Once client := by
    refine reached.invariant ?_ ?_
    · rintro _ rfl
      exact ⟨wellFormed_connected, by simp [connected], by simp [connected, unused]⟩
    · intro client event after once fresh moved
      exact once.step fresh moved
  exact ⟨once.once, fun event after id fresh moved => once.completed_same fresh moved⟩

/-- A call sent with `Go`, answered, and then the connection lost. -/
theorem completed_at_most_once_answered :
    ∃ client, system.Reached CompletesFresh client ∧ (client.calls 0).completions = 1 ∧
      ∀ event after, CompletesFresh client event → client.step event = some after →
        (after.calls 0).completions = 1 := by
  have start : system.Reached CompletesFresh connected := .start rfl
  have answered := ((start.step (.send false true) trivial rfl).step (.written 0 false)
    (by simp [CompletesFresh]) rfl).step (.respond .newMessage none) trivial rfl
  have lost := (answered.step (.disconnect .eof) trivial rfl).step .terminate trivial rfl
  exact ⟨_, lost, rfl, fun event after fresh moved =>
    ((completed_at_most_once lost).2 event after 0 fresh moved (by decide)).1⟩

/-- The connection is lost while a call is being written. It is completed for the
lost connection and again for the failed write. -/
theorem completed_twice :
    ∃ client, system.play connected
        [.send false true, .disconnect .eof, .terminate, .writeFailed 0 (.plain (utf8 "broken pipe"))] =
          some client ∧
      system.Reachable client ∧ (client.calls 0).completions = 2 := by
  have start : system.Reachable connected := .start rfl
  have played : system.play connected
      [.send false true, .disconnect .eof, .terminate, .writeFailed 0 (.plain (utf8 "broken pipe"))] =
        some _ := rfl
  exact ⟨_, played, start.play played, rfl⟩

/-- A number that is stored in `pending` is not given to another call, a call whose
arguments do not encode is the one stored under its number, and an error response
to a raw call has metadata. -/
def KeepsCalls (client : Client) : Event → Prop
  | .send _ codec => client.shutdown = false → client.closing = false → codec = true →
    client.pending.lookup client.seq = none
  | .sendRaw seq => client.pending.lookup seq = none
  | .encodeFailed id _ => ∀ other, client.pending.lookup (client.calls id).seq = some other → other = id
  | .respond res _ => ∀ id, client.pending.lookup res.header.seq = some id →
    res.header.messageStatusType = .error → (client.calls id).invocation = .sendRaw →
    res.metadata.getD ∅ ≠ ∅
  | _ => True

/-- Every call that was stored in `pending` is there still, or complete. -/
structure Kept (client : Client) : Prop where
  wellFormed : WellFormed client
  kept : ∀ id, (client.calls id).registered = true →
    client.pending.lookup (client.calls id).seq = some id ∨ 0 < (client.calls id).completions

/-- Only an error response without metadata to a raw call makes `input` panic. -/
theorem answer_isSome {record : CallRecord} {res : Message} (decoded : Option (Option GoError))
    (safe : res.header.messageStatusType = .error → record.invocation = .sendRaw →
      res.metadata.getD ∅ ≠ ∅) : record.answer res decoded ≠ none := by
  unfold CallRecord.answer
  split
  case isFalse => simp
  case isTrue failed =>
    simp only [ne_eq, Option.map_eq_none_iff]
    unfold CallRecord.answerError
    dsimp only
    split
    case isTrue raw =>
      have described := safe failed raw
      simp [CallRecord.responseError, described]
    case isFalse => split <;> simp

theorem KeepsCalls.not_loses (keeps : KeepsCalls client event) : ¬ Loses client event id := by
  intro loses
  cases event with
  | encodeFailed failed err => exact loses.2 (keeps id loses.1)
  | respond res decoded =>
    obtain ⟨-, stored, panics⟩ := loses
    exact answer_isSome decoded (keeps id stored) panics
  | _ => exact loses

theorem KeepsCalls.free (keeps : KeepsCalls client event) (registers : Registers client event seq) :
    client.pending.lookup seq = none := by
  cases event with
  | send waits codec =>
    obtain ⟨running, accepting, coded, rfl⟩ := registers
    exact keeps running accepting coded
  | sendRaw number =>
    cases registers
    exact keeps
  | _ => exact registers.elim

theorem Kept.register (kept : Kept client) (invocation : Invocation) (counter : UInt64)
    (free : client.pending.lookup seq = none) : Kept (client.register invocation seq counter) := by
  refine ⟨kept.wellFormed.register invocation seq counter, ?_⟩
  intro id registered
  rw [lookup_register]
  by_cases same : id = client.next
  · rw [calls_register, if_pos same]
    exact .inl (by rw [if_pos rfl, same])
  · rw [calls_register, if_neg same] at registered ⊢
    rcases kept.kept id registered with stored | completed
    · refine .inl ?_
      rw [if_neg, stored]
      intro taken
      rw [taken, free] at stored
      cases stored
    · exact .inr completed

theorem Kept.advance (kept : Kept client) (advances : Advances client event after)
    (keeps : KeepsCalls client event) : Kept after := by
  refine ⟨kept.wellFormed.advance advances, ?_⟩
  intro id registered
  rw [(advances.keeps id).registered] at registered
  rw [(advances.keeps id).seq]
  by_cases settled : Settled client event id
  · exact .inr (by rw [advances.settled id settled]; exact Nat.succ_pos _)
  · rcases kept.kept id registered with stored | completed
    · rcases advances.gone _ id stored with remains | isSettled | loses
      · exact .inl remains
      · exact absurd isSettled settled
      · exact absurd loses keeps.not_loses
    · exact .inr (by rwa [(advances.same id settled).1])

theorem Kept.step (kept : Kept client) (keeps : KeepsCalls client event)
    (moved : client.step event = some after) : Kept after := by
  rcases step_cases kept.wellFormed moved with
    ⟨invocation, err, rfl⟩ | ⟨invocation, number, counter, registers, rfl⟩ | advances
  · refine ⟨kept.wellFormed.reject invocation err, ?_⟩
    intro id registered
    rw [calls_reject] at registered ⊢
    split at registered
    · cases registered
    case isFalse older =>
      rw [if_neg older]
      exact kept.kept id registered
  · exact kept.register invocation counter (keeps.free registers)
  · exact kept.advance advances keeps

/-- In a run that keeps its numbers apart no call is lost: a call that was stored
in `pending` is there under its number, or complete, and no step takes an entry
away without completing its call. -/
theorem no_call_lost (reached : system.Reached KeepsCalls client) :
    (∀ id, (client.calls id).registered = true →
      client.pending.lookup (client.calls id).seq = some id ∨ 0 < (client.calls id).completions) ∧
    ∀ event after seq id, KeepsCalls client event → client.step event = some after →
      client.pending.lookup seq = some id →
      after.pending.lookup seq = some id ∨ 0 < (after.calls id).completions := by
  have kept : Kept client := by
    refine reached.invariant ?_ ?_
    · rintro _ rfl
      exact ⟨wellFormed_connected, by simp [connected, unused]⟩
    · intro client event after kept keeps moved
      exact kept.step keeps moved
  have wf := kept.wellFormed
  refine ⟨kept.kept, ?_⟩
  intro event after seq id keeps moved stored
  rcases step_cases wf moved with ⟨invocation, err, rfl⟩ | ⟨invocation, number, counter, registers, rfl⟩ | advances
  · exact .inl stored
  · refine .inl ?_
    rw [lookup_register, if_neg, stored]
    rintro rfl
    rw [keeps.free registers] at stored
    cases stored
  · rcases advances.gone seq id stored with remains | settled | loses
    · exact .inl remains
    · exact .inr (by rw [advances.settled id settled]; exact Nat.succ_pos _)
    · exact absurd loses keeps.not_loses

/-- A call sent with `Go` and a raw message with another number. -/
theorem no_call_lost_apart :
    ∃ client, system.Reached KeepsCalls client ∧ (client.calls 0).registered = true ∧
      (client.pending.lookup (client.calls 0).seq = some 0 ∨ 0 < (client.calls 0).completions) := by
  have start : system.Reached KeepsCalls connected := .start rfl
  have sent := (start.step (.send false true) (fun _ _ _ => rfl) rfl).step (.sendRaw 7) rfl rfl
  exact ⟨_, sent, rfl, (no_call_lost sent).1 0 rfl⟩

/-- A raw message with the number of a pending call takes its place. -/
theorem call_lost :
    ∃ client, system.play connected [.send false true, .sendRaw 0] = some client ∧
      system.Reachable client ∧ (client.calls 0).registered = true ∧
      client.pending.lookup (client.calls 0).seq ≠ some 0 ∧ (client.calls 0).completions = 0 := by
  have start : system.Reachable connected := .start rfl
  have played : system.play connected [.send false true, .sendRaw 0] = some _ := rfl
  exact ⟨_, played, start.play played, rfl, by decide, rfl⟩

end Irpc.Client
