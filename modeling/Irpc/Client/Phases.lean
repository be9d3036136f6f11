import Irpc.Client.Steps

/-! How far the goroutine of a call has come: it sends its request once, and only if the call
was stored in `pending`. -/
namespace Irpc.Client

open Irpc.Foundation Irpc.Protocol

variable {client after : Client} {event : Event} {id : Nat}

namespace CallRecord

theorem phase_noteMetadata (record : CallRecord) (res : Message) :
    (record.noteMetadata res).phase = record.phase := by
  unfold noteMetadata
  split <;> rfl

theorem phase_answer {record answered : CallRecord} (answers : record.answer res decoded = some (answered, err)) :
    answered.phase = record.phase := by
  have noted := record.phase_noteMetadata res
  unfold answer at answers
  split at answers
  · obtain ⟨failed, found, same⟩ := Option.map_eq_some_iff.mp answers
    cases same
    unfold answerError at found
    dsimp only at found
    split at found
    · split at found
      · cases found
      · cases found
        exact noted
    · split at found
      · cases found
        exact noted
      · cases found
        exact noted
  · have answered := Option.some.inj answers
    unfold answerNormal at answered
    split at answered
    · cases answered
      rfl
    · split at answered
      · cases answered
        exact noted
      · split at answered <;>
          (cases answered
           exact noted)

theorem phase_afterSend (record : CallRecord) : record.afterSend.phase ≠ .sending := by
  unfold afterSend
  split <;> exact nofun

end CallRecord

theorem phase_take {settle : CallRecord → CallRecord} (settles : ∀ record, (settle record).phase = record.phase)
    (seq : UInt64) (id : Nat) : ((client.take seq settle).calls id).phase = (client.calls id).phase := by
  rw [calls_take]
  split
  · exact settles _
  · rfl

theorem phase_failAll (calls : Nat → CallRecord) (err : GoError) (ids : List Nat) (id : Nat) :
    (failAll calls err ids id).phase = (calls id).phase := by
  induction ids generalizing calls with
  | nil => rfl
  | cons first rest ih =>
    refine (ih (Function.update calls first ((calls first).fail err))).trans ?_
    by_cases same : id = first
    · subst same
      rw [Function.update_self]
      rfl
    · rw [Function.update_of_ne same]

theorem phase_stepRespond (client : Client) (res : Message) (decoded : Option (Option GoError)) (id : Nat) :
    ((client.stepRespond res decoded).calls id).phase = (client.calls id).phase := by
  unfold stepRespond
  split
  · rfl
  · split
    · rfl
    case h_2 found stored =>
      dsimp only
      split
      · rfl
      case h_2 record err answers =>
        dsimp only
        rw [calls_modify]
        split
        case isTrue same =>
          subst same
          exact (CallRecord.phase_answer answers :)
        case isFalse => rfl

/-- The call whose goroutine is done with sending by the step. -/
def sentBy : Event → Option Nat
  | .encodeFailed id _ => some id
  | .writeFailed id _ => some id
  | .written id _ => some id
  | _ => none

/-- The change a step makes to a call of its own ends its sending, or is none of it. -/
theorem phase_modify {client : Client} {change : CallRecord → CallRecord} (moved : Nat)
    (leaves : ∀ record, (change record).phase ≠ .sending)
    (sending : ((client.modify moved change).calls id).phase = .sending) :
    id ≠ moved ∧ (client.calls id).phase = .sending := by
  rw [calls_modify] at sending
  split at sending
  case isTrue same =>
    exact absurd sending (leaves _)
  case isFalse other => exact ⟨other, sending⟩

/-- A call that still has to send its request had to before, and has not sent it by the step. -/
theorem sending_of_step (moved : client.step event = some after) (used : id < client.next)
    (sending : (after.calls id).phase = .sending) :
    (client.calls id).phase = .sending ∧ sentBy event ≠ some id := by
  unfold step at moved
  split at moved
  · cases moved
  cases event with
  | send waits codec =>
    cases moved
    refine ⟨?_, nofun⟩
    unfold stepSend at sending
    dsimp only at sending
    split at sending
    · rwa [calls_reject_of_used used] at sending
    · split at sending
      · rwa [calls_reject_of_used used] at sending
      · rwa [calls_register_of_used used] at sending
  | sendRaw seq =>
    cases moved
    rw [calls_register_of_used used] at sending
    exact ⟨sending, nofun⟩
  | encodeFailed moving err =>
    obtain ⟨-, ⟨⟩⟩ := Option.ite_none_right_eq_some.mp moved
    obtain ⟨other, before⟩ := phase_modify moving (fun _ => CallRecord.phase_afterSend _) sending
    exact ⟨before, fun same => other (Option.some.inj same).symm⟩
  | writeFailed moving err =>
    obtain ⟨-, ⟨⟩⟩ := Option.ite_none_right_eq_some.mp moved
    obtain ⟨other, before⟩ := phase_modify moving (fun _ => CallRecord.phase_afterSend _) sending
    rw [phase_take (fun record : CallRecord => (rfl : (record.fail err).phase = record.phase))] at before
    exact ⟨before, fun same => other (Option.some.inj same).symm⟩
  | written moving oneway =>
    dsimp only at moved
    split at moved
    · split at moved
      · cases moved
        obtain ⟨other, before⟩ := phase_modify moving (fun _ => CallRecord.phase_afterSend _) sending
        rw [phase_take (fun record : CallRecord => (rfl : record.finish.phase = record.phase))] at before
        exact ⟨before, fun same => other (Option.some.inj same).symm⟩
      · cases moved
        obtain ⟨other, before⟩ := phase_modify moving (fun _ => by dsimp only; split <;> exact nofun) sending
        exact ⟨before, fun same => other (Option.some.inj same).symm⟩
    · cases moved
  | cancel moving err =>
    obtain ⟨-, ⟨⟩⟩ := Option.ite_none_right_eq_some.mp moved
    obtain ⟨-, before⟩ := phase_modify moving (fun _ => by exact nofun) sending
    rw [phase_take (fun record : CallRecord => (rfl : (record.fail err).phase = record.phase))] at before
    exact ⟨before, nofun⟩
  | receive moving =>
    obtain ⟨-, ⟨⟩⟩ := Option.ite_none_right_eq_some.mp moved
    obtain ⟨-, before⟩ := phase_modify moving (fun _ => by exact nofun) sending
    exact ⟨before, nofun⟩
  | respond res decoded =>
    obtain ⟨-, ⟨⟩⟩ := Option.ite_none_right_eq_some.mp moved
    rw [phase_stepRespond] at sending
    exact ⟨sending, nofun⟩
  | disconnect err =>
    obtain ⟨-, ⟨⟩⟩ := Option.ite_none_right_eq_some.mp moved
    exact ⟨sending, nofun⟩
  | terminate =>
    dsimp only at moved
    split at moved
    · cases moved
      refine ⟨?_, nofun⟩
      rw [← sending]
      exact (phase_failAll ..).symm
    · cases moved
  | close =>
    cases moved
    refine ⟨?_, nofun⟩
    rw [← sending]
    unfold stepClose
    dsimp only
    split <;> exact (phase_failAll ..).symm
  | unlockAgain =>
    obtain ⟨-, ⟨⟩⟩ := Option.ite_none_right_eq_some.mp moved
    exact ⟨sending, nofun⟩

/-- The goroutine that sends a request is that of a call in its first phase. -/
theorem sending_of_sentBy (moved : client.step event = some after) (sends : sentBy event = some id) :
    (client.calls id).phase = .sending := by
  unfold step at moved
  split at moved
  · cases moved
  cases event with
  | encodeFailed moving err =>
    cases sends
    exact (Option.ite_none_right_eq_some.mp moved).1.1
  | writeFailed moving err =>
    cases sends
    exact (Option.ite_none_right_eq_some.mp moved).1
  | written moving oneway =>
    cases sends
    dsimp only at moved
    split at moved
    case isTrue sending => exact sending
    case isFalse => cases moved
  | _ => cases sends

/-- A call that has to send its request was stored in `pending`. -/
theorem registered_of_step (wf : WellFormed client) (moved : client.step event = some after)
    (registered : ∀ id, (client.calls id).phase = .sending → (client.calls id).registered = true)
    (id : Nat) (sending : (after.calls id).phase = .sending) : (after.calls id).registered = true := by
  have older : ∀ {id}, id < client.next → (after.calls id).phase = .sending →
      (client.calls id).registered = true :=
    fun used sending => registered _ (sending_of_step moved used sending).1
  rcases step_cases wf moved with ⟨invocation, err, rfl⟩ | ⟨invocation, number, counter, -, rfl⟩ | advances
  · by_cases same : id = client.next
    · rw [calls_reject, if_pos same] at sending
      exact absurd sending (CallRecord.phase_afterSend _)
    · rw [calls_reject, if_neg same] at sending ⊢
      exact registered id sending
  · by_cases same : id = client.next
    · rw [calls_register, if_pos same]
    · rw [calls_register, if_neg same] at sending ⊢
      exact registered id sending
  · rw [(advances.keeps id).registered]
    by_cases used : id < client.next
    · exact older used sending
    · rw [advances.unused id (by omega)] at sending
      exact registered id sending

end Irpc.Client
