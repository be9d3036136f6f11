import Irpc.Client.Correlation

/-! What one call can do to the others: by being cancelled, and by a response that
does not decode. -/
namespace Irpc.Client

open Irpc.Foundation Irpc.Protocol

variable {client after : Client} {event : Event} {id : Nat} {seq : UInt64}

/-- The step takes no call out of `pending` and completes none, apart from the one call
if that was stored there. -/
def Isolated (client : Client) (id : Nat) (after : Client) : Prop :=
  ∀ other, ¬ (other = id ∧ (client.calls id).registered = true) →
    (∀ seq, client.pending.lookup seq = some other → after.pending.lookup seq = some other) ∧
      (after.calls other).completions = (client.calls other).completions

/-- A goroutine whose call was not stored in `pending` remembers the number zero. -/
def ZeroUnlessStored (client : Client) : Prop :=
  ∀ id, (client.calls id).registered = false → (client.calls id).seq = 0

theorem ZeroUnlessStored.step (zero : ZeroUnlessStored client) (wf : WellFormed client)
    (moved : client.step event = some after) : ZeroUnlessStored after := by
  intro id unregistered
  rcases step_cases wf moved with ⟨invocation, err, rfl⟩ | ⟨invocation, number, counter, -, rfl⟩ | advances
  · rw [calls_reject] at unregistered ⊢
    split at unregistered
    case isTrue same =>
      rw [if_pos same]
      rfl
    case isFalse older =>
      rw [if_neg older]
      exact zero id unregistered
  · rw [calls_register] at unregistered ⊢
    split at unregistered
    · cases unregistered
    case isFalse older =>
      rw [if_neg older]
      exact zero id unregistered
  · rw [(advances.keeps id).registered] at unregistered
    rw [(advances.keeps id).seq]
    exact zero id unregistered

theorem invariants_of_reachable (reachable : system.Reachable client) :
    WellFormed client ∧ ZeroUnlessStored client := by
  induction reachable with
  | start initial =>
    cases initial
    exact ⟨wellFormed_connected, fun _ _ => rfl⟩
  | step _ event _ moved ih => exact ⟨ih.1.step moved, ih.2.step ih.1 moved⟩

/-- What is stored under the number the cancelled call remembers is that call. -/
def CancelsOwn (client : Client) (id : Nat) : Prop :=
  if (client.calls id).registered = true then
    ∀ other, client.pending.lookup (client.calls id).seq = some other → other = id
  else client.pending.lookup 0 = none

theorem cancelsOwn_iff (wf : WellFormed client) (zero : ZeroUnlessStored client) :
    CancelsOwn client id ↔
      ∀ other, client.pending.lookup (client.calls id).seq = some other → other = id := by
  unfold CancelsOwn
  split
  case isTrue => exact Iff.rfl
  case isFalse unregistered =>
    rw [Bool.not_eq_true] at unregistered
    rw [zero id unregistered]
    constructor
    · intro free other stored
      rw [free] at stored
      cases stored
    · intro own
      apply Option.eq_none_iff_forall_not_mem.mpr
      intro other stored
      have same := own other stored
      subst same
      rw [(wf.numbered 0 other stored).2] at unregistered
      cases unregistered

theorem cancel_of_step (moved : client.step (.cancel id err) = some after) :
    (client.calls id).phase = .waiting ∧
      after = (client.take (client.calls id).seq (·.fail err)).modify id fun record =>
        { record with phase := .returned } := by
  unfold step at moved
  split at moved
  · cases moved
  · dsimp only at moved
    split at moved
    case isTrue waiting => exact ⟨waiting, (Option.some.inj moved).symm⟩
    case isFalse => cases moved

/-- The cancel branch removes and completes no other call exactly if nothing but its
own call is stored under the number it remembers: for a call that `send` turned away,
if nothing is stored under zero. -/
theorem cancel_isolated_iff (reachable : system.Reachable client)
    (moved : client.step (.cancel id err) = some after) :
    Isolated client id after ↔ CancelsOwn client id := by
  obtain ⟨wf, zero⟩ := invariants_of_reachable reachable
  obtain ⟨-, rfl⟩ := cancel_of_step moved
  rw [cancelsOwn_iff wf zero]
  constructor
  · intro isolated other stored
    by_contra different
    have remains := (isolated other fun own => different own.1).1 _ stored
    rw [pending_modify, lookup_take, if_pos rfl] at remains
    cases remains
  · intro own other foreign
    have free : client.pending.lookup (client.calls id).seq ≠ some other := by
      intro stored
      have same := own other stored
      subst same
      exact foreign ⟨rfl, (wf.numbered _ other stored).2⟩
    constructor
    · intro seq stored
      rw [pending_modify, lookup_take, if_neg, stored]
      rintro rfl
      exact free stored
    · rw [calls_modify, calls_take, if_neg free]
      split <;> rfl

theorem cancel_isolated_iff_pair :
    ∃ client after, system.Reachable client ∧
      client.step (.cancel 1 (.plain (utf8 "context canceled"))) = some after ∧
      client.pending.lookup 0 = some 0 ∧ Isolated client 1 after := by
  have start : system.Reachable connected := .start rfl
  have played : system.play connected [.send true true, .send true true, .written 1 false] = some _ := rfl
  refine ⟨_, _, start.play played, rfl, rfl, ?_⟩
  apply (cancel_isolated_iff (start.play played) rfl).mpr
  intro other stored
  exact (Option.some.inj stored).symm

/-- A call that is turned away for want of a codec takes the pending call with the
number zero along when it is cancelled. -/
theorem cancel_completes_other_call :
    ∃ client after, system.play connected [.send true true, .written 0 false, .send true false] =
        some client ∧ system.Reachable client ∧ (client.calls 1).registered = false ∧
      client.step (.cancel 1 (.plain (utf8 "context canceled"))) = some after ∧
      client.pending.lookup 0 = some 0 ∧ after.pending.lookup 0 = none ∧
      (client.calls 0).completions = 0 ∧ (after.calls 0).completions = 1 := by
  have start : system.Reachable connected := .start rfl
  have played : system.play connected [.send true true, .written 0 false, .send true false] = some _ := rfl
  exact ⟨_, _, played, start.play played, rfl, rfl, rfl, rfl, rfl, rfl⟩

/-- Without raw messages every call that was stored is cancelled alone. -/
theorem cancelsOwn_of_numbered (numbered : Numbered client) (few : client.next < 2 ^ 64)
    (registered : (client.calls id).registered = true) : CancelsOwn client id := by
  rw [CancelsOwn, if_pos registered]
  intro other stored
  obtain ⟨seq, stays⟩ := numbered.wellFormed.numbered _ other stored
  exact numbered.distinct few stays registered seq

/-- The response completes its call with an error and touches nothing else. -/
structure Contained (client : Client) (id : Nat) (after : Client) : Prop where
  completed : (after.calls id).completions = (client.calls id).completions + 1
  failed : (after.calls id).error ≠ none
  others : ∀ seq other, client.pending.lookup seq = some other → other ≠ id →
    after.pending.lookup seq = some other ∧ after.calls other = client.calls other
  running : after.shutdown = false
  reading : after.input = .reading

/-- An error response has metadata, or its call has an error already. For a normal
response there is a payload that is to be decoded, and no codec for it; a response
without one reports nothing new. -/
def Reports (record : CallRecord) (res : Message) (decoded : Option (Option GoError)) : Prop :=
  if res.header.messageStatusType = .error then res.metadata.getD ∅ ≠ ∅ ∨ record.error ≠ none
  else if record.invocation = .sendRaw ∨ res.payload = [] then record.error ≠ none
  else decoded = none

section Refused

variable {res : Message} {decoded : Option (Option GoError)}

theorem responseError_eq_none_iff {previous : Option GoError} :
    CallRecord.responseError res previous = none ↔ res.metadata.getD ∅ = ∅ ∧ previous = none := by
  unfold CallRecord.responseError
  split
  case isTrue empty => simp [empty]
  case isFalse described => simp [described]

theorem error_noteMetadata (record : CallRecord) (res : Message) :
    (record.noteMetadata res).error = record.error := by
  unfold CallRecord.noteMetadata
  split <;> rfl

/-- An error response sets the error it carries, or panics for want of one. -/
theorem answerError_reports (record : CallRecord) (res : Message) (decoded : Option (Option GoError)) :
    (record.answerError res decoded).bind CallRecord.error = CallRecord.responseError res record.error := by
  unfold CallRecord.answerError
  dsimp only
  by_cases raw : record.invocation = .sendRaw
  · rw [if_pos raw]
    split
    case isTrue silent => exact (Option.isNone_iff_eq_none.mp silent).symm
    case isFalse => rfl
  · rw [if_neg raw]
    split <;> rfl

theorem answerNormal_reports (record : CallRecord) (res : Message) (refused : decoded ≠ some none) :
    (record.answerNormal res decoded).1.error ≠ none ∧ (record.answerNormal res decoded).2 = none ↔
      if record.invocation = .sendRaw ∨ res.payload = [] then record.error ≠ none else decoded = none := by
  unfold CallRecord.answerNormal
  by_cases raw : record.invocation = .sendRaw
  · simp [raw]
  · by_cases empty : res.payload = []
    · simp [raw, empty, error_noteMetadata]
    · match decoded, refused with
      | none, _ => simp [raw, empty]
      | some (some err), _ => simp [raw, empty]

/-- A reply that does not decode sets an error and leaves the loop of `input` running
exactly if it reports. -/
theorem answer_refused (record : CallRecord) (res : Message) (refused : decoded ≠ some none) :
    (∃ answered, record.answer res decoded = some (answered, none) ∧ answered.error ≠ none) ↔
      Reports record res decoded := by
  unfold CallRecord.answer Reports
  by_cases failed : res.header.messageStatusType = .error
  · rw [if_pos failed, if_pos failed, ← not_and_or, ← responseError_eq_none_iff,
      ← answerError_reports record res decoded]
    cases record.answerError res decoded <;> simp
  · rw [if_neg failed, if_neg failed, ← answerNormal_reports record res refused]
    constructor
    · rintro ⟨answered, same, error⟩
      rw [Option.some.inj same]
      exact ⟨error, rfl⟩
    · rintro ⟨error, ending⟩
      exact ⟨_, congrArg some (Prod.ext rfl ending), error⟩

/-- A response to a call whose payload is refused, or has no codec, is contained exactly
if it reports. -/
theorem bad_reply_contained_iff (alive : client.crashed = false) (running : client.shutdown = false)
    (reading : client.input = .reading) (response : isServerMessage res = false)
    (stored : client.pending.lookup res.header.seq = some id) (refused : decoded ≠ some none) :
    ∃ after, client.step (.respond res decoded) = some after ∧
      (Contained client id after ↔ Reports (client.calls id) res decoded) := by
  refine ⟨client.stepRespond res decoded, by simp [step, alive, reading], ?_⟩
  rw [← answer_refused (client.calls id) res refused]
  unfold stepRespond
  simp only [response, stored, Bool.false_eq_true, if_false]
  constructor
  · rintro ⟨completed, failed, -, -, loops⟩
    cases answers : (client.calls id).answer res decoded with
    | none => simp [answers] at completed
    | some outcome =>
      obtain ⟨answered, ending⟩ := outcome
      simp only [answers] at failed loops
      cases ending with
      | none => exact ⟨answered, rfl, by simpa [calls_modify, CallRecord.finish, CallRecord.settle] using failed⟩
      | some err => cases loops
  · rintro ⟨answered, answers, failed⟩
    have kept := (CallRecord.keeps_answer answers).2
    simp only [answers]
    refine ⟨?_, ?_, ?_, running, reading⟩
    · simp [calls_modify, kept, CallRecord.finish, CallRecord.settle]
    · simpa [calls_modify, CallRecord.finish, CallRecord.settle] using failed
    · intro seq other pending different
      have apart : seq ≠ res.header.seq := by
        rintro rfl
        exact different (Option.some.inj (pending.symm.trans stored))
      refine ⟨(AList.lookup_erase_ne apart).trans pending, ?_⟩
      simp [calls_modify, different]

def twoPending : Client := (connected.stepSend false true).stepSend false true

def firstReply : Message := { answerTo 0 with payload := [1] }

theorem bad_reply_contained_iff_uncoded :
    ∃ after, twoPending.step (.respond firstReply none) = some after ∧ Contained twoPending 0 after := by
  have stored : twoPending.pending.lookup firstReply.header.seq = some 0 := rfl
  obtain ⟨after, moved, contained⟩ := bad_reply_contained_iff rfl rfl rfl rfl stored
    (show none ≠ some none by decide)
  exact ⟨after, moved, contained.mpr rfl⟩

/-- A normal response that the codec refuses ends the loop of `input`. -/
theorem input_of_refused (response : isServerMessage res = false)
    (stored : client.pending.lookup res.header.seq = some id)
    (typed : (client.calls id).invocation ≠ .sendRaw) (payload : res.payload ≠ [])
    (normal : res.header.messageStatusType ≠ .error) (err : GoError) :
    (client.stepRespond res (some (some err))).input = .ended err ∧
      (client.stepRespond res (some (some err))).crashed = client.crashed := by
  have answers : ∃ answered, (client.calls id).answer res (some (some err)) = some (answered, some err) := by
    unfold CallRecord.answer CallRecord.answerNormal
    rw [if_neg normal, if_neg typed, if_neg payload]
    exact ⟨_, rfl⟩
  obtain ⟨answered, answers⟩ := answers
  unfold stepRespond
  simp only [response, stored, answers, Bool.false_eq_true, if_false]
  exact ⟨trivial, rfl⟩

/-- The calls that are pending when the loop has ended all fail. -/
theorem calls_stepTerminate (wf : WellFormed client) (stored : client.pending.lookup seq = some id)
    (err : GoError) :
    ((client.stepTerminate err).calls id).completions = (client.calls id).completions + 1 ∧
      ((client.stepTerminate err).calls id).error ≠ none := by
  unfold stepTerminate
  dsimp only
  rw [failAll_apply wf.nodup_pendingCalls, if_pos (mem_pendingCalls.mpr ⟨seq, stored⟩)]
  exact ⟨rfl, nofun⟩

/-- When the codec refuses a normal response, the connection is given up and all the
other pending calls fail with it. -/
theorem refused_reply_fails_others (wf : WellFormed client) (alive : client.crashed = false)
    (reading : client.input = .reading) (response : isServerMessage res = false)
    (stored : client.pending.lookup res.header.seq = some id)
    (typed : (client.calls id).invocation ≠ .sendRaw) (payload : res.payload ≠ [])
    (normal : res.header.messageStatusType ≠ .error) (err : GoError) :
    ∃ final, system.play client [.respond res (some (some err)), .terminate] = some final ∧
      final.shutdown = true ∧ ∀ seq other, client.pending.lookup seq = some other → other ≠ id →
        (final.calls other).completions = (client.calls other).completions + 1 ∧
          (final.calls other).error ≠ none := by
  obtain ⟨ended, crashed⟩ := input_of_refused response stored typed payload normal err
  have advances := advances_respond wf res (some (some err)) reading
  refine ⟨(client.stepRespond res (some (some err))).stepTerminate err, ?_, rfl, ?_⟩
  · simp [System.play, system, step, alive, reading, ended, crashed]
  · intro seq other pending different
    have unsettled : ¬ Settled client (.respond res (some (some err))) other := fun settled =>
      different (Option.some.inj (settled.2.1.symm.trans stored))
    have lost : ¬ Loses client (.respond res (some (some err))) other := fun loses =>
      different (Option.some.inj (loses.2.1.symm.trans stored))
    have remains := (advances.gone seq other pending).resolve_right (not_or.mpr ⟨unsettled, lost⟩)
    rw [← calls_stepRespond unsettled]
    exact calls_stepTerminate (wf.advance advances) remains err

/-- The reply to one call does not decode, and the other pending call fails. -/
theorem bad_reply_fails_other_call :
    system.play connected [.send false true, .send false true] = some twoPending ∧
      ∃ final, system.play twoPending [.respond firstReply (some (some .eof)), .terminate] = some final ∧
        twoPending.pending.lookup 1 = some 1 ∧ (twoPending.calls 1).completions = 0 ∧
        (final.calls 1).completions = 1 ∧ (final.calls 1).error ≠ none ∧ final.shutdown = true :=
  ⟨rfl, _, rfl, rfl, rfl, rfl, by decide, rfl⟩

end Refused

end Irpc.Client
