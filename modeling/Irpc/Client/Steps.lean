import Irpc.Client.Client

/-! What one step of a client can do, said once for all steps. -/
namespace Irpc.Client

open Irpc.Foundation Irpc.Protocol

/-- A change of a call that leaves alone what it was registered as. -/
structure CallRecord.Keeps (before after : CallRecord) : Prop where
  seq : after.seq = before.seq
  registered : after.registered = before.registered
  late : after.late = before.late

namespace CallRecord

theorem Keeps.trans {first middle last : CallRecord} (left : first.Keeps middle)
    (right : middle.Keeps last) : first.Keeps last :=
  ⟨right.seq.trans left.seq, right.registered.trans left.registered, right.late.trans left.late⟩

theorem keeps_noteMetadata (record : CallRecord) (res : Message) :
    record.Keeps (record.noteMetadata res) ∧
      (record.noteMetadata res).completions = record.completions := by
  unfold noteMetadata
  split <;> exact ⟨⟨rfl, rfl, rfl⟩, rfl⟩

theorem keeps_answerError {record answered : CallRecord}
    (answers : record.answerError res decoded = some answered) :
    record.Keeps answered ∧ answered.completions = record.completions := by
  have noted := record.keeps_noteMetadata res
  unfold answerError at answers
  dsimp only at answers
  split at answers
  · split at answers
    · cases answers
    · cases answers
      exact ⟨⟨noted.1.seq, noted.1.registered, noted.1.late⟩, noted.2⟩
  · split at answers
    · cases answers
      exact ⟨⟨noted.1.seq, noted.1.registered, noted.1.late⟩, noted.2⟩
    · cases answers
      exact ⟨⟨noted.1.seq, noted.1.registered, noted.1.late⟩, noted.2⟩

theorem keeps_answerNormal (record : CallRecord) (res : Message)
    (decoded : Option (Option GoError)) :
    record.Keeps (record.answerNormal res decoded).1 ∧
      (record.answerNormal res decoded).1.completions = record.completions := by
  have noted := record.keeps_noteMetadata res
  unfold answerNormal
  split
  · exact ⟨⟨rfl, rfl, rfl⟩, rfl⟩
  · split
    · exact noted
    · split <;> exact ⟨⟨noted.1.seq, noted.1.registered, noted.1.late⟩, noted.2⟩

/-- A response changes neither what the call was registered as nor how often it
was completed. -/
theorem keeps_answer {record answered : CallRecord}
    (answers : record.answer res decoded = some (answered, err)) :
    record.Keeps answered ∧ answered.completions = record.completions := by
  unfold answer at answers
  split at answers
  · obtain ⟨_, found, same⟩ := Option.map_eq_some_iff.mp answers
    cases same
    exact keeps_answerError found
  · have kept := record.keeps_answerNormal res decoded
    rw [Option.some.inj answers] at kept
    exact kept

end CallRecord

/-- What holds in every state of every run. -/
structure WellFormed (client : Client) : Prop where
  /-- A pending call is stored under its own number. -/
  numbered : ∀ seq id, client.pending.lookup seq = some id →
    (client.calls id).seq = seq ∧ (client.calls id).registered = true
  unused : ∀ id, client.next ≤ id → client.calls id = unused
  stopped : client.shutdown = true ↔ client.input = .stopped
  late : ∀ id, (client.calls id).late = true → client.shutdown = true

variable {client : Client} {id : Nat} {seq : UInt64}

theorem WellFormed.used_of_registered (wf : WellFormed client)
    (registered : (client.calls id).registered = true) : id < client.next := by
  by_contra beyond
  rw [wf.unused id (by omega)] at registered
  cases registered

theorem WellFormed.used_of_phase (wf : WellFormed client)
    (active : (client.calls id).phase ≠ .returned) : id < client.next := by
  by_contra beyond
  rw [wf.unused id (by omega)] at active
  exact active rfl

theorem WellFormed.used_of_pending (wf : WellFormed client)
    (stored : client.pending.lookup seq = some id) : id < client.next :=
  wf.used_of_registered (wf.numbered seq id stored).2

theorem WellFormed.pending_injective (wf : WellFormed client)
    (left : client.pending.lookup first = some id) (right : client.pending.lookup second = some id) :
    first = second :=
  (wf.numbered first id left).1.symm.trans (wf.numbered second id right).1

theorem lookup_erase_some {pending : Pending} (stored : (pending.erase seq).lookup other = some id) :
    other ≠ seq ∧ pending.lookup other = some id := by
  by_cases same : other = seq
  · subst same
    rw [AList.lookup_erase] at stored
    cases stored
  · rw [AList.lookup_erase_ne same] at stored
    exact ⟨same, stored⟩

theorem mem_pendingCalls : id ∈ client.pendingCalls ↔ ∃ seq, client.pending.lookup seq = some id := by
  simp only [pendingCalls, List.mem_map, Sigma.exists, exists_eq_right]
  exact exists_congr fun seq => AList.mem_lookup_iff.symm

theorem WellFormed.nodup_pendingCalls (wf : WellFormed client) : client.pendingCalls.Nodup := by
  refine List.Nodup.map_on ?_ client.pending.nodupKeys.nodup
  rintro ⟨first, id⟩ left ⟨second, other⟩ right same
  cases same
  have equal := wf.pending_injective (AList.mem_lookup_iff.mpr left) (AList.mem_lookup_iff.mpr right)
  rw [equal]

theorem failAll_apply {ids : List Nat} (distinct : ids.Nodup) (calls : Nat → CallRecord) (err : GoError)
    (id : Nat) : failAll calls err ids id = if id ∈ ids then (calls id).fail err else calls id := by
  induction ids generalizing calls with
  | nil => rfl
  | cons first rest ih =>
    obtain ⟨out, distinct⟩ := List.nodup_cons.mp distinct
    rw [failAll, List.foldl_cons, ← failAll, ih distinct]
    by_cases same : id = first
    · subst same
      simp [out]
    · simp [same]

section Operations

variable {settle change : CallRecord → CallRecord}

theorem calls_modify : (client.modify id change).calls other =
    if other = id then change (client.calls other) else client.calls other := by
  by_cases same : other = id
  · subst same
    simp [modify]
  · simp [modify, same]

@[simp] theorem pending_modify : (client.modify id change).pending = client.pending := rfl
@[simp] theorem next_modify : (client.modify id change).next = client.next := rfl
@[simp] theorem shutdown_modify : (client.modify id change).shutdown = client.shutdown := rfl
@[simp] theorem input_modify : (client.modify id change).input = client.input := rfl

theorem calls_take : (client.take seq settle).calls other =
    if client.pending.lookup seq = some other then settle (client.calls other)
    else client.calls other := by
  unfold take
  split
  case h_1 missing => simp [missing]
  case h_2 id found => simp [found, calls_modify, eq_comm]

theorem lookup_take : (client.take seq settle).pending.lookup other =
    if other = seq then none else client.pending.lookup other := by
  by_cases same : other = seq
  · subst same
    unfold take
    split
    case h_1 missing => simp [missing]
    case h_2 id found => simp
  · unfold take
    split
    case h_1 missing => simp [same]
    case h_2 id found => simp [same, AList.lookup_erase_ne same]

@[simp] theorem next_take : (client.take seq settle).next = client.next := by
  unfold take
  split <;> rfl

@[simp] theorem shutdown_take : (client.take seq settle).shutdown = client.shutdown := by
  unfold take
  split <;> rfl

@[simp] theorem input_take : (client.take seq settle).input = client.input := by
  unfold take
  split <;> rfl

end Operations

/-- The calls a step invokes `done` on, apart from a call it issues. -/
def Settled (client : Client) : Event → Nat → Prop
  | .encodeFailed id _, settled => settled = id
  | .writeFailed id _, settled => client.pending.lookup (client.calls id).seq = some settled
  | .written id oneway, settled =>
    oneway = true ∧ client.pending.lookup (client.calls id).seq = some settled
  | .cancel id _, settled => client.pending.lookup (client.calls id).seq = some settled
  | .respond res decoded, settled => isServerMessage res = false ∧
    client.pending.lookup res.header.seq = some settled ∧
    ((client.calls settled).answer res decoded).isSome
  | .terminate, settled => settled ∈ client.pendingCalls
  | .close, settled => settled ∈ client.pendingCalls
  | _, _ => False

/-- The calls a step takes out of `pending` without invoking `done` on them. -/
def Loses (client : Client) : Event → Nat → Prop
  | .encodeFailed id _, lost => client.pending.lookup (client.calls id).seq = some lost ∧ lost ≠ id
  | .respond res decoded, lost => isServerMessage res = false ∧
    client.pending.lookup res.header.seq = some lost ∧ (client.calls lost).answer res decoded = none
  | _, _ => False

/-- Everything a step does that issues no call. -/
structure Advances (client : Client) (event : Event) (after : Client) : Prop where
  next : after.next = client.next
  unused : ∀ id, client.next ≤ id → after.calls id = client.calls id
  keeps : ∀ id, (client.calls id).Keeps (after.calls id)
  settled : ∀ id, Settled client event id →
    (after.calls id).completions = (client.calls id).completions + 1
  same : ∀ id, ¬ Settled client event id →
    (after.calls id).completions = (client.calls id).completions ∧
      (after.calls id).error = (client.calls id).error
  pending : ∀ seq id, after.pending.lookup seq = some id →
    client.pending.lookup seq = some id ∧ (Settled client event id → event = .terminate)
  gone : ∀ seq id, client.pending.lookup seq = some id →
    after.pending.lookup seq = some id ∨ Settled client event id ∨ Loses client event id
  shutdown : after.shutdown = true ↔ client.shutdown = true ∨ event = .terminate
  stopped : after.input = .stopped ↔ client.input = .stopped ∨ event = .terminate

theorem keeps_refl (record : CallRecord) : record.Keeps record := ⟨rfl, rfl, rfl⟩

/-- The steps that take a call out of `pending` by the number another call
remembers, and then move that call on. -/
theorem advances_take (wf : WellFormed client) {id : Nat} {settle change : CallRecord → CallRecord}
    (active : (client.calls id).phase ≠ .returned)
    (settles : ∀ record, record.Keeps (settle record) ∧
      (settle record).completions = record.completions + 1)
    (moves : ∀ record, record.Keeps (change record) ∧
      (change record).completions = record.completions ∧ (change record).error = record.error)
    (settled : ∀ other, Settled client event other ↔
      client.pending.lookup (client.calls id).seq = some other)
    (other : event ≠ .terminate) :
    Advances client event ((client.take (client.calls id).seq settle).modify id change) where
  next := by simp
  unused other beyond := by
    have used := wf.used_of_phase active
    have free : client.pending.lookup (client.calls id).seq ≠ some other := by
      intro stored
      have := wf.used_of_pending stored
      omega
    rw [calls_modify, if_neg (by omega), calls_take, if_neg free]
  keeps other := by
    rw [calls_modify, calls_take]
    split <;> split
    · exact (settles _).1.trans (moves _).1
    · exact (moves _).1
    · exact (settles _).1
    · exact keeps_refl _
  settled other isSettled := by
    rw [calls_modify, calls_take, if_pos ((settled other).mp isSettled)]
    split
    · rw [(moves _).2.1, (settles _).2]
    · exact (settles _).2
  same other unsettled := by
    rw [calls_modify, calls_take, if_neg (fun stored => unsettled ((settled other).mpr stored))]
    split
    · exact (moves _).2
    · exact ⟨rfl, rfl⟩
  pending seq other stored := by
    rw [pending_modify, lookup_take] at stored
    split at stored
    · cases stored
    case isFalse different =>
      refine ⟨stored, fun isSettled => ?_⟩
      exact absurd (wf.pending_injective stored ((settled other).mp isSettled)) different
  gone seq other stored := by
    rw [pending_modify, lookup_take]
    by_cases same : seq = (client.calls id).seq
    · subst same
      exact .inr (.inl ((settled other).mpr stored))
    · exact .inl (by rw [if_neg same, stored])
  shutdown := by simp [other]
  stopped := by simp [other]

theorem advances_modify (wf : WellFormed client) {change : CallRecord → CallRecord}
    (active : (client.calls id).phase ≠ .returned)
    (moves : ∀ record, record.Keeps (change record) ∧
      (change record).completions = record.completions ∧ (change record).error = record.error)
    (settled : ∀ other, ¬ Settled client event other) (other : event ≠ .terminate) :
    Advances client event (client.modify id change) where
  next := rfl
  unused other beyond := by
    have used := wf.used_of_phase active
    rw [calls_modify, if_neg (by omega)]
  keeps other := by
    rw [calls_modify]
    split
    · exact (moves _).1
    · exact keeps_refl _
  settled other isSettled := absurd isSettled (settled other)
  same other _ := by
    rw [calls_modify]
    split
    · exact (moves _).2
    · exact ⟨rfl, rfl⟩
  pending seq other stored := ⟨stored, fun isSettled => absurd isSettled (settled other)⟩
  gone seq other stored := .inl stored
  shutdown := by simp [other]
  stopped := by simp [other]

theorem advances_flags {after : Client} (calls : after.calls = client.calls)
    (pending : after.pending = client.pending) (next : after.next = client.next)
    (settled : ∀ other, ¬ Settled client event other) (other : event ≠ .terminate)
    (shutdown : after.shutdown = client.shutdown)
    (stopped : after.input = .stopped ↔ client.input = .stopped) : Advances client event after where
  next := next
  unused _ _ := by rw [calls]
  keeps id := by
    rw [calls]
    exact keeps_refl _
  settled id isSettled := absurd isSettled (settled id)
  same _ _ := by simp [calls]
  pending seq id stored := ⟨pending ▸ stored, fun isSettled => absurd isSettled (settled id)⟩
  gone seq id stored := .inl (by rw [pending, stored])
  shutdown := by simp [shutdown, other]
  stopped := by simp [stopped, other]

theorem advances_encodeFailed (wf : WellFormed client) (err : GoError)
    (active : (client.calls id).phase ≠ .returned) :
    Advances client (.encodeFailed id err)
      ({ client with pending := client.pending.erase (client.calls id).seq }.modify id
        fun record => (record.fail err).afterSend) where
  next := rfl
  unused other beyond := by
    have used := wf.used_of_phase active
    rw [calls_modify, if_neg (by omega)]
  keeps other := by
    rw [calls_modify]
    split
    · exact ⟨rfl, rfl, rfl⟩
    · exact keeps_refl _
  settled other isSettled := by
    have same : other = id := isSettled
    rw [calls_modify, if_pos same]
    rfl
  same other unsettled := by
    have different : other ≠ id := unsettled
    rw [calls_modify, if_neg different]
    exact ⟨rfl, rfl⟩
  pending seq other stored := by
    obtain ⟨different, stored⟩ := lookup_erase_some stored
    refine ⟨stored, fun same => absurd ?_ different⟩
    cases same
    exact (wf.numbered seq id stored).1.symm
  gone seq other stored := by
    by_cases same : seq = (client.calls id).seq
    · subst same
      by_cases own : other = id
      · exact .inr (.inl own)
      · exact .inr (.inr ⟨stored, own⟩)
    · exact .inl (by rw [pending_modify, AList.lookup_erase_ne same, stored])
  shutdown := by simp
  stopped := by simp

theorem advances_failAll (wf : WellFormed client) {after : Client} (err : GoError)
    (settled : ∀ id, Settled client event id ↔ id ∈ client.pendingCalls)
    (calls : after.calls = failAll client.calls err client.pendingCalls)
    (next : after.next = client.next)
    (pending : ∀ seq id, after.pending.lookup seq = some id →
      client.pending.lookup seq = some id ∧ event = .terminate)
    (shutdown : after.shutdown = true ↔ client.shutdown = true ∨ event = .terminate)
    (stopped : after.input = .stopped ↔ client.input = .stopped ∨ event = .terminate) :
    Advances client event after where
  next := next
  unused id beyond := by
    have free : id ∉ client.pendingCalls := by
      intro member
      obtain ⟨seq, stored⟩ := mem_pendingCalls.mp member
      have := wf.used_of_pending stored
      omega
    rw [calls, failAll_apply wf.nodup_pendingCalls, if_neg free]
  keeps id := by
    rw [calls, failAll_apply wf.nodup_pendingCalls]
    split
    · exact ⟨rfl, rfl, rfl⟩
    · exact keeps_refl _
  settled id isSettled := by
    rw [calls, failAll_apply wf.nodup_pendingCalls, if_pos ((settled id).mp isSettled)]
    rfl
  same id unsettled := by
    rw [calls, failAll_apply wf.nodup_pendingCalls,
      if_neg (fun member => unsettled ((settled id).mpr member))]
    exact ⟨rfl, rfl⟩
  pending seq id stored := ⟨(pending seq id stored).1, fun _ => (pending seq id stored).2⟩
  gone seq id stored := .inr (.inl ((settled id).mpr (mem_pendingCalls.mpr ⟨seq, stored⟩)))
  shutdown := shutdown
  stopped := stopped

theorem advances_answered (wf : WellFormed client) {res : Message} (reading : client.input = .reading)
    (response : isServerMessage res = false) (found : client.pending.lookup res.header.seq = some id)
    (answered : (client.calls id).answer res decoded = some (record, err))
    {position : Input} (running : position ≠ .stopped) :
    Advances client (.respond res decoded)
      { { client with pending := client.pending.erase res.header.seq }.modify id
          (fun _ => record.finish) with input := position } := by
  obtain ⟨keeps, completions⟩ := CallRecord.keeps_answer answered
  have settled : ∀ other, Settled client (.respond res decoded) other ↔ other = id := by
    intro other
    constructor
    · rintro ⟨-, stored, -⟩
      exact Option.some.inj (stored.symm.trans found)
    · rintro rfl
      exact ⟨response, found, by simp [answered]⟩
  have calls : ∀ other, ({ client with pending := client.pending.erase res.header.seq }.modify id
      fun _ => record.finish).calls other = if other = id then record.finish else client.calls other :=
    fun other => calls_modify
  refine ⟨rfl, ?_, ?_, ?_, ?_, ?_, ?_, by simp, by simp [running, reading]⟩
  · intro other beyond
    have used := wf.used_of_pending found
    rw [calls, if_neg (by omega)]
  · intro other
    rw [calls]
    split
    case isTrue same =>
      subst same
      exact ⟨keeps.seq, keeps.registered, keeps.late⟩
    case isFalse => exact keeps_refl _
  · intro other isSettled
    have same := (settled other).mp isSettled
    subst same
    rw [calls, if_pos rfl]
    exact congrArg (· + 1) completions
  · intro other unsettled
    rw [calls, if_neg (fun same => unsettled ((settled other).mpr same))]
    exact ⟨rfl, rfl⟩
  · intro seq other stored
    obtain ⟨different, earlier⟩ := lookup_erase_some stored
    refine ⟨earlier, fun isSettled => absurd ?_ different⟩
    have same := (settled other).mp isSettled
    subst same
    exact wf.pending_injective earlier found
  · intro seq other stored
    by_cases same : seq = res.header.seq
    · subst same
      exact .inr (.inl ((settled other).mpr (Option.some.inj (stored.symm.trans found))))
    · exact .inl ((AList.lookup_erase_ne same).trans stored)

theorem advances_panicked {res : Message} (response : isServerMessage res = false)
    (found : client.pending.lookup res.header.seq = some id)
    (panics : (client.calls id).answer res decoded = none) :
    Advances client (.respond res decoded)
      { client with pending := client.pending.erase res.header.seq, crashed := true } := by
  have settled : ∀ other, ¬ Settled client (.respond res decoded) other := by
    rintro other ⟨-, stored, answers⟩
    have same := Option.some.inj (stored.symm.trans found)
    subst same
    rw [panics] at answers
    cases answers
  refine ⟨rfl, fun _ _ => rfl, fun _ => keeps_refl _, ?_, fun _ _ => ⟨rfl, rfl⟩, ?_, ?_, by simp, by simp⟩
  · intro other isSettled
    exact absurd isSettled (settled other)
  · intro seq other stored
    exact ⟨(lookup_erase_some stored).2, fun isSettled => absurd isSettled (settled other)⟩
  · intro seq other stored
    by_cases same : seq = res.header.seq
    · subst same
      have own := Option.some.inj (stored.symm.trans found)
      subst own
      exact .inr (.inr ⟨response, stored, panics⟩)
    · exact .inl ((AList.lookup_erase_ne same).trans stored)

theorem advances_respond (wf : WellFormed client) (res : Message) (decoded : Option (Option GoError))
    (reading : client.input = .reading) :
    Advances client (.respond res decoded) (client.stepRespond res decoded) := by
  unfold stepRespond
  split
  case isTrue pushed =>
    exact advances_flags rfl rfl rfl (by simp [Settled, pushed]) (by simp) rfl Iff.rfl
  case isFalse response =>
    rw [Bool.not_eq_true] at response
    split
    case h_1 missing =>
      exact advances_flags rfl rfl rfl (by simp [Settled, missing]) (by simp) rfl Iff.rfl
    case h_2 id found =>
      dsimp only
      split
      case h_1 panics => exact advances_panicked response found panics
      case h_2 record err answered =>
        refine advances_answered wf reading response found answered ?_
        cases err <;> simp [reading]

/-- The step issues a call and stores it under the number. -/
def Registers (client : Client) : Event → UInt64 → Prop
  | .send _ codec, seq =>
    client.shutdown = false ∧ client.closing = false ∧ codec = true ∧ seq = client.seq
  | .sendRaw number, seq => seq = number
  | _, _ => False

/-- Every step issues a call that is turned away, issues a call that is stored in
`pending`, or issues none. -/
theorem step_cases (wf : WellFormed client) (moved : client.step event = some after) :
    (∃ invocation err, after = client.reject invocation err) ∨
      (∃ invocation seq counter, Registers client event seq ∧
        after = client.register invocation seq counter) ∨
      Advances client event after := by
  unfold step at moved
  split at moved
  · cases moved
  cases event with
  | send waits codec =>
    cases moved
    unfold stepSend
    dsimp only
    split
    case isTrue => exact .inl ⟨_, _, rfl⟩
    case isFalse running =>
      split
      case isTrue => exact .inl ⟨_, _, rfl⟩
      case isFalse coded =>
        simp only [Bool.or_eq_true, not_or, Bool.not_eq_true] at running
        exact .inr (.inl ⟨_, client.seq, _, ⟨running.1, running.2, by simpa using coded, rfl⟩, rfl⟩)
  | sendRaw seq =>
    cases moved
    exact .inr (.inl ⟨.sendRaw, seq, client.seq, rfl, rfl⟩)
  | encodeFailed id err =>
    dsimp only at moved
    obtain ⟨active, ⟨⟩⟩ := Option.ite_none_right_eq_some.mp moved
    exact .inr (.inr (advances_encodeFailed wf err (by simp [active.1])))
  | writeFailed id err =>
    dsimp only at moved
    obtain ⟨active, ⟨⟩⟩ := Option.ite_none_right_eq_some.mp moved
    refine .inr (.inr (advances_take wf (by simp [active]) ?_ ?_ (fun _ => Iff.rfl) (by simp)))
    · exact fun _ => ⟨⟨rfl, rfl, rfl⟩, rfl⟩
    · exact fun _ => ⟨⟨rfl, rfl, rfl⟩, rfl, rfl⟩
  | written id oneway =>
    dsimp only at moved
    split at moved
    case isTrue active =>
      split at moved
      case isTrue oneway =>
        cases moved
        refine .inr (.inr (advances_take wf (by simp [active]) ?_ ?_ (fun _ => by simp [Settled, oneway])
          (by simp)))
        · exact fun _ => ⟨⟨rfl, rfl, rfl⟩, rfl⟩
        · exact fun _ => ⟨⟨rfl, rfl, rfl⟩, rfl, rfl⟩
      case isFalse twoway =>
        cases moved
        refine .inr (.inr (advances_modify wf (by simp [active]) ?_ (fun _ => by simp [Settled, twoway])
          (by simp)))
        exact fun _ => ⟨⟨rfl, rfl, rfl⟩, rfl, rfl⟩
    case isFalse => cases moved
  | cancel id err =>
    dsimp only at moved
    obtain ⟨active, ⟨⟩⟩ := Option.ite_none_right_eq_some.mp moved
    refine .inr (.inr (advances_take wf (by simp [active]) ?_ ?_ (fun _ => Iff.rfl) (by simp)))
    · exact fun _ => ⟨⟨rfl, rfl, rfl⟩, rfl⟩
    · exact fun _ => ⟨⟨rfl, rfl, rfl⟩, rfl, rfl⟩
  | receive id =>
    dsimp only at moved
    obtain ⟨active, ⟨⟩⟩ := Option.ite_none_right_eq_some.mp moved
    refine .inr (.inr (advances_modify wf (by simp [active.1]) ?_ (fun _ => by simp [Settled]) (by simp)))
    exact fun _ => ⟨⟨rfl, rfl, rfl⟩, rfl, rfl⟩
  | respond res decoded =>
    dsimp only at moved
    obtain ⟨reading, ⟨⟩⟩ := Option.ite_none_right_eq_some.mp moved
    exact .inr (.inr (advances_respond wf res decoded reading))
  | disconnect err =>
    dsimp only at moved
    obtain ⟨reading, ⟨⟩⟩ := Option.ite_none_right_eq_some.mp moved
    exact .inr (.inr (advances_flags rfl rfl rfl (by simp [Settled]) (by simp) rfl (by simp [reading])))
  | terminate =>
    dsimp only at moved
    split at moved
    case h_1 err ended =>
      cases moved
      refine .inr (.inr (advances_failAll wf _ (fun _ => Iff.rfl) rfl rfl ?_ (by simp [stepTerminate])
        (by simp [stepTerminate])))
      exact fun seq id stored => ⟨stored, rfl⟩
    case h_2 => cases moved
  | close =>
    cases moved
    refine .inr (.inr ?_)
    unfold stepClose
    dsimp only
    split
    · exact advances_failAll wf _ (fun _ => Iff.rfl) rfl rfl (by simp) (by simp) (by simp)
    · exact advances_failAll wf _ (fun _ => Iff.rfl) rfl rfl (by simp) (by simp) (by simp)
  | unlockAgain =>
    dsimp only at moved
    split at moved
    case isTrue =>
      cases moved
      exact .inr (.inr (advances_flags rfl rfl rfl (by simp [Settled]) (by simp) rfl Iff.rfl))
    case isFalse => cases moved

theorem calls_reject : (client.reject invocation err).calls id =
    if id = client.next then (CallRecord.fail err { invocation, phase := .sending }).afterSend
    else client.calls id := by
  by_cases same : id = client.next
  · subst same
    simp [reject]
  · simp [reject, same]

theorem calls_register : (client.register invocation seq counter).calls id =
    if id = client.next then
      { invocation, seq, phase := .sending, registered := true, late := client.shutdown }
    else client.calls id := by
  by_cases same : id = client.next
  · subst same
    simp [register]
  · simp [register, same]

theorem calls_reject_of_used (used : id < client.next) :
    (client.reject invocation err).calls id = client.calls id := by
  rw [calls_reject, if_neg used.ne]

theorem calls_register_of_used (used : id < client.next) :
    (client.register invocation seq counter).calls id = client.calls id := by
  rw [calls_register, if_neg used.ne]

theorem lookup_register : (client.register invocation seq counter).pending.lookup other =
    if other = seq then some client.next else client.pending.lookup other := by
  by_cases same : other = seq
  · subst same
    simp [register]
  · simp [register, same, AList.lookup_insert_ne same]

theorem WellFormed.reject (wf : WellFormed client) (invocation : Invocation) (err : GoError) :
    WellFormed (client.reject invocation err) where
  numbered seq id stored := by
    have used : id < client.next := wf.used_of_pending stored
    rw [calls_reject_of_used used]
    exact wf.numbered seq id stored
  unused id beyond := by
    have above : client.next + 1 ≤ id := beyond
    rw [calls_reject, if_neg (by omega)]
    exact wf.unused id (by omega)
  stopped := wf.stopped
  late id isLate := by
    rw [calls_reject] at isLate
    split at isLate
    · cases isLate
    · exact wf.late id isLate

theorem WellFormed.register (wf : WellFormed client) (invocation : Invocation) (seq counter : UInt64) :
    WellFormed (client.register invocation seq counter) where
  numbered other id stored := by
    rw [lookup_register] at stored
    split at stored
    case isTrue same =>
      cases stored
      rw [calls_register, if_pos rfl]
      exact ⟨same.symm, rfl⟩
    case isFalse =>
      have used := wf.used_of_pending stored
      rw [calls_register_of_used used]
      exact wf.numbered other id stored
  unused id beyond := by
    have above : client.next + 1 ≤ id := beyond
    rw [calls_register, if_neg (by omega)]
    exact wf.unused id (by omega)
  stopped := wf.stopped
  late id isLate := by
    rw [calls_register] at isLate
    split at isLate
    · exact isLate
    · exact wf.late id isLate

theorem WellFormed.advance (wf : WellFormed client) (advances : Advances client event after) :
    WellFormed after where
  numbered seq id stored := by
    obtain ⟨earlier, -⟩ := advances.pending seq id stored
    obtain ⟨own, registered⟩ := wf.numbered seq id earlier
    have keeps := advances.keeps id
    exact ⟨keeps.seq.trans own, keeps.registered.trans registered⟩
  unused id beyond := by
    rw [advances.next] at beyond
    exact (advances.unused id beyond).trans (wf.unused id beyond)
  stopped := by rw [advances.shutdown, advances.stopped, wf.stopped]
  late id isLate := by
    rw [(advances.keeps id).late] at isLate
    exact advances.shutdown.mpr (.inl (wf.late id isLate))

theorem wellFormed_connected : WellFormed connected :=
  ⟨by simp [connected], fun _ _ => rfl, by simp [connected], by simp [connected, Client.unused]⟩

theorem WellFormed.step (wf : WellFormed client) (moved : client.step event = some after) :
    WellFormed after := by
  rcases step_cases wf moved with ⟨invocation, err, rfl⟩ | ⟨invocation, seq, counter, -, rfl⟩ | advances
  · exact wf.reject invocation err
  · exact wf.register invocation seq counter
  · exact wf.advance advances

/-- A change of a call that leaves alone what a response fills in. -/
structure CallRecord.SameReply (before after : CallRecord) : Prop where
  invocation : after.invocation = before.invocation
  resMetadata : after.resMetadata = before.resMetadata
  filled : after.filled = before.filled

theorem sameReply_refl (record : CallRecord) : record.SameReply record := ⟨rfl, rfl, rfl⟩

theorem CallRecord.SameReply.trans {first middle last : CallRecord} (left : first.SameReply middle)
    (right : middle.SameReply last) : first.SameReply last :=
  ⟨right.invocation.trans left.invocation, right.resMetadata.trans left.resMetadata,
    right.filled.trans left.filled⟩

/-- The next number `send` will draw after the step. -/
def drawn (client : Client) : Event → UInt64
  | .send _ codec => if client.shutdown || client.closing || !codec then client.seq else client.seq + 1
  | _ => client.seq

/-- The deferred unlocks of late invocations of `Close` after the step. -/
def deferred (client : Client) : Event → Nat
  | .close => if client.closing || client.shutdown then client.unlocks + 1 else client.unlocks
  | .unlockAgain => client.unlocks - 1
  | _ => client.unlocks

/-- What a step leaves alone: the two counters, apart from the steps that are about
them, and in a call everything a response fills in. -/
structure Frame (client : Client) (event : Event) (after : Client) : Prop where
  seq : after.seq = drawn client event
  unlocks : after.unlocks = deferred client event
  reply : (∀ res decoded, event ≠ .respond res decoded) →
    ∀ id < client.next, (client.calls id).SameReply (after.calls id)

theorem sameReply_modify (moves : ∀ record, CallRecord.SameReply record (change record)) (id other : Nat) :
    (client.calls other).SameReply ((client.modify id change).calls other) := by
  rw [calls_modify]
  split
  · exact moves _
  · exact sameReply_refl _

theorem frame_modify (quiet : drawn client event = client.seq ∧ deferred client event = client.unlocks)
    (moves : ∀ record, CallRecord.SameReply record (change record)) (id : Nat) :
    Frame client event (client.modify id change) :=
  ⟨quiet.1.symm, quiet.2.symm, fun _ other _ => sameReply_modify moves id other⟩

theorem frame_take (quiet : drawn client event = client.seq ∧ deferred client event = client.unlocks)
    (settles : ∀ record, CallRecord.SameReply record (settle record))
    (moves : ∀ record, CallRecord.SameReply record (change record)) (number : UInt64) (id : Nat) :
    Frame client event ((client.take number settle).modify id change) := by
  have counters : (client.take number settle).seq = client.seq ∧
      (client.take number settle).unlocks = client.unlocks := by
    unfold take
    split <;> exact ⟨rfl, rfl⟩
  refine ⟨counters.1.trans quiet.1.symm, counters.2.trans quiet.2.symm, fun _ other _ => ?_⟩
  refine CallRecord.SameReply.trans ?_ (sameReply_modify moves id other)
  rw [calls_take]
  split
  · exact settles _
  · exact sameReply_refl _

theorem sameReply_failAll (calls : Nat → CallRecord) (err : GoError) (ids : List Nat) (id : Nat) :
    (calls id).SameReply (failAll calls err ids id) := by
  induction ids generalizing calls with
  | nil => exact sameReply_refl _
  | cons first rest ih =>
    refine CallRecord.SameReply.trans ?_ (ih (Function.update calls first ((calls first).fail err)))
    by_cases same : id = first
    · subst same
      rw [Function.update_self]
      exact ⟨rfl, rfl, rfl⟩
    · rw [Function.update_of_ne same]
      exact sameReply_refl _

theorem frame_stepSend (client : Client) (waits codec : Bool) :
    Frame client (.send waits codec) (client.stepSend waits codec) := by
  unfold stepSend
  dsimp only
  split
  case isTrue turned =>
    refine ⟨by simp [drawn, reject, turned], rfl, fun _ id used => ?_⟩
    rw [calls_reject_of_used used]
    exact sameReply_refl _
  case isFalse running =>
    split
    case isTrue uncoded =>
      refine ⟨by simp [drawn, reject, uncoded], rfl, fun _ id used => ?_⟩
      rw [calls_reject_of_used used]
      exact sameReply_refl _
    case isFalse coded =>
      refine ⟨by simp [drawn, register, running, coded], rfl, fun _ id used => ?_⟩
      rw [calls_register_of_used used]
      exact sameReply_refl _

theorem frame_stepRespond (client : Client) (res : Message) (decoded : Option (Option GoError)) :
    Frame client (.respond res decoded) (client.stepRespond res decoded) := by
  have counters : (client.stepRespond res decoded).seq = client.seq ∧
      (client.stepRespond res decoded).unlocks = client.unlocks := by
    unfold stepRespond
    split
    · exact ⟨rfl, rfl⟩
    · split
      · exact ⟨rfl, rfl⟩
      · dsimp only
        split <;> exact ⟨rfl, rfl⟩
  exact ⟨counters.1, counters.2, fun other => absurd rfl (other res decoded)⟩

theorem frame_stepClose (client : Client) : Frame client .close client.stepClose := by
  unfold stepClose
  dsimp only
  split
  case isTrue late => exact ⟨rfl, by simp [deferred, late], fun _ _ _ => sameReply_failAll ..⟩
  case isFalse isOpen => exact ⟨rfl, by simp [deferred, isOpen], fun _ _ _ => sameReply_failAll ..⟩

theorem frame_of_step (moved : client.step event = some after) : Frame client event after := by
  unfold step at moved
  split at moved
  · cases moved
  cases event with
  | send waits codec =>
    cases moved
    exact frame_stepSend client waits codec
  | sendRaw seq =>
    cases moved
    refine ⟨rfl, rfl, fun _ id used => ?_⟩
    rw [calls_register_of_used used]
    exact sameReply_refl _
  | encodeFailed id err =>
    dsimp only at moved
    split at moved
    · cases moved
      refine ⟨rfl, rfl, fun _ other _ => ?_⟩
      have moves : ∀ record, CallRecord.SameReply record (record.fail err).afterSend :=
        fun _ => ⟨rfl, rfl, rfl⟩
      exact sameReply_modify moves id other
    · cases moved
  | writeFailed id err =>
    dsimp only at moved
    split at moved
    · cases moved
      apply frame_take
      · exact ⟨rfl, rfl⟩
      · exact fun _ => ⟨rfl, rfl, rfl⟩
      · exact fun _ => ⟨rfl, rfl, rfl⟩
    · cases moved
  | written id oneway =>
    dsimp only at moved
    split at moved
    · split at moved
      · cases moved
        apply frame_take
        · exact ⟨rfl, rfl⟩
        · exact fun _ => ⟨rfl, rfl, rfl⟩
        · exact fun _ => ⟨rfl, rfl, rfl⟩
      · cases moved
        apply frame_modify
        · exact ⟨rfl, rfl⟩
        · exact fun _ => ⟨rfl, rfl, rfl⟩
    · cases moved
  | cancel id err =>
    dsimp only at moved
    split at moved
    · cases moved
      apply frame_take
      · exact ⟨rfl, rfl⟩
      · exact fun _ => ⟨rfl, rfl, rfl⟩
      · exact fun _ => ⟨rfl, rfl, rfl⟩
    · cases moved
  | receive id =>
    dsimp only at moved
    split at moved
    · cases moved
      apply frame_modify
      · exact ⟨rfl, rfl⟩
      · exact fun _ => ⟨rfl, rfl, rfl⟩
    · cases moved
  | respond res decoded =>
    dsimp only at moved
    split at moved
    · cases moved
      exact frame_stepRespond client res decoded
    · cases moved
  | disconnect err =>
    dsimp only at moved
    split at moved
    · cases moved
      exact ⟨rfl, rfl, fun _ _ _ => sameReply_refl _⟩
    · cases moved
  | terminate =>
    dsimp only at moved
    split at moved
    · cases moved
      exact ⟨rfl, rfl, fun _ _ _ => sameReply_failAll ..⟩
    · cases moved
  | close =>
    cases moved
    exact frame_stepClose client
  | unlockAgain =>
    dsimp only at moved
    split at moved
    · cases moved
      exact ⟨rfl, rfl, fun _ _ _ => sameReply_refl _⟩
    · cases moved

end Irpc.Client
