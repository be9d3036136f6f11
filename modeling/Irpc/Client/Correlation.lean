import Irpc.Client.Completion

/-! Which call a frame completes. The frames that arrive are recorded together with
the calls they complete. -/
namespace Irpc.Client

open Irpc.Foundation Irpc.Protocol

/-- The calls on which `done` was invoked between two states. -/
def completedBetween (client after : Client) : List Nat :=
  (List.range client.next).filter fun id => (after.calls id).completions ≠ (client.calls id).completions

/-- A frame from the server, what the codec says to its payload, and the calls it
completed. -/
structure Arrival where
  res : Message
  decoded : Option (Option GoError)
  completed : List Nat

structure Observed where
  client : Client
  arrivals : List Arrival

def answerTo (seq : UInt64) : Message :=
  { Message.newMessage with
    header := (Message.newMessage.header.setMessageType .response).setSeq seq }

namespace Observed

def note (state : Observed) (event : Event) (after : Client) : Observed :=
  match event with
  | .respond res decoded =>
    ⟨after, ⟨res, decoded, completedBetween state.client after⟩ :: state.arrivals⟩
  | _ => { state with client := after }

def system : System Observed Event where
  initial state := state = ⟨connected, []⟩
  step state event := (state.client.step event).map (state.note event)

/-- Calls are issued through `Go` and `Call` only. -/
def Typed (_ : Observed) : Event → Prop
  | .sendRaw _ => False
  | _ => True

/-- No raw message is sent, and no frame has completed a call whose arguments do not encode. -/
def EncodesUnanswered (state : Observed) : Event → Prop
  | .sendRaw _ => False
  | .encodeFailed id _ => ∀ arrival ∈ state.arrivals, id ∉ arrival.completed
  | _ => True

end Observed

variable {client after : Client} {event : Event} {id : Nat} {seq : UInt64}

/-- A call nothing was written into since it was issued. -/
structure CallRecord.Blank (record : CallRecord) : Prop where
  typed : record.invocation ≠ .sendRaw
  error : record.error = none
  resMetadata : record.resMetadata = none
  filled : record.filled = none

/-- The error, the metadata and the reply of the call are those the frame gives to a
call nobody has touched. -/
def CallRecord.TakenFrom (record : CallRecord) (res : Message) (decoded : Option (Option GoError)) : Prop :=
  ∃ outcome err, unused.answer res decoded = some (outcome, err) ∧ record.error = outcome.error ∧
    record.resMetadata = outcome.resMetadata ∧ record.filled = outcome.filled

theorem CallRecord.Blank.noteMetadata {record : CallRecord} (blank : record.Blank) (res : Message) :
    (record.noteMetadata res).error = (unused.noteMetadata res).error ∧
    (record.noteMetadata res).resMetadata = (unused.noteMetadata res).resMetadata ∧
    (record.noteMetadata res).filled = (unused.noteMetadata res).filled := by
  unfold CallRecord.noteMetadata
  split
  · exact ⟨blank.error, blank.resMetadata, blank.filled⟩
  · exact ⟨blank.error, rfl, blank.filled⟩

theorem CallRecord.Blank.answer {record : CallRecord} (blank : record.Blank) (res : Message)
    (decoded : Option (Option GoError)) :
    ∃ answered err, record.answer res decoded = some (answered, err) ∧ answered.TakenFrom res decoded := by
  obtain ⟨error, resMetadata, filled⟩ := blank.noteMetadata res
  have fresh : unused.invocation ≠ .sendRaw := by decide
  unfold CallRecord.TakenFrom CallRecord.answer
  split
  case isTrue =>
    simp only [CallRecord.answerError, if_neg blank.typed, if_neg fresh, blank.error]
    split
    · exact ⟨_, _, rfl, _, _, rfl, rfl, resMetadata, filled⟩
    · exact ⟨_, _, rfl, _, _, rfl, rfl, resMetadata, rfl⟩
  case isFalse =>
    simp only [CallRecord.answerNormal, if_neg blank.typed, if_neg fresh]
    split
    · exact ⟨_, _, rfl, _, _, rfl, error, resMetadata, filled⟩
    · split
      · exact ⟨_, _, rfl, _, _, rfl, rfl, resMetadata, filled⟩
      · exact ⟨_, _, rfl, _, _, rfl, error, resMetadata, rfl⟩
      · exact ⟨_, _, rfl, _, _, rfl, rfl, resMetadata, filled⟩

/-- The number of calls that were stored in `pending` before the call. -/
def rank (client : Client) (id : Nat) : Nat :=
  Nat.count (fun id => (client.calls id).registered = true) id

/-- In a run without raw messages a call has the number of calls stored before it as
its own number, and nothing is written into a call while it is pending and the
connection lives. -/
structure Numbered (client : Client) : Prop where
  wellFormed : WellFormed client
  counter : client.seq = UInt64.ofNat (rank client client.next)
  own : ∀ id, (client.calls id).registered = true → (client.calls id).seq = UInt64.ofNat (rank client id)
  blank : client.shutdown = false → ∀ seq id, client.pending.lookup seq = some id → (client.calls id).Blank

theorem rank_congr (same : ∀ other < id, (after.calls other).registered = (client.calls other).registered) :
    rank after id = rank client id := by
  apply le_antisymm
  · exact Nat.count_mono_left fun other before registered => same other before ▸ registered
  · exact Nat.count_mono_left fun other before registered => (same other before).symm ▸ registered

theorem rank_succ (client : Client) (id : Nat) :
    rank client (id + 1) = rank client id + if (client.calls id).registered = true then 1 else 0 :=
  Nat.count_succ ..

/-- Two calls that were ever stored in `pending` have different numbers. -/
theorem Numbered.distinct (numbered : Numbered client) (few : client.next < 2 ^ 64) {id other : Nat}
    (left : (client.calls id).registered = true) (right : (client.calls other).registered = true)
    (same : (client.calls id).seq = (client.calls other).seq) : id = other := by
  have below : ∀ {id}, (client.calls id).registered = true → rank client id < UInt64.size := by
    intro id registered
    have used := numbered.wellFormed.used_of_registered registered
    have bounded : rank client id ≤ id := Nat.count_le _
    have size : UInt64.size = 2 ^ 64 := rfl
    omega
  rw [numbered.own id left, numbered.own other right] at same
  have equal := congrArg UInt64.toNat same
  rw [UInt64.toNat_ofNat_of_lt' (below left), UInt64.toNat_ofNat_of_lt' (below right)] at equal
  exact Nat.count_injective left right equal

theorem Numbered.reject (numbered : Numbered client) (invocation : Invocation) (err : GoError) :
    Numbered (client.reject invocation err) := by
  have wf := numbered.wellFormed
  have ranks : ∀ id ≤ client.next, rank (client.reject invocation err) id = rank client id := by
    intro id bound
    apply rank_congr
    intro other before
    rw [calls_reject_of_used (by omega)]
  refine ⟨wf.reject invocation err, ?_, ?_, ?_⟩
  · have free : ((client.reject invocation err).calls client.next).registered = false := by
      rw [calls_reject, if_pos rfl]
      rfl
    change client.seq = UInt64.ofNat (rank _ (client.next + 1))
    rw [rank_succ, free, ranks _ le_rfl]
    simpa using numbered.counter
  · intro id registered
    have used : id < client.next := by
      by_contra beyond
      rw [calls_reject] at registered
      split at registered
      · cases registered
      · rw [wf.unused id (by omega)] at registered
        cases registered
    rw [calls_reject_of_used used] at registered ⊢
    rw [ranks id used.le]
    exact numbered.own id registered
  · intro running seq id stored
    rw [calls_reject_of_used (wf.used_of_pending stored)]
    exact numbered.blank running seq id stored

theorem Numbered.register (numbered : Numbered client) {invocation : Invocation}
    (typed : invocation ≠ .sendRaw) : Numbered (client.register invocation client.seq (client.seq + 1)) := by
  have wf := numbered.wellFormed
  have ranks : ∀ id ≤ client.next,
      rank (client.register invocation client.seq (client.seq + 1)) id = rank client id := by
    intro id bound
    apply rank_congr
    intro other before
    rw [calls_register_of_used (by omega)]
  refine ⟨wf.register invocation _ _, ?_, ?_, ?_⟩
  · have stored : ((client.register invocation client.seq (client.seq + 1)).calls client.next).registered
        = true := by
      rw [calls_register, if_pos rfl]
    change client.seq + 1 = UInt64.ofNat (rank _ (client.next + 1))
    rw [rank_succ, stored, ranks _ le_rfl, numbered.counter]
    simp
  · intro id registered
    by_cases same : id = client.next
    · subst same
      rw [calls_register, if_pos rfl, ranks _ le_rfl]
      exact numbered.counter
    · rw [calls_register, if_neg same] at registered ⊢
      rw [ranks id (wf.used_of_registered registered).le]
      exact numbered.own id registered
  · intro running seq id stored
    rw [lookup_register] at stored
    split at stored
    · cases stored
      rw [calls_register, if_pos rfl]
      exact ⟨typed, rfl, rfl, rfl⟩
    · rw [calls_register_of_used (wf.used_of_pending stored)]
      exact numbered.blank running seq id stored

theorem calls_stepRespond {res : Message} {decoded : Option (Option GoError)}
    (unsettled : ¬ Settled client (.respond res decoded) id) :
    (client.stepRespond res decoded).calls id = client.calls id := by
  unfold stepRespond
  split
  · rfl
  case isFalse response =>
    rw [Bool.not_eq_true] at response
    split
    · rfl
    case h_2 found stored =>
      dsimp only
      split
      · rfl
      case h_2 record err answered =>
        have different : id ≠ found := by
          rintro rfl
          exact unsettled ⟨response, stored, by simp [answered]⟩
        dsimp only
        rw [calls_modify, if_neg different]

theorem stepRespond_of_step {res : Message} {decoded : Option (Option GoError)}
    (moved : client.step (.respond res decoded) = some after) :
    client.input = .reading ∧ after = client.stepRespond res decoded := by
  unfold step at moved
  split at moved
  · cases moved
  · dsimp only at moved
    split at moved
    case isTrue reading => exact ⟨reading, (Option.some.inj moved).symm⟩
    case isFalse => cases moved

/-- A call that a step does not settle keeps its error, its metadata and its reply. -/
theorem untouched_of_step (wf : WellFormed client) (moved : client.step event = some after)
    (used : id < client.next) (unsettled : ¬ Settled client event id) :
    (client.calls id).SameReply (after.calls id) ∧ (after.calls id).error = (client.calls id).error := by
  constructor
  · by_cases responds : ∃ res decoded, event = .respond res decoded
    · obtain ⟨res, decoded, rfl⟩ := responds
      rw [(stepRespond_of_step moved).2, calls_stepRespond unsettled]
      exact sameReply_refl _
    · push Not at responds
      exact (frame_of_step moved).reply responds id used
  · rcases step_cases wf moved with ⟨invocation, err, rfl⟩ | ⟨invocation, number, counter, -, rfl⟩ | advances
    · rw [calls_reject_of_used used]
    · rw [calls_register_of_used used]
    · exact (advances.same id unsettled).2

theorem Numbered.advance (numbered : Numbered client) (moved : client.step event = some after)
    (advances : Advances client event after) (seq : after.seq = client.seq) : Numbered after := by
  have wf := numbered.wellFormed
  have ranks : ∀ id, rank after id = rank client id := fun id =>
    rank_congr fun other _ => (advances.keeps other).registered
  refine ⟨wf.advance advances, ?_, ?_, ?_⟩
  · rw [seq, ranks, advances.next, numbered.counter]
  · intro id registered
    rw [(advances.keeps id).registered] at registered
    rw [(advances.keeps id).seq, ranks, numbered.own id registered]
  · intro running seq id stored
    obtain ⟨earlier, terminates⟩ := advances.pending seq id stored
    have alive : client.shutdown = false ∧ event ≠ .terminate := by
      rw [← Bool.not_eq_true, advances.shutdown, not_or, Bool.not_eq_true] at running
      exact running
    have blank := numbered.blank alive.1 seq id earlier
    obtain ⟨reply, error⟩ := untouched_of_step wf moved (wf.used_of_pending earlier)
      (fun settled => alive.2 (terminates settled))
    exact ⟨reply.invocation ▸ blank.typed, error.trans blank.error,
      reply.resMetadata.trans blank.resMetadata, reply.filled.trans blank.filled⟩

theorem Numbered.send (numbered : Numbered client) (waits codec : Bool) :
    Numbered (client.stepSend waits codec) := by
  unfold stepSend
  dsimp only
  split
  · exact numbered.reject ..
  · split
    · exact numbered.reject ..
    · apply numbered.register
      cases waits <;> decide

theorem Numbered.step (numbered : Numbered client) (typed : ∀ seq, event ≠ .sendRaw seq)
    (moved : client.step event = some after) : Numbered after := by
  have counter := (frame_of_step moved).seq
  cases event with
  | send waits codec =>
    unfold Client.step at moved
    split at moved
    · cases moved
    · cases moved
      exact numbered.send waits codec
  | sendRaw seq => exact absurd rfl (typed seq)
  | _ =>
    rcases step_cases numbered.wellFormed moved with
      ⟨invocation, err, rfl⟩ | ⟨invocation, number, drawn, registers, rfl⟩ | advances
    · exact numbered.reject invocation err
    · exact registers.elim
    · exact numbered.advance moved advances counter

theorem numbered_connected : Numbered connected :=
  ⟨wellFormed_connected, rfl, nofun, nofun⟩

/-- A step settles pending calls, apart from a call whose arguments do not encode. -/
theorem pending_of_settled (settled : Settled client event id) :
    (∃ seq, client.pending.lookup seq = some id) ∨ ∃ err, event = .encodeFailed id err := by
  cases event with
  | encodeFailed failed err =>
    cases settled
    exact .inr ⟨err, rfl⟩
  | writeFailed failed err => exact .inl ⟨_, settled⟩
  | written sent oneway => exact .inl ⟨_, settled.2⟩
  | cancel cancelled err => exact .inl ⟨_, settled⟩
  | respond res decoded => exact .inl ⟨_, settled.2.1⟩
  | terminate => exact .inl (mem_pendingCalls.mp settled)
  | close => exact .inl (mem_pendingCalls.mp settled)
  | _ => exact settled.elim

theorem registration_of_step (wf : WellFormed client) (moved : client.step event = some after)
    (registered : (client.calls id).registered = true) :
    (after.calls id).registered = true ∧ (after.calls id).seq = (client.calls id).seq := by
  have used := wf.used_of_registered registered
  rcases step_cases wf moved with ⟨invocation, err, rfl⟩ | ⟨invocation, number, counter, -, rfl⟩ | advances
  · rw [calls_reject_of_used used]
    exact ⟨registered, rfl⟩
  · rw [calls_register_of_used used]
    exact ⟨registered, rfl⟩
  · exact ⟨(advances.keeps id).registered.trans registered, (advances.keeps id).seq⟩

theorem gone_of_step (wf : WellFormed client) (moved : client.step event = some after)
    (used : id < client.next) (gone : ∀ seq, client.pending.lookup seq ≠ some id) (seq : UInt64) :
    after.pending.lookup seq ≠ some id := by
  intro stored
  rcases step_cases wf moved with ⟨invocation, err, rfl⟩ | ⟨invocation, number, counter, -, rfl⟩ | advances
  · exact gone seq stored
  · rw [lookup_register] at stored
    split at stored
    · cases stored
      exact lt_irrefl _ used
    · exact gone seq stored
  · exact gone seq (advances.pending seq id stored).1

theorem mem_completedBetween (advances : Advances client event after)
    (completed : id ∈ completedBetween client after) : Settled client event id := by
  by_contra unsettled
  obtain ⟨-, changed⟩ := List.mem_filter.mp completed
  exact absurd (advances.same id unsettled).1 (of_decide_eq_true changed)

/-- What a frame is to the calls it completed. -/
structure Attributed (client : Client) (arrival : Arrival) : Prop where
  single : arrival.completed.length ≤ 1
  pushed : isServerMessage arrival.res = true → arrival.completed = []
  own : ∀ id ∈ arrival.completed, (client.calls id).registered = true ∧
    (client.calls id).seq = arrival.res.header.seq

section Respond

variable {res : Message} {decoded : Option (Option GoError)}

theorem attributed_of_respond (wf : WellFormed client) (advances : Advances client (.respond res decoded) after) :
    Attributed after ⟨res, decoded, completedBetween client after⟩ := by
  have looked : ∀ id ∈ completedBetween client after, client.pending.lookup res.header.seq = some id :=
    fun id completed => (mem_completedBetween advances completed).2.1
  refine ⟨?_, ?_, ?_⟩
  · have distinct : (completedBetween client after).Nodup := List.nodup_range.filter _
    have found : completedBetween client after ⊆ (client.pending.lookup res.header.seq).toList :=
      fun id completed => by simp [looked id completed]
    refine (distinct.subperm found).length_le.trans ?_
    cases client.pending.lookup res.header.seq <;> simp
  · intro pushed
    apply List.eq_nil_iff_forall_not_mem.mpr
    intro id completed
    have response := (mem_completedBetween advances completed).1
    rw [pushed] at response
    cases response
  · intro id completed
    obtain ⟨own, registered⟩ := wf.numbered _ id (looked id completed)
    exact ⟨(advances.keeps id).registered.trans registered, (advances.keeps id).seq.trans own⟩

theorem gone_of_respond (advances : Advances client (.respond res decoded) after)
    (completed : id ∈ completedBetween client after) (seq : UInt64) :
    after.pending.lookup seq ≠ some id := by
  intro stored
  have ends := (advances.pending seq id stored).2 (mem_completedBetween advances completed)
  cases ends

/-- What a frame writes into a pending call is its own. -/
theorem takenFrom_of_respond (numbered : Numbered client) (running : client.shutdown = false)
    (settled : Settled client (.respond res decoded) id) :
    ((client.stepRespond res decoded).calls id).TakenFrom res decoded := by
  obtain ⟨response, stored, -⟩ := settled
  obtain ⟨answered, err, answers, outcome, ended, taken⟩ :=
    (numbered.blank running _ id stored).answer res decoded
  refine ⟨outcome, ended, ?_⟩
  unfold stepRespond
  simp only [response, stored, answers, calls_modify, if_pos, Bool.false_eq_true, if_false]
  exact taken

end Respond

namespace Observed

variable {state next : Observed}

theorem mem_arrivals_note {arrival : Arrival} (member : arrival ∈ (state.note event after).arrivals) :
    arrival ∈ state.arrivals ∨ ∃ res decoded, event = .respond res decoded ∧
      arrival = ⟨res, decoded, completedBetween state.client after⟩ := by
  cases event with
  | respond res decoded =>
    rcases List.mem_cons.mp member with new | old
    · exact .inr ⟨res, decoded, rfl, new⟩
    · exact .inl old
  | _ => exact .inl member

theorem client_note : (state.note event after).client = after := by
  cases event <;> rfl

/-- Invariant of the runs without raw messages. -/
structure Tracked (state : Observed) : Prop where
  numbered : Numbered state.client
  attributed : ∀ arrival ∈ state.arrivals, Attributed state.client arrival
  gone : ∀ arrival ∈ state.arrivals, ∀ id ∈ arrival.completed, ∀ seq,
    state.client.pending.lookup seq ≠ some id

theorem Typed.not_sendRaw (typed : Typed state event) (seq : UInt64) : event ≠ .sendRaw seq := by
  rintro rfl
  exact typed

theorem Tracked.used (tracked : Tracked state) (member : arrival ∈ state.arrivals)
    (completed : id ∈ arrival.completed) : id < state.client.next :=
  tracked.numbered.wellFormed.used_of_registered ((tracked.attributed arrival member).own id completed).1

theorem Tracked.advances_respond (tracked : Tracked state) {res : Message}
    {decoded : Option (Option GoError)} (moved : state.client.step (.respond res decoded) = some after) :
    Advances state.client (.respond res decoded) after := by
  obtain ⟨reading, rfl⟩ := stepRespond_of_step moved
  exact Client.advances_respond tracked.numbered.wellFormed res decoded reading

theorem Tracked.step (tracked : Tracked state) (typed : Typed state event)
    (moved : state.client.step event = some after) : Tracked (state.note event after) := by
  have wf := tracked.numbered.wellFormed
  refine ⟨?_, ?_, ?_⟩
  · rw [client_note]
    exact tracked.numbered.step typed.not_sendRaw moved
  · intro arrival member
    rw [client_note]
    rcases mem_arrivals_note member with old | ⟨res, decoded, rfl, rfl⟩
    · obtain ⟨single, pushed, own⟩ := tracked.attributed arrival old
      refine ⟨single, pushed, fun id completed => ?_⟩
      obtain ⟨registered, seq⟩ := registration_of_step wf moved (own id completed).1
      exact ⟨registered, seq.trans (own id completed).2⟩
    · exact attributed_of_respond wf (tracked.advances_respond moved)
  · intro arrival member id completed
    rw [client_note]
    rcases mem_arrivals_note member with old | ⟨res, decoded, rfl, rfl⟩
    · exact gone_of_step wf moved (tracked.used old completed) (tracked.gone arrival old id completed)
    · exact gone_of_respond (tracked.advances_respond moved) completed

/-- The calls that frames completed have what their frame says. -/
def Taken (state : Observed) : Prop :=
  ∀ arrival ∈ state.arrivals, ∀ id ∈ arrival.completed,
    (state.client.calls id).TakenFrom arrival.res arrival.decoded

theorem Taken.step (taken : Taken state) (tracked : Tracked state) (encodes : EncodesUnanswered state event)
    (moved : state.client.step event = some after) : Taken (state.note event after) := by
  have wf := tracked.numbered.wellFormed
  intro arrival member id completed
  rw [client_note]
  rcases mem_arrivals_note member with old | ⟨res, decoded, rfl, rfl⟩
  · have gone := tracked.gone arrival old id completed
    have unsettled : ¬ Settled state.client event id := by
      intro settled
      rcases pending_of_settled settled with ⟨seq, stored⟩ | ⟨err, rfl⟩
      · exact gone seq stored
      · exact encodes arrival old completed
    obtain ⟨reply, error⟩ := untouched_of_step wf moved (tracked.used old completed) unsettled
    obtain ⟨outcome, ended, answers, sameError, sameMetadata, sameReply⟩ := taken arrival old id completed
    exact ⟨outcome, ended, answers, error.trans sameError, reply.resMetadata.trans sameMetadata,
      reply.filled.trans sameReply⟩
  · have running := wf.running_of_input moved (.inr ⟨res, decoded, rfl⟩)
    have settled := mem_completedBetween (tracked.advances_respond moved) completed
    rw [(stepRespond_of_step moved).2]
    exact takenFrom_of_respond tracked.numbered running settled

theorem EncodesUnanswered.typed (encodes : EncodesUnanswered state event) : Typed state event := by
  cases event with
  | sendRaw seq => exact encodes
  | _ => trivial

theorem tracked_initial : Tracked ⟨connected, []⟩ := ⟨numbered_connected, nofun, nofun⟩

theorem tracked_of_reached (reached : system.Reached Typed state) : Tracked state := by
  refine reached.invariant ?_ ?_
  · rintro _ rfl
    exact tracked_initial
  · intro state event next tracked typed moved
    obtain ⟨after, ran, rfl⟩ := Option.map_eq_some_iff.mp moved
    exact tracked.step typed ran

theorem taken_of_reached (reached : system.Reached EncodesUnanswered state) :
    Tracked state ∧ Taken state := by
  induction reached with
  | start initial =>
    cases initial
    exact ⟨tracked_initial, nofun⟩
  | step _ event encodes moved ih =>
    obtain ⟨after, ran, rfl⟩ := Option.map_eq_some_iff.mp moved
    exact ⟨ih.1.step encodes.typed ran, ih.2.step ih.1 encodes ran⟩

/-- In a run whose calls are issued through `Go` and `Call`, fewer than 2^64 of them, no
two calls are registered under one number, and a frame completes at most one call, one
that was registered under the number of the frame, and none if it is a message of the
server. If a call whose arguments do not encode is never one that a frame has completed
already, the error, the metadata and the reply of a call that a frame completed are
those of the frame. -/
theorem frames_correlated (reached : system.Reached Typed state) (few : state.client.next < 2 ^ 64) :
    (∀ id other, (state.client.calls id).registered = true →
      (state.client.calls other).registered = true →
      (state.client.calls id).seq = (state.client.calls other).seq → id = other) ∧
    (∀ arrival ∈ state.arrivals, Attributed state.client arrival) ∧
    (system.Reached EncodesUnanswered state → Taken state) := by
  have tracked := tracked_of_reached reached
  refine ⟨?_, tracked.attributed, fun unanswered => (taken_of_reached unanswered).2⟩
  intro id other left right
  exact tracked.numbered.distinct few left right

/-- Two calls, answered in the other order. -/
theorem frames_correlated_crossed :
    ∃ state, system.Reached Typed state ∧ state.client.next < 2 ^ 64 ∧
      state.arrivals.map Arrival.completed = [[0], [1]] ∧
      (∀ arrival ∈ state.arrivals, Attributed state.client arrival) ∧ Taken state := by
  have start : system.Reached EncodesUnanswered ⟨connected, []⟩ := .start rfl
  have sent := (start.step (.send true true) trivial rfl).step (.send true true) trivial rfl
  have written := (sent.step (.written 0 false) trivial rfl).step (.written 1 false) trivial rfl
  have answered := (written.step (.respond (answerTo 1) none) trivial rfl).step
    (.respond (answerTo 0) none) trivial rfl
  have typed := answered.mono fun _ _ => EncodesUnanswered.typed
  have few : (2 : Nat) < 2 ^ 64 := by decide
  obtain ⟨-, attributed, taken⟩ := frames_correlated typed few
  exact ⟨_, typed, few, rfl, attributed, taken answered⟩

/-- A frame with the number of a call that is not encoded yet completes it, and the
failed encoding then replaces its error. -/
theorem failed_encoding_overrides_frame :
    ∃ state, system.play ⟨connected, []⟩ [.send true true, .respond (answerTo 0) none,
        .encodeFailed 0 (.plain (utf8 "unsupported type"))] = some state ∧
      state.arrivals.map Arrival.completed = [[0]] ∧ ¬ Taken state := by
  refine ⟨_, rfl, rfl, ?_⟩
  intro taken
  obtain ⟨outcome, err, answers, error, -⟩ := taken _ (List.mem_singleton.mpr rfl) 0 (List.mem_singleton.mpr rfl)
  cases answers
  cases error

end Observed

end Irpc.Client
