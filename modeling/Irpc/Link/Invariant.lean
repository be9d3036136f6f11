import Irpc.Link.Link

/-! What holds of both ends and of the bytes between them, whichever way they move. -/
namespace Irpc.Link

open Irpc.Foundation Irpc.Protocol Irpc.Client Irpc.Server

variable {Value : Type} {setup : Setup Value} {link next : Link Value} {call : Call Value} {id : Nat}
  {arrival : Arrival}

def Asks (setup : Setup Value) (call : Call Value) (seq : UInt64) (message : Message) : Prop :=
  ∃ data pooled, pooled.Clean ∧ encodeArgs setup call = some (data, none) ∧
    message = sendRequest setup.option setup.hook call seq data pooled

theorem Asks.seq {message : Message} (asks : Asks setup call number message) : message.header.seq = number := by
  obtain ⟨data, pooled, -, -, rfl⟩ := asks
  rw [sendRequest, setup.keepsSeq]
  simp only [sendHeader]
  split <;> split <;> split <;>
    simp [Header.setCompressType, Header.setHeartbeat, Header.setOneway]

theorem asks_of_request {pooled message : Message} (clean : pooled.Clean)
    (requested : link.request setup id pooled = some message) :
    ∃ call, link.asked id = some call ∧ Asks setup call (link.client.calls id).seq message := by
  obtain ⟨call, asked, encoded⟩ := Option.bind_eq_some_iff.mp requested
  refine ⟨call, asked, ?_⟩
  split at encoded
  case h_1 data found =>
    cases encoded
    exact ⟨data, pooled, clean, found, rfl⟩
  case h_2 => cases encoded

/-- A request on the wire is that of a call whose goroutine is done with sending. -/
structure Posted (setup : Setup Value) (link : Link Value) (parcel : Parcel Nat) : Prop where
  registered : (link.client.calls parcel.purpose).registered = true
  sent : (link.client.calls parcel.purpose).phase ≠ .sending
  asks : ∃ call, link.asked parcel.purpose = some call ∧
    Asks setup call (link.client.calls parcel.purpose).seq parcel.transmission.message

/-- A frame of the server answers a request that was read, or is known as a message of the
server to whoever receives it. -/
def Answers (setup : Setup Value) (requests : List Request) (parcel : Parcel (Option Request)) : Prop :=
  match parcel.purpose with
  | some request => request ∈ requests ∧
    (setup.server.handle request).response = some parcel.transmission.message
  | none => ∀ received, parcel.transmission.message.Delivers setup.config received →
    isServerMessage received = true

structure Asking (setup : Setup Value) (link : Link Value) : Prop where
  tracked : link.observed.Tracked
  few : link.client.next < 2 ^ 64
  sending : ∀ id, (link.client.calls id).phase = .sending → (link.client.calls id).registered = true
  posted : ∀ parcel ∈ link.requests.sent, Posted setup link parcel
  once : (link.requests.sent.map Parcel.purpose).Nodup

structure Answering (setup : Setup Value) (link : Link Value) : Prop where
  replies : ∀ exchange ∈ link.conn.exchanges,
    exchange.response = (setup.server.handle exchange.request).response
  answers : ∀ parcel ∈ link.responses.sent,
    Answers setup (link.conn.exchanges.map Exchange.request) parcel

/-- What is read at one end is what was written at the other. -/
structure Carrying (setup : Setup Value) (link : Link Value) : Prop where
  requests : link.requests.InOrder (framing setup.config)
  responses : link.responses.InOrder (framing setup.config)
  read : link.conn.exchanges.map (fun exchange => exchange.request.req) = link.requests.received.reverse
  arrived : link.observed.arrivals.map Arrival.res = link.responses.received.reverse

structure Sound (setup : Setup Value) (link : Link Value) : Prop where
  asking : Asking setup link
  answering : Answering setup link
  carrying : Carrying setup link

/-- Everything between a call and the frame that completed it: the request the server has
read, and the response it has sent to it. -/
structure Served (setup : Setup Value) (link : Link Value) (id : Nat) (arrival : Arrival) (call : Call Value)
    (request : Request) (sent res : Message) : Prop where
  asked : link.asked id = some call
  asks : Asks setup call (link.client.calls id).seq sent
  reads : sent.Delivers setup.config request.req
  read : request ∈ link.conn.exchanges.map Exchange.request
  answers : (setup.server.handle request).response = some res
  arrives : res.Delivers setup.config arrival.res

/-- A frame completes the call whose request it answers. -/
theorem Sound.served (sound : Sound setup link) (member : arrival ∈ link.observed.arrivals)
    (completed : id ∈ arrival.completed) :
    ∃ parcel ∈ link.requests.sent, parcel.purpose = id ∧
      ∃ call request res, Served setup link id arrival call request parcel.transmission.message res := by
  obtain ⟨asking, answering, carrying⟩ := sound
  have attributed := asking.tracked.attributed arrival member
  have arrived : arrival.res ∈ link.responses.received := by
    have mapped := List.mem_map_of_mem (f := Arrival.res) member
    rwa [carrying.arrived, List.mem_reverse] at mapped
  obtain ⟨answer, answered, arrives⟩ := carrying.responses.exists_sent arrived
  have answers := answering.answers answer answered
  unfold Answers at answers
  split at answers
  case h_1 request purpose =>
    obtain ⟨read, responds⟩ := answers
    obtain ⟨exchange, exchanged, same⟩ := List.mem_map.mp read
    have delivered : request.req ∈ link.requests.received := by
      have mapped := List.mem_map_of_mem (f := fun exchange : Exchange => exchange.request.req) exchanged
      rw [carrying.read, List.mem_reverse] at mapped
      rwa [← same]
    obtain ⟨parcel, sent, reads⟩ := carrying.requests.exists_sent delivered
    have posted := asking.posted parcel sent
    obtain ⟨call, asked, asks⟩ := posted.asks
    -- All four messages have one number, and no other call has it.
    have number : (link.client.calls parcel.purpose).seq = arrival.res.header.seq := by
      rw [seq_of_delivers arrives, (respondsTo_handle responds).seq, seq_of_delivers reads, asks.seq]
    obtain ⟨registered, own⟩ := attributed.own id completed
    have own : parcel.purpose = id :=
      asking.tracked.numbered.distinct asking.few posted.registered registered (number.trans own.symm)
    subst own
    exact ⟨parcel, sent, rfl, call, request, _, asked, asks, reads, read, responds, arrives⟩
  case h_2 =>
    have pushed := attributed.pushed (answers _ arrives)
    rw [pushed] at completed
    cases completed

section Client

variable {event : Client.Event} {client after : Client}

theorem next_le_of_step (wf : WellFormed client) (moved : client.step event = some after) :
    after.next ≤ client.next + 1 := by
  rcases step_cases wf moved with ⟨invocation, err, rfl⟩ | ⟨invocation, number, counter, -, rfl⟩ | advances
  · exact le_rfl
  · exact le_rfl
  · rw [advances.next]
    exact Nat.le_succ _

theorem Posted.advance {parcel : Parcel Nat} (posted : Posted setup link parcel) (wf : WellFormed link.client)
    (moved : link.client.step event = some after)
    (asked : ∀ id < link.client.next, next.asked id = link.asked id)
    (moves : next.client = after) : Posted setup next parcel := by
  have used := wf.used_of_registered posted.registered
  obtain ⟨registered, seq⟩ := registration_of_step wf moved posted.registered
  obtain ⟨call, asks⟩ := posted.asks
  refine ⟨?_, ?_, call, ?_⟩
  · rw [moves]
    exact registered
  · rw [moves]
    intro sending
    exact posted.sent (sending_of_step moved used sending).1
  · rw [moves, seq, asked _ used]
    exact asks

/-- The client moves, and `fresh` is what it has sent by the step. -/
theorem Asking.advance (asking : Asking setup link) (typed : Observed.Typed link.observed event)
    (few : link.client.next + 1 < 2 ^ 64) (moved : link.client.step event = some after)
    (observes : next.observed = link.observed.note event after)
    (asked : ∀ id < link.client.next, next.asked id = link.asked id) {fresh : List (Parcel Nat)}
    (sent : next.requests.sent = link.requests.sent ++ fresh)
    (single : fresh = [] ∨ ∃ parcel, fresh = [parcel] ∧ sentBy event = some parcel.purpose ∧
      ∃ call, link.asked parcel.purpose = some call ∧
        Asks setup call (link.client.calls parcel.purpose).seq parcel.transmission.message) :
    Asking setup next := by
  have wf : WellFormed link.client := asking.tracked.numbered.wellFormed
  have moves : next.client = after := by
    rw [Link.client, observes]
    exact Observed.client_note
  refine ⟨?_, ?_, ?_, ?_, ?_⟩
  · rw [observes]
    exact asking.tracked.step typed moved
  · rw [moves]
    have bound := next_le_of_step wf moved
    omega
  · rw [moves]
    exact registered_of_step wf moved asking.sending
  · rw [sent]
    refine List.forall_mem_append.mpr ⟨fun parcel member => ?_, ?_⟩
    · exact (asking.posted parcel member).advance wf moved asked moves
    · rcases single with rfl | ⟨parcel, rfl, sends, call, asks, message⟩
      · exact List.forall_mem_nil _
      · have sending := sending_of_sentBy moved sends
        have stored := asking.sending _ sending
        have used := wf.used_of_registered stored
        obtain ⟨registered, seq⟩ := registration_of_step wf moved stored
        refine List.forall_mem_singleton.mpr ⟨?_, ?_, call, ?_, ?_⟩
        · rw [moves]
          exact registered
        · rw [moves]
          intro still
          exact (sending_of_step moved used still).2 sends
        · rw [asked _ used]
          exact asks
        · rw [moves, seq]
          exact message
  · rw [sent, List.map_append]
    rcases single with rfl | ⟨parcel, rfl, sends, -⟩
    · simpa using asking.once
    · refine List.nodup_append.mpr ⟨asking.once, List.nodup_singleton _, ?_⟩
      intro earlier member purpose last same
      obtain ⟨other, posted, rfl⟩ := List.mem_map.mp member
      rw [List.map_singleton, List.mem_singleton] at last
      have sending := sending_of_sentBy moved sends
      rw [← last, ← same] at sending
      exact (asking.posted other posted).sent sending

end Client

section Server

variable {event : Connection.Event} {after : Connection}

theorem response_submit {exchange : Exchange} (asyncWrite isOpen : Bool) :
    (exchange.submit asyncWrite isOpen).response = exchange.response := by
  unfold Exchange.submit
  split <;> rfl

theorem replies_of_moves {conn : Connection}
    (moves : Connection.Moves setup.server setup.asyncWrite conn event after)
    (replies : ∀ exchange ∈ conn.exchanges, exchange.response = (setup.server.handle exchange.request).response) :
    ∀ exchange ∈ after.exchanges, exchange.response = (setup.server.handle exchange.request).response := by
  cases moves with
  | dispatch reading handled =>
    refine List.forall_mem_cons.mpr ⟨?_, replies⟩
    rw [handled]
    rfl
  | answer reading handled =>
    refine List.forall_mem_cons.mpr ⟨?_, replies⟩
    rw [response_submit, Exchange.request_submit, handled]
    rfl
  | stop reading => exact replies
  | finish found running =>
    refine forall_mem_set replies ?_ _
    rw [response_submit, Exchange.request_submit]
    exact replies _ (List.mem_of_getElem? found)
  | flush found queued =>
    have kept := replies _ (List.mem_of_getElem? found)
    refine forall_mem_set replies ?_ _
    exact kept
  | close returned => exact replies

theorem Answers.mono {requests more : List Request} (answers : Answers setup requests parcel)
    (grows : requests ⊆ more) : Answers setup more parcel := by
  unfold Answers at answers ⊢
  split
  · rename_i request purpose
    rw [purpose] at answers
    exact ⟨grows answers.1, answers.2⟩
  · rename_i purpose
    rw [purpose] at answers
    exact answers

theorem subset_of_moves {conn : Connection}
    (moves : Connection.Moves setup.server setup.asyncWrite conn event after) :
    conn.exchanges.map Exchange.request ⊆ after.exchanges.map Exchange.request := by
  rw [requests_of_moves moves]
  exact List.subset_append_right _ _

/-- A frame of the server counts as sent when it is written whole. -/
theorem sent_transmit {Purpose : Type} {config : Config} {pipe : Pipe (Parcel Purpose) Message}
    {parcel : Parcel Purpose} {holds : Parcel Purpose → Prop} (all : ∀ parcel ∈ pipe.sent, holds parcel)
    (new : holds parcel) (through : Option Nat) :
    ∀ sent ∈ (transmit config pipe parcel through).sent, holds sent := by
  have written : ∀ sent ∈ pipe.sent ++ [parcel], holds sent :=
    List.forall_mem_append.mpr ⟨all, List.forall_mem_singleton.mpr new⟩
  cases through with
  | none => exact written
  | some count =>
    rw [transmit]
    rcases pipe.sent_writePart (framing config) parcel count with same | added
    · rw [same]
      exact all
    · rw [added]
      exact written

theorem inOrder_transmit {Purpose : Type} {config : Config} {pipe : Pipe (Parcel Purpose) Message}
    {parcel : Parcel Purpose} (inOrder : pipe.InOrder (framing config))
    (writable : Writable config pipe parcel) (through : Option Nat) :
    (transmit config pipe parcel through).InOrder (framing config) := by
  cases through with
  | none => exact inOrder.write writable.1 writable.2
  | some count => exact inOrder.writePart writable.1 writable.2 count

theorem received_transmit {Purpose : Type} (config : Config) (pipe : Pipe (Parcel Purpose) Message)
    (parcel : Parcel Purpose) (through : Option Nat) :
    (transmit config pipe parcel through).received = pipe.received := by
  cases through with
  | none => rfl
  | some count => exact pipe.received_writePart (framing config) parcel count

theorem pushed_sendMessage {pooled received : Message} {config : Config} {seq : UInt64} (clean : pooled.Clean)
    (delivers : (sendMessage pooled seq servicePath serviceMethod metadata data).Delivers config received) :
    isServerMessage received = true := by
  have flags := flags_sendMessage clean seq servicePath serviceMethod metadata data
  have kept := delivers.header fun falls => falls.1 (compressType_of_flags flags)
  apply isServerMessage_of_flags
  rw [kept]
  exact flags

end Server

theorem sound_established : Sound setup established where
  asking := ⟨Observed.tracked_initial, Nat.two_pow_pos 64, nofun, List.forall_mem_nil _, List.nodup_nil⟩
  answering := ⟨List.forall_mem_nil _, List.forall_mem_nil _⟩
  carrying := ⟨Pipe.inOrder_idle, Pipe.inOrder_idle, rfl, rfl⟩

/-- A step of the client that neither handles a response nor sends a raw message. -/
def Quiet : Client.Event → Prop
  | .respond .. => False
  | .sendRaw .. => False
  | _ => True

theorem Quiet.typed {event : Client.Event} (quiet : Quiet event) (state : Observed) : state.Typed event := by
  cases event with
  | sendRaw seq => exact quiet
  | _ => trivial

theorem arrivals_note {state : Observed} {event : Client.Event} {after : Client} (quiet : Quiet event) :
    (state.note event after).arrivals = state.arrivals := by
  cases event with
  | respond res decoded => exact quiet.elim
  | _ => rfl

theorem Sound.proceed (sound : Sound setup link) {event : Client.Event}
    (quiet : Quiet event) (few : link.client.next + 1 < 2 ^ 64) (moved : link.advance event = some next) :
    Sound setup next := by
  obtain ⟨after, ran, rfl⟩ := Option.map_eq_some_iff.mp moved
  refine ⟨?_, ⟨sound.answering.replies, sound.answering.answers⟩, ?_⟩
  · exact sound.asking.advance (quiet.typed _) few ran rfl (fun _ _ => rfl) (List.append_nil _).symm (.inl rfl)
  · refine ⟨sound.carrying.requests, sound.carrying.responses, sound.carrying.read, ?_⟩
    rw [arrivals_note quiet]
    exact sound.carrying.arrived

theorem Sound.send (sound : Sound setup link) (few : link.client.next + 1 < 2 ^ 64)
    (moved : link.step setup (.send waits call) = some next) : Sound setup next := by
  obtain ⟨after, ran, rfl⟩ := Option.map_eq_some_iff.mp moved
  refine ⟨?_, ⟨sound.answering.replies, sound.answering.answers⟩, ?_⟩
  · refine sound.asking.advance (by trivial) few ran rfl ?_ (List.append_nil _).symm (.inl rfl)
    intro id used
    exact Function.update_of_ne used.ne _ _
  · exact ⟨sound.carrying.requests, sound.carrying.responses, sound.carrying.read, sound.carrying.arrived⟩

theorem Sound.write (sound : Sound setup link) {event : Client.Event} {requests : Pipe (Parcel Nat) Message}
    {parcel : Parcel Nat} (quiet : Quiet event) (few : link.client.next + 1 < 2 ^ 64)
    (sends : sentBy event = some parcel.purpose)
    (asks : ∃ call, link.asked parcel.purpose = some call ∧
      Asks setup call (link.client.calls parcel.purpose).seq parcel.transmission.message)
    (inOrder : requests.InOrder (framing setup.config)) (received : requests.received = link.requests.received)
    (sent : requests.sent = link.requests.sent ∨ requests.sent = link.requests.sent ++ [parcel])
    (moved : { link with requests := requests }.advance event = some next) : Sound setup next := by
  obtain ⟨after, ran, rfl⟩ := Option.map_eq_some_iff.mp moved
  refine ⟨?_, ⟨sound.answering.replies, sound.answering.answers⟩, inOrder, sound.carrying.responses, ?_, ?_⟩
  · rcases sent with same | added
    · have nothing := same.trans (List.append_nil _).symm
      exact sound.asking.advance (quiet.typed _) few ran rfl (fun _ _ => rfl) nothing (.inl rfl)
    · exact sound.asking.advance (quiet.typed _) few ran rfl (fun _ _ => rfl) added (.inr ⟨parcel, rfl, sends, asks⟩)
  · exact sound.carrying.read.trans (congrArg List.reverse received.symm)
  · rw [arrivals_note quiet]
    exact sound.carrying.arrived

theorem Sound.receive (sound : Sound setup link) (few : link.client.next + 1 < 2 ^ 64)
    (moved : link.step setup (.receive decoded) = some next) : Sound setup next := by
  obtain ⟨⟨res, responses⟩, read, moved⟩ := Option.bind_eq_some_iff.mp moved
  obtain ⟨after, ran, rfl⟩ := Option.map_eq_some_iff.mp moved
  have inOrder := sound.carrying.responses.read (reads_receive setup.lossless rfl) read
  obtain ⟨⟨taken, rest⟩, -, same⟩ := Option.map_eq_some_iff.mp read
  cases same
  refine ⟨?_, ⟨sound.answering.replies, sound.answering.answers⟩, sound.carrying.requests, inOrder,
    sound.carrying.read, ?_⟩
  · exact sound.asking.advance (by trivial) few ran rfl (fun _ _ => rfl) (List.append_nil _).symm (.inl rfl)
  · have arrived := sound.carrying.arrived
    simp [Observed.note, arrived]

/-- The server moves, and may answer a request. -/
theorem Sound.serve (sound : Sound setup link) {event : Connection.Event} {encoding : Encoding}
    (through : Option Nat) {requests : Pipe (Parcel Nat) Message}
    (writable : ∀ request res, emits setup link.conn event = some (request, res) →
      Writable setup.config link.responses (encoding.parcel (some request) res))
    (inOrder : requests.InOrder (framing setup.config)) (sent : requests.sent = link.requests.sent)
    (read : requests.received = link.requests.received ++ (readBy event).map Request.req)
    (moved : { link with requests := requests }.serve setup event encoding through = some next) :
    Sound setup next := by
  obtain ⟨conn, ran, rfl⟩ := Option.map_eq_some_iff.mp moved
  have moves := Connection.moves_of_step ran
  have replies := replies_of_moves moves sound.answering.replies
  have answered : ∀ parcel ∈ link.responses.sent,
      Answers setup (conn.exchanges.map Exchange.request) parcel :=
    fun parcel member => (sound.answering.answers parcel member).mono (subset_of_moves moves)
  have requested := requests_of_moves moves
  refine ⟨⟨sound.asking.tracked, sound.asking.few, sound.asking.sending, ?_, ?_⟩, ⟨replies, ?_⟩, inOrder, ?_, ?_,
    ?_⟩
  · rw [sent]
    exact fun parcel member => ⟨(sound.asking.posted parcel member).registered,
      (sound.asking.posted parcel member).sent, (sound.asking.posted parcel member).asks⟩
  · rw [sent]
    exact sound.asking.once
  · dsimp only
    split
    · exact answered
    case h_2 request res emitted =>
      refine sent_transmit answered ?_ through
      obtain ⟨exchange, member, same, responds, -⟩ := written_of_emits moves emitted
      refine ⟨List.mem_map.mpr ⟨exchange, member, same⟩, ?_⟩
      rw [← same, ← replies exchange member]
      exact responds
  · dsimp only
    split
    · exact sound.carrying.responses
    case h_2 request res emitted =>
      exact inOrder_transmit sound.carrying.responses (writable request res emitted) through
  · have before := sound.carrying.read
    dsimp only
    rw [read, ← Function.comp_def, ← List.map_map, requested]
    rw [← Function.comp_def, ← List.map_map] at before
    rw [List.map_append, before, List.reverse_append]
    cases event <;> rfl
  · dsimp only
    split
    · exact sound.carrying.arrived
    · rw [received_transmit]
      exact sound.carrying.arrived

theorem Sound.push (sound : Sound setup link) {parcel : Parcel (Option Request)}
    (own : parcel.purpose = none) (writable : Writable setup.config link.responses parcel)
    (pushed : ∀ received, parcel.transmission.message.Delivers setup.config received →
      isServerMessage received = true) (through : Option Nat) :
    Sound setup { link with responses := transmit setup.config link.responses parcel through } := by
  refine ⟨⟨sound.asking.tracked, sound.asking.few, sound.asking.sending, ?_, sound.asking.once⟩,
    ⟨sound.answering.replies, ?_⟩, sound.carrying.requests, ?_, sound.carrying.read, ?_⟩
  · exact fun parcel member => ⟨(sound.asking.posted parcel member).registered,
      (sound.asking.posted parcel member).sent, (sound.asking.posted parcel member).asks⟩
  · refine sent_transmit sound.answering.answers ?_ through
    rw [Answers, own]
    exact pushed
  · exact inOrder_transmit sound.carrying.responses writable through
  · dsimp only
    rw [received_transmit]
    exact sound.carrying.arrived

theorem Sound.step (sound : Sound setup link) {event : Event Value} (proper : Proper setup link event)
    (moved : link.step setup event = some next) : Sound setup next := by
  obtain ⟨few, sends⟩ := proper
  cases event with
  | send waits call => exact sound.send few moved
  | encodeFailed id =>
    dsimp only [Link.step] at moved
    split at moved
    · exact sound.proceed (by trivial) few moved
    · cases moved
  | write id pooled encoding oneway =>
    obtain ⟨message, requested, moved⟩ := Option.bind_eq_some_iff.mp moved
    have writable := sends.2 message requested
    exact sound.write (by trivial) few rfl (asks_of_request sends.1 requested)
      (sound.carrying.requests.write writable.1 writable.2) rfl (.inr rfl) moved
  | writeFailed id pooled encoding count err =>
    obtain ⟨message, requested, moved⟩ := Option.bind_eq_some_iff.mp moved
    have writable := sends.2 message requested
    refine sound.write (by trivial) few ?_ (asks_of_request sends.1 requested)
      (sound.carrying.requests.writePart writable.1 writable.2 count) (Pipe.received_writePart ..)
      (Pipe.sent_writePart ..) moved
    rfl
  | receive decoded => exact sound.receive few moved
  | proceed event =>
    obtain ⟨quiet, moved⟩ := Option.ite_none_right_eq_some.mp moved
    refine sound.proceed ?_ few moved
    cases event with
    | respond res decoded => cases quiet
    | sendRaw seq => cases quiet
    | _ => trivial
  | accept pooled verdict auth resMetadata response encoding through =>
    obtain ⟨⟨req, rest⟩, read, moved⟩ := Option.bind_eq_some_iff.mp moved
    have inOrder := sound.carrying.requests.read (reads_receive setup.lossless sends.1.metadata) read
    have writable := sends.2 req rest read
    obtain ⟨⟨taken, bytes⟩, -, same⟩ := Option.map_eq_some_iff.mp read
    cases same
    exact sound.serve through writable inOrder rfl rfl moved
  | serve event encoding through =>
    cases event with
    | read request => cases moved
    | _ => exact sound.serve through sends sound.carrying.requests rfl (List.append_nil _).symm moved
  | push pooled seq servicePath serviceMethod metadata data encoding through =>
    cases moved
    exact sound.push rfl sends.2 (fun _ => pushed_sendMessage sends.1) through

theorem sound_of_reached (reached : (system setup).Reached (Proper setup) link) : Sound setup link := by
  refine reached.invariant ?_ ?_
  · rintro _ rfl
    exact sound_established
  · intro link event next sound proper moved
    exact sound.step proper moved

end Irpc.Link
