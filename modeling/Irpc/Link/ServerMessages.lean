import Irpc.Link.Delivery

/-! The messages a server sends on its own, up to the channel the application takes them
from. -/
namespace Irpc.Client

open Irpc.Foundation Irpc.Protocol

/-- `ServerMessageChan`, with what the application has taken from it. -/
structure ServerMessageChan where
  registered : Bool
  capacity : Nat
  queue : List Message
  closed : Bool
  taken : List Message

/-- `waiting` says that the application waits at the channel. With `block` there is no result
while the channel is full. -/
def handleServerRequest (block waiting : Bool) (chan : ServerMessageChan) (msg : Message) :
    Option ServerMessageChan :=
  if !chan.registered then some chan
  -- Sending to a closed channel panics, upon which the client forgets the channel.
  else if chan.closed then some { chan with registered := false }
  else if waiting && chan.queue.isEmpty then some { chan with taken := chan.taken ++ [msg] }
  else if chan.queue.length < chan.capacity then some { chan with queue := chan.queue ++ [msg] }
  else if block then none
  else some chan

/-- The message `input` leaves for the application when its loop has ended. -/
def lastMessage (err : GoError) (server : Bytes) : Message :=
  { Message.newMessage with
    header := (Header.fresh.setMessageType .request).setMessageStatusType .error
    metadata := some (((∅ : Metadata).insert serviceErrorKey err.error).insert (utf8 "server") server) }

namespace ServerMessageChan

def accepted (chan : ServerMessageChan) : List Message := chan.taken ++ chan.queue

variable {chan after : ServerMessageChan} {block waiting : Bool} {msg : Message}

theorem accepted_of_handle (handled : handleServerRequest block waiting chan msg = some after) :
    after.accepted = chan.accepted ∨ after.accepted = chan.accepted ++ [msg] := by
  unfold handleServerRequest at handled
  split at handled
  · cases handled
    exact .inl rfl
  · split at handled
    · cases handled
      exact .inl rfl
    · split at handled
      case isTrue direct =>
        cases handled
        have empty : chan.queue = [] := by
          simpa using (Bool.and_eq_true_iff.mp direct).2
        simp [accepted, empty]
      · split at handled
        · cases handled
          simp [accepted]
        · split at handled
          · cases handled
          · cases handled
            exact .inl rfl

/-- A message is not lost if the channel is there and the client may wait for it. -/
theorem accepted_of_block (handled : handleServerRequest true waiting chan msg = some after)
    (registered : chan.registered = true) (isOpen : chan.closed = false) :
    after.accepted = chan.accepted ++ [msg] ∧ after.registered = true ∧ after.closed = false := by
  unfold handleServerRequest at handled
  simp only [registered, isOpen, Bool.not_true, Bool.false_eq_true, if_false] at handled
  split at handled
  case isTrue direct =>
    cases handled
    have empty : chan.queue = [] := by
      simpa using (Bool.and_eq_true_iff.mp direct).2
    simp [accepted, empty]
  · split at handled
    · cases handled
      simp [accepted]
    · cases handled

end ServerMessageChan

theorem input_of_step {client after : Client} {event : Event} (ended : client.input ≠ .reading)
    (moved : client.step event = some after) : after.input ≠ .reading := by
  obtain ⟨-, moved⟩ := Option.ite_none_left_eq_some.mp moved
  cases event with
  | send waits codec =>
    cases moved
    unfold stepSend
    dsimp only
    split
    · exact ended
    · split <;> exact ended
  | sendRaw seq =>
    cases moved
    exact ended
  | encodeFailed id err =>
    obtain ⟨-, same⟩ := Option.ite_none_right_eq_some.mp moved
    cases same
    exact ended
  | writeFailed id err =>
    obtain ⟨-, same⟩ := Option.ite_none_right_eq_some.mp moved
    cases same
    simpa using ended
  | written id oneway =>
    obtain ⟨-, same⟩ := Option.ite_none_right_eq_some.mp moved
    split at same <;> cases same <;> simpa using ended
  | cancel id err =>
    obtain ⟨-, same⟩ := Option.ite_none_right_eq_some.mp moved
    cases same
    simpa using ended
  | receive id =>
    obtain ⟨-, same⟩ := Option.ite_none_right_eq_some.mp moved
    cases same
    exact ended
  | respond res decoded =>
    obtain ⟨reading, -⟩ := Option.ite_none_right_eq_some.mp moved
    exact absurd reading ended
  | disconnect err =>
    obtain ⟨reading, -⟩ := Option.ite_none_right_eq_some.mp moved
    exact absurd reading ended
  | terminate =>
    dsimp only at moved
    split at moved
    · cases moved
      nofun
    · cases moved
  | close =>
    cases moved
    unfold stepClose
    dsimp only
    split <;> exact ended
  | unlockAgain =>
    obtain ⟨-, same⟩ := Option.ite_none_right_eq_some.mp moved
    cases same
    exact ended

end Irpc.Client

namespace Irpc.Link

open Irpc.Foundation Irpc.Protocol Irpc.Client Irpc.Server

variable {Value : Type}

/-- A link whose client has a channel for the messages of the server. -/
structure Pushing (Value : Type) where
  link : Link Value
  chan : ServerMessageChan
  /-- The message for the end of the connection, once it was left. -/
  last : Option Message

namespace Pushing

inductive Event (Value : Type) where
  | move (event : Link.Event Value) (waiting : Bool)
  /-- `input` leaves its last message. -/
  | finish (server : Bytes) (waiting : Bool)
  /-- The application takes a message. -/
  | take
  | register
  | unregister
  | closeChan

/-- The messages of the server that have arrived, the first one first. -/
def arrived (link : Link Value) : List Message :=
  (link.observed.arrivals.map Arrival.res).reverse.filter isServerMessage

/-- The message of the server a step has brought to `next`. -/
def arrivedBy : Link.Event Value → Link Value → Option Message
  | .receive _, next => (next.observed.arrivals.head?.map Arrival.res).filter isServerMessage
  | _, _ => none

/-- `input` does not go on before it has left its last message. -/
def enabled (state : Pushing Value) : Link.Event Value → Bool
  | .proceed .terminate => state.last.isSome
  | _ => true

def step (setup : Setup Value) (block : Bool) (state : Pushing Value) : Event Value → Option (Pushing Value)
  | .move event waiting =>
    if state.enabled event then
      (state.link.step setup event).bind fun next =>
        match arrivedBy event next with
        | none => some { state with link := next }
        | some msg =>
          (handleServerRequest block waiting state.chan msg).map fun chan => { state with link := next, chan := chan }
    else none
  | .finish server waiting =>
    match state.link.client.input, state.last with
    | .ended err, none =>
      (handleServerRequest block waiting state.chan (lastMessage err server)).map fun chan =>
        { state with chan := chan, last := some (lastMessage err server) }
    | _, _ => none
  | .take =>
    match state.chan.queue with
    | msg :: rest => some { state with chan := { state.chan with queue := rest, taken := state.chan.taken ++ [msg] } }
    | [] => none
  | .register => some { state with chan := { state.chan with registered := true } }
  | .unregister => some { state with chan := { state.chan with registered := false } }
  | .closeChan => some { state with chan := { state.chan with closed := true } }

/-- A new connection, and a channel that was registered. -/
def system (setup : Setup Value) (block : Bool) : System (Pushing Value) (Event Value) where
  initial state := ∃ capacity, state = ⟨established, ⟨true, capacity, [], false, []⟩, none⟩
  step := step setup block

def due (state : Pushing Value) : List Message := arrived state.link ++ state.last.toList

/-- The link is used as it should be. -/
def Proper (setup : Setup Value) (state : Pushing Value) : Event Value → Prop
  | .move event _ => Link.Proper setup state.link event
  | _ => True

/-- The application keeps the channel registered and open. -/
def Listening (_ : Pushing Value) : Event Value → Prop
  | .unregister | .closeChan => False
  | _ => True

section Arrivals

variable {setup : Setup Value} {link after : Link Value} {event : Link.Event Value}

theorem arrivals_of_step (quiet : ∀ decoded, event ≠ .receive decoded)
    (moved : link.step setup event = some after) : after.observed.arrivals = link.observed.arrivals := by
  rcases observed_of_step moved with same | ⟨ran, client, -, -, observes, receives⟩
  · rw [same]
  · cases ran with
    | respond res decoded => exact absurd (receives res decoded rfl) (quiet decoded)
    | _ =>
      rw [observes]
      rfl

/-- A step of the link receives at most one message of the server. -/
theorem arrived_of_step (moved : link.step setup event = some after) :
    arrived after = arrived link ++ (arrivedBy event after).toList := by
  cases event with
  | receive decoded =>
    obtain ⟨⟨res, responses⟩, -, moved⟩ := Option.bind_eq_some_iff.mp moved
    obtain ⟨client, -, rfl⟩ := Option.map_eq_some_iff.mp moved
    by_cases pushed : isServerMessage res = true <;>
      simp [arrived, arrivedBy, Observed.note, Option.filter, pushed]
  | _ =>
    rw [arrived, arrivals_of_step (fun _ same => by cases same) moved]
    exact (List.append_nil _).symm

/-- When the loop of `input` has ended nothing is received any more. -/
theorem silent_of_step (ended : link.client.input ≠ .reading) (moved : link.step setup event = some after) :
    arrivedBy event after = none ∧ after.client.input ≠ .reading := by
  constructor
  · cases event with
    | receive decoded =>
      obtain ⟨⟨res, responses⟩, -, moved⟩ := Option.bind_eq_some_iff.mp moved
      obtain ⟨client, ran, -⟩ := Option.map_eq_some_iff.mp moved
      obtain ⟨-, ran⟩ := Option.ite_none_left_eq_some.mp ran
      obtain ⟨reading, -⟩ := Option.ite_none_right_eq_some.mp ran
      exact absurd reading ended
    | _ => rfl
  · rcases observed_of_step moved with same | ⟨event, client, ran, -, observes, -⟩
    · rw [Link.client, same]
      exact ended
    · rw [Link.client, observes, Observed.client_note]
      exact input_of_step ended ran

end Arrivals

variable {setup : Setup Value} {block : Bool} {state next : Pushing Value} {event : Event Value}

/-- A step hands a message over, or leaves what has gone into the channel as it is. -/
inductive Effect (block : Bool) (state next : Pushing Value) (event : Event Value) : Prop where
  | hands (msg : Message) (waiting : Bool) (due : next.due = state.due ++ [msg])
      (handled : handleServerRequest block waiting state.chan msg = some next.chan)
  | keeps (due : next.due = state.due) (accepted : next.chan.accepted = state.chan.accepted)
      (listening : event = .unregister ∨ event = .closeChan ∨
        (state.chan.registered = true → next.chan.registered = true) ∧
          (state.chan.closed = false → next.chan.closed = false))

def Ended (state : Pushing Value) : Prop := state.last ≠ none → state.link.client.input ≠ .reading

theorem effect_of_step (ended : Ended state) (moved : state.step setup block event = some next) :
    Effect block state next event ∧ Ended next := by
  cases event with
  | move event waiting =>
    obtain ⟨-, moved⟩ := Option.ite_none_right_eq_some.mp moved
    obtain ⟨link, ran, moved⟩ := Option.bind_eq_some_iff.mp moved
    have grown := arrived_of_step ran
    have still : state.last ≠ none → link.client.input ≠ .reading :=
      fun left => (silent_of_step (ended left) ran).2
    split at moved
    case h_1 quiet =>
      cases moved
      rw [quiet, Option.toList_none, List.append_nil] at grown
      exact ⟨.keeps (by rw [due, due, grown]) rfl (.inr (.inr ⟨id, id⟩)), still⟩
    case h_2 msg brought =>
      obtain ⟨chan, handled, rfl⟩ := Option.map_eq_some_iff.mp moved
      -- A message that is received comes before the last one.
      have reading : state.last = none := by
        by_contra left
        have silent := (silent_of_step (ended left) ran).1
        rw [brought] at silent
        cases silent
      refine ⟨.hands msg waiting ?_ handled, still⟩
      rw [brought] at grown
      simp [due, grown, reading]
  | finish server waiting =>
    simp only [step] at moved
    split at moved
    case h_1 err stopped none =>
      obtain ⟨chan, handled, rfl⟩ := Option.map_eq_some_iff.mp moved
      refine ⟨.hands _ waiting ?_ handled, fun _ => ?_⟩
      · simp [due, none]
      · rw [stopped]
        nofun
    case h_2 => cases moved
  | take =>
    simp only [step] at moved
    split at moved
    case h_1 msg rest queue =>
      cases moved
      exact ⟨.keeps rfl (by simp [ServerMessageChan.accepted, queue]) (.inr (.inr ⟨id, id⟩)), ended⟩
    case h_2 => cases moved
  | register =>
    cases moved
    exact ⟨.keeps rfl rfl (.inr (.inr ⟨fun _ => rfl, id⟩)), ended⟩
  | unregister =>
    cases moved
    exact ⟨.keeps rfl rfl (.inl rfl), ended⟩
  | closeChan =>
    cases moved
    exact ⟨.keeps rfl rfl (.inr (.inl rfl)), ended⟩

theorem ended_of_reached {allowed : Pushing Value → Event Value → Prop}
    (reached : (system setup block).Reached allowed state) : Ended state := by
  refine reached.invariant ?_ ?_
  · rintro _ ⟨capacity, rfl⟩ left
    exact absurd rfl left
  · intro state event next ended _ moved
    exact (effect_of_step ended moved).2

theorem link_reached (reached : (system setup block).Reached (Proper setup) state) :
    (Link.system setup).Reached (Link.Proper setup) state.link := by
  induction reached with
  | start initial =>
    obtain ⟨capacity, rfl⟩ := initial
    exact .start rfl
  | @step state next earlier event proper moved ih =>
    cases event with
    | move event waiting =>
      obtain ⟨-, moved⟩ := Option.ite_none_right_eq_some.mp moved
      obtain ⟨link, ran, moved⟩ := Option.bind_eq_some_iff.mp moved
      have reached : (Link.system setup).Reached (Link.Proper setup) link := ih.step event proper ran
      split at moved
      · cases moved
        exact reached
      · obtain ⟨chan, -, rfl⟩ := Option.map_eq_some_iff.mp moved
        exact reached
    | finish server waiting =>
      simp only [system, step] at moved
      split at moved
      · obtain ⟨chan, -, rfl⟩ := Option.map_eq_some_iff.mp moved
        exact ih
      · cases moved
    | take =>
      simp only [system, step] at moved
      split at moved
      · cases moved
        exact ih
      · cases moved
    | _ =>
      cases moved
      exact ih

/-- What has gone into the channel are messages that should, in their order. -/
theorem accepted_sublist_due {allowed : Pushing Value → Event Value → Prop}
    (reached : (system setup block).Reached allowed state) :
    state.chan.accepted.Sublist state.due := by
  induction reached with
  | start initial =>
    obtain ⟨capacity, rfl⟩ := initial
    exact List.Sublist.refl _
  | @step state next earlier event _ moved ih =>
    obtain ⟨effect, -⟩ := effect_of_step (ended_of_reached earlier) moved
    cases effect with
    | hands msg waiting due handled =>
      rw [due]
      rcases ServerMessageChan.accepted_of_handle handled with lost | stored
      · rw [lost]
        exact ih.trans (List.sublist_append_left _ _)
      · rw [stored]
        exact ih.append_right _
    | keeps due accepted listening =>
      rw [due, accepted]
      exact ih

/-- A client that may wait puts all of them into the channel. -/
theorem accepted_eq_due (reached : (system setup true).Reached Listening state) :
    state.chan.accepted = state.due ∧ state.chan.registered = true ∧ state.chan.closed = false := by
  induction reached with
  | start initial =>
    obtain ⟨capacity, rfl⟩ := initial
    exact ⟨rfl, rfl, rfl⟩
  | @step state next earlier event listens moved ih =>
    obtain ⟨accepted, registered, isOpen⟩ := ih
    obtain ⟨effect, -⟩ := effect_of_step (ended_of_reached earlier) moved
    cases effect with
    | hands msg waiting due handled =>
      obtain ⟨stored, flags⟩ := ServerMessageChan.accepted_of_block handled registered isOpen
      refine ⟨?_, flags⟩
      rw [stored, accepted, due]
    | keeps due same listening =>
      rcases listening with rfl | rfl | ⟨stays, staysOpen⟩
      · exact listens.elim
      · exact listens.elim
      · exact ⟨by rw [same, accepted, due], stays registered, staysOpen isOpen⟩

end Pushing

variable {setup : Setup Value} {link : Link Value} {block : Bool} {state : Pushing Value}

/-- The messages of the server that have arrived are the first ones it has sent, in the order
in which it has sent them. -/
theorem Sound.arrived (sound : Sound setup link) :
    List.Forall₂ (fun parcel res => parcel.transmission.message.Delivers setup.config res)
      ((link.responses.sent.take link.observed.arrivals.length).filter fun parcel => parcel.purpose.isNone)
      (Pushing.arrived link) := by
  have delivered := sound.carrying.responses.received_of_sent
  have length : link.observed.arrivals.length = link.responses.received.length := by
    simpa using congrArg List.length sound.carrying.arrived
  have answers : ∀ parcel ∈ link.responses.sent.take link.responses.received.length,
      Answers setup (link.conn.exchanges.map Exchange.request) parcel :=
    fun parcel member => sound.answering.answers parcel (List.mem_of_mem_take member)
  have related := (List.forall₂_and_left _ _).mpr ⟨answers, delivered⟩
  rw [Pushing.arrived, sound.carrying.arrived, List.reverse_reverse, length]
  refine (List.rel_filter ?_ related).imp fun _ _ both => both.2
  -- Only what the server sends on its own is taken for a message of the server.
  rintro parcel res ⟨answers, delivers⟩
  unfold Answers at answers
  split at answers
  case h_1 request purpose =>
    have responds := (respondsTo_handle answers.2).delivers delivers
    simp [purpose, responds.not_serverMessage]
  case h_2 purpose => simp [purpose, answers res delivers]

/-- A message of the server, on its way to a client that has not sent anything. -/
def pushedTo (setup : Setup Value) (parcel : Parcel (Option Request)) : Link Value :=
  { established with responses := Pipe.idle.write (framing setup.config) parcel }

/-- An application that waits at the channel gets it. -/
theorem exists_pushed (encoding : Encoding) (fits :
    (encoding.parcel none (sendMessage .newMessage 0 [] [] none data) : Parcel (Option Request)).transmission.Fits
      setup.config) :
    ∃ state : Pushing Value,
      (Pushing.system setup true).Reached (fun state event => state.Proper setup event ∧ state.Listening event) state ∧
        ∃ msg, state.chan.taken = [msg] := by
  let message := sendMessage .newMessage 0 [] [] none data
  let parcel : Parcel (Option Request) := encoding.parcel none message
  have few : ∀ link : Link Value, link.client.next ≤ 1 → link.client.next + 1 < 2 ^ 64 := by omega
  let allowed : Pushing Value → Pushing.Event Value → Prop :=
    fun state event => state.Proper setup event ∧ state.Listening event
  have start : (Pushing.system setup true).Reached allowed
      ⟨established, ⟨true, 0, [], false, []⟩, none⟩ := .start ⟨0, rfl⟩
  have sending : (Pushing.system setup true).Reached allowed
      ⟨pushedTo setup parcel, ⟨true, 0, [], false, []⟩, none⟩ :=
    start.step (.move (.push .newMessage 0 [] [] none data encoding none) true)
      ⟨⟨few _ (Nat.zero_le 1), Message.clean_newMessage, rfl, fits⟩, trivial⟩ rfl
  obtain ⟨res, parsed, delivers⟩ :=
    (reads_receive setup.lossless (rfl : Message.newMessage.metadata = none)).whole parcel fits []
  have pushed : isServerMessage res = true := pushed_sendMessage Message.clean_newMessage delivers
  have reads : (pushedTo setup parcel).responses.read (receive setup.config .newMessage) =
      some (res, ⟨[parcel], [res], [], false⟩) := by
    rw [List.append_nil] at parsed
    simp [Pipe.read, pushedTo, Pipe.write, Pipe.idle, parsed]
  have ran : (pushedTo setup parcel).client.step (.respond res none) = some connected := by
    have reading : connected.input = .reading := rfl
    have alive : connected.crashed = false := rfl
    simp [Link.client, pushedTo, established, Client.step, Client.stepRespond, reading, alive, pushed]
  let next : Link Value :=
    { pushedTo setup parcel with
      observed := ⟨connected, [⟨res, none, completedBetween connected connected⟩]⟩
      responses := ⟨[parcel], [res], [], false⟩ }
  have received : (pushedTo setup parcel).step setup (.receive none) = some next := by
    simp only [Link.step, reads, Option.bind_some]
    exact Option.map_eq_some_iff.mpr ⟨_, ran, rfl⟩
  have taken : (Pushing.system setup true).step ⟨pushedTo setup parcel, ⟨true, 0, [], false, []⟩, none⟩
      (.move (.receive none) true) = some ⟨next, ⟨true, 0, [], false, [res]⟩, none⟩ := by
    have brought : Pushing.arrivedBy (.receive none) next = some res := by
      simp [Pushing.arrivedBy, next, Option.filter, pushed]
    simp [Pushing.system, Pushing.step, Pushing.enabled, received, brought, handleServerRequest]
  exact ⟨_, sending.step (.move (.receive none) true) ⟨⟨few _ (Nat.zero_le 1), trivial⟩, trivial⟩ taken, res, rfl⟩

theorem exists_push : ∃ state : Pushing Bytes, (Pushing.system echoSetup true).Reached
    (fun state event => state.Proper echoSetup event ∧ state.Listening event) state ∧
      ∃ msg, state.chan.taken = [msg] := by
  have magic : (sendMessage .newMessage 0 [] [] none []).header.first = magicNumber := by decide
  exact exists_pushed bareEncoding (fits_bare magic rfl (by decide))

/-- In every run the application gets messages that the server has sent on its own, in the
order in which they were sent and none twice, and at most the message for the end of the
connection behind them. -/
theorem pushes_in_order (reached : (Pushing.system setup block).Reached (Pushing.Proper setup) state) :
    ∃ arrived, List.Forall₂ (fun parcel res => parcel.transmission.message.Delivers setup.config res)
        ((state.link.responses.sent.take state.link.observed.arrivals.length).filter
          fun parcel => parcel.purpose.isNone) arrived ∧
      (state.chan.taken ++ state.chan.queue).Sublist (arrived ++ state.last.toList) :=
  ⟨_, (sound_of_reached (Pushing.link_reached reached)).arrived, Pushing.accepted_sublist_due reached⟩

theorem first_push_in_order : ∃ state : Pushing Bytes, state.chan.taken ≠ [] ∧
    ∃ arrived, List.Forall₂ (fun parcel res => parcel.transmission.message.Delivers echoSetup.config res)
        ((state.link.responses.sent.take state.link.observed.arrivals.length).filter
          fun parcel => parcel.purpose.isNone) arrived ∧
      (state.chan.taken ++ state.chan.queue).Sublist (arrived ++ state.last.toList) := by
  obtain ⟨state, reached, msg, taken⟩ := exists_push
  exact ⟨state, by simp [taken], pushes_in_order (reached.mono fun _ _ both => both.1)⟩

/-- With `BidirectionalBlock` and a channel that stays registered and open the channel gets every
message of the server that `input` decodes, in their order, and at the end the one for the end
of the connection. -/
theorem blocking_loses_no_push (reached : (Pushing.system setup true).Reached Pushing.Listening state) :
    state.chan.taken ++ state.chan.queue = Pushing.arrived state.link ++ state.last.toList :=
  (Pushing.accepted_eq_due reached).1

theorem first_push_not_lost : ∃ state : Pushing Bytes, state.chan.taken ≠ [] ∧
    state.chan.taken ++ state.chan.queue = Pushing.arrived state.link ++ state.last.toList := by
  obtain ⟨state, reached, msg, taken⟩ := exists_push
  exact ⟨state, by simp [taken], blocking_loses_no_push (reached.mono fun _ _ both => both.2)⟩

end Irpc.Link
