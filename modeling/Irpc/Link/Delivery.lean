import Irpc.Link.Answered

/-! Calls across a connection: each reaches the server at most once and in its turn, and is
completed only by the answer to its own request. -/
namespace Irpc.Link

open Irpc.Foundation Irpc.Protocol Irpc.Client Irpc.Server

variable {Value : Type} {setup : Setup Value} {link next : Link Value}

/-- The client of a link moves as a client does, and frames reach it by `receive` only. -/
theorem observed_of_step {event : Event Value} (moved : link.step setup event = some next) :
    next.observed = link.observed ∨ ∃ ran after, link.client.step ran = some after ∧
      Observed.Typed link.observed ran ∧ next.observed = link.observed.note ran after ∧
      ∀ res decoded, ran = .respond res decoded → event = .receive decoded := by
  cases event with
  | send waits call =>
    obtain ⟨after, ran, rfl⟩ := Option.map_eq_some_iff.mp moved
    exact .inr ⟨_, after, ran, trivial, rfl, nofun⟩
  | encodeFailed id =>
    dsimp only [Link.step] at moved
    split at moved
    · obtain ⟨after, ran, rfl⟩ := Option.map_eq_some_iff.mp moved
      exact .inr ⟨_, after, ran, trivial, rfl, nofun⟩
    · cases moved
  | write id pooled encoding oneway =>
    obtain ⟨message, -, moved⟩ := Option.bind_eq_some_iff.mp moved
    obtain ⟨after, ran, rfl⟩ := Option.map_eq_some_iff.mp moved
    exact .inr ⟨_, after, ran, trivial, rfl, nofun⟩
  | writeFailed id pooled encoding count err =>
    obtain ⟨message, -, moved⟩ := Option.bind_eq_some_iff.mp moved
    obtain ⟨after, ran, rfl⟩ := Option.map_eq_some_iff.mp moved
    exact .inr ⟨_, after, ran, trivial, rfl, nofun⟩
  | receive decoded =>
    obtain ⟨⟨res, responses⟩, -, moved⟩ := Option.bind_eq_some_iff.mp moved
    obtain ⟨after, ran, rfl⟩ := Option.map_eq_some_iff.mp moved
    refine .inr ⟨_, after, ran, trivial, rfl, ?_⟩
    rintro _ _ ⟨⟩
    rfl
  | proceed event =>
    obtain ⟨quiet, moved⟩ := Option.ite_none_right_eq_some.mp moved
    obtain ⟨after, ran, rfl⟩ := Option.map_eq_some_iff.mp moved
    refine .inr ⟨event, after, ran, ?_, rfl, ?_⟩
    · cases event with
      | sendRaw seq => cases quiet
      | _ => trivial
    · rintro res decoded rfl
      cases quiet
  | accept pooled verdict auth resMetadata response encoding through =>
    obtain ⟨⟨req, rest⟩, -, moved⟩ := Option.bind_eq_some_iff.mp moved
    obtain ⟨conn, -, rfl⟩ := Option.map_eq_some_iff.mp moved
    exact .inl rfl
  | serve event encoding through =>
    cases event with
    | read request => cases moved
    | _ =>
      obtain ⟨conn, -, rfl⟩ := Option.map_eq_some_iff.mp moved
      exact .inl rfl
  | push pooled seq servicePath serviceMethod metadata data encoding through =>
    cases moved
    exact .inl rfl

/-- The client receives what the server has written whole in the order in which it was
written: answers to requests that were read, and messages of its own. -/
theorem responses_in_order (reached : (system setup).Reached (Proper setup) link) :
    List.Forall₂ (fun parcel res => parcel.transmission.message.Delivers setup.config res)
      (link.responses.sent.take link.observed.arrivals.length) (link.observed.arrivals.map Arrival.res).reverse ∧
    ∀ parcel ∈ link.responses.sent, Answers setup (link.conn.exchanges.map Exchange.request) parcel := by
  have sound := sound_of_reached reached
  have arrived := sound.carrying.arrived
  have length : link.observed.arrivals.length = link.responses.received.length := by
    simpa using congrArg List.length arrived
  refine ⟨?_, sound.answering.answers⟩
  rw [arrived, List.reverse_reverse, length]
  exact sound.carrying.responses.received_of_sent

theorem echo_response_in_order :
    ∃ link : Link Bytes, link.observed.arrivals ≠ [] ∧
      List.Forall₂ (fun parcel res => parcel.transmission.message.Delivers echoSetup.config res)
        (link.responses.sent.take link.observed.arrivals.length)
        (link.observed.arrivals.map Arrival.res).reverse ∧
      ∀ parcel ∈ link.responses.sent, Answers echoSetup (link.conn.exchanges.map Exchange.request) parcel := by
  obtain ⟨link, arrival, reached, -, arrivals, -⟩ := exists_echo
  exact ⟨link, by simp [arrivals], responses_in_order reached⟩

end Irpc.Link
