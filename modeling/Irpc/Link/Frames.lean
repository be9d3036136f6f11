import Irpc.Foundation.Pipe
import Irpc.Protocol.Grammar
import Irpc.Protocol.PooledRequest

/-! Messages on one direction of a connection: each is written by one call of `Write`, and
`Decode` takes them off the stream again. -/
namespace Irpc.Link

open Irpc.Foundation Irpc.Protocol

universe u

/-- A message on the wire and what it was sent for. -/
structure Parcel (Purpose : Type u) where
  purpose : Purpose
  transmission : Transmission

variable {Purpose : Type u} {config : Config}

def framing (config : Config) : Framing (Parcel Purpose) Message where
  frame parcel := (parcel.transmission.encode config).getD []
  fits parcel := parcel.transmission.Fits config
  delivers parcel received := parcel.transmission.message.Delivers config received

/-- `Decode` into a message, which waits while the stream holds only a part of a frame. -/
def receive (config : Config) (pooled : Message) (bytes : Bytes) : Option (Message × Bytes) :=
  match pooled.decode config ⟨bytes, .eof⟩ with
  | some (message, behind, none) => some (message, behind.rest)
  | _ => none

theorem receive_eq_some {pooled received : Message} {bytes rest : Bytes}
    (got : receive config pooled bytes = some (received, rest)) :
    ∃ behind, pooled.decode config ⟨bytes, .eof⟩ = some (received, behind, none) ∧ behind.rest = rest := by
  unfold receive at got
  split at got
  case h_1 message behind decoded =>
    cases got
    exact ⟨behind, decoded, rfl⟩
  case h_2 => cases got

theorem exists_segments {sent : Transmission} (fits : sent.Fits config) :
    ∃ parts : Message.Segments, parts.bytes = sent.message.frameOf config sent.order ∧
      parts.Within config := by
  have magic : (sent.message.compress config).1.first = magicNumber := by
    rw [first_compress]
    exact fits.magic
  have limit := fits.limit
  refine ⟨⟨(sent.message.compress config).1, sent.message.servicePath, sent.message.serviceMethod,
    sent.order.entries, (sent.message.compress config).2, magic, fits.small⟩, rfl, ?_⟩
  intro positive
  have total : (sent.bodyLength config : Int) ≤ config.maxMessageLength := by omega
  exact total

theorem frame_eq {parcel : Parcel Purpose} (fits : parcel.transmission.Fits config) :
    (framing config).frame parcel =
      parcel.transmission.message.frameOf config parcel.transmission.order := by
  simp [framing, Transmission.encode_eq fits.pool]

theorem length_declaring (parts : Message.Segments) (declared : Nat) :
    (parts.declaring declared).length = 16 + parts.total := by
  have body := parts.length_body declared
  simp only [Message.Segments.declaring, Message.frameDeclaring, List.length_append, Header.length_toList,
    length_bigEndian, body]
  omega

/-- Messages without metadata of their own read what was sent, and nothing from the
beginning of a frame. -/
theorem reads_receive (lossless : Message.Lossless config) {pooled : Message} (unset : pooled.metadata = none) :
    (framing config : Framing (Parcel Purpose) Message).Reads (receive config pooled) where
  whole parcel fits rest := by
    obtain ⟨parts, layout, within⟩ := exists_segments fits
    have small : parts.payload.length < 2 ^ 32 := by
      have small := parts.small
      rw [Message.totalLength] at small
      omega
    -- The frame is read as into a new message, but for the buffer.
    obtain ⟨received, fresh, delivers⟩ := fits.decode_frame lossless rest .eof
    obtain ⟨freshData, freshContent⟩ :=
      Message.Segments.decode_content (rfl : Message.newMessage.metadata = none) within small rest .eof
    obtain ⟨data, content⟩ := Message.Segments.decode_content unset within small rest .eof
    rw [parts.declaring_length, layout] at freshContent content
    rw [fresh] at freshContent
    obtain ⟨same, success⟩ : received = { (parts.content config).1 with data := freshData } ∧
        none = (parts.content config).2 := by
      simpa using freshContent
    rw [← success] at content
    refine ⟨{ (parts.content config).1 with data := data }, ?_, ?_⟩
    · rw [frame_eq fits, receive, content]
    · rw [same] at delivers
      exact ⟨delivers.header, delivers.fallback, delivers.servicePath, delivers.serviceMethod,
        delivers.metadata, delivers.payload⟩
  part parcel fits bytes part short := by
    by_contra found
    obtain ⟨⟨received, rest⟩, got⟩ := Option.ne_none_iff_exists'.mp found
    obtain ⟨behind, decoded, -⟩ := receive_eq_some got
    obtain ⟨parts, layout, -⟩ := exists_segments fits
    obtain ⟨cut, declared, cutFits, -, cutLayout⟩ := Message.exists_segments_of_decode decoded
    obtain ⟨more, whole⟩ := part
    have small : parts.payload.length < 2 ^ 32 := by
      have small := parts.small
      rw [Message.totalLength] at small
      omega
    have same : cut.declaring declared ++ (behind.rest ++ more) = parts.declaring parts.payload.length ++ [] := by
      rw [parts.declaring_length, layout, ← frame_eq fits, ← whole, cutLayout]
      simp
    -- The part would have to be as long as the whole.
    have total := (Message.Segments.declaring_inj cutFits small same).1
    have wholeLength : ((framing config).frame parcel).length = 16 + parts.total := by
      rw [frame_eq fits, ← layout, ← parts.declaring_length, length_declaring]
    have partLength : bytes.length = 16 + cut.total + behind.rest.length := by
      rw [cutLayout, List.length_append, length_declaring]
    omega
  empty := by
    by_contra found
    obtain ⟨⟨received, rest⟩, got⟩ := Option.ne_none_iff_exists'.mp found
    obtain ⟨behind, decoded, -⟩ := receive_eq_some got
    obtain ⟨cut, declared, -, -, layout⟩ := Message.exists_segments_of_decode decoded
    have length := congrArg List.length layout
    rw [List.length_append, length_declaring, List.length_nil] at length
    omega

/-- Delivery changes nothing in the header but the compress bits. -/
theorem seq_of_delivers {sent received : Message} (delivers : sent.Delivers config received) :
    received.header.seq = sent.header.seq := by
  by_cases falls : sent.FallsBack config
  · rw [delivers.fallback falls]
    exact Header.seq_setFlags ..
  · rw [delivers.header falls]

end Irpc.Link
