import Irpc.Protocol.Grammar

/-! Messages that are used again: what an earlier frame has left in the read buffer does not
show in the next one. -/
namespace Irpc.Protocol.Message

open Irpc.Foundation

variable {config : Config} {received : Message} {behind : Reader}

structure SameContent (left right : Message) : Prop where
  header : left.header = right.header
  servicePath : left.servicePath = right.servicePath
  serviceMethod : left.serviceMethod = right.serviceMethod
  metadata : left.metadata = right.metadata
  payload : left.payload = right.payload

theorem SameContent.trans {left middle right : Message} (first : SameContent left middle)
    (second : SameContent middle right) : SameContent left right :=
  ⟨first.header.trans second.header, first.servicePath.trans second.servicePath,
    first.serviceMethod.trans second.serviceMethod, first.metadata.trans second.metadata,
    first.payload.trans second.payload⟩

/-- A recycled message takes what it accepts from the frame alone. -/
theorem content_of_decode {message : Message} (unset : message.metadata = none) {stream : Bytes}
    {failure : GoError} (accepted : message.decode config ⟨stream, failure⟩ = some (received, behind, none)) :
    ∃ (parts : Segments) (declared : Nat), declared < 2 ^ 32 ∧ parts.Within config ∧
      behind.failure = failure ∧ stream = parts.declaring declared ++ behind.rest ∧
      (parts.content config).2 = none ∧ received.SameContent (parts.content config).1 := by
  obtain ⟨parts, declared, fits, within, layout⟩ := exists_segments_of_decode accepted
  obtain ⟨data, decoded⟩ := Segments.decode_content unset within fits behind.rest failure
  rw [← layout, accepted] at decoded
  obtain ⟨same, reader, outcome⟩ : received = _ ∧ behind = _ ∧ none = _ := by simpa using decoded
  refine ⟨parts, declared, fits, within, ?_, layout, outcome.symm, ?_⟩
  · rw [reader]
  · rw [same]
    exact ⟨rfl, rfl, rfl, rfl, rfl⟩

/-- What one recycled message accepts the other accepts as well, and both say what the
frame says, whatever their read buffers hold. -/
theorem decode_recycled_agree (config : Config) (first second : Message) (stream : Bytes) (failure : GoError)
    (accepted : first.reset.decode config ⟨stream, failure⟩ = some (received, behind, none)) :
    (∃ other, second.reset.decode config ⟨stream, failure⟩ = some (other, behind, none) ∧
      received.SameContent other) ∧
    ∃ (parts : Segments) (declared : Nat), stream = parts.declaring declared ++ behind.rest ∧
      received.SameContent (parts.content config).1 := by
  obtain ⟨parts, declared, fits, within, failing, layout, success, same⟩ := content_of_decode rfl accepted
  refine ⟨?_, parts, declared, layout, same⟩
  have unset : second.reset.metadata = none := rfl
  obtain ⟨data, decoded⟩ := Segments.decode_content unset within fits behind.rest failure
  have reader : (⟨behind.rest, failure⟩ : Reader) = behind := by rw [← failing]
  rw [← layout, success, reader] at decoded
  exact ⟨_, decoded, same.trans ⟨rfl, rfl, rfl, rfl, rfl⟩⟩

def used : Message := { newMessage with data := .ofBytes (List.replicate 64 0xff) }

theorem decode_recycled_agree_used :
    ∃ received other, received.serviceMethod = utf8 "Mul" ∧ received.payload = [1, 2, 3] ∧
      newMessage.reset.decode plainConfig ⟨arithFrame.bytes, .eof⟩ = some (received, ⟨[], .eof⟩, none) ∧
      used.reset.decode plainConfig ⟨arithFrame.bytes, .eof⟩ = some (other, ⟨[], .eof⟩, none) ∧
      received.SameContent other := by
  have within : arithFrame.Within plainConfig := fun _ => by decide
  obtain ⟨data, accepted⟩ := Segments.decode_content (rfl : newMessage.reset.metadata = none) within
    (by decide : 3 < 2 ^ 32) [] .eof
  have layout : arithFrame.declaring 3 ++ [] = arithFrame.bytes := by
    rw [List.append_nil]
    exact arithFrame.declaring_length
  have plain : arithFrame.header.compressType = .none := by decide
  have content : arithFrame.content plainConfig = (_, none) := decompress_plain plain
  rw [layout, content] at accepted
  obtain ⟨⟨other, decoded, same⟩, -⟩ :=
    decode_recycled_agree plainConfig newMessage used arithFrame.bytes .eof accepted
  exact ⟨_, other, rfl, rfl, accepted, decoded, same⟩

end Irpc.Protocol.Message
