import Irpc.Foundation.Bytes

/-! One direction of a connection: a stream of bytes to which frames are written whole or,
by the last write, in part, and from which they are read one by one. What was sent and
received is recorded beside the bytes. -/
namespace Irpc.Foundation

universe u v

/-- How items are laid out on a stream, which of them the format has room for, and what it
means to receive one. -/
structure Framing (Item : Type u) (Received : Type v) where
  frame : Item → Bytes
  fits : Item → Prop
  delivers : Item → Received → Prop

variable {Item : Type u} {Received : Type v} {framing : Framing Item Received}

/-- A reader takes exactly the first frame off the stream, and waits where there is only a
part of one. -/
structure Framing.Reads (framing : Framing Item Received) (parse : Bytes → Option (Received × Bytes)) :
    Prop where
  whole : ∀ item, framing.fits item → ∀ rest, ∃ received,
    parse (framing.frame item ++ rest) = some (received, rest) ∧ framing.delivers item received
  part : ∀ item, framing.fits item → ∀ bytes, bytes <+: framing.frame item →
    bytes.length < (framing.frame item).length → parse bytes = none
  empty : parse [] = none

/-- `sent` holds the items whose frames were written whole and `received` what was read, the
first one first. `torn` says that the last write broke off. -/
structure Pipe (Item : Type u) (Received : Type v) where
  sent : List Item
  received : List Received
  bytes : Bytes
  torn : Bool

namespace Pipe

def idle : Pipe Item Received := ⟨[], [], [], false⟩

def write (framing : Framing Item Received) (pipe : Pipe Item Received) (item : Item) : Pipe Item Received :=
  { pipe with sent := pipe.sent ++ [item], bytes := pipe.bytes ++ framing.frame item }

/-- A write that fails when `count` bytes are through. -/
def writePart (framing : Framing Item Received) (pipe : Pipe Item Received) (item : Item) (count : Nat) :
    Pipe Item Received :=
  if (framing.frame item).length ≤ count then pipe.write framing item
  else if count = 0 then pipe
  else { pipe with bytes := pipe.bytes ++ (framing.frame item).take count, torn := true }

theorem sent_writePart (framing : Framing Item Received) (pipe : Pipe Item Received) (item : Item) (count : Nat) :
    (pipe.writePart framing item count).sent = pipe.sent ∨
      (pipe.writePart framing item count).sent = pipe.sent ++ [item] := by
  unfold writePart
  split
  · exact .inr rfl
  · split
    · exact .inl rfl
    · exact .inl rfl

theorem received_writePart (framing : Framing Item Received) (pipe : Pipe Item Received) (item : Item)
    (count : Nat) : (pipe.writePart framing item count).received = pipe.received := by
  unfold writePart
  split
  · rfl
  · split
    · rfl
    · rfl

def read (pipe : Pipe Item Received) (parse : Bytes → Option (Received × Bytes)) :
    Option (Received × Pipe Item Received) :=
  (parse pipe.bytes).map fun (item, rest) =>
    (item, { pipe with received := pipe.received ++ [item], bytes := rest })

/-- The items that were read are the first of those sent, the rest is on the stream in the
order it was sent, and a part of a frame can only stand at the end. -/
structure Orderly (framing : Framing Item Received) (pipe : Pipe Item Received) (done transit : List Item)
    (tail : Bytes) : Prop where
  sent : pipe.sent = done ++ transit
  received : List.Forall₂ framing.delivers done pipe.received
  fits : ∀ item ∈ transit, framing.fits item
  bytes : pipe.bytes = transit.flatMap framing.frame ++ tail
  tail : tail = [] ∨ (pipe.torn = true ∧
    ∃ item, framing.fits item ∧ tail <+: framing.frame item ∧ tail.length < (framing.frame item).length)

def InOrder (framing : Framing Item Received) (pipe : Pipe Item Received) : Prop :=
  ∃ done transit tail, Orderly framing pipe done transit tail

variable {pipe next : Pipe Item Received} {item : Item}

theorem inOrder_idle : InOrder framing idle :=
  ⟨[], [], [], rfl, .nil, List.forall_mem_nil _, rfl, .inl rfl⟩

theorem Orderly.tail_eq_nil {tail : Bytes} (orderly : Orderly framing pipe done transit tail)
    (whole : pipe.torn = false) :
    tail = [] := by
  rcases orderly.tail with ends | ⟨torn, -⟩
  · exact ends
  · rw [whole] at torn
    cases torn

theorem InOrder.write (inOrder : InOrder framing pipe) (whole : pipe.torn = false) (fits : framing.fits item) :
    InOrder framing (pipe.write framing item) := by
  obtain ⟨done, transit, tail, orderly⟩ := inOrder
  have ends := orderly.tail_eq_nil whole
  refine ⟨done, transit ++ [item], [], ?_, orderly.received, ?_, ?_, .inl rfl⟩
  · simp [Pipe.write, orderly.sent]
  · exact List.forall_mem_append.mpr ⟨orderly.fits, List.forall_mem_singleton.mpr fits⟩
  · simp [Pipe.write, orderly.bytes, ends]

theorem InOrder.writePart (inOrder : InOrder framing pipe) (whole : pipe.torn = false)
    (fits : framing.fits item) (count : Nat) : InOrder framing (pipe.writePart framing item count) := by
  unfold Pipe.writePart
  split
  · exact inOrder.write whole fits
  case isFalse short =>
    split
    · exact inOrder
    · obtain ⟨done, transit, tail, orderly⟩ := inOrder
      have ends := orderly.tail_eq_nil whole
      refine ⟨done, transit, (framing.frame item).take count, orderly.sent, orderly.received, orderly.fits, ?_,
        .inr ⟨rfl, item, fits, List.take_prefix _ _, ?_⟩⟩
      · simp [orderly.bytes, ends]
      · rw [List.length_take]
        omega

theorem InOrder.read (inOrder : InOrder framing pipe) {parse : Bytes → Option (Received × Bytes)}
    (reads : framing.Reads parse) (read : pipe.read parse = some (got, next)) : InOrder framing next := by
  obtain ⟨⟨taken, rest⟩, parsed, same⟩ := Option.map_eq_some_iff.mp read
  cases same
  obtain ⟨done, transit, tail, orderly⟩ := inOrder
  cases transit with
  | nil =>
    -- Only the beginning of a frame is left, if anything.
    have bytes : pipe.bytes = tail := orderly.bytes
    rw [bytes] at parsed
    rcases orderly.tail with rfl | ⟨-, item, fits, part, short⟩
    · rw [reads.empty] at parsed
      cases parsed
    · rw [reads.part item fits tail part short] at parsed
      cases parsed
  | cons first later =>
    obtain ⟨fits, laterFits⟩ := List.forall_mem_cons.mp orderly.fits
    obtain ⟨got, whole, delivers⟩ := reads.whole first fits (later.flatMap framing.frame ++ tail)
    have bytes : pipe.bytes = framing.frame first ++ (later.flatMap framing.frame ++ tail) := by
      rw [orderly.bytes, List.flatMap_cons, List.append_assoc]
    rw [bytes, whole] at parsed
    cases parsed
    refine ⟨done ++ [first], later, tail, ?_, ?_, laterFits, rfl, orderly.tail⟩
    · simp [orderly.sent]
    · exact List.rel_append orderly.received (.cons delivers .nil)

/-- Nothing is lost, repeated or overtaken: what was received are the items sent first. -/
theorem InOrder.received_of_sent (inOrder : InOrder framing pipe) :
    List.Forall₂ framing.delivers (pipe.sent.take pipe.received.length) pipe.received := by
  obtain ⟨done, transit, tail, orderly⟩ := inOrder
  have length := orderly.received.length_eq
  rw [orderly.sent, ← length, List.take_left]
  exact orderly.received

theorem InOrder.exists_sent (inOrder : InOrder framing pipe) {got : Received} (member : got ∈ pipe.received) :
    ∃ item ∈ pipe.sent, framing.delivers item got := by
  have related := inOrder.received_of_sent
  obtain ⟨index, rfl⟩ := List.get_of_mem member
  have bound := lt_of_lt_of_eq index.isLt related.length_eq.symm
  exact ⟨_, List.mem_of_mem_take (List.get_mem _ ⟨index, bound⟩), related.get bound index.isLt⟩

end Pipe

end Irpc.Foundation
