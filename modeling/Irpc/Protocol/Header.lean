import Irpc.Foundation.Bytes

namespace Irpc.Protocol

open Irpc.Foundation

abbrev MessageType := UInt8
abbrev MessageStatusType := UInt8
abbrev CompressType := UInt8
abbrev SerializeType := UInt8

def MessageType.request : MessageType := 0
def MessageType.response : MessageType := 1

def MessageStatusType.normal : MessageStatusType := 0
def MessageStatusType.error : MessageStatusType := 1

def CompressType.none : CompressType := 0
def CompressType.gzip : CompressType := 1

def SerializeType.serializeNone : SerializeType := 0
def SerializeType.json : SerializeType := 1
def SerializeType.msgPack : SerializeType := 3

def magicNumber : UInt8 := 0x08

/-- Go's `&^`: drop the bits of `mask`. -/
def andNot (byte mask : UInt8) : UInt8 := byte &&& ~~~mask

/-- The fixed twelve header bytes: magic number, version, flags, serialize
type, and eight bytes of sequence number. -/
structure Header where
  bytes : Vector UInt8 12
  deriving DecidableEq

namespace Header

def first (header : Header) : UInt8 := header.bytes[0]

/-- The byte of the message type, the heartbeat and one-way bits, the compress type
and the status. -/
def flags (header : Header) : UInt8 := header.bytes[2]

def setFlags (header : Header) (flags : UInt8) : Header := ⟨header.bytes.set 2 flags⟩

@[simp] theorem flags_setFlags (header : Header) (flags : UInt8) : (header.setFlags flags).flags = flags := by
  simp [Header.flags, setFlags]

@[simp] theorem first_setFlags (header : Header) (flags : UInt8) :
    (header.setFlags flags).first = header.first := by
  simp [first, setFlags]

def checkMagicNumber (header : Header) : Bool := header.first == magicNumber

def version (header : Header) : UInt8 := header.bytes[1]

def setVersion (header : Header) (version : UInt8) : Header :=
  ⟨header.bytes.set 1 version⟩

def messageType (header : Header) : MessageType := (header.flags &&& 0x80) >>> 7

/-- The source only ever sets this bit; a request type does not clear it. -/
def setMessageType (header : Header) (type : MessageType) : Header :=
  header.setFlags (header.flags ||| type <<< 7)

def isHeartbeat (header : Header) : Bool := header.flags &&& 0x40 == 0x40

def setHeartbeat (header : Header) (heartbeat : Bool) : Header :=
  if heartbeat then header.setFlags (header.flags ||| 0x40)
  else header.setFlags (andNot header.flags 0x40)

def isOneway (header : Header) : Bool := header.flags &&& 0x20 == 0x20

def setOneway (header : Header) (oneway : Bool) : Header :=
  if oneway then header.setFlags (header.flags ||| 0x20)
  else header.setFlags (andNot header.flags 0x20)

def compressType (header : Header) : CompressType := (header.flags &&& 0x1C) >>> 2

def setCompressType (header : Header) (type : CompressType) : Header :=
  header.setFlags ((andNot header.flags 0x1C) ||| ((type <<< 2) &&& 0x1C))

def messageStatusType (header : Header) : MessageStatusType := header.flags &&& 0x03

def setMessageStatusType (header : Header) (type : MessageStatusType) : Header :=
  header.setFlags ((andNot header.flags 0x03) ||| (type &&& 0x03))

def serializeType (header : Header) : SerializeType := (header.bytes[3] &&& 0xF0) >>> 4

def setSerializeType (header : Header) (type : SerializeType) : Header :=
  ⟨header.bytes.set 3 ((andNot header.bytes[3] 0xF0) ||| type <<< 4)⟩

def seq (header : Header) : UInt64 := UInt64.ofNat (ofBigEndian (header.bytes.toList.drop 4))

def setSeq (header : Header) (seq : UInt64) : Header :=
  ⟨⟨(header.bytes.toList.take 4 ++ bigEndian 8 seq.toNat).toArray, by simp⟩⟩

def ofFirst (byte : UInt8) : Header := ⟨(Vector.replicate 12 0).set 0 byte⟩

def fresh : Header := ofFirst magicNumber

@[simp] theorem first_ofFirst (byte : UInt8) : (ofFirst byte).first = byte := by
  simp [first, ofFirst]

@[simp] theorem flags_ofFirst (byte : UInt8) : (ofFirst byte).flags = 0 := by
  simp [flags, ofFirst]

@[simp] theorem length_toList (header : Header) : header.bytes.toList.length = 12 := by simp

@[ext] theorem ext {left right : Header}
    (same : left.bytes.toList = right.bytes.toList) : left = right := by
  cases left
  cases right
  exact congrArg Header.mk (Vector.toList_inj.mp same)

theorem append_inj {first second : Header} {left right : Bytes}
    (same : first.bytes.toList ++ left = second.bytes.toList ++ right) : first = second ∧ left = right := by
  obtain ⟨bytes, rest⟩ := List.append_inj same (by simp)
  exact ⟨Header.ext bytes, rest⟩

theorem bytes_eq_cons (header : Header) :
    header.bytes.toList = header.first :: header.bytes.toList.drop 1 := by
  have nonempty : 0 < header.bytes.toList.length := by simp
  rw [first, ← Vector.getElem_toList (by simp), List.cons_getElem_drop_succ, List.drop_zero]

theorem compressType_setCompressType_none (header : Header) :
    (header.setCompressType .none).compressType = .none := by
  have cleared : ∀ byte : UInt8,
      ((andNot byte 0x1C ||| ((CompressType.none <<< 2) &&& 0x1C)) &&& 0x1C) >>> 2 = CompressType.none := by
    decide +kernel
  simpa [compressType, setCompressType] using cleared header.flags

/-- The flags are kept apart from the version, the serialize type and the sequence
number. -/
@[simp] theorem version_setFlags (header : Header) (flags : UInt8) :
    (header.setFlags flags).version = header.version := by
  simp [version, setFlags]

@[simp] theorem serializeType_setFlags (header : Header) (flags : UInt8) :
    (header.setFlags flags).serializeType = header.serializeType := by
  simp [serializeType, setFlags]

@[simp] theorem seq_setFlags (header : Header) (flags : UInt8) : (header.setFlags flags).seq = header.seq := by
  rw [seq, setFlags, Vector.toList_set, List.drop_set_of_lt (by decide), seq]

@[simp] theorem flags_setSerializeType (header : Header) (type : SerializeType) :
    (header.setSerializeType type).flags = header.flags := by
  simp [flags, setSerializeType]

theorem messageType_setMessageType_response (header : Header) :
    (header.setMessageType .response).messageType = .response := by
  have marked : ∀ byte : UInt8, ((byte ||| MessageType.response <<< 7) &&& 0x80) >>> 7 = MessageType.response := by
    decide +kernel
  simpa [messageType, setMessageType] using marked header.flags

theorem or_and_distrib (left right mask : UInt8) :
    (left ||| right) &&& mask = (left &&& mask) ||| (right &&& mask) := by
  apply UInt8.toBitVec_inj.mp
  ext index inside
  simp [Bool.and_or_distrib_right]

/-- Replacing bits below the message type leaves it alone. -/
theorem messageType_setFlags (header : Header) {mask : UInt8} (low : mask &&& 0x80 = 0) (bits : UInt8) :
    (header.setFlags (andNot header.flags mask ||| (bits &&& mask))).messageType = header.messageType := by
  have kept : ~~~mask &&& 0x80 = 0x80 := by
    revert mask
    decide +kernel
  rw [messageType, flags_setFlags, or_and_distrib, andNot, UInt8.and_assoc, kept, UInt8.and_assoc, low,
    UInt8.and_zero, UInt8.or_zero, messageType]

theorem messageType_setCompressType (header : Header) (type : CompressType) :
    (header.setCompressType type).messageType = header.messageType :=
  header.messageType_setFlags (by decide) _

theorem messageType_setMessageStatusType (header : Header) (type : MessageStatusType) :
    (header.setMessageStatusType type).messageType = header.messageType :=
  header.messageType_setFlags (by decide) _

section SetSeq

variable (header : Header) (seq : UInt64)

@[simp] theorem seq_setSeq : (header.setSeq seq).seq = seq := by
  have fits : seq.toNat < 256 ^ 8 := seq.toNat_lt
  simp [Header.seq, setSeq, ofBigEndian_bigEndian_of_lt fits]

@[simp] theorem flags_setSeq : (header.setSeq seq).flags = header.flags := by
  simp [flags, setSeq]

theorem getElem_setSeq (index : Nat) (low : index < 4) :
    (header.setSeq seq).bytes[index] = header.bytes[index] := by
  simp [setSeq, low]

@[simp] theorem serializeType_setSeq : (header.setSeq seq).serializeType = header.serializeType := by
  rw [serializeType, getElem_setSeq header seq 3 (by decide), serializeType]

end SetSeq

@[simp] theorem seq_setSerializeType (header : Header) (type : SerializeType) :
    (header.setSerializeType type).seq = header.seq := by
  rw [seq, setSerializeType, Vector.toList_set, List.drop_set_of_lt (by decide), seq]

/-- The header has four bits for the serialize type. -/
@[simp] theorem serializeType_setSerializeType (header : Header) (type : SerializeType) :
    (header.setSerializeType type).serializeType = type &&& 0x0F := by
  have replaced : ∀ byte : UInt8, andNot byte 0xF0 &&& 0xF0 = 0 := by decide +kernel
  have shifted : ∀ type : UInt8, ((type <<< 4) &&& 0xF0) >>> 4 = type &&& 0x0F := by decide +kernel
  simp only [serializeType, setSerializeType, Vector.getElem_set_self]
  rw [or_and_distrib, replaced, UInt8.zero_or, shifted]

inductive Setter where
  | version (version : UInt8)
  | messageType (type : MessageType)
  | heartbeat (heartbeat : Bool)
  | oneway (oneway : Bool)
  | compressType (type : CompressType)
  | messageStatusType (type : MessageStatusType)
  | serializeType (type : SerializeType)
  | seq (seq : UInt64)

def set (header : Header) : Setter → Header
  | .version version => header.setVersion version
  | .messageType type => header.setMessageType type
  | .heartbeat heartbeat => header.setHeartbeat heartbeat
  | .oneway oneway => header.setOneway oneway
  | .compressType type => header.setCompressType type
  | .messageStatusType type => header.setMessageStatusType type
  | .serializeType type => header.setSerializeType type
  | .seq seq => header.setSeq seq

theorem first_set (header : Header) (setter : Setter) : (header.set setter).first = header.first := by
  cases setter with
  | version version => simp [set, setVersion, first]
  | heartbeat heartbeat => cases heartbeat <;> simp [set, setHeartbeat]
  | oneway oneway => cases oneway <;> simp [set, setOneway]
  | serializeType type => simp [set, setSerializeType, first]
  | seq seq => exact header.getElem_setSeq seq 0 (by decide)
  | _ => simp [set, setMessageType, setCompressType, setMessageStatusType]

theorem first_setCompressType (header : Header) (type : CompressType) :
    (header.setCompressType type).first = header.first := header.first_set (.compressType type)

/-- What a setter makes of the flags depends on the flags alone. -/
theorem flags_set {left right : Header} (same : left.flags = right.flags) (setter : Setter) :
    (left.set setter).flags = (right.set setter).flags := by
  cases setter with
  | version version => simpa [set, setVersion, flags] using same
  | heartbeat heartbeat => cases heartbeat <;> simp [set, setHeartbeat, same]
  | oneway oneway => cases oneway <;> simp [set, setOneway, same]
  | serializeType type => simpa [set, setSerializeType, flags] using same
  | seq seq => simpa [set, flags, getElem_setSeq] using same
  | _ => simp [set, setMessageType, setCompressType, setMessageStatusType, same]

end Header

end Irpc.Protocol
