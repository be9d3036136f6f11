import Irpc.Protocol.Header

/-! The header as a set of registers. Five of them share a byte, and one of them is only ever
switched on. -/
namespace Irpc.Protocol

@[ext] structure Fields where
  version : UInt8
  messageType : MessageType
  heartbeat : Bool
  oneway : Bool
  compressType : CompressType
  messageStatusType : MessageStatusType
  serializeType : SerializeType
  seq : UInt64
  deriving DecidableEq

/-- Registers of their own: a setter replaces the value of its field, cut to the width of the
field, and nothing else. -/
def Fields.set (fields : Fields) : Header.Setter → Fields
  | .version version => { fields with version := version }
  | .messageType type => { fields with messageType := type &&& 0x01 }
  | .heartbeat heartbeat => { fields with heartbeat := heartbeat }
  | .oneway oneway => { fields with oneway := oneway }
  | .compressType type => { fields with compressType := type &&& 0x07 }
  | .messageStatusType type => { fields with messageStatusType := type &&& 0x03 }
  | .serializeType type => { fields with serializeType := type &&& 0x0F }
  | .seq seq => { fields with seq := seq }

def Fields.withType (fields : Fields) (type : MessageType) : Fields := { fields with messageType := type }

/-- No register but the one of the message type looks at it. -/
theorem Fields.set_withType (fields : Fields) (setter : Header.Setter) (old : MessageType) :
    (fields.withType old).set setter = fields.set setter ∨
      (fields.withType old).set setter = (fields.set setter).withType old := by
  cases setter with
  | messageType type => exact .inl rfl
  | _ => exact .inr rfl

theorem Fields.foldl_set_withType (setters : List Header.Setter) (fields : Fields) (old new : MessageType) :
    (setters.foldl set (fields.withType old)).withType new = (setters.foldl set fields).withType new := by
  induction setters generalizing fields with
  | nil => rfl
  | cons setter rest ih =>
    rw [List.foldl_cons, List.foldl_cons]
    rcases fields.set_withType setter old with same | same
    · rw [same]
    · rw [same, ih]

namespace Header

variable (header : Header)

def fields : Fields where
  version := header.version
  messageType := header.messageType
  heartbeat := header.isHeartbeat
  oneway := header.isOneway
  compressType := header.compressType
  messageStatusType := header.messageStatusType
  serializeType := header.serializeType
  seq := header.seq

/-- Replace the bits of `mask` in the flags. -/
def replaceFlags (mask bits : UInt8) : Header := header.setFlags (andNot header.flags mask ||| (bits &&& mask))

theorem replaced_and {mask other : UInt8} (disjoint : mask &&& other = 0) (byte bits : UInt8) :
    (andNot byte mask ||| (bits &&& mask)) &&& other = byte &&& other := by
  have kept : ~~~mask &&& other = other := by
    apply UInt8.toBitVec_inj.mp
    ext index inside
    have bit : (mask &&& other).toBitVec[index] = false := by simp [disjoint]
    simp only [UInt8.toBitVec_and, UInt8.toBitVec_not, BitVec.getElem_and, BitVec.getElem_not] at bit ⊢
    cases drop : mask.toBitVec[index] <;> simp_all
  rw [or_and_distrib, andNot, UInt8.and_assoc, kept, UInt8.and_assoc, disjoint, UInt8.and_zero, UInt8.or_zero]

theorem replaced_and_self (mask byte bits : UInt8) :
    (andNot byte mask ||| (bits &&& mask)) &&& mask = bits &&& mask := by
  have dropped : ~~~mask &&& mask = 0 := by
    revert mask
    decide +kernel
  rw [or_and_distrib, andNot, UInt8.and_assoc, dropped, UInt8.and_zero, UInt8.zero_or, UInt8.and_assoc, UInt8.and_self]

theorem setHeartbeat_eq (heartbeat : Bool) :
    header.setHeartbeat heartbeat = header.replaceFlags 0x40 (if heartbeat then 0x40 else 0) := by
  have byte : ∀ byte : UInt8, byte ||| 0x40 = andNot byte 0x40 ||| (0x40 &&& 0x40) := by decide +kernel
  cases heartbeat
  · simp [setHeartbeat, replaceFlags]
  · simp only [setHeartbeat, replaceFlags, if_true, byte header.flags]

theorem setOneway_eq (oneway : Bool) :
    header.setOneway oneway = header.replaceFlags 0x20 (if oneway then 0x20 else 0) := by
  have byte : ∀ byte : UInt8, byte ||| 0x20 = andNot byte 0x20 ||| (0x20 &&& 0x20) := by decide +kernel
  cases oneway
  · simp [setOneway, replaceFlags]
  · simp only [setOneway, replaceFlags, if_true, byte header.flags]

theorem setCompressType_eq (type : CompressType) :
    header.setCompressType type = header.replaceFlags 0x1C (type <<< 2) :=
  rfl

theorem setMessageStatusType_eq (type : MessageStatusType) :
    header.setMessageStatusType type = header.replaceFlags 0x03 type := rfl

/-- Headers with the same flags show the same in the registers of that byte. -/
theorem fields_of_flags {left right : Header} (same : left.flags = right.flags) :
    left.fields = { right.fields with
      version := left.version, serializeType := left.serializeType, seq := left.seq } := by
  simp only [fields, messageType, isHeartbeat, isOneway, compressType, messageStatusType, same]

theorem fields_replaceFlags (mask bits : UInt8) :
    (header.replaceFlags mask bits).fields = { header.fields with
      messageType := ((andNot header.flags mask ||| (bits &&& mask)) &&& 0x80) >>> 7
      heartbeat := (andNot header.flags mask ||| (bits &&& mask)) &&& 0x40 == 0x40
      oneway := (andNot header.flags mask ||| (bits &&& mask)) &&& 0x20 == 0x20
      compressType := ((andNot header.flags mask ||| (bits &&& mask)) &&& 0x1C) >>> 2
      messageStatusType := (andNot header.flags mask ||| (bits &&& mask)) &&& 0x03 } := by
  simp only [fields, replaceFlags, messageType, isHeartbeat, isOneway, compressType, messageStatusType,
    version_setFlags, serializeType_setFlags, seq_setFlags, flags_setFlags]

/-- Each setter but one replaces the value of its own register. -/
theorem fields_set (setter : Setter) (other : ∀ type, setter ≠ .messageType type) :
    (header.set setter).fields = header.fields.set setter := by
  cases setter with
  | version version =>
    have flags : (header.setVersion version).flags = header.flags := by simp [setVersion, Header.flags]
    have kind : (header.setVersion version).serializeType = header.serializeType := by
      simp [setVersion, Header.serializeType]
    have number : (header.setVersion version).seq = header.seq := by
      rw [seq, setVersion, Vector.toList_set, List.drop_set_of_lt (by decide), seq]
    rw [set, fields_of_flags flags, kind, number]
    simp [Fields.set, fields, setVersion, Header.version]
  | messageType type => exact absurd rfl (other type)
  | heartbeat heartbeat =>
    rw [set, setHeartbeat_eq, fields_replaceFlags]
    simp (disch := decide) only [replaced_and, replaced_and_self]
    cases heartbeat <;> rfl
  | oneway oneway =>
    rw [set, setOneway_eq, fields_replaceFlags]
    simp (disch := decide) only [replaced_and, replaced_and_self]
    cases oneway <;> rfl
  | compressType type =>
    have cut : ∀ type : UInt8, (type <<< 2 &&& 0x1C) >>> 2 = type &&& 0x07 := by decide +kernel
    rw [set, setCompressType_eq, fields_replaceFlags]
    simp (disch := decide) only [replaced_and, replaced_and_self, cut]
    rfl
  | messageStatusType type =>
    rw [set, setMessageStatusType_eq, fields_replaceFlags]
    simp (disch := decide) only [replaced_and, replaced_and_self]
    rfl
  | serializeType type =>
    have version : (header.setSerializeType type).version = header.version := by
      simp [setSerializeType, Header.version]
    rw [set, fields_of_flags (header.flags_setSerializeType type), version, seq_setSerializeType,
      serializeType_setSerializeType]
    rfl
  | seq seq =>
    have version : (header.setSeq seq).version = header.version := header.getElem_setSeq seq 1 (by decide)
    rw [set, fields_of_flags (header.flags_setSeq seq), version, serializeType_setSeq, seq_setSeq]
    rfl

theorem shift_eq (type : MessageType) : type <<< 7 = if type &&& 0x01 = 0 then 0 else 0x80 := by
  revert type
  decide +kernel

theorem setMessageType_eq (type : MessageType) :
    header.setMessageType type = header.replaceFlags 0x80 (header.flags ||| type <<< 7) := by
  have even : ∀ byte : UInt8, byte ||| 0 = andNot byte 0x80 ||| ((byte ||| 0) &&& 0x80) := by decide +kernel
  have odd : ∀ byte : UInt8, byte ||| 0x80 = andNot byte 0x80 ||| ((byte ||| 0x80) &&& 0x80) := by decide +kernel
  unfold setMessageType replaceFlags
  rw [shift_eq]
  split
  · rw [← even]
  · rw [← odd]

theorem fields_setMessageType (type : MessageType) :
    (header.set (.messageType type)).fields =
      header.fields.withType (header.messageType ||| (type &&& 0x01)) := by
  have bit : (type <<< 7 &&& 0x80) >>> 7 = type &&& 0x01 := by
    revert type
    decide +kernel
  have joined : ∀ left right : UInt8, (left ||| right) >>> 7 = left >>> 7 ||| right >>> 7 := by
    intro left right
    apply UInt8.toBitVec_inj.mp
    ext index inside
    simp
  rw [set, setMessageType_eq, fields_replaceFlags]
  simp (disch := decide) only [replaced_and, replaced_and_self]
  rw [or_and_distrib, joined, bit]
  rfl

theorem messageType_bit (header : Header) : header.messageType = 0 ∨ header.messageType = 1 := by
  have bit : ∀ byte : UInt8, (byte &&& 0x80) >>> 7 = 0 ∨ (byte &&& 0x80) >>> 7 = 1 := by decide +kernel
  exact bit header.flags

/-- The arguments of the calls of `SetMessageType`, from the first to the last. -/
def typesSet (setters : List Setter) : List MessageType :=
  setters.filterMap fun
    | .messageType type => some type
    | _ => none

/-- The type that is shown, and the one that was set last. -/
def typeShown (types : List MessageType) (initial : MessageType) : MessageType :=
  types.foldl (fun shown type => shown ||| (type &&& 0x01)) initial

def typeLastSet (types : List MessageType) (initial : MessageType) : MessageType :=
  types.foldl (fun _ type => type &&& 0x01) initial

theorem messageType_foldl_set (setters : List Setter) (fields : Fields) :
    (setters.foldl Fields.set fields).messageType = typeLastSet (typesSet setters) fields.messageType := by
  induction setters generalizing fields with
  | nil => rfl
  | cons setter rest ih =>
    rw [List.foldl_cons, ih]
    cases setter <;> rfl

/-- What the getters show after the calls: the registers, but for a message type that has every
bit it ever had. -/
theorem fields_foldl_set (setters : List Setter) (header : Header) :
    (setters.foldl set header).fields =
      (setters.foldl Fields.set header.fields).withType (typeShown (typesSet setters) header.messageType) := by
  induction setters generalizing header with
  | nil => rfl
  | cons setter rest ih =>
    have shown : (header.set setter).messageType = (header.set setter).fields.messageType := rfl
    rw [List.foldl_cons, List.foldl_cons, ih, shown]
    cases setter with
    | messageType type =>
      rw [fields_setMessageType]
      exact Fields.foldl_set_withType rest (header.fields.set (.messageType type)) _ _
    | _ =>
      rw [fields_set _ _ fun type same => by cases same]
      rfl

theorem or_eq_zero_iff (left right : UInt8) : left ||| right = 0 ↔ left = 0 ∧ right = 0 := by
  simp [← UInt8.toNat_inj]

theorem typeShown_eq_zero_iff (types : List MessageType) (initial : MessageType) :
    typeShown types initial = 0 ↔ initial = 0 ∧ ∀ type ∈ types, type &&& 0x01 = 0 := by
  induction types generalizing initial with
  | nil => simp [typeShown]
  | cons type rest ih =>
    rw [typeShown, List.foldl_cons, ← typeShown, ih, or_eq_zero_iff]
    simp [and_assoc]

theorem bit_eq (type : MessageType) : type &&& 0x01 = 0 ∨ type &&& 0x01 = 1 := by
  revert type
  decide +kernel

theorem typeShown_bit (types : List MessageType) (initial : MessageType) (bit : initial = 0 ∨ initial = 1) :
    typeShown types initial = 0 ∨ typeShown types initial = 1 := by
  induction types generalizing initial with
  | nil => exact bit
  | cons type rest ih =>
    apply ih
    rcases bit with rfl | rfl <;> rcases bit_eq type with even | odd <;> simp [*]

/-- The type that is shown is the one set last, unless that was to clear the bit. -/
theorem typeShown_eq_iff (types : List MessageType) (initial : MessageType) (bit : initial = 0 ∨ initial = 1) :
    typeShown types initial = typeLastSet types initial ↔
      ∀ last ∈ types.getLast?, last &&& 0x01 = 0 → initial = 0 ∧ ∀ type ∈ types, type &&& 0x01 = 0 := by
  induction types using List.reverseRecOn with
  | nil => simp [typeShown, typeLastSet]
  | append_singleton earlier last _ =>
    have shown : typeShown (earlier ++ [last]) initial = typeShown earlier initial ||| (last &&& 0x01) := by
      simp [typeShown]
    have wanted : typeLastSet (earlier ++ [last]) initial = last &&& 0x01 := by simp [typeLastSet]
    have zero := typeShown_eq_zero_iff (earlier ++ [last]) initial
    rw [shown] at zero
    rw [shown, wanted]
    simp only [List.getLast?_concat, Option.mem_some_iff, forall_eq']
    rcases bit_eq last with even | odd
    · rw [← zero, even]
      simp
    · rcases typeShown_bit earlier initial bit with same | same <;> simp [same, odd]

/-- All setters leave the registers of the others and the magic number alone. -/
structure Independent (setters : List Setter) : Prop where
  fields : (setters.foldl set header).fields = setters.foldl Fields.set header.fields
  magic : (setters.foldl set header).first = header.first

theorem first_foldl_set (setters : List Setter) (header : Header) :
    (setters.foldl set header).first = header.first := by
  induction setters generalizing header with
  | nil => rfl
  | cons setter rest ih => rw [List.foldl_cons, ih, first_set]

/-- The registers are independent exactly if the last call of `SetMessageType`, where it asks
for a request, finds a header that has been one all the time. -/
theorem fields_independent_iff (header : Header) (setters : List Setter) :
    header.Independent setters ↔ ∀ last ∈ (typesSet setters).getLast?, last &&& 0x01 = 0 →
      header.messageType = 0 ∧ ∀ type ∈ typesSet setters, type &&& 0x01 = 0 := by
  have registers := messageType_foldl_set setters header.fields
  rw [← typeShown_eq_iff _ _ header.messageType_bit]
  constructor
  · intro independent
    have shown := congrArg Fields.messageType independent.fields
    rw [fields_foldl_set, registers] at shown
    exact shown
  · intro shown
    refine ⟨?_, first_foldl_set setters header⟩
    rw [fields_foldl_set, shown]
    exact congrArg (Fields.withType _) registers.symm

/-- A response that is made a request again stays a response. -/
theorem request_stays_response :
    let setters := [Setter.messageType .response, .messageType .request]
    (setters.foldl set .fresh).messageType = .response ∧ ¬ fresh.Independent setters := by
  refine ⟨by decide, fun independent => ?_⟩
  have shown := congrArg Fields.messageType independent.fields
  revert shown
  decide

end Header

end Irpc.Protocol
