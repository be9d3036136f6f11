import Irpc.Server.QueryFormat
import Irpc.Server.ServerTimeout

/-! The headers a raw call gets for a response. They have the names that a gateway looks for
in a request. -/
namespace Irpc.Client

open Irpc.Foundation Irpc.Protocol Irpc.Server Irpc.XClient

def xVersion : Bytes := utf8 "X-IRPC-Version"
def xMessageStatusType : Bytes := utf8 "X-IRPC-MessageStatusType"

/-- Every setting is written with an ampersand behind it, and the last one is cut off. -/
def urlEncode (data : IterationOrder) : Bytes :=
  if data.entries = [] then []
  else (data.entries.flatMap fun entry => queryEscape entry.1 ++ 61 :: queryEscape entry.2 ++ [38]).dropLast

def itoa (value : Int) : Bytes := utf8 (toString value)

/-- `convertRes2Raw`, with the order in which the metadata is visited. -/
def convertRes2Raw (order : IterationOrder) (res : Message) : Metadata × Bytes :=
  let m := (∅ : Metadata).insert xVersion (itoa res.header.version.toNat)
  let m := if res.header.isHeartbeat then m.insert xHeartbeat (utf8 "true") else m
  let m := if res.header.isOneway then m.insert xOneway (utf8 "true") else m
  let m := m.insert xMessageStatusType
    (if res.header.messageStatusType = .error then utf8 "Error" else utf8 "Normal")
  let m := m.insert xMeta (urlEncode order)
  let m := m.insert xSerializeType (itoa res.header.serializeType.toNat)
  let m := m.insert xMessageID (itoa res.header.seq.toNat)
  let m := m.insert xServicePath res.servicePath
  (m.insert xServiceMethod res.serviceMethod, res.payload)

/-- The headers and the payload as the request they would be. -/
def requestOf (raw : Metadata × Bytes) : HTTPRequest := ⟨fun name => (raw.1.lookup name).getD [], .ok raw.2⟩

/-- Parts that each end with a separator have one more of them than parts between which it
stands. -/
theorem flatMap_terminated (separator : UInt8) {parts : List Bytes} (nonempty : parts ≠ []) :
    (parts.flatMap fun part => part ++ [separator]) = [separator].intercalate parts ++ [separator] := by
  induction parts with
  | nil => exact absurd rfl nonempty
  | cons part rest ih =>
    cases rest with
    | nil => simp
    | cons next rest =>
      rw [List.flatMap_cons, ih (by simp)]
      simp [List.intercalate]

theorem urlEncode_eq (data : IterationOrder) : urlEncode data = encodeSettings (settingsOf data) := by
  unfold urlEncode
  split
  case isTrue empty => simp [encodeSettings, settingsOf, empty]
  case isFalse nonempty =>
    have parts : (settingsOf data).map encodeSetting ≠ [] := by simpa [settingsOf] using nonempty
    have written := flatMap_terminated 38 parts
    rw [List.flatMap_map, settingsOf, List.flatMap_map] at written
    exact (congrArg List.dropLast written).trans List.dropLast_concat

section Raw

variable {order : IterationOrder} {res : Message}

theorem lookup_insert_eq_ite (m : Metadata) (name value key : Bytes) :
    (m.insert name value).lookup key = if key = name then some value else m.lookup key := by
  split
  case isTrue same =>
    subst same
    exact Finmap.lookup_insert m
  case isFalse other => exact Finmap.lookup_insert_of_ne m other

theorem lookup_ite_insert (condition : Bool) (m : Metadata) (name value key : Bytes) :
    (if condition then m.insert name value else m).lookup key =
      if condition = true ∧ key = name then some value else m.lookup key := by
  cases condition with
  | false => simp
  | true => simpa using lookup_insert_eq_ite m name value key

theorem header_requestOf (order : IterationOrder) (res : Message) :
    let header := (requestOf (convertRes2Raw order res)).header
    header xMessageID = itoa res.header.seq.toNat ∧ header xSerializeType = itoa res.header.serializeType.toNat ∧
      header xMeta = urlEncode order ∧ header xServicePath = res.servicePath ∧
      header xServiceMethod = res.serviceMethod ∧ header authorization = [] ∧
      header xHeartbeat = (if res.header.isHeartbeat then utf8 "true" else []) ∧
      header xOneway = (if res.header.isOneway then utf8 "true" else []) := by
  simp only [requestOf, convertRes2Raw, lookup_insert_eq_ite, lookup_ite_insert]
  refine ⟨?_, ?_, ?_, ?_, ?_, ?_, ?_, ?_⟩ <;> simp +decide <;> split <;> rfl

/-- The number that `FormatUint` writes. -/
theorem decimal_itoa (size : Nat) : decimal (itoa size) = some size := by
  have digits : ∀ digit ∈ utf8 size.repr, 48 ≤ digit ∧ digit ≤ 57 := fun digit => digit_of_mem_repr
  have written : itoa size = utf8 size.repr := rfl
  rw [written, decimal, if_pos ⟨utf8_repr_ne_nil _, digits⟩]
  have read := foldl_digits_cast (utf8 size.repr) 0 digits
  rw [Nat.cast_zero, foldl_repr] at read
  exact congrArg some (Int.ofNat_inj.mp read)

theorem integer_itoa {size : Nat} (small : size < 2 ^ 63) : integer (itoa size) = some (size : Int) := by
  have value : (Int64.ofInt size).toInt = size := Int64.toInt_ofInt_of_le (by omega) (by omega)
  have read := atoi_eq_some (atoi_toString (Int64.ofInt size))
  rwa [value] at read

theorem itoa_ne_nil (size : Nat) : itoa size ≠ [] := utf8_repr_ne_nil size

theorem serializeType_lt (header : Header) : header.serializeType.toNat < 16 := by
  have bits := (header.bytes[3] &&& 0xF0).toNat_lt
  rw [Header.serializeType, UInt8.toNat_shiftRight, Nat.shiftRight_eq_div_pow]
  change (header.bytes[3] &&& 0xF0).toNat / 16 < 16
  omega

theorem convertible_raw (order : IterationOrder) (res : Message) :
    ¬ Inconvertible (requestOf (convertRes2Raw order res)) := by
  obtain ⟨number, type, metadata, -⟩ := header_requestOf order res
  rintro (⟨-, bad⟩ | ⟨-, bad⟩ | ⟨-, bad⟩ | ⟨err, bad⟩)
  · rw [number, parseUint, decimal_itoa, Option.bind_some, if_pos res.header.seq.toNat_lt] at bad
    cases bad
  · have small := serializeType_lt res.header
    have value : (Int64.ofInt res.header.serializeType.toNat).toInt = res.header.serializeType.toNat :=
      Int64.toInt_ofInt_of_le (by omega) (by omega)
    have read := atoi_toString (Int64.ofInt res.header.serializeType.toNat)
    rw [value] at read
    rw [type] at bad
    cases read.symm.trans bad
  · rw [metadata, urlEncode_eq, parseQuery_encodeSettings] at bad
    cases bad
  · cases bad

/-- What a raw call gets for a response says what the response says: read as the headers of
a request, it is the same number, type, metadata, names and payload. -/
theorem raw_response_reads_back {pooled : Message} (clean : pooled.Clean)
    (visits : order.toFinmap = res.metadata.getD ∅) :
    ∃ req, httpRequest2IrpcRequest pooled (requestOf (convertRes2Raw order res)) = .ok req ∧
      req.header.seq = res.header.seq ∧ req.header.serializeType = res.header.serializeType ∧
      req.header.isHeartbeat = res.header.isHeartbeat ∧ req.header.isOneway = res.header.isOneway ∧
      req.metadata.getD ∅ = res.metadata.getD ∅ ∧ req.servicePath = res.servicePath ∧
      req.serviceMethod = res.serviceMethod ∧ req.payload = res.payload := by
  obtain ⟨number, type, metadata, path, method, anonymous, heartbeat, oneway⟩ := header_requestOf order res
  obtain ⟨req, ok⟩ : ∃ req, httpRequest2IrpcRequest pooled (requestOf (convertRes2Raw order res)) = .ok req :=
    exists_ok_iff.mpr (convertible_raw order res)
  obtain ⟨_, _, _, converted⟩ := converted_of_ok ok
  have small := serializeType_lt res.header
  have typed : integer (itoa res.header.serializeType.toNat) = some (res.header.serializeType.toNat : Int) :=
    integer_itoa (by omega)
  have faithful : Faithful (requestOf (convertRes2Raw order res)) req :=
    (converted.faithful_iff clean).mpr (.inr ⟨_, type ▸ typed, by omega, by omega⟩)
  refine ⟨req, ok, ?_, ?_, ?_, ?_, ?_, ?_, ?_, ?_⟩
  · have same := faithful.seq
    rw [number, if_neg (itoa_ne_nil _), decimal_itoa] at same
    exact UInt64.toNat_inj.mp (Option.some.inj same).symm
  · have same := faithful.serializeType
    rw [type, if_neg (itoa_ne_nil _), typed] at same
    exact UInt8.toNat_inj.mp (Int.ofNat_inj.mp (Option.some.inj same)).symm
  · rw [Bool.eq_iff_iff, faithful.heartbeat, heartbeat]
    cases res.header.isHeartbeat <;> decide
  · rw [Bool.eq_iff_iff, faithful.oneway, oneway]
    cases res.header.isOneway <;> decide
  · obtain ⟨settings, parsed, stored⟩ := faithful.metadata
    rw [metadata, urlEncode_eq, parseQuery_encodeSettings] at parsed
    cases parsed
    refine Finmap.ext_lookup fun key => ?_
    rw [stored, anonymous, ← visits, ← lookup_firstValues, firstValues_of_perm (.refl _)]
    simp
  · exact faithful.servicePath.trans path
  · exact faithful.serviceMethod.trans method
  · have same := faithful.payload
    exact (Except.ok.inj same).symm

theorem raw_separators_read_back :
    let order : IterationOrder := AList.singleton (utf8 "a&b") (utf8 "c = d;%")
    let res := { Message.newMessage with metadata := some order.toFinmap }
    ∃ req, httpRequest2IrpcRequest .newMessage (requestOf (convertRes2Raw order res)) = .ok req ∧
      req.header.seq = res.header.seq ∧ req.header.serializeType = res.header.serializeType ∧
      req.header.isHeartbeat = res.header.isHeartbeat ∧ req.header.isOneway = res.header.isOneway ∧
      req.metadata.getD ∅ = res.metadata.getD ∅ ∧ req.servicePath = res.servicePath ∧
      req.serviceMethod = res.serviceMethod ∧ req.payload = res.payload :=
  raw_response_reads_back Message.clean_newMessage rfl

end Raw

end Irpc.Client
