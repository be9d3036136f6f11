import Irpc.Server.JsonRpc

/-! Identifiers of JSON-RPC requests on their way through the server: decoded into an `ID`
and encoded again for the response. -/
namespace Irpc.Server

open Irpc.Foundation

/-- The JSON values that are identifiers. A string is known by the bytes of its content. -/
inductive JsonId where
  | text (content : Bytes)
  | number (value : Int)
  deriving DecidableEq

def IsInt64 (value : Int) : Prop := -2 ^ 63 ≤ value ∧ value < 2 ^ 63

instance (value : Int) : Decidable (IsInt64 value) := inferInstanceAs (Decidable (_ ∧ _))

/-- `encoding/json` for strings and for `int64`. -/
structure EncodingJson where
  /-- What a JSON text stands for, if it is a string or an integer. -/
  value : Bytes → Option JsonId
  marshalString : Bytes → Bytes
  marshalInt : Int → Bytes
  unmarshalString : Bytes → Except GoError Bytes
  unmarshalInt : Bytes → Except GoError Int
  value_marshalString : value data = some (.text content) → value (marshalString content) = some (.text content)
  value_marshalInt : IsInt64 number → value (marshalInt number) = some (.number number)
  unmarshalString_text : value data = some (.text content) → unmarshalString data = .ok content
  unmarshalInt_text : value data = some (.text content) → ∃ err, unmarshalInt data = .error err
  unmarshalInt_number : value data = some (.number number) → IsInt64 number → unmarshalInt data = .ok number

namespace ID

def marshalJSON (json : EncodingJson) (id : ID) : Bytes :=
  if id.name ≠ [] then json.marshalString id.name else json.marshalInt id.number

def unmarshalJSON (json : EncodingJson) (data : Bytes) : Except GoError ID :=
  match json.unmarshalInt data with
  | .ok number => .ok ⟨[], number⟩
  | .error _ => (json.unmarshalString data).map fun name => ⟨name, 0⟩

end ID

namespace JsonId

def decoded : JsonId → ID
  | .text content => ⟨content, 0⟩
  | .number value => ⟨[], value⟩

/-- A string, or an integer that an `int64` can hold. -/
def Accepted : JsonId → Prop
  | .text _ => True
  | .number value => IsInt64 value

variable {json : EncodingJson} {data : Bytes} {value other : JsonId}

theorem unmarshalJSON_eq (stands : json.value data = some value) (accepted : value.Accepted) :
    ID.unmarshalJSON json data = .ok value.decoded := by
  unfold ID.unmarshalJSON
  cases value with
  | text content =>
    obtain ⟨err, refused⟩ := json.unmarshalInt_text stands
    rw [refused, json.unmarshalString_text stands]
    rfl
  | number value =>
    rw [json.unmarshalInt_number stands accepted]
    rfl

/-- Every value but the empty string is encoded as itself again. -/
theorem value_marshalJSON (stands : json.value data = some value) (accepted : value.Accepted)
    (named : value ≠ .text []) : json.value (ID.marshalJSON json value.decoded) = some value := by
  unfold ID.marshalJSON
  cases value with
  | text content =>
    have nonempty : content ≠ [] := fun empty => named (congrArg text empty)
    rw [decoded, if_pos nonempty]
    exact json.value_marshalString stands
  | number value => exact json.value_marshalInt accepted

def Confused (value other : JsonId) : Prop :=
  value = .text [] ∧ other = .number 0 ∨ value = .number 0 ∧ other = .text []

theorem decoded_injective (clear : ¬ Confused value other) (same : value.decoded = other.decoded) :
    value = other := by
  cases value <;> cases other <;> simp_all [decoded, Confused]

end JsonId

/-- Non-empty strings and integers of an `int64` survive the server, and no string or integer is
taken for another but the empty string and zero. -/
theorem id_survives (json : EncodingJson) :
    (∀ data value, json.value data = some value → value.Accepted → value ≠ .text [] →
      ∃ id, ID.unmarshalJSON json data = .ok id ∧ json.value (ID.marshalJSON json id) = some value) ∧
    ∀ data value otherData other, json.value data = some value → json.value otherData = some other →
      value.Accepted → other.Accepted → value ≠ other → ¬ JsonId.Confused value other →
      ID.unmarshalJSON json data ≠ ID.unmarshalJSON json otherData := by
  constructor
  · intro data value stands accepted named
    exact ⟨value.decoded, JsonId.unmarshalJSON_eq stands accepted, JsonId.value_marshalJSON stands accepted named⟩
  · intro data value otherData other stands otherStands accepted otherAccepted distinct clear same
    rw [JsonId.unmarshalJSON_eq stands accepted, JsonId.unmarshalJSON_eq otherStands otherAccepted] at same
    exact distinct (JsonId.decoded_injective clear (Except.ok.inj same))

def digits (value : Nat) : Bytes :=
  if value = 0 then [48] else ((Nat.digits 10 value).map fun digit => UInt8.ofNat (48 + digit)).reverse

def ofDigits (text : Bytes) : Nat := Nat.ofDigits 10 (text.reverse.map fun byte => byte.toNat - 48)

theorem ofDigits_digits (value : Nat) : ofDigits (digits value) = value := by
  unfold ofDigits digits
  split
  case isTrue zero =>
    subst zero
    rfl
  case isFalse =>
    have kept : (Nat.digits 10 value).map (fun digit => (UInt8.ofNat (48 + digit)).toNat - 48) =
        Nat.digits 10 value := by
      refine (List.map_congr_left fun digit member => ?_).trans (List.map_id _)
      have small := Nat.digits_lt_base (by decide) member
      rw [UInt8.toNat_ofNat', id_eq]
      omega
    rw [List.reverse_reverse, List.map_map]
    exact (congrArg _ kept).trans (Nat.ofDigits_digits 10 value)

theorem digit_of_mem_digits (member : byte ∈ digits value) : 48 ≤ byte := by
  unfold digits at member
  split at member
  case isTrue => simp_all
  case isFalse =>
    obtain ⟨digit, inside, rfl⟩ := List.mem_map.mp (List.mem_reverse.mp member)
    have small := Nat.digits_lt_base (by decide) inside
    rw [UInt8.le_iff_toNat_le, UInt8.toNat_ofNat']
    change 48 ≤ _
    omega

def formatInt (value : Int) : Bytes :=
  if value < 0 then 45 :: digits value.natAbs else digits value.natAbs

def parseInt (text : Bytes) : Int :=
  if text.head? = some 45 then -(ofDigits text.tail : Int) else ofDigits text

theorem parseInt_formatInt (value : Int) : parseInt (formatInt value) = value := by
  unfold formatInt parseInt
  split
  case isTrue negative =>
    simp only [List.head?_cons, if_true, List.tail_cons, ofDigits_digits]
    omega
  case isFalse =>
    have unsigned : (digits value.natAbs).head? ≠ some 45 := by
      intro signed
      exact absurd (digit_of_mem_digits (List.mem_of_head? signed)) (by decide)
    rw [if_neg unsigned, ofDigits_digits]
    omega

theorem head_formatInt (value : Int) : (formatInt value).head? ≠ some 34 := by
  unfold formatInt
  split
  · simp
  · intro quoted
    exact absurd (digit_of_mem_digits (List.mem_of_head? quoted)) (by decide)

/-- A byte that stands for itself in a string that `encoding/json` writes. -/
def IsPlain (byte : UInt8) : Prop := 32 ≤ byte ∧ byte < 127 ∧ byte ∉ utf8 "\"\\<>&"

instance (byte : UInt8) : Decidable (IsPlain byte) := inferInstanceAs (Decidable (_ ∧ _))

/-- The value of a text without escapes, and with a number as `encoding/json` writes it. -/
def plainValue (data : Bytes) : Option JsonId :=
  if data.head? = some 34 then
    if data.tail.getLast? = some 34 ∧ ∀ byte ∈ data.tail.dropLast, IsPlain byte then some (.text data.tail.dropLast)
    else none
  else if formatInt (parseInt data) = data then some (.number (parseInt data))
  else none

def quote (content : Bytes) : Bytes := 34 :: (content ++ [34])

theorem plainValue_text (stands : plainValue data = some (.text content)) :
    plainValue (quote content) = some (.text content) := by
  have plain : ∀ byte ∈ content, IsPlain byte := by
    unfold plainValue at stands
    split_ifs at stands with quoted closed
    · cases stands
      exact closed.2
    · cases stands
  simpa [plainValue, quote] using plain

theorem plainValue_formatInt (value : Int) : plainValue (formatInt value) = some (.number value) := by
  rw [plainValue, if_neg (head_formatInt value), parseInt_formatInt, if_pos rfl]

/-- `encoding/json` for texts without escapes. -/
def plainJson : EncodingJson where
  value := plainValue
  marshalString := quote
  marshalInt := formatInt
  unmarshalString data :=
    match plainValue data with
    | some (.text content) => .ok content
    | _ => .error (.plain (utf8 "json: cannot unmarshal number into Go value of type string"))
  unmarshalInt data :=
    match plainValue data with
    | some (.number value) =>
      if IsInt64 value then .ok value
      else .error (.plain (utf8 "json: cannot unmarshal number into Go value of type int64"))
    | _ => .error (.plain (utf8 "json: cannot unmarshal string into Go value of type int64"))
  value_marshalString := plainValue_text
  value_marshalInt _ := plainValue_formatInt _
  unmarshalString_text stands := by simp [stands]
  unmarshalInt_text stands := by simp [stands]
  unmarshalInt_number stands fits := by simp [stands, fits]

theorem id_survives_plain :
    (∃ id, ID.unmarshalJSON plainJson (utf8 "\"0\"") = .ok id ∧
      plainJson.value (ID.marshalJSON plainJson id) = some (.text (utf8 "0"))) ∧
    ID.unmarshalJSON plainJson (utf8 "\"0\"") ≠ ID.unmarshalJSON plainJson (utf8 "0") := by
  have text : plainJson.value (utf8 "\"0\"") = some (.text (utf8 "0")) := by decide +kernel
  have number : plainJson.value (utf8 "0") = some (.number 0) := by decide +kernel
  exact ⟨(id_survives plainJson).1 _ _ text trivial (by decide),
    (id_survives plainJson).2 _ _ _ _ text number trivial (show IsInt64 0 by decide) (by decide)
      (by simp [JsonId.Confused, utf8])⟩

/-- The empty string becomes the number zero, and is taken for it. -/
theorem empty_id_becomes_zero :
    plainJson.value (utf8 "\"\"") = some (.text []) ∧
      ID.unmarshalJSON plainJson (utf8 "\"\"") = .ok ⟨[], 0⟩ ∧
      ID.unmarshalJSON plainJson (utf8 "0") = .ok ⟨[], 0⟩ ∧
      plainJson.value (ID.marshalJSON plainJson ⟨[], 0⟩) = some (.number 0) := by
  refine ⟨?_, ?_, ?_, ?_⟩ <;> decide +kernel

end Irpc.Server
