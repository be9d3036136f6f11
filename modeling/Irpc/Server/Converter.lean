import Irpc.Server.JsonRpc
import Irpc.XClient.WeightedRoundRobin

/-! HTTP requests converted to messages. Numbers in the headers become narrower on their
way: from text to a machine integer, to a byte, and to a few bits of the message header. -/
namespace Irpc.Server

open Irpc.Foundation Irpc.Protocol

def xHeartbeat : Bytes := utf8 "X-IRPC-Heartbeat"
def xOneway : Bytes := utf8 "X-IRPC-Oneway"
def xSerializeType : Bytes := utf8 "X-IRPC-SerializeType"
def xMessageID : Bytes := utf8 "X-IRPC-MessageID"
def xServicePath : Bytes := utf8 "X-IRPC-ServicePath"
def xServiceMethod : Bytes := utf8 "X-IRPC-ServiceMethod"
def authorization : Bytes := utf8 "Authorization"

/-- The header as `Get` shows it, and what reading the body gives. -/
structure HTTPRequest where
  header : Bytes → Bytes
  body : Except GoError Bytes

def decimal (text : Bytes) : Option Nat :=
  if text ≠ [] ∧ ∀ digit ∈ text, 48 ≤ digit ∧ digit ≤ 57 then
    some (text.foldl (fun size digit => size * 10 + (digit.toNat - 48)) 0)
  else none

/-- The number that decimal digits behind an optional sign stand for. -/
def integer (text : Bytes) : Option Int :=
  if text.head? = some 45 then (decimal text.tail).map fun size => -Int.ofNat size
  else if text.head? = some 43 then (decimal text.tail).map Int.ofNat
  else (decimal text).map Int.ofNat

/-- `strconv.ParseUint` for base ten and 64 bits, with no result if it reports an error. -/
def parseUint (text : Bytes) : Option UInt64 :=
  (decimal text).bind fun value => if value < 2 ^ 64 then some (UInt64.ofNat value) else none

/-- The part of a request that cannot be converted. -/
inductive ConvertError where
  | messageID
  | serializeType
  | metadata
  | body (err : GoError)

/-- A header that is parsed unless it is empty. -/
def optional (text : Bytes) (parse : Bytes → Option α) (reason : ConvertError) : Except ConvertError (Option α) :=
  if text = [] then .ok none
  else
    match parse text with
    | none => .error reason
    | some value => .ok (some value)

/-- `protocol.SerializeType(rst)`: the low byte. -/
def toSerializeType (rst : Int64) : SerializeType := UInt8.ofBitVec (rst.toBitVec.setWidth 8)

def firstValues (settings : List (Bytes × Bytes)) : Metadata :=
  settings.foldr (fun setting metadata => metadata.insert setting.1 setting.2) ∅

def convertHeader (header : Header) (id : Option UInt64) (heartbeat oneway : Bool) (type : Option Int64) : Header :=
  let header := header.setMessageType .request
  let header := id.elim header header.setSeq
  let header := if heartbeat then header.setHeartbeat true else header
  let header := if oneway then header.setOneway true else header
  type.elim header fun rst => header.setSerializeType (toSerializeType rst)

def convertMetadata (metadata : Option Metadata) (settings : Option (List (Bytes × Bytes))) (auth : Bytes) :
    Option Metadata :=
  let metadata := settings.elim metadata fun settings => some (firstValues settings)
  if auth = [] then metadata else some ((metadata.getD ∅).insert XClient.authKey auth)

/-- `HTTPRequest2IrpcRequest`, with the message it takes from the pool. -/
def httpRequest2IrpcRequest (pooled : Message) (r : HTTPRequest) : Except ConvertError Message := do
  let h := r.header
  let id ← optional (h xMessageID) parseUint .messageID
  let type ← optional (h xSerializeType) XClient.atoi .serializeType
  let settings ← optional (h xMeta) XClient.parseQuery .metadata
  let payload ← r.body.mapError .body
  return { pooled with
    header := convertHeader pooled.header id (h xHeartbeat != []) (h xOneway != []) type
    metadata := convertMetadata pooled.metadata settings (h authorization)
    servicePath := h xServicePath
    serviceMethod := h xServiceMethod
    payload := payload }

/-- The message says what the request says. -/
structure Faithful (r : HTTPRequest) (req : Message) : Prop where
  seq : if r.header xMessageID = [] then req.header.seq = 0
    else decimal (r.header xMessageID) = some req.header.seq.toNat
  serializeType : if r.header xSerializeType = [] then req.header.serializeType = 0
    else integer (r.header xSerializeType) = some (req.header.serializeType.toNat : Int)
  heartbeat : req.header.isHeartbeat = true ↔ r.header xHeartbeat ≠ []
  oneway : req.header.isOneway = true ↔ r.header xOneway ≠ []
  metadata : ∃ settings, XClient.parseQuery (r.header xMeta) = some settings ∧
    ∀ key, (req.metadata.getD ∅).lookup key =
      if key = XClient.authKey ∧ r.header authorization ≠ [] then some (r.header authorization)
      else (settings.find? fun setting => setting.1 = key).map Prod.snd
  servicePath : req.servicePath = r.header xServicePath
  serviceMethod : req.serviceMethod = r.header xServiceMethod
  payload : r.body = .ok req.payload

/-- A number that is none, or is too large for its type, a query that cannot be parsed,
or a body that cannot be read. -/
def Inconvertible (r : HTTPRequest) : Prop :=
  (r.header xMessageID ≠ [] ∧ parseUint (r.header xMessageID) = none) ∨
    (r.header xSerializeType ≠ [] ∧ XClient.atoi (r.header xSerializeType) = none) ∨
    (r.header xMeta ≠ [] ∧ XClient.parseQuery (r.header xMeta) = none) ∨ ∃ err, r.body = .error err

section Convert

variable {text : Bytes}

theorem parseUint_eq_some {value : UInt64} (parsed : parseUint text = some value) :
    decimal text = some value.toNat := by
  obtain ⟨size, number, fits⟩ := Option.bind_eq_some_iff.mp parsed
  obtain ⟨small, ⟨⟩⟩ := Option.ite_none_right_eq_some.mp fits
  rw [number, UInt64.toNat_ofNat_of_lt' small]

theorem foldl_digits_cast (digits : Bytes) (size : Nat) (isDigit : ∀ digit ∈ digits, 48 ≤ digit ∧ digit ≤ 57) :
    ((digits.foldl (fun size digit => size * 10 + (digit.toNat - 48)) size : Nat) : Int) =
      digits.foldl (fun (size : Int) digit => size * 10 + (digit.toNat - 48)) size := by
  induction digits generalizing size with
  | nil => rfl
  | cons digit rest ih =>
    have low : 48 ≤ digit.toNat := UInt8.le_iff_toNat_le.mp (isDigit digit (by simp)).1
    rw [List.foldl_cons, List.foldl_cons, ih _ fun other member => isDigit other (by simp [member])]
    congr 1
    push_cast [low]
    rfl

theorem decimal_cast {digits : Bytes} (nonempty : digits ≠ []) (isDigit : ∀ digit ∈ digits, 48 ≤ digit ∧ digit ≤ 57) :
    (decimal digits).map Int.ofNat =
      some (digits.foldl (fun (size : Int) digit => size * 10 + (digit.toNat - 48)) 0) := by
  rw [decimal, if_pos ⟨nonempty, isDigit⟩, Option.map_some]
  exact congrArg some (foldl_digits_cast digits 0 isDigit)

/-- `Atoi` reports a number that an `int64` holds as it is. -/
theorem atoi_eq_some {value : Int64} (parsed : XClient.atoi text = some value) :
    integer text = some value.toInt := by
  obtain ⟨⟨nonempty, isDigit, low, high⟩, ⟨⟩⟩ := Option.ite_none_right_eq_some.mp parsed
  rw [Int64.toInt_ofInt_of_le low high]
  have number := decimal_cast nonempty isDigit
  unfold integer
  by_cases negative : text.head? = some 45
  · simp only [negative, true_or, if_true] at number ⊢
    obtain ⟨size, found, same⟩ := Option.map_eq_some_iff.mp number
    rw [found, Option.map_some, ← same]
  · by_cases positive : text.head? = some 43
    · simpa [positive] using number
    · simpa [negative, positive] using number

theorem lookup_firstValues (settings : List (Bytes × Bytes)) (key : Bytes) :
    (firstValues settings).lookup key = (settings.find? fun setting => setting.1 = key).map Prod.snd := by
  induction settings with
  | nil => rfl
  | cons setting rest ih =>
    rw [firstValues, List.foldr_cons, ← firstValues, List.find?_cons]
    by_cases same : setting.1 = key
    · subst same
      simp
    · simp only [same, decide_false]
      rw [Finmap.lookup_insert_of_ne _ (Ne.symm same), ih]

end Convert

section Header

variable (id : Option UInt64) (heartbeat oneway : Bool) (type : Option Int64)

theorem seq_convertHeader : (convertHeader .fresh id heartbeat oneway type).seq = id.getD 0 := by
  have zero : Header.fresh.seq = 0 := by decide
  cases id <;> cases heartbeat <;> cases oneway <;> cases type <;>
    simp [convertHeader, Header.setMessageType, Header.setHeartbeat, Header.setOneway, zero]

theorem serializeType_convertHeader : (convertHeader .fresh id heartbeat oneway type).serializeType =
    (type.map toSerializeType).getD 0 &&& 0x0F := by
  have zero : Header.fresh.serializeType = 0 := by decide
  cases id <;> cases heartbeat <;> cases oneway <;> cases type <;>
    simp [convertHeader, Header.setMessageType, Header.setHeartbeat, Header.setOneway, zero]

theorem flags_convertHeader : (convertHeader .fresh id heartbeat oneway type).flags =
    (if heartbeat then 0x40 else 0) ||| (if oneway then 0x20 else 0) := by
  cases id <;> cases heartbeat <;> cases oneway <;> cases type <;>
    simp [convertHeader, Header.setMessageType, Header.setHeartbeat, Header.setOneway, Header.fresh,
      MessageType.request]

theorem isHeartbeat_convertHeader : (convertHeader .fresh id heartbeat oneway type).isHeartbeat = heartbeat := by
  rw [Header.isHeartbeat, flags_convertHeader]
  cases heartbeat <;> cases oneway <;> decide

theorem isOneway_convertHeader : (convertHeader .fresh id heartbeat oneway type).isOneway = oneway := by
  rw [Header.isOneway, flags_convertHeader]
  cases heartbeat <;> cases oneway <;> decide

end Header

theorem nat_toSerializeType (rst : Int64) :
    (toSerializeType rst &&& 0x0F).toNat = rst.toBitVec.toNat % 16 := by
  have low : (toSerializeType rst).toNat = rst.toBitVec.toNat % 2 ^ 8 := BitVec.toNat_setWidth ..
  rw [UInt8.toNat_and, low]
  change _ &&& (2 ^ 4 - 1) = _
  rw [Nat.and_two_pow_sub_one_eq_mod]
  omega

/-- The four bits of the header hold the numbers from zero to fifteen. -/
theorem toSerializeType_eq_iff (rst : Int64) :
    rst.toInt = ((toSerializeType rst &&& 0x0F).toNat : Int) ↔ 0 ≤ rst.toInt ∧ rst.toInt < 16 := by
  have size := rst.toBitVec.isLt
  have value : rst.toInt = if 2 * rst.toBitVec.toNat < 2 ^ 64 then (rst.toBitVec.toNat : Int)
      else rst.toBitVec.toNat - (2 ^ 64 : Nat) := BitVec.toInt_eq_toNat_cond _
  rw [nat_toSerializeType]
  split at value <;> omega

section Conversion

variable {pooled req : Message} {r : HTTPRequest} {text : Bytes} {reason : ConvertError}
  {id : Option UInt64} {type : Option Int64} {settings : Option (List (Bytes × Bytes))}

theorem optional_eq_ok {parse : Bytes → Option α} {result : Option α}
    (passed : optional text parse reason = .ok result) :
    (text = [] ∧ result = none) ∨ text ≠ [] ∧ ∃ value, parse text = some value ∧ result = some value := by
  unfold optional at passed
  split at passed
  case isTrue empty => exact .inl ⟨empty, (Except.ok.inj passed).symm⟩
  case isFalse nonempty =>
    cases parsed : parse text with
    | none => simp [parsed] at passed
    | some value =>
      rw [parsed] at passed
      exact .inr ⟨nonempty, value, rfl, (Except.ok.inj passed).symm⟩

theorem optional_of_parsed {parse : Bytes → Option α} (reason : ConvertError)
    (parses : ¬ (text ≠ [] ∧ parse text = none)) : ∃ result, optional text parse reason = .ok result := by
  unfold optional
  split
  · exact ⟨none, rfl⟩
  case isFalse nonempty =>
    obtain ⟨value, parsed⟩ := Option.ne_none_iff_exists'.mp fun missing => parses ⟨nonempty, missing⟩
    exact ⟨some value, by rw [parsed]⟩

/-- Everything a conversion that succeeds has found. -/
structure Converted (pooled : Message) (r : HTTPRequest) (req : Message) (id : Option UInt64) (type : Option Int64)
    (settings : Option (List (Bytes × Bytes))) : Prop where
  messageID : optional (r.header xMessageID) parseUint .messageID = .ok id
  serializeType : optional (r.header xSerializeType) XClient.atoi .serializeType = .ok type
  query : optional (r.header xMeta) XClient.parseQuery .metadata = .ok settings
  payload : r.body = .ok req.payload
  header : req.header =
    convertHeader pooled.header id (r.header xHeartbeat != []) (r.header xOneway != []) type
  metadata : req.metadata = convertMetadata pooled.metadata settings (r.header authorization)
  servicePath : req.servicePath = r.header xServicePath
  serviceMethod : req.serviceMethod = r.header xServiceMethod

theorem converted_of_ok (ok : httpRequest2IrpcRequest pooled r = .ok req) :
    ∃ id type settings, Converted pooled r req id type settings := by
  unfold httpRequest2IrpcRequest at ok
  obtain ⟨id, messageID, ok⟩ := bind_eq_ok.mp ok
  obtain ⟨type, serializeType, ok⟩ := bind_eq_ok.mp ok
  obtain ⟨settings, query, ok⟩ := bind_eq_ok.mp ok
  obtain ⟨payload, read, ok⟩ := bind_eq_ok.mp ok
  cases ok
  refine ⟨id, type, settings, messageID, serializeType, query, ?_, rfl, rfl, rfl, rfl⟩
  cases body : r.body with
  | error err => simp [body, Except.mapError] at read
  | ok data =>
    rw [body] at read
    rw [Except.ok.inj read]

theorem exists_ok_iff : (∃ req, httpRequest2IrpcRequest pooled r = .ok req) ↔ ¬ Inconvertible r := by
  constructor
  · rintro ⟨req, ok⟩
    obtain ⟨id, type, settings, converted⟩ := converted_of_ok ok
    rintro (⟨set, bad⟩ | ⟨set, bad⟩ | ⟨set, bad⟩ | ⟨err, bad⟩)
    · simpa [optional, set, bad] using converted.messageID
    · simpa [optional, set, bad] using converted.serializeType
    · simpa [optional, set, bad] using converted.query
    · rw [converted.payload] at bad
      cases bad
  · intro convertible
    simp only [Inconvertible, not_or, not_exists] at convertible
    obtain ⟨messageID, serializeType, query, readable⟩ := convertible
    obtain ⟨id, found⟩ := optional_of_parsed .messageID messageID
    obtain ⟨type, typed⟩ := optional_of_parsed .serializeType serializeType
    obtain ⟨settings, parsed⟩ := optional_of_parsed .metadata query
    cases body : r.body with
    | error err => exact absurd body (readable err)
    | ok payload => exact ⟨_, by simp only [httpRequest2IrpcRequest, found, typed, parsed, body]; rfl⟩

theorem Converted.seq (converted : Converted pooled r req id type settings) (clean : pooled.Clean) :
    if r.header xMessageID = [] then req.header.seq = 0
    else decimal (r.header xMessageID) = some req.header.seq.toNat := by
  rw [converted.header, clean.header, seq_convertHeader]
  rcases optional_eq_ok converted.messageID with ⟨empty, rfl⟩ | ⟨nonempty, value, parsed, rfl⟩
  · rw [if_pos empty]
    rfl
  · rw [if_neg nonempty]
    exact parseUint_eq_some parsed

theorem Converted.metadata_lookup (converted : Converted pooled r req id type settings) (clean : pooled.Clean) :
    ∃ settings, XClient.parseQuery (r.header xMeta) = some settings ∧
      ∀ key, (req.metadata.getD ∅).lookup key =
        if key = XClient.authKey ∧ r.header authorization ≠ [] then some (r.header authorization)
        else (settings.find? fun setting => setting.1 = key).map Prod.snd := by
  -- an empty query has no settings, as a header that is not there
  obtain ⟨found, query, parsed⟩ : ∃ found, XClient.parseQuery (r.header xMeta) = some found ∧
      (settings.elim none fun settings => some (firstValues settings)).getD ∅ = firstValues found := by
    rcases optional_eq_ok converted.query with ⟨empty, rfl⟩ | ⟨-, value, parsed, rfl⟩
    · exact ⟨[], by rw [empty]; rfl, rfl⟩
    · exact ⟨value, parsed, rfl⟩
  refine ⟨found, query, fun key => ?_⟩
  rw [converted.metadata, clean.metadata, convertMetadata, ← lookup_firstValues, ← parsed]
  by_cases anonymous : r.header authorization = []
  · simp [anonymous]
  · rw [if_neg anonymous, Option.getD_some]
    by_cases same : key = XClient.authKey
    · subst same
      rw [Finmap.lookup_insert, if_pos ⟨rfl, anonymous⟩]
    · rw [Finmap.lookup_insert_of_ne _ same]
      simp [same]

/-- The serialize type is the only part that may be another than the request says. -/
theorem Converted.faithful_iff (converted : Converted pooled r req id type settings) (clean : pooled.Clean) :
    Faithful r req ↔ r.header xSerializeType = [] ∨
      ∃ value, integer (r.header xSerializeType) = some value ∧ 0 ≤ value ∧ value < 16 := by
  have heartbeat : req.header.isHeartbeat = true ↔ r.header xHeartbeat ≠ [] := by
    rw [converted.header, clean.header, isHeartbeat_convertHeader, bne_iff_ne]
  have oneway : req.header.isOneway = true ↔ r.header xOneway ≠ [] := by
    rw [converted.header, clean.header, isOneway_convertHeader, bne_iff_ne]
  have kind := serializeType_convertHeader id (r.header xHeartbeat != []) (r.header xOneway != []) type
  rw [← clean.header, ← converted.header] at kind
  have typed : Faithful r req ↔ if r.header xSerializeType = [] then req.header.serializeType = 0
      else integer (r.header xSerializeType) = some (req.header.serializeType.toNat : Int) :=
    ⟨Faithful.serializeType, fun same => ⟨converted.seq clean, same, heartbeat, oneway,
      converted.metadata_lookup clean, converted.servicePath, converted.serviceMethod, converted.payload⟩⟩
  rw [typed, kind]
  rcases optional_eq_ok converted.serializeType with ⟨empty, rfl⟩ | ⟨nonempty, rst, parsed, rfl⟩
  · simp [empty]
  · have number := atoi_eq_some parsed
    simp only [nonempty, if_false, false_or, number, Option.map_some, Option.getD_some, Option.some.injEq,
      exists_eq_left']
    exact toSerializeType_eq_iff rst

/-- From a clean message the conversion is faithful exactly if the request is refused, or if
its serialize type is empty or lies between zero and fifteen. -/
theorem convert_faithful_iff (clean : pooled.Clean) (r : HTTPRequest) :
    (∀ req, httpRequest2IrpcRequest pooled r = .ok req → Faithful r req) ↔
      Inconvertible r ∨ r.header xSerializeType = [] ∨
        ∃ value, integer (r.header xSerializeType) = some value ∧ 0 ≤ value ∧ value < 16 := by
  by_cases refused : Inconvertible r
  · refine iff_of_true (fun req ok => absurd refused (exists_ok_iff.mp ⟨req, ok⟩)) (.inl refused)
  · obtain ⟨req, ok⟩ := exists_ok_iff.mpr refused
    obtain ⟨id, type, settings, converted⟩ := converted_of_ok ok
    rw [or_iff_right refused, ← converted.faithful_iff clean, ok]
    exact ⟨fun faithful => faithful req rfl, fun faithful other same => Except.ok.inj same ▸ faithful⟩

def requestOfType (type : Bytes) : HTTPRequest :=
  ⟨fun name => if name = xSerializeType then type else [], .ok []⟩

theorem convert_faithful_json :
    ∃ req, httpRequest2IrpcRequest .newMessage (requestOfType (utf8 "1")) = .ok req ∧
      Faithful (requestOfType (utf8 "1")) req ∧ req.header.serializeType = .json := by
  have json : (httpRequest2IrpcRequest .newMessage (requestOfType (utf8 "1"))).toOption.map
      (·.header.serializeType) = some .json := by decide +kernel
  have faithful := (convert_faithful_iff Message.clean_newMessage (requestOfType (utf8 "1"))).mpr
    (.inr (.inr ⟨1, by decide +kernel, by decide, by decide⟩))
  cases converted : httpRequest2IrpcRequest .newMessage (requestOfType (utf8 "1")) with
  | error err =>
    rw [converted] at json
    cases json
  | ok req =>
    rw [converted] at json
    exact ⟨req, rfl, faithful req converted, Option.some.inj json⟩

/-- The type 17 is taken for JSON, and minus one for 15. -/
theorem convert_aliases_types :
    let typeOf := fun r => (httpRequest2IrpcRequest .newMessage r).toOption.map (·.header.serializeType)
    typeOf (requestOfType (utf8 "17")) = some .json ∧ typeOf (requestOfType (utf8 "-1")) = some 15 ∧
      ¬ ∀ req, httpRequest2IrpcRequest .newMessage (requestOfType (utf8 "17")) = .ok req →
        Faithful (requestOfType (utf8 "17")) req := by
  have json : (httpRequest2IrpcRequest .newMessage (requestOfType (utf8 "17"))).toOption.map
      (·.header.serializeType) = some .json := by decide +kernel
  refine ⟨json, by decide +kernel, fun faithful => ?_⟩
  cases converted : httpRequest2IrpcRequest .newMessage (requestOfType (utf8 "17")) with
  | error err =>
    rw [converted] at json
    cases json
  | ok req =>
    rw [converted] at json
    have kind : req.header.serializeType = .json := Option.some.inj json
    have typed := (faithful req converted).serializeType
    rw [kind] at typed
    revert typed
    decide +kernel

end Conversion

end Irpc.Server
