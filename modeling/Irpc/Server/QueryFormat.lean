import Irpc.Server.Converter

/-! Settings written as a query, as `url.ParseQuery` reads them. -/
namespace Irpc.XClient

open Irpc.Foundation

/-- The digits are those of upper case. -/
def hexDigit (value : UInt8) : UInt8 := if value < 10 then 48 + value else 55 + value

/-- Letters, digits and four marks stay as they are. -/
def isUnreserved (byte : UInt8) : Bool :=
  (48 ≤ byte && byte ≤ 57) || (65 ≤ byte && byte ≤ 90) || (97 ≤ byte && byte ≤ 122) ||
    byte == 45 || byte == 46 || byte == 95 || byte == 126

def escapeByte (byte : UInt8) : Bytes :=
  if byte = 32 then [43]
  else if isUnreserved byte then [byte]
  else [37, hexDigit (byte / 16), hexDigit (byte % 16)]

def queryEscape (text : Bytes) : Bytes := text.flatMap escapeByte

def encodeSetting (setting : Bytes × Bytes) : Bytes := queryEscape setting.1 ++ 61 :: queryEscape setting.2

/-- The settings with an ampersand between two of them. -/
def encodeSettings (settings : List (Bytes × Bytes)) : Bytes := [38].intercalate (settings.map encodeSetting)

section Escape

theorem div_sixteen_lt (byte : UInt8) : byte / 16 < 16 := by
  rw [UInt8.lt_iff_toNat_lt, UInt8.toNat_div]
  have small := byte.toNat_lt
  change byte.toNat / 16 < 16
  omega

theorem unhex_hexDigit {value : UInt8} (small : value < 16) : unhex (hexDigit value) = some value := by
  have digits : ∀ digit : Fin 16, unhex (hexDigit (UInt8.ofNat digit)) = some (UInt8.ofNat digit) := by decide
  have bound : value.toNat < 16 := UInt8.lt_iff_toNat_lt.mp small
  simpa using digits ⟨value.toNat, bound⟩

theorem queryUnescape_plain {byte : UInt8} (escape : byte ≠ 37) (plus : byte ≠ 43) (rest : Bytes) :
    queryUnescape (byte :: rest) = (queryUnescape rest).map (byte :: ·) := by
  rw [queryUnescape]
  · exact fun _ _ _ same _ => escape same
  · exact escape
  · exact plus

/-- Every byte is read back, whatever comes behind it. -/
theorem queryUnescape_escapeByte (byte : UInt8) (rest : Bytes) :
    queryUnescape (escapeByte byte ++ rest) = (queryUnescape rest).map (byte :: ·) := by
  unfold escapeByte
  split
  case isTrue space =>
    subst space
    rfl
  case isFalse =>
    split
    case isTrue unreserved =>
      refine queryUnescape_plain ?_ ?_ rest
      · rintro rfl
        cases unreserved
      · rintro rfl
        cases unreserved
    case isFalse =>
      have high := div_sixteen_lt byte
      have low : byte % 16 < 16 := UInt8.mod_lt _ (by decide)
      have whole : byte / 16 * 16 + byte % 16 = byte := by
        apply UInt8.toNat_inj.mp
        have small := byte.toNat_lt
        simp only [UInt8.toNat_add, UInt8.toNat_mul, UInt8.toNat_div, UInt8.toNat_mod, UInt8.reduceToNat]
        omega
      simp only [List.cons_append, List.nil_append, queryUnescape, unhex_hexDigit high, unhex_hexDigit low,
        Option.bind_eq_bind, Option.bind_some, whole]
      cases queryUnescape rest <;> rfl

theorem queryUnescape_queryEscape (text : Bytes) : queryUnescape (queryEscape text) = some text := by
  induction text with
  | nil => rfl
  | cons byte rest ih =>
    have written : queryEscape (byte :: rest) = escapeByte byte ++ queryEscape rest := List.flatMap_cons
    rw [written, queryUnescape_escapeByte, ih, Option.map_some]

theorem separators_hexDigit {value : UInt8} (small : value < 16) : hexDigit value ∉ [38, 59, 61] := by
  have digits : ∀ digit : Fin 16, hexDigit (UInt8.ofNat digit) ∉ [38, 59, 61] := by decide
  have bound : value.toNat < 16 := UInt8.lt_iff_toNat_lt.mp small
  simpa using digits ⟨value.toNat, bound⟩

theorem separators_escapeByte {byte separator : UInt8} (member : separator ∈ [38, 59, 61]) :
    separator ∉ escapeByte byte := by
  have reserved : isUnreserved separator = false ∧ separator ≠ 43 ∧ separator ≠ 37 := by
    have three : separator = 38 ∨ separator = 59 ∨ separator = 61 := by simpa using member
    rcases three with rfl | rfl | rfl <;> decide
  unfold escapeByte
  split
  · simpa using reserved.2.1
  · split
    case isTrue unreserved =>
      intro same
      rw [← List.mem_singleton.mp same, reserved.1] at unreserved
      cases unreserved
    case isFalse =>
      simp only [List.mem_cons, List.not_mem_nil, or_false]
      rintro (same | rfl | rfl)
      · exact reserved.2.2 same
      · exact separators_hexDigit (div_sixteen_lt byte) member
      · exact separators_hexDigit (UInt8.mod_lt _ (by decide)) member

theorem separator_queryEscape {separator : UInt8} (member : separator ∈ [38, 59, 61]) (text : Bytes) :
    separator ∉ queryEscape text := by
  intro written
  obtain ⟨byte, -, inside⟩ := List.mem_flatMap.mp written
  exact separators_escapeByte member inside

end Escape

section Settings

variable {setting : Bytes × Bytes}

theorem encodeSetting_ne_nil : encodeSetting setting ≠ [] := by
  simp [encodeSetting]

theorem ampersand_encodeSetting : 38 ∉ encodeSetting setting := by
  have key : 38 ∉ queryEscape setting.1 := separator_queryEscape (by decide) _
  have value : 38 ∉ queryEscape setting.2 := separator_queryEscape (by decide) _
  simp [encodeSetting, key, value]

/-- The first equals sign is the one between the key and the value. -/
theorem parseSetting_encodeSetting (setting : Bytes × Bytes) : parseSetting (encodeSetting setting) = some setting := by
  obtain ⟨key, value⟩ := setting
  have plain : 59 ∉ encodeSetting (key, value) := by
    have inKey : 59 ∉ queryEscape key := separator_queryEscape (by decide) _
    have inValue : 59 ∉ queryEscape value := separator_queryEscape (by decide) _
    simp [encodeSetting, inKey, inValue]
  have before : ∀ byte ∈ queryEscape key, (byte != 61) = true := by
    intro byte member
    refine bne_iff_ne.mpr ?_
    rintro rfl
    exact separator_queryEscape (by decide) _ member
  have first : (encodeSetting (key, value)).takeWhile (· != 61) = queryEscape key := by
    rw [encodeSetting, List.takeWhile_append_of_pos before]
    simp
  have second : (encodeSetting (key, value)).dropWhile (· != 61) = 61 :: queryEscape value := by
    rw [encodeSetting, List.dropWhile_append_of_pos before]
    simp
  simp [parseSetting, plain, first, second, queryUnescape_queryEscape]

/-- A query says what was written, in the order in which it was written. -/
theorem parseQuery_encodeSettings (settings : List (Bytes × Bytes)) :
    parseQuery (encodeSettings settings) = some settings := by
  cases settings with
  | nil => rfl
  | cons setting rest =>
    have parts : (encodeSettings (setting :: rest)).splitOn 38 = (setting :: rest).map encodeSetting := by
      refine List.splitOn_intercalate 38 ?_ (by simp)
      intro part member
      obtain ⟨_, -, rfl⟩ := List.mem_map.mp member
      exact ampersand_encodeSetting
    have full : ∀ part ∈ (setting :: rest).map encodeSetting, (!part.isEmpty) = true := by
      intro part member
      obtain ⟨_, -, rfl⟩ := List.mem_map.mp member
      simpa using encodeSetting_ne_nil
    have read : parseSetting ∘ encodeSetting = fun setting => pure (id setting) :=
      funext parseSetting_encodeSetting
    rw [parseQuery, parts, List.filter_eq_self.mpr full, List.mapM_map, read, List.mapM_pure, List.map_id]
    rfl

end Settings

end Irpc.XClient

namespace Irpc.Server

open Irpc.Foundation Irpc.Protocol

/-- The entries of a map as settings, in the order in which they are visited. -/
def settingsOf (order : IterationOrder) : List (Bytes × Bytes) := order.entries.map fun entry => (entry.1, entry.2)

theorem mem_settingsOf {order : IterationOrder} {key value : Bytes} :
    (key, value) ∈ settingsOf order ↔ order.toFinmap.lookup key = some value := by
  have stored : order.toFinmap.lookup key = some value ↔ Sigma.mk key value ∈ order.entries := AList.mem_lookup_iff
  rw [stored, settingsOf, List.mem_map]
  constructor
  · rintro ⟨⟨_, _⟩, member, same⟩
    cases same
    exact member
  · intro member
    exact ⟨_, member, rfl⟩

theorem find_eq_some_iff {settings : List (Bytes × Bytes)} (distinct : (settings.map Prod.fst).Nodup)
    {key value : Bytes} :
    (settings.find? fun setting => setting.1 = key).map Prod.snd = some value ↔ (key, value) ∈ settings := by
  constructor
  · intro found
    obtain ⟨⟨name, value⟩, first, rfl⟩ := Option.map_eq_some_iff.mp found
    have named : name = key := by simpa using List.find?_some first
    subst named
    exact List.mem_of_find?_eq_some first
  · intro member
    cases first : settings.find? fun setting => setting.1 = key with
    | none => simpa using List.find?_eq_none.mp first (key, value) member
    | some setting =>
      have named : setting.1 = key := by simpa using List.find?_some first
      have same : setting = (key, value) :=
        List.inj_on_of_nodup_map distinct (List.mem_of_find?_eq_some first) member named
      rw [same, Option.map_some]

/-- The settings are the map they were made of, in whichever order they are written. -/
theorem firstValues_of_perm {order : IterationOrder} {settings : List (Bytes × Bytes)}
    (perm : settings.Perm (settingsOf order)) : firstValues settings = order.toFinmap := by
  have distinct : (settings.map Prod.fst).Nodup := by
    refine (perm.map Prod.fst).nodup_iff.mpr ?_
    have keys := order.nodupKeys
    rw [List.NodupKeys] at keys
    simpa [settingsOf, List.keys, Function.comp_def] using keys
  refine Finmap.ext_lookup fun key => Option.ext fun value => ?_
  rw [lookup_firstValues, find_eq_some_iff distinct, perm.mem_iff, mem_settingsOf]

end Irpc.Server
