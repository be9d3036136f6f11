import Irpc.XClient.ReqMetadata
import Irpc.XClient.WeightedRoundRobin
import Mathlib

/-! The time a client gives a server. The client writes the milliseconds until its deadline
into the metadata, and the server makes a duration in nanoseconds of what it reads there. -/
namespace Irpc.Server

open Irpc.Foundation Irpc.Protocol Irpc.XClient

/-- `time.Until`, with times in nanoseconds. It stops at the ends of the range of a duration. -/
def timeUntil (deadline now : Int) : Int64 :=
  Int64.ofInt (max (-2 ^ 63) (min (deadline - now) (2 ^ 63 - 1)))

/-- `Duration.Milliseconds`, which rounds towards zero. -/
def milliseconds (d : Int64) : Int64 := d / 1000000

/-- `parseServerTimeout`: the timeout of the context it makes, in nanoseconds, if it makes one.
`ParseInt` accepts for base ten and 64 bits what `Atoi` accepts. -/
def parseServerTimeout (req : Option Message) : Option Int64 := do
  let req ← req
  let metadata ← req.metadata
  let st := (metadata.lookup serverTimeoutKey).getD []
  if st = [] then none
  else
    let timeout ← atoi st
    some (timeout * 1000000)

/-- A request with the metadata of a call that is sent at this time. -/
def sendAt (deadline now : Int) (metadata : Option Metadata) (req : Message) : Message :=
  { req with metadata := setServerTimeout (some (milliseconds (timeUntil deadline now)).toInt) metadata }

section Decimal

theorem utf8EncodeChar_digit {c : Char} (digit : c.isDigit) :
    String.utf8EncodeChar c = [c.toUInt8] ∧ c.toUInt8.toNat = c.toNat ∧ 48 ≤ c.toNat ∧ c.toNat ≤ 57 := by
  have range : 48 ≤ c.toNat ∧ c.toNat ≤ 57 := by
    simpa [Char.isDigit, UInt32.le_iff_toNat_le] using digit
  refine ⟨?_, ?_, range⟩
  · have short : c.val.toNat ≤ 127 := range.2.trans (by decide)
    rw [String.utf8EncodeChar, if_pos short]
    rfl
  · change c.toNat % 256 = _
    omega

theorem foldl_digits {digits : List Char} (digit : ∀ c ∈ digits, c.isDigit) (size : Nat) :
    (digits.flatMap String.utf8EncodeChar).foldl (fun (size : Int) digit => size * 10 + (digit.toNat - 48)) size =
      Nat.ofDigitChars 10 digits size := by
  induction digits generalizing size with
  | nil => simp
  | cons c digits ih =>
    obtain ⟨encoded, value, low, high⟩ := utf8EncodeChar_digit (digit c List.mem_cons_self)
    rw [List.flatMap_cons, encoded, List.singleton_append, List.foldl_cons, Nat.ofDigitChars_cons,
      ← ih fun other member => digit other (List.mem_cons_of_mem c member)]
    congr 1
    rw [value, show '0'.toNat = 48 from rfl]
    omega

theorem isDigit_of_mem_repr {c : Char} {n : Nat} (member : c ∈ n.repr.toList) : c.isDigit := by
  rw [Nat.toList_repr] at member
  exact Nat.isDigit_of_mem_toDigits (by decide) (by decide) member

theorem digit_of_mem_repr {byte : UInt8} {n : Nat} (member : byte ∈ utf8 n.repr) : 48 ≤ byte ∧ byte ≤ 57 := by
  obtain ⟨c, inside, written⟩ := List.mem_flatMap.mp member
  obtain ⟨encoded, value, low, high⟩ := utf8EncodeChar_digit (isDigit_of_mem_repr inside)
  rw [encoded] at written
  rw [List.mem_singleton.mp written, UInt8.le_iff_toNat_le, UInt8.le_iff_toNat_le, value]
  exact ⟨low, high⟩

theorem foldl_repr (n : Nat) :
    (utf8 n.repr).foldl (fun (size : Int) digit => size * 10 + (digit.toNat - 48)) 0 = n := by
  have read := foldl_digits (fun c => isDigit_of_mem_repr (n := n)) 0
  rwa [Nat.toList_repr, Nat.ofDigitChars_toDigits (by decide) (by decide), ← Nat.toList_repr] at read

theorem utf8_repr_ne_nil (n : Nat) : utf8 n.repr ≠ [] := by
  have written : n.repr.toList ≠ [] := by
    rw [Nat.toList_repr]
    exact Nat.toDigits_ne_nil
  obtain ⟨c, member⟩ := List.exists_mem_of_ne_nil _ written
  intro empty
  have nothing := List.flatMap_eq_nil_iff.mp empty c member
  rw [(utf8EncodeChar_digit (isDigit_of_mem_repr member)).1] at nothing
  cases nothing

theorem head_repr {sign : UInt8} (isSign : sign < 48) (n : Nat) : (utf8 n.repr).head? ≠ some sign := by
  intro signed
  exact absurd (digit_of_mem_repr (List.mem_of_head? signed)).1 (UInt8.not_le.mpr isSign)

/-- `Atoi` reads what `Sprintf` writes. -/
theorem atoi_toString (value : Int64) : atoi (utf8 (toString value.toInt)) = some value := by
  have low := value.le_toInt
  have high := value.toInt_lt
  rw [Int.toString_eq_repr, Int.repr_eq_if]
  split
  · rename_i nonneg
    have plain : ¬ (utf8 value.toInt.toNat.repr).head? = some 45 := head_repr (by decide) _
    have unsigned : ¬ (utf8 value.toInt.toNat.repr).head? = some 43 := head_repr (by decide) _
    simp only [atoi, plain, unsigned, or_self, if_false, foldl_repr, Int.toNat_of_nonneg nonneg]
    rw [if_pos ⟨utf8_repr_ne_nil _, fun digit => digit_of_mem_repr, low, high⟩, Int64.ofInt_toInt]
  · rename_i negative
    have signed : utf8 ("-" ++ (-value.toInt).toNat.repr) = 45 :: utf8 (-value.toInt).toNat.repr := by
      simp [utf8]
      rfl
    have size : ((-value.toInt).toNat : Int) = -value.toInt := Int.toNat_of_nonneg (by omega)
    simp only [atoi, signed, List.head?_cons, true_or, if_true, List.tail_cons, foldl_repr, size, neg_neg]
    rw [if_pos ⟨utf8_repr_ne_nil _, fun digit => digit_of_mem_repr, low, high⟩, Int64.ofInt_toInt]

end Decimal

theorem toInt_timeUntil (deadline now : Int) :
    (timeUntil deadline now).toInt = max (-2 ^ 63) (min (deadline - now) (2 ^ 63 - 1)) :=
  Int64.toInt_ofInt_of_le (by omega) (by omega)

theorem toInt_milliseconds (d : Int64) :
    (milliseconds d).toInt = if 0 ≤ d.toInt then d.toInt / 1000000 else -(-d.toInt / 1000000) := by
  rw [milliseconds, Int64.toInt_div_of_ne_right d 1000000 (by decide), show (1000000 : Int64).toInt = 1000000 from rfl]
  split
  · rename_i nonneg
    exact Int.tdiv_eq_ediv_of_nonneg nonneg
  · rw [← Int.tdiv_eq_ediv_of_nonneg (by omega), Int.neg_tdiv, neg_neg]

/-- The product of `parseServerTimeout` is exact unless it leaves the range. -/
theorem toInt_mul_million_iff (n : Int64) :
    (n * 1000000).toInt = n.toInt * 1000000 ↔ -9223372036854 ≤ n.toInt ∧ n.toInt ≤ 9223372036854 := by
  have low := (n * 1000000).le_toInt
  have high := (n * 1000000).toInt_lt
  constructor
  · intro exact
    omega
  · intro small
    rw [Int64.toInt_mul, show (1000000 : Int64).toInt = 1000000 from rfl]
    exact Int.bmod_eq_of_le (by omega) (by omega)

theorem parseServerTimeout_of_parsed {req : Message} {metadata : Metadata} {st : Bytes} {n : Int64}
    (attached : req.metadata = some metadata) (found : metadata.lookup serverTimeoutKey = some st)
    (parsed : atoi st = some n) : parseServerTimeout (some req) = some (n * 1000000) := by
  have written : st ≠ [] := by
    rintro rfl
    cases parsed
  simp [parseServerTimeout, attached, found, written, parsed]

theorem parseServerTimeout_sendAt (deadline now : Int) (metadata : Option Metadata) (req : Message) :
    parseServerTimeout (some (sendAt deadline now metadata req)) =
      some (milliseconds (timeUntil deadline now) * 1000000) :=
  parseServerTimeout_of_parsed rfl (Finmap.lookup_insert _) (atoi_toString _)

/-- The nanoseconds of what the client writes never leave the range. -/
theorem toInt_milliseconds_mul (d : Int64) : (milliseconds d * 1000000).toInt = (milliseconds d).toInt * 1000000 := by
  have low := d.le_toInt
  have high := d.toInt_lt
  rw [toInt_mul_million_iff, toInt_milliseconds]
  split <;> omega

/-- The server gets no more time than the client has left, and hardly less. -/
def Propagated (left timeout : Int) : Prop := timeout ≤ left ∧ (0 < left → left - timeout < 1000000)

/-- The server gets the right time exactly if the client's deadline is not too far ahead and, if
it has passed, has passed whole milliseconds ago; and what it reads becomes a duration of that
many milliseconds exactly if their nanoseconds stay in the range. -/
theorem parseServerTimeout_right_iff (req : Message) :
    (∀ (deadline now : Int) (metadata : Option Metadata),
      ∃ timeout, parseServerTimeout (some (sendAt deadline now metadata req)) = some timeout ∧
        (Propagated (deadline - now) timeout.toInt ↔
          0 ≤ deadline - now ∧ deadline - now < 9223372036855000000 ∨
          -2 ^ 63 ≤ deadline - now ∧ 1000000 ∣ deadline - now ∧ deadline - now < 0)) ∧
      ∀ (metadata : Metadata) (st : Bytes) (n : Int64), req.metadata = some metadata →
        metadata.lookup serverTimeoutKey = some st → atoi st = some n →
        ∃ timeout, parseServerTimeout (some req) = some timeout ∧
          (timeout.toInt = n.toInt * 1000000 ↔ -9223372036854 ≤ n.toInt ∧ n.toInt ≤ 9223372036854) := by
  constructor
  · intro deadline now metadata
    refine ⟨_, parseServerTimeout_sendAt deadline now metadata req, ?_⟩
    rw [toInt_milliseconds_mul, toInt_milliseconds, toInt_timeUntil, Propagated]
    split <;> omega
  · intro metadata st n attached found parsed
    exact ⟨_, parseServerTimeout_of_parsed attached found parsed, toInt_mul_million_iff n⟩

def asking (milliseconds : Bytes) : Message :=
  { Message.newMessage with metadata := some (Finmap.singleton serverTimeoutKey milliseconds) }

theorem parseServerTimeout_right_iff_second :
    ∃ timeout, parseServerTimeout (some (asking (utf8 "1000"))) = some timeout ∧ timeout.toInt = 1000 * 1000000 := by
  obtain ⟨timeout, parsed, right⟩ :=
    (parseServerTimeout_right_iff (asking (utf8 "1000"))).2 _ (utf8 "1000") 1000 rfl Finmap.lookup_singleton_eq
      (by decide +kernel)
  exact ⟨timeout, parsed, right.mpr (by decide)⟩

/-- A request for almost three hundred years has expired before it is handled. -/
theorem parseServerTimeout_wraps :
    atoi (utf8 "9223372036855") = some 9223372036855 ∧
      parseServerTimeout (some (asking (utf8 "9223372036855"))) = some (-9223372036854551616) := by
  have parsed : atoi (utf8 "9223372036855") = some 9223372036855 := by decide +kernel
  refine ⟨parsed, (parseServerTimeout_of_parsed rfl Finmap.lookup_singleton_eq parsed).trans ?_⟩
  decide

end Irpc.Server
