import Irpc.XClient.Retry

/-! The circuit breaker that opens after a number of failures in a row. It keeps a counter
and one time; its history says what they stand for. -/
namespace Irpc.XClient

open Irpc.Foundation

def errBreakerTimeout : GoError := .plain (utf8 "breaker time out")

/-- What `UnixNano` makes of a clock reading: nanoseconds since 1970 that fit an `int64`. -/
structure Instant where
  ns : Int
  nonneg : 0 ≤ ns
  bounded : ns < 2 ^ 63

/-- `time.Since`. A duration saturates at the ends of an `int64`. -/
def since (now earlier : Instant) : Int := max (-2 ^ 63) (min (now.ns - earlier.ns) (2 ^ 63 - 1))

theorem since_eq (now earlier : Instant) : since now earlier = now.ns - earlier.ns := by
  have first := now.nonneg
  have second := earlier.nonneg
  have third := now.bounded
  have fourth := earlier.bounded
  unfold since
  omega

structure ConsecCircuitBreaker where
  lastFailureTime : Instant
  failures : UInt64
  failureThreshold : UInt64
  window : Int

/-- A function given to `Call` with the time limit `d`. `expires` tells whether the timer
fires before the result is there. -/
structure Attempt where
  d : Int
  result : Option GoError
  expires : Bool

/-- Without a time limit the function is waited for. -/
def Attempt.err (attempt : Attempt) : Option GoError :=
  if attempt.d = 0 then attempt.result
  else if attempt.expires then some errBreakerTimeout
  else attempt.result

namespace ConsecCircuitBreaker

def new (failureThreshold : UInt64) (window : Int) : ConsecCircuitBreaker :=
  ⟨⟨0, by decide, by decide⟩, 0, failureThreshold, window⟩

def reset (breaker : ConsecCircuitBreaker) (now : Instant) : ConsecCircuitBreaker :=
  { breaker with failures := 0, lastFailureTime := now }

def ready (breaker : ConsecCircuitBreaker) (now : Instant) : Bool × ConsecCircuitBreaker :=
  if breaker.window < since now breaker.lastFailureTime then (true, breaker.reset now)
  else (decide (breaker.failures < breaker.failureThreshold), breaker)

def success (breaker : ConsecCircuitBreaker) (now : Instant) : ConsecCircuitBreaker := breaker.reset now

def fail (breaker : ConsecCircuitBreaker) (now : Instant) : ConsecCircuitBreaker :=
  { breaker with failures := breaker.failures + 1, lastFailureTime := now }

/-- How a `Call` ends, and whether it ran its function. -/
structure Called where
  err : Option GoError
  ran : Bool
  breaker : ConsecCircuitBreaker

def call (breaker : ConsecCircuitBreaker) (now : Instant) (attempt : Attempt) : Called :=
  match breaker.ready now with
  | (false, breaker) => ⟨some errBreakerOpen, false, breaker⟩
  | (true, breaker) =>
    ⟨attempt.err, true, if attempt.err.isNone then breaker.success now else breaker.fail now⟩

inductive Operation where
  | success
  | fail
  | ready
  | call (attempt : Attempt)

def apply (breaker : ConsecCircuitBreaker) (now : Instant) : Operation → ConsecCircuitBreaker
  | .success => breaker.success now
  | .fail => breaker.fail now
  | .ready => (breaker.ready now).2
  | .call attempt => (breaker.call now attempt).breaker

/-- The operations so far, the last first. -/
abbrev History := List (Instant × Operation)

def after (breaker : ConsecCircuitBreaker) : History → ConsecCircuitBreaker
  | [] => breaker
  | (now, operation) :: earlier => (after breaker earlier).apply now operation

/-- What counts of a history: its failures and its resets. -/
structure Mark where
  time : Instant
  isFail : Bool

def failsSince (marks : List Mark) : Nat := (marks.takeWhile Mark.isFail).length

/-- Too many failures since the latest reset, the latest of them within the window. -/
def Tripped (threshold : Nat) (window : Int) (marks : List Mark) (now : Instant) : Prop :=
  threshold ≤ failsSince marks ∧
    ∃ latest, marks.find? Mark.isFail = some latest ∧ now.ns - latest.time.ns ≤ window

instance (threshold : Nat) (window : Int) (marks : List Mark) (now : Instant) :
    Decidable (Tripped threshold window marks now) :=
  decidable_of_iff (threshold ≤ failsSince marks ∧
      (marks.find? Mark.isFail).any fun latest => decide (now.ns - latest.time.ns ≤ window)) (by
    simp [Tripped, Option.any_eq_true])

/-- A `Ready` resets if the window has passed since the last failure or reset. -/
def recordReady (window : Int) (marks : List Mark) (now : Instant) : List Mark :=
  match marks with
  | [] => []
  | latest :: earlier =>
    if window < now.ns - latest.time.ns then ⟨now, false⟩ :: latest :: earlier else latest :: earlier

/-- What an operation adds. A `Call` that runs its function counts its result. -/
def record (threshold : Nat) (window : Int) (marks : List Mark) (now : Instant) : Operation → List Mark
  | .success => ⟨now, false⟩ :: marks
  | .fail => ⟨now, true⟩ :: marks
  | .ready => recordReady window marks now
  | .call attempt =>
    if Tripped threshold window marks now then recordReady window marks now
    else ⟨now, attempt.err.isSome⟩ :: recordReady window marks now

def marksOf (threshold : Nat) (window : Int) : History → List Mark
  | [] => []
  | (now, operation) :: earlier => record threshold window (marksOf threshold window earlier) now operation

/-- What the fields of the breaker stand for. Before the first mark the time says nothing. -/
structure Agrees (threshold : UInt64) (window : Int) (breaker : ConsecCircuitBreaker) (marks : List Mark) : Prop where
  threshold : breaker.failureThreshold = threshold
  window : breaker.window = window
  failures : breaker.failures.toNat = failsSince marks
  latest : ∀ mark ∈ marks.head?, breaker.lastFailureTime = mark.time

variable {threshold : UInt64} {window : Int} {breaker : ConsecCircuitBreaker} {marks : List Mark}

theorem agrees_new (threshold : UInt64) (window : Int) : Agrees threshold window (new threshold window) [] :=
  ⟨rfl, rfl, rfl, by simp⟩

theorem Agrees.reset (agrees : Agrees threshold window breaker marks) (now : Instant) :
    Agrees threshold window (breaker.reset now) (⟨now, false⟩ :: marks) :=
  ⟨agrees.threshold, agrees.window, rfl, by simp [ConsecCircuitBreaker.reset]⟩

theorem Agrees.fail (agrees : Agrees threshold window breaker marks) (now : Instant)
    (room : failsSince marks + 1 < 2 ^ 64) :
    Agrees threshold window (breaker.fail now) (⟨now, true⟩ :: marks) := by
  refine ⟨agrees.threshold, agrees.window, ?_, by simp [ConsecCircuitBreaker.fail]⟩
  have sum : (breaker.failures + 1).toNat = (breaker.failures.toNat + 1) % 2 ^ 64 := UInt64.toNat_add _ _
  rw [agrees.failures, Nat.mod_eq_of_lt room] at sum
  exact sum

/-- With a failure since the latest reset, the latest mark is that failure. -/
theorem tripped_iff {threshold : Nat} (positive : 0 < threshold) (marks : List Mark) (now : Instant) :
    Tripped threshold window marks now ↔
      threshold ≤ failsSince marks ∧ ∀ mark ∈ marks.head?, now.ns - mark.time.ns ≤ window := by
  unfold Tripped
  refine and_congr_right fun many => ?_
  cases marks with
  | nil => exact absurd many (Nat.not_le.mpr positive)
  | cons latest earlier =>
    have failed : latest.isFail = true := by
      by_contra other
      simp [failsSince, other] at many
      omega
    simp [failed]

/-- `Ready` is false just when the history has tripped the breaker. -/
theorem Agrees.ready_eq_false_iff (agrees : Agrees threshold window breaker marks) (positive : 0 < threshold.toNat)
    (now : Instant) : (breaker.ready now).1 = false ↔ Tripped threshold.toNat window marks now := by
  rw [tripped_iff positive]
  unfold ready
  rw [since_eq, agrees.window]
  split
  case isTrue passed =>
    refine iff_of_false (by simp) ?_
    rintro ⟨many, within⟩
    cases marks with
    | nil => exact absurd many (Nat.not_le.mpr positive)
    | cons latest earlier =>
      have time := agrees.latest latest rfl
      have recent := within latest rfl
      rw [time] at passed
      omega
  case isFalse recent =>
    have counted : (decide (breaker.failures < breaker.failureThreshold)) = false ↔
        threshold.toNat ≤ failsSince marks := by
      rw [decide_eq_false_iff_not, agrees.threshold, UInt64.lt_iff_toNat_lt, agrees.failures, Nat.not_lt]
    rw [counted, iff_self_and]
    intro _ mark first
    rw [← agrees.latest mark first]
    omega

theorem Agrees.ready (agrees : Agrees threshold window breaker marks) (now : Instant) :
    Agrees threshold window (breaker.ready now).2 (recordReady window marks now) := by
  unfold ConsecCircuitBreaker.ready
  rw [since_eq, agrees.window]
  cases marks with
  | nil =>
    split
    · exact ⟨agrees.threshold, agrees.window, rfl, by simp [recordReady]⟩
    · exact agrees
  | cons latest earlier =>
    rw [agrees.latest latest rfl]
    dsimp only [recordReady]
    split
    · exact agrees.reset now
    · exact agrees

theorem failsSince_recordReady_le (window : Int) (marks : List Mark) (now : Instant) :
    failsSince (recordReady window marks now) ≤ failsSince marks := by
  unfold recordReady
  split
  · exact le_refl _
  · split
    · simp [failsSince]
    · exact le_refl _

/-- What `Call` does is a `Ready` and, if that holds, a `Success` or a `Fail`. -/
theorem apply_call (breaker : ConsecCircuitBreaker) (now : Instant) (attempt : Attempt) :
    breaker.apply now (.call attempt) =
      if (breaker.ready now).1 then
        (breaker.apply now .ready).apply now (if attempt.err = none then .success else .fail)
      else breaker.apply now .ready := by
  dsimp only [apply, call]
  rcases breaker.ready now with ⟨_ | _, next⟩
  · rfl
  · cases attempt.err <;> rfl

theorem Agrees.apply (agrees : Agrees threshold window breaker marks) (positive : 0 < threshold.toNat)
    (now : Instant) (operation : Operation) (room : failsSince marks + 1 < 2 ^ 64) :
    Agrees threshold window (breaker.apply now operation) (record threshold.toNat window marks now operation) := by
  cases operation with
  | success => exact agrees.reset now
  | fail => exact agrees.fail now room
  | ready => exact agrees.ready now
  | call attempt =>
    have readied := agrees.ready now
    have bound := failsSince_recordReady_le window marks now
    have tripped := agrees.ready_eq_false_iff positive now
    rw [apply_call]
    dsimp only [record]
    split
    case isTrue runs =>
      have closed : ¬ Tripped threshold.toNat window marks now := by simp [← tripped, runs]
      rw [if_neg closed]
      cases attempt.err with
      | none => exact readied.reset now
      | some err => exact readied.fail now (by omega)
    case isFalse refuses =>
      rw [if_pos (tripped.mp (Bool.eq_false_iff.mpr refuses))]
      exact readied

theorem failsSince_record_le (threshold : Nat) (window : Int) (marks : List Mark) (now : Instant)
    (operation : Operation) : failsSince (record threshold window marks now operation) ≤ failsSince marks + 1 := by
  have readied := failsSince_recordReady_le window marks now
  cases operation with
  | success => simp [record, failsSince]
  | fail => exact le_refl _
  | ready => exact Nat.le_succ_of_le readied
  | call attempt =>
    dsimp only [record]
    split
    · exact Nat.le_succ_of_le readied
    · cases attempt.err with
      | none => simp [failsSince]
      | some err => exact Nat.succ_le_succ readied

theorem failsSince_marksOf_le (threshold : Nat) (window : Int) (history : History) :
    failsSince (marksOf threshold window history) ≤ history.length := by
  induction history with
  | nil => exact le_refl 0
  | cons last earlier ih => exact (failsSince_record_le _ _ _ _ _).trans (Nat.succ_le_succ ih)

/-- The breaker agrees with its history, as long as the counter does not wrap around. -/
theorem agrees_after (window : Int) (positive : 0 < threshold.toNat) (history : History)
    (short : history.length < 2 ^ 64) :
    Agrees threshold window ((new threshold window).after history) (marksOf threshold.toNat window history) := by
  induction history with
  | nil => exact agrees_new threshold window
  | cons last earlier ih =>
    rw [List.length_cons] at short
    have bound := failsSince_marksOf_le threshold.toNat window earlier
    exact (ih (by omega)).apply positive last.1 last.2 (by omega)

/-- After any history `Ready` is false just when the breaker is tripped, and `Call` runs its
function just when `Ready` holds, and counts its result. -/
theorem ready_iff_not_tripped (window : Int) (positive : 1 ≤ threshold) (history : History)
    (short : history.length < 2 ^ 64) (now : Instant) :
    let breaker := (new threshold window).after history
    ((breaker.ready now).1 = false ↔
      Tripped threshold.toNat window (marksOf threshold.toNat window history) now) ∧
    ∀ attempt, (breaker.call now attempt).ran = (breaker.ready now).1 ∧
      (breaker.call now attempt).err = (if (breaker.ready now).1 then attempt.err else some errBreakerOpen) ∧
      (breaker.call now attempt).breaker =
        if (breaker.ready now).1 then
          (breaker.apply now .ready).apply now (if attempt.err = none then .success else .fail)
        else breaker.apply now .ready := by
  intro breaker
  refine ⟨(agrees_after window (UInt64.le_iff_toNat_le.mp positive) history short).ready_eq_false_iff
    (UInt64.le_iff_toNat_le.mp positive) now, ?_⟩
  intro attempt
  refine ⟨?_, ?_, apply_call breaker now attempt⟩
  all_goals
    unfold call
    rcases breaker.ready now with ⟨_ | _, next⟩ <;> rfl

/-- Two failures in a row trip a breaker with the threshold two, until the window has passed. -/
theorem ready_iff_not_tripped_twice :
    let breaker := (new 2 10).after
      [(⟨5, by decide, by decide⟩, .fail), (⟨3, by decide, by decide⟩, .call ⟨0, some .eof, false⟩)]
    (breaker.ready ⟨15, by decide, by decide⟩).1 = false ∧ (breaker.ready ⟨16, by decide, by decide⟩).1 ≠ false :=
  ⟨(ready_iff_not_tripped 10 (by decide) _ (by decide) _).1.mpr (by decide),
    mt (ready_iff_not_tripped 10 (by decide) _ (by decide) _).1.mp (by decide)⟩

end ConsecCircuitBreaker

end Irpc.XClient
