import Irpc.XClient.Call

namespace Irpc.XClient

open Irpc.Foundation

variable {Reply : Type}

structure RawRun (Reply : Type) where
  isShutdown : Bool
  key : Bytes
  lookup : Lookup
  rounds : Nat → Round Reply

def wrapSendRaw (client : Option Nat) (round : Round Reply) : Option Reply × Option GoError :=
  wrapCall client round

def RawRun.early (run : RawRun Reply) (mode : FailMode) : Bool :=
  let selected := selectClient run.key run.lookup
  selected.err.isSome &&
    (mode == .failfast || contextCanceled selected.err || isServiceError selected.err)

/-- Behind the attempts of the retry loops the error of the first selection is
tested and returned; the default branch returns a nil error. -/
def sendRaw (mode : FailMode) (retries : Int) (run : RawRun Reply) : Outcome Reply :=
  if run.isShutdown then ⟨none, some errXClientShutdown, []⟩
  else
    let selected := selectClient run.key run.lookup
    let start : Progress := ⟨selected.err, none, selected.key, selected.client⟩
    if run.early mode then ⟨none, selected.err, []⟩
    else
      match mode with
      | .failtry => retry false reselectSame run.rounds (roundsOf retries) 0 start
      | .failover => retry false reselectOther run.rounds (roundsOf retries) 0 start
      | _ =>
        let (reply, err) := wrapSendRaw selected.client (run.rounds 0)
        { reply := reply
          err := none
          trace := .attempt selected.client reply err ::
            if err.isSome && uncoverError err then [.remove selected.key selected.client] else [] }

/-- After an attempt its client is removed just when the attempt's own error is
uncoverable. -/
def RemovesUncoverable : List (Action Reply) → Prop
  | [] => True
  | .attempt client _ err :: rest =>
    ((∃ key, rest.head? = some (.remove key client)) ↔ err ≠ none ∧ uncoverError err = true) ∧
      RemovesUncoverable rest
  | _ :: rest => RemovesUncoverable rest

/-- Success is returned just when an attempt succeeded, with what that attempt
returned, and clients are removed by the errors of their own attempts. -/
structure SoundRaw (outcome : Outcome Reply) : Prop where
  success : outcome.err = none ↔ ∃ client reply, .attempt client reply none ∈ outcome.trace
  reply : ∀ client reply, .attempt client reply none ∈ outcome.trace → outcome.reply = reply
  removes : RemovesUncoverable outcome.trace

/-- The client a loop has in a round that starts with `first`. -/
def clientAt (reselect : Bytes → Round Reply → Selected) (rounds : Nat → Round Reply)
    (first : Option Nat) : Nat → Option Nat
  | 0 => first
  | index + 1 => (reselect [] (rounds index)).client

/-- Every attempt of the first `count` rounds fails with an error that is neither a
cancellation nor the service's. -/
def Exhausts (reselect : Bytes → Round Reply → Selected) (rounds : Nat → Round Reply)
    (first : Option Nat) (count : Nat) : Prop :=
  ∀ index < count, clientAt reselect rounds first index ≠ none → settles (rounds index).err = false

/-- The error of the last selection, `e` if there was none. -/
def lastErr (reselect : Bytes → Round Reply → Selected) (rounds : Nat → Round Reply)
    (e : Option GoError) : Nat → Option GoError
  | 0 => e
  | index + 1 => (reselect [] (rounds index)).err

/-- The attempts fail and nothing tells so. -/
def Silent (mode : FailMode) (retries : Int) (run : RawRun Reply) : Prop :=
  let selected := selectClient run.key run.lookup
  run.isShutdown = false ∧ run.early mode = false ∧
    match mode with
    | .failtry => selected.err = none ∧
      Exhausts reselectSame run.rounds selected.client (roundsOf retries) ∧
      lastErr reselectSame run.rounds none (roundsOf retries) = none
    | .failover => selected.err = none ∧
      Exhausts reselectOther run.rounds selected.client (roundsOf retries) ∧
      lastErr reselectOther run.rounds none (roundsOf retries) = none
    | _ => selected.client = none ∨ (run.rounds 0).err ≠ none

section Loop

variable (reselect : Bytes → Round Reply → Selected) (rounds : Nat → Round Reply)

theorem retry_succ (keeps : Bool) (count index : Nat) (progress : Progress) :
    retry keeps reselect rounds count (index + 1) progress =
      retry keeps reselect (fun index => rounds (index + 1)) count index progress := by
  induction count generalizing index progress with
  | zero => rfl
  | succ count ih => simp only [retry, ih]

theorem exhausts_succ (first : Option Nat) (count : Nat) :
    Exhausts reselect rounds first (count + 1) ↔
      (first ≠ none → settles (rounds 0).err = false) ∧
        Exhausts reselect (fun index => rounds (index + 1)) (reselect [] (rounds 0)).client count := by
  constructor
  · intro exhausts
    refine ⟨exhausts 0 (Nat.succ_pos _), ?_⟩
    intro index low found
    refine exhausts (index + 1) (by omega) ?_
    cases index <;> exact found
  · rintro ⟨start, later⟩ index low found
    cases index with
    | zero => exact start found
    | succ index =>
      refine later index (by omega) ?_
      cases index <;> exact found

theorem lastErr_succ (e : Option GoError) (count : Nat) :
    lastErr reselect rounds e (count + 1) =
      lastErr reselect (fun index => rounds (index + 1)) (reselect [] (rounds 0)).err count := by
  cases count <;> rfl

/-- What fails beforehand, with its removals, changes nothing. -/
theorem soundRaw_after_iff (outcome : Outcome Reply) (actions : List (Action Reply))
    (failed : ∀ client reply, .attempt client reply none ∉ actions)
    (removals : RemovesUncoverable (actions ++ outcome.trace) ↔ RemovesUncoverable outcome.trace) :
    SoundRaw (outcome.after actions) ↔ SoundRaw outcome := by
  have member : ∀ client reply, .attempt client reply none ∈ actions ++ outcome.trace ↔
      .attempt client reply none ∈ outcome.trace := by
    intro client reply
    rw [List.mem_append, or_iff_right (failed client reply)]
  constructor
  · rintro ⟨success, returned, removes⟩
    simp only [Outcome.after, member] at success returned
    exact ⟨success, returned, removals.mp removes⟩
  · rintro ⟨success, returned, removes⟩
    simp only [← member] at success returned
    exact ⟨success, returned, removals.mpr removes⟩

theorem soundRaw_after_remove (outcome : Outcome Reply) (key : Bytes) (client : Option Nat) :
    SoundRaw (outcome.after [.remove key client]) ↔ SoundRaw outcome :=
  soundRaw_after_iff outcome _ (by simp) Iff.rfl

theorem soundRaw_after_failed (outcome : Outcome Reply) (key : Bytes) (client : Option Nat)
    (reply : Option Reply) (failed : err ≠ none) (uncoverable : uncoverError err = true) :
    SoundRaw (outcome.after [.attempt client reply err, .remove key client]) ↔ SoundRaw outcome := by
  refine soundRaw_after_iff outcome _ (by simp [failed.symm]) ?_
  exact and_iff_right (iff_of_true ⟨key, rfl⟩ ⟨failed, uncoverable⟩)

/-- The attempt that ends the loop is the only one whose result counts. -/
theorem soundRaw_settled (client : Option Nat) (reply : Reply) (settled : settles err = true) :
    SoundRaw ⟨if err.isNone then some reply else none, err, [.attempt client (some reply) err]⟩ where
  success := by simp [eq_comm]
  reply other returned member := by
    obtain ⟨-, same, isNil⟩ : other = client ∧ returned = some reply ∧ none = err := by
      simpa using member
    simp [← isNil, same]
  removes := by
    refine ⟨iff_of_false (by simp) ?_, trivial⟩
    rw [← settles_eq_false_iff, settled]
    exact Bool.noConfusion

/-- The loop that shadows the errors of its attempts fails silently just when it is
exhausted and both selections it remembers were successful. -/
theorem soundRaw_retry_iff (uniform : ∀ key round, (reselect key round).client =
      (reselect [] round).client ∧ (reselect key round).err = (reselect [] round).err)
    (count : Nat) (progress : Progress) (uncoverable : uncoverError progress.err = true) :
    SoundRaw (retry false reselect rounds count 0 progress) ↔
      ¬ (progress.err = none ∧ Exhausts reselect rounds progress.client count ∧
        lastErr reselect rounds progress.e count = none) := by
  induction count generalizing rounds progress with
  | zero =>
    have final : SoundRaw (⟨none, if progress.err.isNone then progress.e else progress.err, []⟩ :
        Outcome Reply) ↔ ¬ (progress.err = none ∧ progress.e = none) := by
      constructor
      · rintro ⟨success, -, -⟩ ⟨isNil, selected⟩
        simp [isNil, selected] at success
      · intro failed
        refine ⟨?_, by simp, trivial⟩
        cases isNil : progress.err <;> simp_all
    simpa [retry, Exhausts, lastErr] using final
  | succ count ih =>
    have later := ih (fun index => rounds (index + 1))
      (progress.advance (reselect progress.key (rounds 0))) uncoverable
    have client : (progress.advance (reselect progress.key (rounds 0))).client =
        (reselect [] (rounds 0)).client := (uniform progress.key (rounds 0)).1
    have e : (progress.advance (reselect progress.key (rounds 0))).e =
        (reselect [] (rounds 0)).err := (uniform progress.key (rounds 0)).2
    rw [client, e] at later
    rw [exhausts_succ, lastErr_succ]
    simp only [retry, retry_succ, Bool.false_eq_true, ↓reduceIte, Progress.removal, uncoverable]
    split
    case h_1 missing =>
      rw [soundRaw_after_remove, later]
      simp [missing, Progress.advance]
    case h_2 client found =>
      split
      case isTrue settled =>
        refine iff_of_true (soundRaw_settled _ _ settled) ?_
        rintro ⟨-, ⟨exhausted, -⟩, -⟩
        have unsettled := exhausted (by simp [found])
        rw [settled] at unsettled
        cases unsettled
      case isFalse unsettled =>
        rw [Bool.not_eq_true] at unsettled
        obtain ⟨failed, own⟩ := (settles_eq_false_iff _).mp unsettled
        rw [found, soundRaw_after_failed _ _ _ _ failed own]
        refine later.trans ?_
        simp [unsettled, Progress.advance]

end Loop

theorem uncoverable_of_not_early {run : RawRun Reply} (goes : run.early mode = false) :
    uncoverError (selectClient run.key run.lookup).err = true := by
  unfold RawRun.early at goes
  dsimp only at goes
  rw [uncoverError_iff]
  cases failed : (selectClient run.key run.lookup).err with
  | none => exact ⟨rfl, rfl⟩
  | some err =>
    simp only [failed, Option.isSome_some, Bool.true_and, Bool.or_eq_false_iff] at goes
    exact ⟨goes.1.2, goes.2⟩

/-- The default branch reports success whatever its attempt returns. -/
theorem soundRaw_default_iff (client : Option Nat) (key : Bytes) (round : Round Reply) :
    SoundRaw (⟨(wrapSendRaw client round).1, none,
        .attempt client (wrapSendRaw client round).1 (wrapSendRaw client round).2 ::
          if (wrapSendRaw client round).2.isSome && uncoverError (wrapSendRaw client round).2 then
            [.remove key client] else []⟩ : Outcome Reply) ↔
      ¬ (client = none ∨ round.err ≠ none) := by
  have attempted : (wrapSendRaw client round).2 = none ↔ ¬ (client = none ∨ round.err ≠ none) := by
    cases client <;> simp [wrapSendRaw, wrapCall]
  rw [← attempted]
  constructor
  · rintro ⟨success, -, -⟩
    obtain ⟨_, _, member⟩ := success.mp rfl
    rcases List.mem_cons.mp member with same | member
    · exact (Action.attempt.inj same).2.2.symm
    · split at member <;> simp at member
  · intro isNil
    rw [isNil]
    exact ⟨by simp, by simp, by simp [RemovesUncoverable]⟩

theorem sendRaw_sound_iff (mode : FailMode) (retries : Int) (run : RawRun Reply) :
    SoundRaw (sendRaw mode retries run) ↔ ¬ Silent mode retries run := by
  unfold sendRaw Silent
  cases shutdown : run.isShutdown with
  | true => exact iff_of_true ⟨by simp, by simp, trivial⟩ (by simp)
  | false =>
    cases goes : run.early mode with
    | true =>
      have failed : (selectClient run.key run.lookup).err ≠ none := by
        unfold RawRun.early at goes
        exact Option.isSome_iff_ne_none.mp (Bool.and_eq_true_iff.mp goes).1
      exact iff_of_true ⟨by simp [failed], by simp, trivial⟩ (by simp)
    | false =>
      simp only [Bool.false_eq_true, ↓reduceIte, true_and]
      have uncoverable := uncoverable_of_not_early goes
      cases mode with
      | failtry =>
        exact soundRaw_retry_iff reselectSame run.rounds (fun _ _ => ⟨rfl, rfl⟩) _ _ uncoverable
      | failover =>
        exact soundRaw_retry_iff reselectOther run.rounds (fun _ _ => ⟨rfl, rfl⟩) _ _ uncoverable
      | failfast => exact soundRaw_default_iff _ _ _
      | failbackup => exact soundRaw_default_iff _ _ _

/-- A cached client all of whose attempts fail with one error. -/
def failingRun (err : GoError) : RawRun Nat where
  isShutdown := false
  key := utf8 "tcp@a:1"
  lookup := cachedLookup
  rounds _ := ⟨0, some err, utf8 "tcp@a:1", cachedLookup⟩

/-- The attempt fails and a nil error is returned: when the server refuses the call, and with
retries when the connection of a client that may be closed again breaks. -/
theorem sendRaw_silent :
    ¬ SoundRaw (sendRaw .failfast 0 (failingRun (.serviceError (utf8 "refused")))) ∧
      ¬ SoundRaw (sendRaw .failtry 0 (failingRun (.plain (utf8 "broken pipe")))) := by
  have once : ∀ (outcome : Outcome Nat) (err : GoError) (actions : List (Action Nat)), outcome.err = none →
      outcome.trace = .attempt (some 1) (some 0) (some err) :: actions →
      (∀ action ∈ actions, action = .remove (utf8 "tcp@a:1") (some 1)) → ¬ SoundRaw outcome := by
    rintro outcome err actions isNil trace removes ⟨success, -, -⟩
    obtain ⟨_, _, member⟩ := success.mp isNil
    rw [trace] at member
    rcases List.mem_cons.mp member with same | later
    · cases same
    · cases removes _ later
  exact ⟨once _ _ [] rfl rfl (List.forall_mem_nil _), once _ _ [_] rfl rfl (List.forall_mem_singleton.mpr rfl)⟩

end Irpc.XClient
