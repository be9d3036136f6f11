import Irpc.XClient.Call

/-! How often `Call` tries, in the modes that retry, and where it sends each attempt. -/
namespace Irpc.XClient

open Irpc.Foundation

variable {Reply : Type}

/-- An attempt, with the server the client was selected for. -/
structure Sent where
  key : Bytes
  client : Nat
  err : Option GoError

def sent (keeps : Bool) (reselect : Bytes → Round Reply → Selected) (rounds : Nat → Round Reply) :
    Nat → Nat → Progress → List Sent
  | 0, _, _ => []
  | remaining + 1, index, progress =>
    let round := rounds index
    let selected := reselect progress.key round
    match progress.client with
    | none => sent keeps reselect rounds remaining (index + 1) (progress.advance selected)
    | some client =>
      let progress := { progress with err := if keeps then round.err else progress.err }
      ⟨progress.key, client, round.err⟩ :: if settles round.err then [] else
        sent keeps reselect rounds remaining (index + 1) (progress.advance selected)

def attempts (trace : List (Action Reply)) : List (Nat × Option GoError) :=
  trace.filterMap fun
    | .attempt (some client) _ err => some (client, err)
    | _ => none

theorem attempts_removal (progress : Progress) : attempts (progress.removal : List (Action Reply)) = [] := by
  unfold Progress.removal
  split <;> rfl

theorem attempts_append (before after : List (Action Reply)) :
    attempts (before ++ after) = attempts before ++ attempts after :=
  List.filterMap_append

section Loop

variable (keeps : Bool) (reselect : Bytes → Round Reply → Selected) (rounds : Nat → Round Reply)

theorem attempts_retry (count index : Nat) (progress : Progress) :
    attempts (retry keeps reselect rounds count index progress).trace =
      (sent keeps reselect rounds count index progress).map fun attempt => (attempt.client, attempt.err) := by
  induction count generalizing index progress with
  | zero => rfl
  | succ count ih =>
    unfold retry sent
    dsimp only
    cases progress.client with
    | none =>
      dsimp only [Outcome.after]
      rw [attempts_append, attempts_removal, List.nil_append, ih]
    | some client =>
      dsimp only
      split
      · rfl
      · dsimp only [Outcome.after]
        rw [List.cons_append, ← List.singleton_append, attempts_append, attempts_append, attempts_removal,
          List.nil_append, ih]
        rfl

theorem length_sent_le (count index : Nat) (progress : Progress) :
    (sent keeps reselect rounds count index progress).length ≤ count := by
  induction count generalizing index progress with
  | zero => exact le_refl 0
  | succ count ih =>
    unfold sent
    dsimp only
    cases progress.client with
    | none => exact Nat.le_succ_of_le (ih _ _)
    | some client =>
      refine Nat.succ_le_succ ?_
      split
      · exact Nat.zero_le count
      · exact ih _ _

/-- An attempt that settles the call is the last one, and its result is returned. -/
theorem last_of_settles (count index : Nat) (progress : Progress)
    (split_at : sent keeps reselect rounds count index progress = before ++ last :: after)
    (settled : settles last.err = true) :
    after = [] ∧ (retry keeps reselect rounds count index progress).err = last.err := by
  induction count generalizing index progress before with
  | zero => simp [sent] at split_at
  | succ count ih =>
    unfold sent at split_at
    unfold retry
    dsimp only at split_at ⊢
    cases found : progress.client with
    | none =>
      rw [found] at split_at
      exact ih _ _ split_at
    | some client =>
      rw [found] at split_at
      dsimp only at split_at ⊢
      cases before with
      | nil =>
        obtain ⟨first, rest⟩ := List.cons.inj split_at
        rw [← first] at settled ⊢
        dsimp only at settled ⊢
        rw [if_pos settled] at rest ⊢
        exact ⟨rest.symm, rfl⟩
      | cons first before =>
        obtain ⟨_, rest⟩ := List.cons.inj split_at
        by_cases ended : settles (rounds index).err = true
        · rw [if_pos ended] at rest
          simp at rest
        · rw [if_neg ended] at rest ⊢
          exact ih _ _ rest

end Loop

theorem key_of_sent (keeps : Bool) (rounds : Nat → Round Reply) (count index : Nat) (progress : Progress)
    (member : attempt ∈ sent keeps reselectSame rounds count index progress) : attempt.key = progress.key := by
  induction count generalizing index progress with
  | zero => cases member
  | succ count ih =>
    unfold sent at member
    dsimp only at member
    cases found : progress.client with
    | none =>
      rw [found] at member
      exact (ih _ (progress.advance (reselectSame progress.key (rounds index))) member).trans rfl
    | some client =>
      rw [found] at member
      rcases List.mem_cons.mp member with same | later
      · rw [same]
      · split at later
        · cases later
        · exact (ih _ _ later).trans rfl

def sentBy (mode : FailMode) (retries : Int) (run : CallRun Reply) : List Sent :=
  let selected := selectClient run.key run.lookup
  let start : Progress := ⟨selected.err, none, selected.key, selected.client⟩
  if run.isShutdown || contextCanceled selected.err then []
  else
    match mode with
    | .failtry => sent true reselectSame run.rounds (roundsOf retries) 0 start
    | .failover => sent true reselectOther run.rounds (roundsOf retries) 0 start
    | _ => []

/-- What the retries keep to: their number, nothing behind an attempt that settles the call,
and no success without an attempt that succeeded. -/
structure Bounded (limit : Int) (sent : List Sent) (err : Option GoError) : Prop where
  few : sent.length ≤ limit
  settled : ∀ before last after, sent = before ++ last :: after → settles last.err = true →
    after = [] ∧ err = last.err
  failed : (∀ attempt ∈ sent, attempt.err ≠ none) → err ≠ none

theorem bounded_of_refused {retries : Int} (natural : 0 ≤ retries) (failed : err ≠ none) :
    Bounded (retries + 1) [] err :=
  ⟨by rw [List.length_nil]; omega, by simp, fun _ => failed⟩

theorem bounded_retry (reselect : Bytes → Round Reply → Selected) (rounds : Nat → Round Reply) {retries : Int}
    (natural : 0 ≤ retries) (key : Bytes) (lookup : Lookup) :
    let selected := selectClient key lookup
    let start : Progress := ⟨selected.err, none, selected.key, selected.client⟩
    Bounded (retries + 1) (sent true reselect rounds (roundsOf retries) 0 start)
      (retry true reselect rounds (roundsOf retries) 0 start).err := by
  intro selected start
  have length := length_sent_le true reselect rounds (roundsOf retries) 0 start
  refine ⟨?_, ?_, ?_⟩
  · have count : (roundsOf retries : Int) = retries + 1 := by
      unfold roundsOf
      omega
    omega
  · intro before last after parts
    exact last_of_settles true reselect rounds _ _ start parts
  · intro fails succeeded
    have sound := (soundSuccess_retry_iff reselect rounds false retries key lookup).mpr (by omega)
    obtain ⟨client, reply, member, _⟩ := sound succeeded
    have listed : (client, none) ∈ attempts (retry true reselect rounds (roundsOf retries) 0 start).trace :=
      List.mem_filterMap.mpr ⟨_, member, rfl⟩
    rw [attempts_retry] at listed
    obtain ⟨attempt, made, same⟩ := List.mem_map.mp listed
    exact fails attempt made (congrArg Prod.snd same)

/-- The two modes that retry keep to these bounds in every run, their attempts are those of
the trace, and `Failtry` sends all of them to the server it selected first. -/
theorem call_bounded {mode : FailMode} (retrying : mode = .failtry ∨ mode = .failover) {retries : Int}
    (natural : 0 ≤ retries) (run : CallRun Reply) :
    Bounded (retries + 1) (sentBy mode retries run) (call mode retries run).err ∧
      attempts (call mode retries run).trace =
        (sentBy mode retries run).map (fun attempt => (attempt.client, attempt.err)) ∧
      (mode = .failtry → ∀ attempt ∈ sentBy mode retries run,
        attempt.key = (selectClient run.key run.lookup).key) := by
  unfold call sentBy
  cases shutdown : run.isShutdown with
  | true => exact ⟨bounded_of_refused natural (by simp), rfl, fun _ _ member => by cases member⟩
  | false =>
    dsimp only
    cases canceled : contextCanceled (selectClient run.key run.lookup).err with
    | true =>
      have failed : (selectClient run.key run.lookup).err ≠ none := by
        intro isNil
        rw [isNil] at canceled
        cases canceled
      have early : ((selectClient run.key run.lookup).err.isSome && (mode == .failfast || true)) = true := by
        simpa [Option.isSome_iff_ne_none] using failed
      simp only [Bool.false_eq_true, ↓reduceIte, early]
      exact ⟨bounded_of_refused natural failed, rfl, fun _ _ member => by cases member⟩
    | false =>
      rcases retrying with rfl | rfl
      · have goes : ((selectClient run.key run.lookup).err.isSome && (FailMode.failtry == .failfast || false)) =
            false := Bool.and_false _
        simp only [Bool.false_eq_true, ↓reduceIte, goes, Bool.or_self]
        exact ⟨bounded_retry reselectSame run.rounds natural run.key run.lookup, attempts_retry _ _ _ _ _ _,
          fun _ attempt member => key_of_sent true run.rounds _ _ _ member⟩
      · have goes : ((selectClient run.key run.lookup).err.isSome && (FailMode.failover == .failfast || false)) =
            false := Bool.and_false _
        simp only [Bool.false_eq_true, ↓reduceIte, goes, Bool.or_self]
        exact ⟨bounded_retry reselectOther run.rounds natural run.key run.lookup, attempts_retry _ _ _ _ _ _, nofun⟩

end Irpc.XClient
