import Irpc.XClient.Retry

namespace Irpc.XClient

open Irpc.Foundation

/-- The error of a context that is done. -/
inductive ContextError where
  | canceled
  | deadlineExceeded
  deriving DecidableEq

def ContextError.error : ContextError → GoError
  | .canceled => .canceled
  | .deadlineExceeded => .deadlineExceeded

/-- What one invocation of `xClient.Go` meets, and how the call it issues ends. -/
structure GoRun (Reply : Type) where
  isShutdown : Bool
  key : Bytes
  lookup : Lookup
  reply : Reply
  err : Option GoError

/-- What the first `select` of `Failbackup` sees first. Without a first call no
reply arrives, and the timer fires. -/
inductive FirstWait where
  | cancelled (err : ContextError)
  | reply
  | timer
  deriving DecidableEq

/-- What the second `select` sees first. -/
inductive SecondWait where
  | cancelled (err : ContextError)
  | firstReply
  | secondReply

/-- `late` tells whether the first call has completed by the time `Call` returns
for want of a second one. -/
structure Backup (Reply : Type) where
  first : GoRun Reply
  firstWait : FirstWait
  second : GoRun Reply
  secondWait : SecondWait
  late : Bool

structure CallRun (Reply : Type) where
  isShutdown : Bool
  key : Bytes
  lookup : Lookup
  rounds : Nat → Round Reply
  backup : Backup Reply

variable {Reply : Type}

/-- The client a call was issued on, or the error of not issuing one. -/
def go (run : GoRun Reply) : Option Nat × Option GoError :=
  if run.isShutdown then (none, some errXClientShutdown)
  else
    let selected := selectClient run.key run.lookup
    if selected.err.isSome then (none, selected.err) else (selected.client, none)

/-- The trace of a call that is still running, and of one that has completed. -/
def running (client : Option Nat) : List (Action Reply) := (client.map Action.issued).toList

def completed (client : Option Nat) (run : GoRun Reply) : List (Action Reply) :=
  (client.map fun client => .attempt (some client) (some run.reply) run.err).toList

def replyOf (run : GoRun Reply) : Option Reply := if run.err.isNone then some run.reply else none

/-- The second half of `Failbackup`, behind the timer. -/
def callBackupLate (key : Bytes) (client : Option Nat) (backup : Backup Reply) : Outcome Reply :=
  let (client1, err1) := go backup.first
  let (client2, err2) := go backup.second
  if err2.isSome then
    -- The error of the first call is returned, nil or not.
    { reply := none
      err := err1
      trace := (if backup.late then completed client1 backup.first else running client1) ++
        if uncoverError err2 then [.remove key client] else [] }
  else
    match backup.secondWait, client1 with
    | .cancelled err, _ => ⟨none, some err.error, running client1 ++ running client2⟩
    | .firstReply, some _ => ⟨replyOf backup.first, backup.first.err,
        completed client1 backup.first ++ running client2⟩
    | _, _ => ⟨replyOf backup.second, backup.second.err,
        running client1 ++ completed client2 backup.second⟩

def callBackup (key : Bytes) (client : Option Nat) (backup : Backup Reply) : Outcome Reply :=
  let (client1, _) := go backup.first
  match backup.firstWait, client1 with
  | .cancelled err, _ => ⟨none, some err.error, running client1⟩
  | .reply, some _ => ⟨replyOf backup.first, backup.first.err, completed client1 backup.first⟩
  | _, _ => callBackupLate key client backup

def wrapCall (client : Option Nat) (round : Round Reply) : Option Reply × Option GoError :=
  match client with
  | none => (none, some errServerUnavailable)
  | some _ => (some round.reply, round.err)

def call (mode : FailMode) (retries : Int) (run : CallRun Reply) : Outcome Reply :=
  if run.isShutdown then ⟨none, some errXClientShutdown, []⟩
  else
    let selected := selectClient run.key run.lookup
    let start : Progress := ⟨selected.err, none, selected.key, selected.client⟩
    if selected.err.isSome && (mode == .failfast || contextCanceled selected.err) then
      ⟨none, selected.err, []⟩
    else
      match mode with
      | .failtry => retry true reselectSame run.rounds (roundsOf retries) 0 start
      | .failover => retry true reselectOther run.rounds (roundsOf retries) 0 start
      | .failbackup => callBackup selected.key selected.client run.backup
      | .failfast =>
        let (reply, err) := wrapCall selected.client (run.rounds 0)
        { reply := if err.isNone then reply else none
          err := err
          trace := .attempt selected.client reply err ::
            if err.isSome && uncoverError err then [.remove selected.key selected.client] else [] }

theorem go_eq_none (run : GoRun Reply) : (go run).1 = none ↔ (go run).2 ≠ none := by
  unfold go
  split
  · simp
  · dsimp only
    split
    case isTrue failed => simpa [Option.isSome_iff_ne_none] using failed
    case isFalse succeeded =>
      rw [selectClient_eq_none]
      simpa using succeeded

/-- A call that is waited for makes for a sound outcome. -/
theorem soundSuccess_waited (hasReply : Bool) (client : Nat) (run : GoRun Reply)
    (before after : List (Action Reply)) :
    SoundSuccess hasReply ⟨replyOf run, run.err, before ++ completed (some client) run ++ after⟩ := by
  intro succeeded
  dsimp only at succeeded
  refine ⟨client, run.reply, ?_, ?_⟩
  · simp [completed, succeeded]
  · simp [replyOf, succeeded]

/-- A first call was issued and is not waited for, because the second one could not
be issued. Only a call that needs no reply may have succeeded meanwhile. -/
def Abandons (hasReply : Bool) (backup : Backup Reply) : Prop :=
  (go backup.first).2 = none ∧ (go backup.second).2 ≠ none ∧
    ¬ (hasReply = false ∧ backup.late = true ∧ backup.first.err = none)

theorem soundSuccess_abandoned_iff (hasReply : Bool) (client : Nat) (backup : Backup Reply)
    (removed : Bool) :
    SoundSuccess hasReply ⟨none, none,
        (if backup.late then completed (some client) backup.first else running (some client)) ++
          if removed then [.remove key other] else []⟩ ↔
      hasReply = false ∧ backup.late = true ∧ backup.first.err = none := by
  constructor
  · intro sound
    obtain ⟨found, reply, member, stored⟩ := sound rfl
    refine ⟨by simpa using stored, ?_⟩
    cases late : backup.late <;> cases removed <;> simp [late, completed, running] at member
    · exact ⟨rfl, member.2.2.symm⟩
    · exact ⟨rfl, member.2.2.symm⟩
  · rintro ⟨rfl, late, succeeded⟩ -
    exact ⟨client, backup.first.reply, by simp [late, completed, succeeded], by simp⟩

theorem soundSuccess_callBackupLate_iff (hasReply : Bool) (key : Bytes) (client : Option Nat)
    (backup : Backup Reply) :
    SoundSuccess hasReply (callBackupLate key client backup) ↔ ¬ Abandons hasReply backup := by
  have issued1 := go_eq_none backup.first
  have issued2 := go_eq_none backup.second
  unfold callBackupLate Abandons
  generalize go backup.first = outcome1 at issued1 ⊢
  generalize go backup.second = outcome2 at issued2 ⊢
  obtain ⟨client1, err1⟩ := outcome1
  obtain ⟨client2, err2⟩ := outcome2
  dsimp only at issued1 issued2 ⊢
  cases err2 with
  | some failure =>
    rw [if_pos (Option.isSome_some)]
    cases err1 with
    | some refused => exact iff_of_true (soundSuccess_of_err (by simp) hasReply) (by simp)
    | none =>
      obtain ⟨first, rfl⟩ := Option.ne_none_iff_exists'.mp (mt issued1.mp (by simp))
      rw [soundSuccess_abandoned_iff]
      simp
  | none =>
    rw [if_neg (by simp)]
    refine iff_of_true ?_ (by simp)
    obtain ⟨second, rfl⟩ := Option.ne_none_iff_exists'.mp (mt issued2.mp (by simp))
    have waited := soundSuccess_waited hasReply second backup.second (running client1) []
    rw [List.append_nil] at waited
    cases wait : backup.secondWait with
    | cancelled err => exact soundSuccess_of_err (by simp) hasReply
    | secondReply => exact waited
    | firstReply =>
      cases client1 with
      | none => exact waited
      | some first => exact soundSuccess_waited hasReply first backup.first [] _

/-- `Call` returns nil without a success: it has a client and does not try it, or it
abandons its first call. -/
def Unsound (hasReply : Bool) (mode : FailMode) (retries : Int) (run : CallRun Reply) : Prop :=
  run.isShutdown = false ∧
    match mode with
    | .failtry => (selectClient run.key run.lookup).err = none ∧ retries < 0
    | .failover => (selectClient run.key run.lookup).err = none ∧ retries < 0
    | .failfast => False
    | .failbackup => contextCanceled (selectClient run.key run.lookup).err = false ∧
      run.backup.firstWait = .timer ∧ Abandons hasReply run.backup

theorem soundSuccess_callBackup_iff (hasReply : Bool) (key : Bytes) (client : Option Nat)
    (backup : Backup Reply) :
    SoundSuccess hasReply (callBackup key client backup) ↔
      ¬ (backup.firstWait = .timer ∧ Abandons hasReply backup) := by
  have late := soundSuccess_callBackupLate_iff hasReply key client backup
  unfold callBackup
  dsimp only
  cases wait : backup.firstWait with
  | cancelled err => exact iff_of_true (soundSuccess_of_err (by simp) hasReply) (by simp)
  | timer => simpa using late
  | reply =>
    refine iff_of_true ?_ (by simp)
    cases issued : (go backup.first).1 with
    | none =>
      have refused := (go_eq_none backup.first).mp issued
      exact late.mpr fun abandons => refused abandons.1
    | some first =>
      have waited := soundSuccess_waited hasReply first backup.first [] []
      rwa [List.nil_append, List.append_nil] at waited

/-- A retry loop is sound unless it has a client and makes no round. -/
theorem soundSuccess_retry_iff (reselect : Bytes → Round Reply → Selected) (rounds : Nat → Round Reply)
    (hasReply : Bool) (retries : Int) (key : Bytes) (lookup : Lookup) :
    SoundSuccess hasReply (retry true reselect rounds (roundsOf retries) 0
        ⟨(selectClient key lookup).err, none, (selectClient key lookup).key,
          (selectClient key lookup).client⟩) ↔
      ¬ ((selectClient key lookup).err = none ∧ retries < 0) := by
  constructor
  · rintro sound ⟨found, negative⟩
    have empty : roundsOf retries = 0 := by
      unfold roundsOf
      omega
    rw [empty, found] at sound
    obtain ⟨_, _, member, _⟩ := sound rfl
    cases member
  · intro apart
    refine soundSuccess_retry reselect rounds hasReply _ _ _ ?_
    by_cases found : (selectClient key lookup).err = none
    · refine .inr ⟨?_, ?_⟩
      · have : ¬ retries < 0 := fun negative => apart ⟨found, negative⟩
        unfold roundsOf
        omega
      · exact fun missing => (selectClient_eq_none key lookup).mp missing found
    · exact .inl found

theorem call_sound_iff (hasReply : Bool) (mode : FailMode) (retries : Int) (run : CallRun Reply) :
    SoundSuccess hasReply (call mode retries run) ↔ ¬ Unsound hasReply mode retries run := by
  unfold call Unsound
  cases shutdown : run.isShutdown with
  | true => exact iff_of_true (soundSuccess_of_err (by simp) hasReply) (by simp)
  | false =>
    simp only [Bool.false_eq_true, ↓reduceIte, true_and]
    split
    case isTrue early =>
      rw [Bool.and_eq_true] at early
      have failed : (selectClient run.key run.lookup).err ≠ none := Option.isSome_iff_ne_none.mp early.1
      refine iff_of_true (soundSuccess_of_err failed hasReply) ?_
      cases mode with
      | failtry => exact fun unsound => failed unsound.1
      | failover => exact fun unsound => failed unsound.1
      | failfast => exact id
      | failbackup =>
        rintro ⟨goes, -⟩
        rw [goes] at early
        exact absurd early.2 (by decide)
    case isFalse goes =>
      cases mode with
      | failtry => exact soundSuccess_retry_iff reselectSame run.rounds hasReply retries run.key run.lookup
      | failover => exact soundSuccess_retry_iff reselectOther run.rounds hasReply retries run.key run.lookup
      | failfast =>
        refine iff_of_true ?_ id
        cases found : (selectClient run.key run.lookup).client with
        | none => exact soundSuccess_of_err (by simp [wrapCall]) hasReply
        | some client =>
          intro succeeded
          have isNil : (run.rounds 0).err = none := succeeded
          exact ⟨client, (run.rounds 0).reply, by simp [wrapCall, isNil], by simp [wrapCall, isNil]⟩
      | failbackup =>
        dsimp only
        rw [soundSuccess_callBackup_iff]
        have uncancelled : contextCanceled (selectClient run.key run.lookup).err = false := by
          cases failed : (selectClient run.key run.lookup).err with
          | none => rfl
          | some err => simpa [failed] using goes
        simp [uncancelled]

/-- Two calls are issued by `Failbackup` when both servers can be reached; here only
the first one can, and its reply would take longer than the timer. -/
def sampleRun : CallRun Nat where
  isShutdown := false
  key := utf8 "tcp@a:1"
  lookup := cachedLookup
  rounds _ := ⟨7, none, utf8 "tcp@a:1", cachedLookup⟩
  backup :=
    { first := ⟨false, utf8 "tcp@a:1", cachedLookup, 7, none⟩
      firstWait := .timer
      second := ⟨false, utf8 "tcp@b:1", refusedLookup, 7, none⟩
      secondWait := .firstReply
      late := false }

/-- With a negative number of retries nothing is called, and with `Failbackup` the
first call is abandoned. Both report success. -/
theorem call_unsound :
    ¬ SoundSuccess true (call .failover (-1) sampleRun) ∧
      ¬ SoundSuccess true (call .failbackup 3 sampleRun) := by
  constructor
  · intro sound
    obtain ⟨_, _, member, _⟩ := sound rfl
    cases member
  · intro sound
    obtain ⟨_, _, _, stored⟩ := sound rfl
    cases stored rfl

end Irpc.XClient
