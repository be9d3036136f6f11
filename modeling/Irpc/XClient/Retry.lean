import Irpc.Errors

/-! How an `xClient` finds a client for a call, and the loop in which it retries.
What the environment contributes (the selector's choice, the state of cache and
breaker, connecting, the result of each attempt) is given round by round. Clients may be closed
again and again here. -/
namespace Irpc.XClient

open Irpc.Foundation

inductive FailMode where
  | failover
  | failfast
  | failtry
  | failbackup
  deriving DecidableEq

def errXClientShutdown : GoError := .plain (utf8 "xClient is shut down")
def errXClientNoServer : GoError := .plain (utf8 "can not found any server")
def errServerUnavailable : GoError := .plain (utf8 "selected server is unavailable")
def errXClientClosed : GoError := .plain (utf8 "this xClient is closed")
def errBreakerOpen : GoError := .plain (utf8 "breaker open")

def contextCanceled : Option GoError → Bool
  | some .deadlineExceeded => true
  | some .canceled => true
  | _ => false

def isServiceError : Option GoError → Bool
  | some (.serviceError _) => true
  | _ => false

/-- A nil error counts as uncoverable too. -/
def uncoverError : Option GoError → Bool
  | some (.serviceError _) => false
  | some .deadlineExceeded => false
  | some .canceled => false
  | _ => true

theorem uncoverError_iff (err : Option GoError) :
    uncoverError err = true ↔ contextCanceled err = false ∧ isServiceError err = false := by
  rcases err with _ | _ | _ | _ | _ | _ | _ <;> simp [uncoverError, contextCanceled, isServiceError]

/-- A cached client and the flags it shows. -/
structure Cached where
  client : Nat
  closing : Bool
  shutdown : Bool

/-- What one invocation of `getCachedClient` meets: `found` and `again` are its two
looks at the cache. A client that is found closing or shut down is closed in between. -/
structure Lookup where
  isShutdown : Bool
  breakerReady : Bool
  found : Option Cached
  again : Option Cached
  connect : Except GoError Nat

def generateClient (lookup : Lookup) : Option Nat × Option GoError :=
  match lookup.connect with
  | .ok client => (some client, none)
  | .error err => (none, some err)

def lookAgain (lookup : Lookup) : Option Nat × Option GoError :=
  match lookup.again with
  | some cached => if cached.shutdown then generateClient lookup else (some cached.client, none)
  | none => generateClient lookup

def getCachedClient (lookup : Lookup) : Option Nat × Option GoError :=
  if lookup.isShutdown then (none, some errXClientClosed)
  else if !lookup.breakerReady then (none, some errBreakerOpen)
  else
    match lookup.found with
    | some cached =>
      if !cached.closing && !cached.shutdown then (some cached.client, none) else lookAgain lookup
    | none => lookAgain lookup

/-- A server and a client for it, or the error of not getting one. -/
structure Selected where
  key : Bytes
  client : Option Nat
  err : Option GoError

/-- `key` is the choice of the selector, empty if there is no server. -/
def selectClient (key : Bytes) (lookup : Lookup) : Selected :=
  if key = [] then ⟨[], none, some errXClientNoServer⟩
  else ⟨key, (getCachedClient lookup).1, (getCachedClient lookup).2⟩

theorem generateClient_eq_none (lookup : Lookup) :
    (generateClient lookup).1 = none ↔ (generateClient lookup).2 ≠ none := by
  unfold generateClient
  split <;> simp

theorem lookAgain_eq_none (lookup : Lookup) :
    (lookAgain lookup).1 = none ↔ (lookAgain lookup).2 ≠ none := by
  unfold lookAgain
  split
  · split
    · exact generateClient_eq_none lookup
    · simp
  · exact generateClient_eq_none lookup

/-- There is a client just when there is no error. -/
theorem getCachedClient_eq_none (lookup : Lookup) :
    (getCachedClient lookup).1 = none ↔ (getCachedClient lookup).2 ≠ none := by
  unfold getCachedClient
  split
  · simp
  · split
    · simp
    · split
      · split
        · simp
        · exact lookAgain_eq_none lookup
      · exact lookAgain_eq_none lookup

theorem selectClient_eq_none (key : Bytes) (lookup : Lookup) :
    (selectClient key lookup).client = none ↔ (selectClient key lookup).err ≠ none := by
  unfold selectClient
  split
  · simp
  · exact getCachedClient_eq_none lookup

/-- A client that is in the cache and usable. -/
def cachedLookup : Lookup := ⟨false, true, some ⟨1, false, false⟩, none, .error errServerUnavailable⟩

/-- A server that cannot be connected to. -/
def refusedLookup : Lookup := ⟨false, true, none, none, .error (.plain (utf8 "connection refused"))⟩

/-- What an `xClient` does in one call. An attempt on a nil client fails at once;
an issued call has not completed when the `xClient` returns. -/
inductive Action (Reply : Type) where
  | attempt (client : Option Nat) (reply : Option Reply) (err : Option GoError)
  | issued (client : Nat)
  | remove (key : Bytes) (client : Option Nat)

structure Outcome (Reply : Type) where
  reply : Option Reply
  err : Option GoError
  trace : List (Action Reply)

/-- The same outcome with something done before. -/
def Outcome.after {Reply : Type} (actions : List (Action Reply)) (outcome : Outcome Reply) : Outcome Reply :=
  { outcome with trace := actions ++ outcome.trace }

/-- One round of a retry loop: the result of its attempt, if it makes one, and what
its selection meets. -/
structure Round (Reply : Type) where
  reply : Reply
  err : Option GoError
  key : Bytes
  lookup : Lookup

structure Progress where
  err : Option GoError
  e : Option GoError
  key : Bytes
  client : Option Nat

variable {Reply : Type}

/-- An error that ends the loop, as success does. -/
def settles (err : Option GoError) : Bool := err.isNone || contextCanceled err || isServiceError err

/-- An error does not end the loop just when it is uncoverable. -/
theorem settles_eq_false_iff (err : Option GoError) :
    settles err = false ↔ err ≠ none ∧ uncoverError err = true := by
  rw [uncoverError_iff, settles, Bool.or_eq_false_iff, Bool.or_eq_false_iff, and_assoc,
    Option.isNone_eq_false_iff, Option.isSome_iff_ne_none]

/-- `Failtry` asks for a client of the same server. -/
def reselectSame (key : Bytes) (round : Round Reply) : Selected :=
  ⟨key, (getCachedClient round.lookup).1, (getCachedClient round.lookup).2⟩

def reselectOther (_ : Bytes) (round : Round Reply) : Selected := selectClient round.key round.lookup

def Progress.advance (progress : Progress) (selected : Selected) : Progress :=
  ⟨progress.err, selected.err, selected.key, selected.client⟩

/-- The removal before it, unless the error forbids it. -/
def Progress.removal (progress : Progress) : List (Action Reply) :=
  if uncoverError progress.err then [.remove progress.key progress.client] else []

/-- The loop of `Failtry` and `Failover`. `keeps` tells whether the error of an
attempt is assigned to the variable tested behind the attempt, or shadows it. -/
def retry (keeps : Bool) (reselect : Bytes → Round Reply → Selected) (rounds : Nat → Round Reply) :
    Nat → Nat → Progress → Outcome Reply
  | 0, _, progress => ⟨none, if progress.err.isNone then progress.e else progress.err, []⟩
  | remaining + 1, index, progress =>
    let round := rounds index
    let selected := reselect progress.key round
    match progress.client with
    | none =>
      (retry keeps reselect rounds remaining (index + 1) (progress.advance selected)).after progress.removal
    | some client =>
      let attempt := .attempt (some client) (some round.reply) round.err
      if settles round.err then
        ⟨if round.err.isNone then some round.reply else none, round.err, [attempt]⟩
      else
        let progress := { progress with err := if keeps then round.err else progress.err }
        (retry keeps reselect rounds remaining (index + 1) (progress.advance selected)).after
          (attempt :: progress.removal)

/-- A success is the success of an attempt, and the reply is that attempt's. -/
def SoundSuccess (hasReply : Bool) (outcome : Outcome Reply) : Prop :=
  outcome.err = none → ∃ client reply, .attempt (some client) (some reply) none ∈ outcome.trace ∧
    (hasReply = true → outcome.reply = some reply)

theorem soundSuccess_of_err {outcome : Outcome Reply} (failed : outcome.err ≠ none) (hasReply : Bool) :
    SoundSuccess hasReply outcome := fun succeeded => absurd succeeded failed

theorem SoundSuccess.after {outcome : Outcome Reply} (sound : SoundSuccess hasReply outcome)
    (actions : List (Action Reply)) : SoundSuccess hasReply (outcome.after actions) := by
  intro succeeded
  obtain ⟨client, reply, member, stored⟩ := sound succeeded
  exact ⟨client, reply, List.mem_append_right actions member, stored⟩

/-- The loop that keeps the errors of its attempts is sound as soon as it has an
error to return, or makes a first attempt. -/
theorem soundSuccess_retry (reselect : Bytes → Round Reply → Selected) (rounds : Nat → Round Reply)
    (hasReply : Bool) (count index : Nat) (progress : Progress)
    (ready : progress.err ≠ none ∨ 0 < count ∧ progress.client ≠ none) :
    SoundSuccess hasReply (retry true reselect rounds count index progress) := by
  induction count generalizing index progress with
  | zero =>
    have failed := ready.resolve_right (by simp)
    refine soundSuccess_of_err ?_ hasReply
    simp [retry, failed]
  | succ count ih =>
    unfold retry
    dsimp only
    split
    case h_1 missing =>
      have failed := ready.resolve_right (by simp [missing])
      refine (ih _ _ (.inl ?_)).after _
      exact failed
    case h_2 client found =>
      split
      case isTrue settled =>
        intro succeeded
        dsimp only at succeeded
        exact ⟨client, (rounds index).reply, by simp [succeeded], by simp [succeeded]⟩
      case isFalse unsettled =>
        refine (ih _ _ (.inl ?_)).after _
        intro isNil
        have isNil : (rounds index).err = none := isNil
        simp [settles, isNil] at unsettled

/-- The number of rounds `for retries >= 0 { retries-- … }` makes. -/
def roundsOf (retries : Int) : Nat := (retries + 1).toNat

end Irpc.XClient
