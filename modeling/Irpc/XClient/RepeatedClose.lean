import Irpc.XClient.BoundedRetry

/-! `Call` with the clients that it closes. A `*Client` that is closing or shut down must not be
closed: its `Close` unlocks the mutex twice, and the process ends, for which `none` stands. The
clients of a cache client builder may be closed any number of times. -/
namespace Irpc.XClient.WithClose

open Irpc.Foundation

variable {Reply : Type}

/-- `standard` tells whether the client is a `*Client`, `closed` whether it is closing or shut
down. -/
def close (standard closed : Bool) : Option Unit := if standard && closed then none else some ()

/-- What `removeClient` meets: whether the cache holds the client, and whether the client is
closing or shut down. -/
structure Removal where
  cached : Bool
  closed : Bool

def removeClient (standard : Bool) (removal : Removal) : Option Nat → Option Unit
  | none => some ()
  | some _ => do
    if removal.cached then
      -- `deleteCachedClient` closes the client too.
      close standard removal.closed
    close standard (removal.cached || removal.closed)

def getCachedClient (standard : Bool) (lookup : Lookup) : Option (Option Nat × Option GoError) :=
  if lookup.isShutdown then some (none, some errXClientClosed)
  else if !lookup.breakerReady then some (none, some errBreakerOpen)
  else
    match lookup.found with
    | some cached =>
      if !cached.closing && !cached.shutdown then some (some cached.client, none)
      else do
        close standard (cached.closing || cached.shutdown)
        return lookAgain lookup
    | none => some (lookAgain lookup)

def selectClient (standard : Bool) (key : Bytes) (lookup : Lookup) : Option Selected :=
  if key = [] then some ⟨[], none, some errXClientNoServer⟩
  else do
    let (client, err) ← getCachedClient standard lookup
    return ⟨key, client, err⟩

def reselectSame (standard : Bool) (key : Bytes) (round : Round Reply) : Option Selected := do
  let (client, err) ← getCachedClient standard round.lookup
  return ⟨key, client, err⟩

def reselectOther (standard : Bool) (_ : Bytes) (round : Round Reply) : Option Selected :=
  selectClient standard round.key round.lookup

/-- The loop of `Failtry` and `Failover`, with what the removal of each round meets. -/
def retry (standard : Bool) (reselect : Bytes → Round Reply → Option Selected) (rounds : Nat → Round Reply)
    (removals : Nat → Removal) : Nat → Nat → Progress → Option (Outcome Reply)
  | 0, _, progress => some ⟨none, if progress.err.isNone then progress.e else progress.err, []⟩
  | remaining + 1, index, progress =>
    let round := rounds index
    match progress.client with
    | none => do
      let selected ← reselect progress.key round
      let outcome ← retry standard reselect rounds removals remaining (index + 1) (progress.advance selected)
      return outcome.after progress.removal
    | some client =>
      let attempt := .attempt (some client) (some round.reply) round.err
      if settles round.err then
        some ⟨if round.err.isNone then some round.reply else none, round.err, [attempt]⟩
      else do
        -- The error is uncoverable.
        let progress := { progress with err := round.err }
        removeClient standard (removals index) (some client)
        let selected ← reselect progress.key round
        let outcome ← retry standard reselect rounds removals remaining (index + 1) (progress.advance selected)
        return outcome.after (attempt :: progress.removal)

def go (standard : Bool) (run : GoRun Reply) : Option (Option Nat × Option GoError) :=
  if run.isShutdown then some (none, some errXClientShutdown)
  else do
    let selected ← selectClient standard run.key run.lookup
    return if selected.err.isSome then (none, selected.err) else (selected.client, none)

/-- `Failbackup`, which returns what it returns with clients that may be closed again. -/
def callBackup (standard : Bool) (removal : Removal) (key : Bytes) (client : Option Nat) (backup : Backup Reply) :
    Option (Outcome Reply) := do
  let (client1, _) ← go standard backup.first
  match backup.firstWait, client1 with
  | .cancelled _, _ => return XClient.callBackup key client backup
  | .reply, some _ => return XClient.callBackup key client backup
  | _, _ =>
    let (_, err2) ← go standard backup.second
    if err2.isSome && uncoverError err2 then
      removeClient standard removal client
    return XClient.callBackup key client backup

/-- `removals` is what `removeClient` meets in each round, or the only time. -/
def call (standard : Bool) (mode : FailMode) (retries : Int) (run : CallRun Reply) (removals : Nat → Removal) :
    Option (Outcome Reply) :=
  if run.isShutdown then some ⟨none, some errXClientShutdown, []⟩
  else do
    let selected ← selectClient standard run.key run.lookup
    let start : Progress := ⟨selected.err, none, selected.key, selected.client⟩
    if selected.err.isSome && (mode == .failfast || contextCanceled selected.err) then
      return ⟨none, selected.err, []⟩
    else
      match mode with
      | .failtry => retry standard (reselectSame standard) run.rounds removals (roundsOf retries) 0 start
      | .failover => retry standard (reselectOther standard) run.rounds removals (roundsOf retries) 0 start
      | .failbackup => callBackup standard (removals 0) selected.key selected.client run.backup
      | .failfast =>
        let (reply, err) := wrapCall selected.client (run.rounds 0)
        if err.isSome && uncoverError err then
          removeClient standard (removals 0) selected.client
        return { reply := if err.isNone then reply else none
                 err := err
                 trace := .attempt selected.client reply err ::
                   if err.isSome && uncoverError err then [.remove selected.key selected.client] else [] }

section Fatal

/-- The cache holds a client for the server that is closing or shut down, and it is closed. -/
def findsDead (standard : Bool) (lookup : Lookup) : Bool :=
  standard && !lookup.isShutdown && lookup.breakerReady &&
    lookup.found.any fun cached => cached.closing || cached.shutdown

/-- The client is closed twice, or once when it is closed already. -/
def removesDead (standard : Bool) (removal : Removal) : Bool := standard && (removal.cached || removal.closed)

theorem removeClient_some (standard : Bool) (removal : Removal) (client : Nat) :
    removeClient standard removal (some client) = if removesDead standard removal then none else some () := by
  obtain ⟨cached, closed⟩ := removal
  cases standard <;> cases cached <;> cases closed <;> rfl

/-- Getting a client ends the process just when it finds one that is dead. -/
theorem getCachedClient_eq (standard : Bool) (lookup : Lookup) :
    getCachedClient standard lookup =
      if findsDead standard lookup then none else some (XClient.getCachedClient lookup) := by
  obtain ⟨isShutdown, breakerReady, found, again, connect⟩ := lookup
  unfold getCachedClient XClient.getCachedClient findsDead
  cases isShutdown with
  | true => simp
  | false =>
    cases breakerReady with
    | false => simp
    | true =>
      cases found with
      | none => simp
      | some cached =>
        obtain ⟨client, closing, shutdown⟩ := cached
        cases standard <;> cases closing <;> cases shutdown <;> rfl

/-- A selection finds a dead client, if there is a server to select. -/
def selectsDead (standard : Bool) (key : Bytes) (lookup : Lookup) : Bool := !key.isEmpty && findsDead standard lookup

theorem selectClient_eq (standard : Bool) (key : Bytes) (lookup : Lookup) :
    selectClient standard key lookup =
      if selectsDead standard key lookup then none else some (XClient.selectClient key lookup) := by
  unfold selectClient XClient.selectClient selectsDead
  cases key with
  | nil => rfl
  | cons first rest =>
    rw [getCachedClient_eq]
    cases findsDead standard lookup <;> simp

end Fatal

section Loop

variable (standard : Bool) (rounds : Nat → Round Reply) (removals : Nat → Removal)

/-- The rounds of the loop, each with the variables it starts with. -/
def made (reselect : Bytes → Round Reply → Selected) : Nat → Nat → Progress → List (Nat × Progress)
  | 0, _, _ => []
  | remaining + 1, index, progress =>
    let round := rounds index
    let selected := reselect progress.key round
    (index, progress) ::
      match progress.client with
      | none => made reselect remaining (index + 1) (progress.advance selected)
      | some _ =>
        if settles round.err then []
        else made reselect remaining (index + 1) ({ progress with err := round.err }.advance selected)

/-- The process ends in a round: its attempt fails and the client is closed too often, or its
selection finds a dead client. -/
def fatal (selectsDead : Round Reply → Bool) (round : Nat × Progress) : Bool :=
  match round.2.client with
  | none => selectsDead (rounds round.1)
  | some _ => !settles (rounds round.1).err && (removesDead standard (removals round.1) || selectsDead (rounds round.1))

/-- The loop comes to its end just when none of its rounds is fatal. -/
theorem retry_eq {reselect : Bytes → Round Reply → Option Selected} {plain : Bytes → Round Reply → Selected}
    {selectsDead : Round Reply → Bool}
    (selects : ∀ key round, reselect key round = if selectsDead round then none else some (plain key round))
    (count index : Nat) (progress : Progress) :
    retry standard reselect rounds removals count index progress =
      if (made rounds plain count index progress).any (fatal standard rounds removals selectsDead) then none
      else some (XClient.retry true plain rounds count index progress) := by
  induction count generalizing index progress with
  | zero => rfl
  | succ count ih =>
    rw [retry, made, XClient.retry]
    dsimp only
    rw [List.any_cons, fatal]
    dsimp only
    cases progress.client with
    | none =>
      dsimp only
      rw [selects]
      cases selectsDead (rounds index) with
      | true => rfl
      | false =>
        simp only [Bool.false_eq_true, if_false, Option.bind_eq_bind, Option.bind_some, Bool.false_or]
        rw [ih]
        split <;> rfl
    | some client =>
      dsimp only
      cases settles (rounds index).err with
      | true => rfl
      | false =>
        simp only [Bool.false_eq_true, if_false, Bool.not_false, Bool.true_and]
        rw [removeClient_some, selects]
        cases removesDead standard (removals index) with
        | true => rfl
        | false =>
          cases selectsDead (rounds index) with
          | true => rfl
          | false =>
            simp only [Bool.false_eq_true, if_false, Option.bind_eq_bind, Option.bind_some, Bool.false_or]
            rw [ih]
            split <;> rfl

end Loop

section Call

def madeBy (mode : FailMode) (retries : Int) (run : CallRun Reply) : List (Nat × Progress) :=
  let selected := XClient.selectClient run.key run.lookup
  let start : Progress := ⟨selected.err, none, selected.key, selected.client⟩
  match mode with
  | .failtry => made run.rounds XClient.reselectSame (roundsOf retries) 0 start
  | .failover => made run.rounds XClient.reselectOther (roundsOf retries) 0 start
  | _ => []

def reselectsDead (standard : Bool) (mode : FailMode) (round : Round Reply) : Bool :=
  match mode with
  | .failtry => findsDead standard round.lookup
  | _ => selectsDead standard round.key round.lookup

/-- The process ends during a `Call` that retries: the first selection finds a dead client, or a
round of the loop is fatal. -/
def Dies (standard : Bool) (mode : FailMode) (retries : Int) (run : CallRun Reply) (removals : Nat → Removal) : Prop :=
  run.isShutdown = false ∧
    (selectsDead standard run.key run.lookup = true ∨
      contextCanceled (XClient.selectClient run.key run.lookup).err = false ∧
        ∃ round ∈ madeBy mode retries run,
          fatal standard run.rounds removals (reselectsDead standard mode) round = true)

theorem reselectSame_eq (standard : Bool) (key : Bytes) (round : Round Reply) :
    reselectSame standard key round =
      if reselectsDead standard .failtry round then none else some (XClient.reselectSame key round) := by
  unfold reselectSame reselectsDead
  rw [getCachedClient_eq]
  cases findsDead standard round.lookup <;> rfl

theorem reselectOther_eq (standard : Bool) (key : Bytes) (round : Round Reply) :
    reselectOther standard key round =
      if reselectsDead standard .failover round then none else some (XClient.reselectOther key round) :=
  selectClient_eq standard round.key round.lookup

theorem eq_of_survived {Result : Type} {dies : Bool} {plain result : Result}
    (returned : (if dies then none else some plain) = some result) : result = plain := by
  obtain ⟨_, same⟩ := Option.ite_none_left_eq_some.mp returned
  exact (Option.some.inj same).symm

theorem callBackup_eq_some {standard : Bool} {removal : Removal} {key : Bytes} {client : Option Nat}
    {backup : Backup Reply} (returned : callBackup standard removal key client backup = some outcome) :
    outcome = XClient.callBackup key client backup := by
  unfold callBackup at returned
  obtain ⟨first, _, returned⟩ := Option.bind_eq_some_iff.mp returned
  dsimp only at returned
  split at returned
  · exact (Option.some.inj returned).symm
  · exact (Option.some.inj returned).symm
  · obtain ⟨second, _, returned⟩ := Option.bind_eq_some_iff.mp returned
    split at returned
    · obtain ⟨_, _, returned⟩ := Option.bind_eq_some_iff.mp returned
      exact (Option.some.inj returned).symm
    · exact (Option.some.inj returned).symm

/-- A `Call` that returns does so with what it would return if clients could be closed again. -/
theorem call_eq_some {standard : Bool} {mode : FailMode} {retries : Int} {run : CallRun Reply}
    {removals : Nat → Removal} (returned : call standard mode retries run removals = some outcome) :
    outcome = XClient.call mode retries run := by
  unfold call at returned
  unfold XClient.call
  cases shutdown : run.isShutdown with
  | true =>
    rw [shutdown] at returned
    exact (Option.some.inj returned).symm
  | false =>
    simp only [shutdown, Bool.false_eq_true, if_false] at returned ⊢
    rw [selectClient_eq] at returned
    obtain ⟨selected, chosen, returned⟩ := Option.bind_eq_some_iff.mp returned
    cases eq_of_survived chosen
    split at returned
    case isTrue early =>
      rw [if_pos early]
      exact (Option.some.inj returned).symm
    case isFalse goes =>
      rw [if_neg goes]
      cases mode with
      | failtry =>
        dsimp only at returned ⊢
        rw [retry_eq standard run.rounds removals (reselectSame_eq standard)] at returned
        exact eq_of_survived returned
      | failover =>
        dsimp only at returned ⊢
        rw [retry_eq standard run.rounds removals (reselectOther_eq standard)] at returned
        exact eq_of_survived returned
      | failbackup => exact callBackup_eq_some returned
      | failfast =>
        dsimp only at returned ⊢
        split at returned
        case isTrue removes =>
          rw [if_pos removes]
          obtain ⟨_, _, returned⟩ := Option.bind_eq_some_iff.mp returned
          exact (Option.some.inj returned).symm
        case isFalse keeps =>
          rw [if_neg keeps]
          exact (Option.some.inj returned).symm

theorem removeClient_closable (removal : Removal) (client : Option Nat) :
    removeClient false removal client = some () := by
  cases client with
  | none => rfl
  | some client => exact removeClient_some false removal client

theorem selectClient_closable (key : Bytes) (lookup : Lookup) :
    selectClient false key lookup = some (XClient.selectClient key lookup) := by
  rw [selectClient_eq]
  simp [selectsDead, findsDead]

theorem go_closable (run : GoRun Reply) : go false run = some (XClient.go run) := by
  unfold go XClient.go
  rw [selectClient_closable]
  split <;> rfl

theorem any_fatal_closable (rounds : Nat → Round Reply) (removals : Nat → Removal) (mode : FailMode)
    (made : List (Nat × Progress)) : made.any (fatal false rounds removals (reselectsDead false mode)) = false := by
  have spares : ∀ round : Round Reply, reselectsDead false mode round = false := by
    intro round
    cases mode <;> simp [reselectsDead, selectsDead, findsDead]
  rw [List.any_eq_false]
  intro round _
  unfold fatal
  split <;> simp [spares, removesDead]

theorem callBackup_closable (removal : Removal) (key : Bytes) (client : Option Nat) (backup : Backup Reply) :
    callBackup false removal key client backup = some (XClient.callBackup key client backup) := by
  unfold callBackup
  simp only [go_closable, removeClient_closable, Option.bind_eq_bind, Option.bind_some]
  split
  · rfl
  · rfl
  · split <;> rfl

/-- With clients that may be closed again `Call` always returns. -/
theorem call_closable (mode : FailMode) (retries : Int) (run : CallRun Reply) (removals : Nat → Removal) :
    call false mode retries run removals = some (XClient.call mode retries run) := by
  unfold call XClient.call
  rw [selectClient_closable]
  simp only [Option.bind_eq_bind, Option.bind_some]
  split
  · rfl
  · split
    · rfl
    · cases mode with
      | failtry =>
        dsimp only
        rw [retry_eq false run.rounds removals (reselectSame_eq false), any_fatal_closable]
        rfl
      | failover =>
        dsimp only
        rw [retry_eq false run.rounds removals (reselectOther_eq false), any_fatal_closable]
        rfl
      | failbackup => exact callBackup_closable _ _ _ _
      | failfast =>
        dsimp only
        rw [removeClient_closable]
        split <;> rfl

/-- A `Call` that retries does not return just when the process ends. -/
theorem call_eq_none_iff {mode : FailMode} (retrying : mode = .failtry ∨ mode = .failover) (standard : Bool)
    (retries : Int) (run : CallRun Reply) (removals : Nat → Removal) :
    call standard mode retries run removals = none ↔ Dies standard mode retries run removals := by
  unfold call Dies
  cases run.isShutdown with
  | true => simp
  | false =>
    simp only [Bool.false_eq_true, if_false, true_and]
    rw [selectClient_eq]
    cases selectsDead standard run.key run.lookup with
    | true => simp
    | false =>
      simp only [Bool.false_eq_true, if_false, Option.bind_eq_bind, Option.bind_some, false_or]
      cases canceled : contextCanceled (XClient.selectClient run.key run.lookup).err with
      | true =>
        have failed : (XClient.selectClient run.key run.lookup).err.isSome = true := by
          cases err : (XClient.selectClient run.key run.lookup).err with
          | none =>
            rw [err] at canceled
            cases canceled
          | some _ => rfl
        simp [failed]
      | false =>
        rcases retrying with rfl | rfl
        · have goes : (FailMode.failtry == FailMode.failfast) = false := rfl
          simp only [goes, Bool.or_self, Bool.and_false, Bool.false_eq_true, if_false, true_and]
          rw [retry_eq standard run.rounds removals (reselectSame_eq standard), ← List.any_eq_true]
          simp [madeBy]
        · have goes : (FailMode.failover == FailMode.failfast) = false := rfl
          simp only [goes, Bool.or_self, Bool.and_false, Bool.false_eq_true, if_false, true_and]
          rw [retry_eq standard run.rounds removals (reselectOther_eq standard), ← List.any_eq_true]
          simp [madeBy]

/-- A `Call` that retries comes to its end just when the process does not end on the way, and
then it has kept to the bounds of the loop. -/
theorem call_bounded_iff_survives {mode : FailMode} (retrying : mode = .failtry ∨ mode = .failover) {retries : Int}
    (natural : 0 ≤ retries) (standard : Bool) (run : CallRun Reply) (removals : Nat → Removal) :
    (∃ outcome, call standard mode retries run removals = some outcome ∧
        Bounded (retries + 1) (sentBy mode retries run) outcome.err ∧
        attempts outcome.trace = (sentBy mode retries run).map (fun attempt => (attempt.client, attempt.err)) ∧
        (mode = .failtry → ∀ attempt ∈ sentBy mode retries run,
          attempt.key = (XClient.selectClient run.key run.lookup).key)) ↔
      ¬ Dies standard mode retries run removals := by
  rw [← call_eq_none_iff retrying]
  constructor
  · rintro ⟨outcome, returned, -⟩ died
    rw [died] at returned
    cases returned
  · intro survives
    obtain ⟨outcome, returned⟩ := Option.ne_none_iff_exists'.mp survives
    refine ⟨outcome, returned, ?_⟩
    rw [call_eq_some returned]
    exact call_bounded retrying natural run

def refusedOnce : CallRun Nat := { sampleRun with lookup := refusedLookup }

theorem call_survives_refusal :
    (sentBy .failtry 2 refusedOnce).map Sent.key = [utf8 "tcp@a:1"] ∧
      ∃ outcome, call true .failtry 2 refusedOnce (fun _ => ⟨true, false⟩) = some outcome ∧
        Bounded 3 (sentBy .failtry 2 refusedOnce) outcome.err := by
  have survives : ¬ Dies true .failtry 2 refusedOnce (fun _ => ⟨true, false⟩) := by
    rw [← call_eq_none_iff (.inl rfl)]
    exact Option.some_ne_none _
  obtain ⟨outcome, returned, bounded, -⟩ :=
    (call_bounded_iff_survives (.inl rfl) (Int.natCast_nonneg 2) true _ _).mpr survives
  exact ⟨rfl, outcome, returned, bounded⟩

/-- The first attempt fails, and the server can be reached again for the second one. -/
def flakyRun : CallRun Nat :=
  { sampleRun with
    rounds := fun index =>
      ⟨7, if index = 0 then some errServerUnavailable else none, utf8 "tcp@b:1", cachedLookup⟩ }

/-- The client of the failed attempt is in the cache, and `removeClient` closes it twice. With a
client that may be closed again there is a second attempt. -/
theorem call_dies :
    call true .failtry 2 flakyRun (fun _ => ⟨true, false⟩) = none ∧
      call true .failover 2 flakyRun (fun _ => ⟨true, false⟩) = none ∧
      call false .failtry 2 flakyRun (fun _ => ⟨true, false⟩) = some (XClient.call .failtry 2 flakyRun) ∧
      (XClient.call .failtry 2 flakyRun).err = none :=
  ⟨rfl, rfl, rfl, rfl⟩

end Call

end Irpc.XClient.WithClose
