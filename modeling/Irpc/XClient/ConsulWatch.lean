import Irpc.XClient.ConsulDiscovery

/-! The goroutine of a `ConsulDiscovery`: it watches the store, and starts again when the
watch breaks off or cannot be set up. -/
namespace Irpc.XClient

open Irpc.Foundation

/-- How far `watch` has come. At the end the store is closed. -/
inductive Watching where
  /-- It is about to read the number of retries. -/
  | restarting
  /-- It comes to the condition of the inner loop with so many retries left, when it has slept
  for so many seconds. `failed` tells whether `err` is set. -/
  | checking (retry : Int) (delay : Nat) (failed : Bool)
  | connecting (retry : Int) (delay : Nat)
  /-- There is no channel to read from if the inner loop was left before its first round. -/
  | reading (watches : Bool)
  /-- It has seen that `stopCh` is closed. -/
  | stopped
  | gaveUp
  deriving DecidableEq

structure ConsulDiscovery where
  basePath : Bytes
  retriesAfterWatchFailed : Int
  filter : Option (KVPair → Bool)
  pairs : List KVPair
  /-- The channels of the watchers, by number. -/
  chans : List Nat
  /-- The goroutines that send the pairs to a channel, the last one first. -/
  sends : List (Nat × List KVPair)
  watching : Watching
  closed : Bool
  /-- How often `WatchTree` has failed in a row. -/
  failures : Nat

namespace ConsulDiscovery

/-- `NewConsulDiscoveryStore`, with a path that has no slash in front or at the end. -/
def new (path : Bytes) (listing : List KVPair) : ConsulDiscovery where
  basePath := path
  retriesAfterWatchFailed := -1
  filter := none
  pairs := pairsBelow path none listing
  chans := []
  sends := []
  watching := .restarting
  closed := false
  failures := 0

inductive Event where
  | setFilter (filter : Option (KVPair → Bool))
  /-- The field is assigned, which only works on a discovery that watches already. -/
  | assign (retriesAfterWatchFailed : Int)
  /-- `ch` is the new channel. -/
  | watchService (ch : Nat)
  | removeWatcher (ch : Nat)
  | close
  /-- `retry := d.RetriesAfterWatchFailed`. -/
  | restart
  /-- The condition of the inner loop. -/
  | check
  /-- `WatchTree` returns. -/
  | watchTree (err : Option GoError)
  /-- A snapshot of the pairs arrives, or nil. -/
  | snapshot (listing : Option (List KVPair))
  | chanClosed
  | noticeClose

def nextDelay (delay : Nat) : Nat := min 30 (if delay = 0 then 1 else 2 * delay)

def watchFailed (discovery : ConsulDiscovery) (retry : Int) (delay : Nat) : ConsulDiscovery :=
  { discovery with
    failures := discovery.failures + 1
    watching := .checking (if 0 < discovery.retriesAfterWatchFailed then retry - 1 else retry) (nextDelay delay) true }

/-- Watchers hear of a snapshot, but not of nil. -/
def install (discovery : ConsulDiscovery) : Option (List KVPair) → ConsulDiscovery
  | none => { discovery with pairs := [] }
  | some listing =>
    let pairs := pairsBelow discovery.basePath discovery.filter listing
    { discovery with pairs := pairs, sends := discovery.chans.map (·, pairs) ++ discovery.sends }

def step (discovery : ConsulDiscovery) : Event → Option ConsulDiscovery
  | .setFilter filter => some { discovery with filter := filter }
  | .assign retries => some { discovery with retriesAfterWatchFailed := retries }
  | .watchService ch =>
    if ch ∈ discovery.chans ∨ ch ∈ discovery.sends.map Prod.fst then none
    else some { discovery with chans := discovery.chans ++ [ch] }
  | .removeWatcher ch => some { discovery with chans := discovery.chans.filter (· ≠ ch) }
  | .close => if discovery.closed then none else some { discovery with closed := true }
  | .restart =>
    if discovery.watching = .restarting then
      some { discovery with watching := .checking discovery.retriesAfterWatchFailed 0 false }
    else none
  | .check =>
    match discovery.watching with
    | .checking retry delay failed =>
      some { discovery with
        watching := if discovery.retriesAfterWatchFailed < 0 ∨ 0 ≤ retry then .connecting retry delay
          else if failed then .gaveUp else .reading false }
    | _ => none
  | .watchTree err =>
    match discovery.watching, err with
    | .connecting retry delay, some _ => some (discovery.watchFailed retry delay)
    | .connecting _ _, none => some { discovery with watching := .reading true, failures := 0 }
    | _, _ => none
  | .snapshot listing => if discovery.watching = .reading true then some (discovery.install listing) else none
  | .chanClosed =>
    if discovery.watching = .reading true then some { discovery with watching := .restarting } else none
  | .noticeClose =>
    match discovery.watching with
    | .reading _ => if discovery.closed then some { discovery with watching := .stopped } else none
    | _ => none

def system (path : Bytes) : System ConsulDiscovery Event where
  initial discovery := ∃ listing, discovery = new path listing
  step := step

/-- What was slept after so many failures in a row. -/
def delayAfter : Nat → Nat
  | 0 => 0
  | failures + 1 => min 30 (2 ^ failures)

theorem nextDelay_delayAfter (failures : Nat) : nextDelay (delayAfter failures) = delayAfter (failures + 1) := by
  cases failures with
  | zero => rfl
  | succ failures =>
    have positive := Nat.two_pow_pos failures
    have slept : delayAfter (failures + 1) = min 30 (2 ^ failures) := rfl
    have more : delayAfter (failures + 1) ≠ 0 := by omega
    rw [nextDelay, if_neg more, delayAfter, delayAfter, Nat.pow_succ]
    omega

def retryAfter (retries : Int) (failures : Nat) : Int := if 0 < retries then retries - failures else retries

/-- The number of retries is assigned only while the changes are read. -/
def AssignsReading (discovery : ConsulDiscovery) : Event → Prop
  | .assign _ => discovery.watching = .reading true
  | _ => True

/-- How the phases of the goroutine stand to the failures it has counted. -/
def Paced (retries : Int) (failures : Nat) : Watching → Prop
  | .restarting => failures = 0
  | .checking retry delay failed => retry = retryAfter retries failures ∧ delay = delayAfter failures ∧
      (failed = true ↔ 0 < failures) ∧ (0 < retries → failures ≤ retries + 1)
  | .connecting retry delay => retry = retryAfter retries failures ∧ delay = delayAfter failures ∧
      (0 < retries → failures ≤ retries)
  | .reading watches => watches = true ∧ failures = 0
  | .stopped => True
  | .gaveUp => 0 < retries ∧ failures = retries + 1

structure Counted (discovery : ConsulDiscovery) : Prop where
  paced : Paced discovery.retriesAfterWatchFailed discovery.failures discovery.watching
  stopped : discovery.watching = .stopped → discovery.closed = true

variable {discovery next : ConsulDiscovery} {event : Event}

theorem Counted.keep (counted : Counted discovery)
    (configured : next.retriesAfterWatchFailed = discovery.retriesAfterWatchFailed)
    (watching : next.watching = discovery.watching) (failures : next.failures = discovery.failures)
    (closed : discovery.closed = true → next.closed = true) : Counted next := by
  constructor
  · rw [configured, watching, failures]
    exact counted.paced
  · rw [watching]
    exact fun stopped => closed (counted.stopped stopped)

theorem Paced.check {retries retry : Int} {failures delay : Nat} {failed : Bool}
    (paced : Paced retries failures (.checking retry delay failed)) :
    Paced retries failures (if retries < 0 ∨ 0 ≤ retry then .connecting retry delay
      else if failed then .gaveUp else .reading false) := by
  obtain ⟨left, slept, failing, bound⟩ := paced
  have remaining : 0 < retries → retry = retries - failures := fun positive => by
    rw [left, retryAfter, if_pos positive]
  have refused : ¬ 0 < retries → retry = retries := fun negative => by
    rw [left, retryAfter, if_neg negative]
  split
  case isTrue more =>
    refine ⟨left, slept, fun positive => ?_⟩
    have rest := remaining positive
    omega
  case isFalse spent =>
    have positive : 0 < retries := by
      by_contra negative
      have same := refused negative
      omega
    have rest := remaining positive
    have before := bound positive
    have some_failed : failed = true := failing.mpr (by omega)
    rw [if_pos some_failed]
    refine ⟨positive, ?_⟩
    omega

theorem Paced.watchFailed {retries retry : Int} {failures delay : Nat}
    (paced : Paced retries failures (.connecting retry delay)) :
    Paced retries (failures + 1) (.checking (if 0 < retries then retry - 1 else retry) (nextDelay delay) true) := by
  obtain ⟨rfl, rfl, bound⟩ := paced
  refine ⟨?_, nextDelay_delayAfter failures, by simp, fun positive => ?_⟩
  · unfold retryAfter
    split
    · push_cast
      omega
    · rfl
  · have before := bound positive
    push_cast
    omega

theorem Counted.step (counted : Counted discovery) (assigns : AssignsReading discovery event)
    (moved : discovery.step event = some next) : Counted next := by
  have paced := counted.paced
  cases event with
  | setFilter filter =>
    cases moved
    exact counted.keep rfl rfl rfl id
  | assign retries =>
    cases moved
    have reading : discovery.watching = .reading true := assigns
    constructor
    · dsimp only
      rw [reading] at paced ⊢
      exact paced
    · exact counted.stopped
  | watchService ch =>
    obtain ⟨-, same⟩ := Option.ite_none_left_eq_some.mp moved
    cases same
    exact counted.keep rfl rfl rfl id
  | removeWatcher ch =>
    cases moved
    exact counted.keep rfl rfl rfl id
  | close =>
    obtain ⟨-, same⟩ := Option.ite_none_left_eq_some.mp moved
    cases same
    exact counted.keep rfl rfl rfl fun _ => rfl
  | restart =>
    obtain ⟨phase, same⟩ := Option.ite_none_right_eq_some.mp moved
    cases same
    rw [phase] at paced
    have none_failed : discovery.failures = 0 := paced
    refine ⟨?_, nofun⟩
    dsimp only [Paced]
    rw [none_failed]
    refine ⟨?_, rfl, by simp, fun positive => ?_⟩
    · unfold retryAfter
      split <;> simp
    · push_cast
      omega
  | check =>
    dsimp only [ConsulDiscovery.step] at moved
    split at moved
    case h_1 retry delay failed phase =>
      cases moved
      rw [phase] at paced
      refine ⟨paced.check, ?_⟩
      dsimp only
      split
      · nofun
      · split <;> nofun
    case h_2 => cases moved
  | watchTree err =>
    dsimp only [ConsulDiscovery.step] at moved
    split at moved
    case h_1 retry delay failed phase =>
      cases moved
      rw [phase] at paced
      exact ⟨paced.watchFailed, nofun⟩
    · cases moved
      exact ⟨⟨rfl, rfl⟩, nofun⟩
    · cases moved
  | snapshot listing =>
    obtain ⟨reading, same⟩ := Option.ite_none_right_eq_some.mp moved
    cases same
    cases listing with
    | none => exact counted.keep rfl rfl rfl id
    | some listing => exact counted.keep rfl rfl rfl id
  | chanClosed =>
    obtain ⟨phase, same⟩ := Option.ite_none_right_eq_some.mp moved
    cases same
    rw [phase] at paced
    exact ⟨paced.2, nofun⟩
  | noticeClose =>
    dsimp only [ConsulDiscovery.step] at moved
    split at moved
    · obtain ⟨closed, same⟩ := Option.ite_none_right_eq_some.mp moved
      cases same
      exact ⟨trivial, fun _ => closed⟩
    · cases moved

theorem counted_of_reached (reached : (system path).Reached AssignsReading discovery) : Counted discovery := by
  refine reached.invariant ?_ fun discovery event next counted assigns moved => counted.step assigns moved
  rintro _ ⟨listing, rfl⟩
  exact ⟨rfl, nofun⟩

/-- As long as the number of retries is assigned only while the changes are read, the goroutine
ends only if it sees that the discovery was closed, or when `WatchTree` has failed once more
often than it may be retried. With no retries, as with a negative number, it never gives up.
Between two attempts it sleeps a second, then twice as long each time, and never longer than
half a minute. A number that is assigned during such a sleep in place of a negative one makes
it give up at once. -/
theorem watch_gives_up_only_after_retries (reached : (system path).Reached AssignsReading discovery) :
    (discovery.watching = .stopped → discovery.closed = true) ∧
    (discovery.watching = .gaveUp → 0 < discovery.retriesAfterWatchFailed ∧
      discovery.failures = discovery.retriesAfterWatchFailed + 1) ∧
    (discovery.retriesAfterWatchFailed ≤ 0 → discovery.watching ≠ .gaveUp) ∧
    (∀ retry delay, discovery.watching = .connecting retry delay → delay = delayAfter discovery.failures) ∧
    ∀ retry delay retries, discovery.watching = .checking retry delay true →
      discovery.retriesAfterWatchFailed < 0 → 0 ≤ retries →
        ∃ ended, (system path).play discovery [.assign retries, .check] = some ended ∧ ended.watching = .gaveUp := by
  have counted := counted_of_reached reached
  have paced := counted.paced
  refine ⟨counted.stopped, ?_, ?_, ?_, ?_⟩
  · intro ended
    rw [ended] at paced
    exact paced
  · intro none ended
    rw [ended] at paced
    exact absurd paced.1 (not_lt.mpr none)
  · intro retry delay phase
    rw [phase] at paced
    exact paced.2.1
  · intro retry delay retries phase negative natural
    rw [phase] at paced
    have left : retry < 0 := by
      rw [paced.1, retryAfter, if_neg (by omega)]
      exact negative
    have spent : ¬ (retries < 0 ∨ 0 ≤ retry) := by omega
    refine ⟨{ discovery with retriesAfterWatchFailed := retries, watching := .gaveUp }, ?_, rfl⟩
    simp [System.play, system, ConsulDiscovery.step, phase, spent]

/-- The first attempt succeeds, and one retry is granted. -/
def granted : ConsulDiscovery :=
  { new (utf8 "irpc/Arith") [] with watching := .reading true, retriesAfterWatchFailed := 1 }

theorem watch_gives_up_after_second_failure :
    ∃ discovery : ConsulDiscovery, discovery.watching = .gaveUp ∧
      discovery.failures = discovery.retriesAfterWatchFailed + 1 ∧ discovery.retriesAfterWatchFailed = 1 := by
  have start : (system (utf8 "irpc/Arith")).Reached AssignsReading (new (utf8 "irpc/Arith") []) := .start ⟨[], rfl⟩
  have watches : (system (utf8 "irpc/Arith")).play (new (utf8 "irpc/Arith") [])
      [.restart, .check, .watchTree none] = some _ := rfl
  have reading := start.playAll watches (by simp [AssignsReading])
  have assigned : (system (utf8 "irpc/Arith")).Reached AssignsReading granted := reading.step (.assign 1) rfl rfl
  have fails : (system (utf8 "irpc/Arith")).play granted [.chanClosed, .restart, .check,
      .watchTree (some .canceled), .check, .watchTree (some .canceled), .check] = some _ := rfl
  have failed := assigned.playAll fails (by simp [AssignsReading])
  exact ⟨_, rfl, ((watch_gives_up_only_after_retries failed).2.1 rfl).2, rfl⟩

section Watchers

/-- What is sent last to a watcher are the pairs the discovery has. -/
def Told (discovery : ConsulDiscovery) : Prop :=
  ∀ ch ∈ discovery.chans, ∀ pairs, discovery.sends.lookup ch = some pairs → pairs = discovery.pairs

theorem lookup_sends (chans : List Nat) (pairs : List KVPair) (sends : List (Nat × List KVPair)) (member : ch ∈ chans) :
    (chans.map (·, pairs) ++ sends).lookup ch = some pairs := by
  induction chans with
  | nil => cases member
  | cons first rest ih =>
    rw [List.map_cons, List.cons_append, List.lookup_cons]
    by_cases same : ch = first
    · simp [same]
    · have apart : (ch == first) = false := by simpa using same
      rw [apart]
      exact ih ((List.mem_cons.mp member).resolve_left same)

theorem Told.step (told : Told discovery) (answers : event ≠ .snapshot none)
    (moved : discovery.step event = some next) : Told next := by
  cases event with
  | watchService ch =>
    obtain ⟨fresh, same⟩ := Option.ite_none_left_eq_some.mp moved
    cases same
    intro other member pairs sent
    rcases List.mem_append.mp member with before | added
    · exact told other before pairs sent
    · cases List.mem_singleton.mp added
      have unsent : (discovery.sends.lookup ch) = none := by
        rw [List.lookup_eq_none_iff]
        intro entry listed
        have apart : ch ≠ entry.1 := by
          rintro rfl
          exact fresh (.inr (List.mem_map_of_mem listed))
        simpa using apart
      cases unsent.symm.trans sent
  | removeWatcher ch =>
    cases moved
    intro other member
    exact told other (List.mem_of_mem_filter member)
  | snapshot listing =>
    obtain ⟨-, same⟩ := Option.ite_none_right_eq_some.mp moved
    cases same
    cases listing with
    | none => exact absurd rfl answers
    | some listing =>
      intro ch member pairs sent
      have last := lookup_sends discovery.chans (pairsBelow discovery.basePath discovery.filter listing)
        discovery.sends member
      exact Option.some.inj (sent.symm.trans last)
  | setFilter filter =>
    cases moved
    exact told
  | assign retries =>
    cases moved
    exact told
  | close =>
    obtain ⟨-, same⟩ := Option.ite_none_left_eq_some.mp moved
    cases same
    exact told
  | restart =>
    obtain ⟨-, same⟩ := Option.ite_none_right_eq_some.mp moved
    cases same
    exact told
  | check =>
    dsimp only [ConsulDiscovery.step] at moved
    split at moved
    · cases moved
      exact told
    · cases moved
  | watchTree err =>
    dsimp only [ConsulDiscovery.step] at moved
    split at moved
    · cases moved
      exact told
    · cases moved
      exact told
    · cases moved
  | chanClosed =>
    obtain ⟨-, same⟩ := Option.ite_none_right_eq_some.mp moved
    cases same
    exact told
  | noticeClose =>
    dsimp only [ConsulDiscovery.step] at moved
    split at moved
    · obtain ⟨-, same⟩ := Option.ite_none_right_eq_some.mp moved
      cases same
      exact told
    · cases moved

/-- Unless the store answers nil, every watcher has last been sent what `GetServices` returns,
whatever filters were set and whichever watchers came and went. -/
theorem told_of_reached (reached : (system path).Reached (fun _ event => event ≠ .snapshot none) discovery) :
    Told discovery := by
  refine reached.invariant ?_ fun discovery event next told answers moved => told.step answers moved
  rintro _ ⟨listing, rfl⟩
  nofun

/-- An answer of nil leaves the watchers with what they had. -/
theorem not_told_of_nil {pair : KVPair} {others : List KVPair} (reading : discovery.watching = .reading true)
    (watched : ch ∈ discovery.chans) (sent : discovery.sends.lookup ch = some (pair :: others)) :
    ∃ next, discovery.step (.snapshot none) = some next ∧ ¬ Told next := by
  refine ⟨discovery.install none, if_pos reading, fun told => ?_⟩
  cases told ch watched _ sent

end Watchers

end ConsulDiscovery

end Irpc.XClient
