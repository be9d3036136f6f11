import Irpc.Foundation.Bytes
import Irpc.Foundation.System

/-! The clients an `xClient` keeps, one for each server. `getCachedClient` looks a client
up, connects to the server and stores the new client in three sections that hold the
mutex, between which others can take it. No `CacheClientBuilder` is registered. -/
namespace Irpc.XClient

open Irpc.Foundation

/-- A client that `generateClient` has produced. It is closed by `Close`, or by its own
goroutine when the connection is lost. -/
structure Produced where
  key : Bytes
  closed : Bool

inductive Getting where
  /-- It has seen that the `xClient` is not closed. -/
  | entered (key : Bytes)
  /-- It has found no client that can be used. -/
  | missed (key : Bytes)
  | generated (key : Bytes) (client : Nat)
  deriving DecidableEq

structure ClientCache where
  /-- All clients ever produced. A client is known by its place. -/
  clients : List Produced
  cachedClient : Bytes → Option Nat
  isShutdown : Bool
  /-- The calls of `getCachedClient` in progress. -/
  calls : List Getting

namespace ClientCache

def new : ClientCache := ⟨[], fun _ => none, false, []⟩

inductive Event where
  | enter (key : Bytes)
  /-- The section that looks for a client. -/
  | lookup (key : Bytes)
  /-- The section that connects to the server. The group shares no result, since the
  mutex is held. -/
  | generate (key : Bytes) (connected : Bool)
  /-- The section that stores the client. -/
  | store (key : Bytes) (client : Nat)
  /-- The section of `removeClient`, which closes the client once more afterwards. -/
  | remove (key : Bytes) (client : Nat)
  | closeClient (client : Nat)
  | lose (client : Nat)
  | close

def isClosed (cache : ClientCache) (client : Nat) : Bool := cache.clients[client]?.all Produced.closed

/-- Closing a client again changes nothing here. -/
def closeClient (cache : ClientCache) (client : Nat) : ClientCache :=
  { cache with clients := cache.clients.modify client fun produced => { produced with closed := true } }

def delete (cache : ClientCache) (key : Bytes) : ClientCache :=
  { cache with cachedClient := Function.update cache.cachedClient key none }

/-- `Close` of the `xClient`. A client is stored under its own key. -/
def close (cache : ClientCache) : ClientCache :=
  { cache with
    clients := cache.clients.mapIdx fun client produced =>
      if cache.cachedClient produced.key = some client then { produced with closed := true } else produced
    cachedClient := fun _ => none
    isShutdown := true }

def advance (cache : ClientCache) (call : Getting) (next : List Getting) : ClientCache :=
  { cache with calls := next ++ cache.calls.erase call }

/-- A client that is found closed is deleted, and then none is found. -/
def lookup (cache : ClientCache) (key : Bytes) : ClientCache :=
  match cache.cachedClient key with
  | some client =>
    if cache.isClosed client then ((cache.closeClient client).delete key).advance (.entered key) [.missed key]
    else cache.advance (.entered key) []
  | none => cache.advance (.entered key) [.missed key]

def generate (cache : ClientCache) (key : Bytes) (connected : Bool) : ClientCache :=
  if connected then
    { cache.advance (.missed key) [.generated key cache.clients.length] with
      clients := cache.clients ++ [⟨key, false⟩] }
  else cache.advance (.missed key) []

def store (cache : ClientCache) (key : Bytes) (client : Nat) : ClientCache :=
  { cache.advance (.generated key client) [] with
    cachedClient := Function.update cache.cachedClient key (some client) }

def remove (cache : ClientCache) (key : Bytes) (client : Nat) : ClientCache :=
  if cache.cachedClient key = some client then (cache.closeClient client).delete key else cache

def step (cache : ClientCache) : Event → Option ClientCache
  | .enter key => if cache.isShutdown then none else some { cache with calls := .entered key :: cache.calls }
  | .lookup key => if .entered key ∈ cache.calls then some (cache.lookup key) else none
  | .generate key connected => if .missed key ∈ cache.calls then some (cache.generate key connected) else none
  | .store key client => if .generated key client ∈ cache.calls then some (cache.store key client) else none
  | .remove key client => some (cache.remove key client)
  | .closeClient client => some (cache.closeClient client)
  | .lose client => some (cache.closeClient client)
  | .close => some cache.close

def system : System ClientCache Event where
  initial cache := cache = new
  step := step

/-- Every client that was produced is closed or in the cache, and after `Close` the cache
is empty and all are closed. -/
structure NoLeak (cache : ClientCache) : Prop where
  kept : ∀ client produced, cache.clients[client]? = some produced →
    produced.closed = true ∨ cache.cachedClient produced.key = some client
  emptied : cache.isShutdown = true → (∀ key, cache.cachedClient key = none) ∧
    ∀ produced ∈ cache.clients, produced.closed = true

/-- A client is stored while the `xClient` is not closed, and not in place of one that is
open. -/
def StoresAlone (cache : ClientCache) : Event → Prop
  | .store key _ => cache.isShutdown = false ∧
      ∀ other, cache.cachedClient key = some other → cache.isClosed other = true
  | _ => True

/-- Each client is closed, in the cache, or about to be stored. -/
structure Tracked (cache : ClientCache) : Prop where
  owned : ∀ client produced, cache.clients[client]? = some produced → produced.closed = true ∨
    cache.cachedClient produced.key = some client ∨ .generated produced.key client ∈ cache.calls
  emptied : cache.isShutdown = true → ∀ key, cache.cachedClient key = none

variable {cache : ClientCache} {key : Bytes} {client : Nat}

theorem Tracked.noLeak (tracked : cache.Tracked) (idle : cache.calls = []) : cache.NoLeak := by
  have kept : ∀ client produced, cache.clients[client]? = some produced →
      produced.closed = true ∨ cache.cachedClient produced.key = some client := by
    intro client produced found
    refine (tracked.owned client produced found).imp_right ?_
    intro held
    refine held.resolve_right ?_
    rw [idle]
    exact List.not_mem_nil
  refine ⟨kept, fun shutdown => ⟨tracked.emptied shutdown, ?_⟩⟩
  intro produced member
  obtain ⟨client, found⟩ := List.getElem?_of_mem member
  refine (kept client produced found).resolve_right ?_
  rw [tracked.emptied shutdown]
  exact nofun

theorem getElem?_closeClient {produced : Produced} (other : Nat)
    (found : (cache.closeClient other).clients[client]? = some produced) :
    ∃ earlier, cache.clients[client]? = some earlier ∧ earlier.key = produced.key ∧
      (earlier.closed = true ∨ client = other → produced.closed = true) := by
  simp only [closeClient, List.getElem?_modify] at found
  obtain ⟨earlier, before, rfl⟩ := Option.map_eq_some_iff.mp found
  refine ⟨earlier, before, ?_, ?_⟩
  · split <;> rfl
  · by_cases same : other = client
    · simp [same]
    · simp [same, Ne.symm same]

theorem Tracked.closeClient (tracked : cache.Tracked) (client : Nat) : (cache.closeClient client).Tracked := by
  refine ⟨?_, tracked.emptied⟩
  intro other produced found
  obtain ⟨earlier, before, same, closed⟩ := getElem?_closeClient client found
  rcases tracked.owned other earlier before with done | held
  · exact .inl (closed (.inl done))
  · rw [same] at held
    exact .inr held

theorem Tracked.delete (tracked : cache.Tracked)
    (closed : ∀ client, cache.cachedClient key = some client → cache.isClosed client = true) :
    (cache.delete key).Tracked := by
  refine ⟨?_, ?_⟩
  · intro client produced found
    by_cases here : produced.key = key
    · rcases tracked.owned client produced found with done | stored | waiting
      · exact .inl done
      · have shut := closed client (here ▸ stored)
        rw [isClosed, show cache.clients[client]? = some produced from found] at shut
        exact .inl shut
      · exact .inr (.inr waiting)
    · have other : (cache.delete key).cachedClient produced.key = cache.cachedClient produced.key :=
        Function.update_of_ne here ..
      rw [other]
      exact tracked.owned client produced found
  · intro shutdown other
    by_cases here : other = key
    · subst here
      exact Function.update_self ..
    · exact (Function.update_of_ne here ..).trans (tracked.emptied shutdown other)

theorem Tracked.advance (tracked : cache.Tracked) {call : Getting} {next : List Getting}
    (before : ∀ key client, call ≠ .generated key client) (after : ∀ key client, .generated key client ∉ next) :
    (cache.advance call next).Tracked := by
  have same (key : Bytes) (client : Nat) : .generated key client ∈ (cache.advance call next).calls ↔
      .generated key client ∈ cache.calls := by
    rw [ClientCache.advance, List.mem_append, or_iff_right (after key client)]
    exact List.mem_erase_of_ne (before key client).symm
  refine ⟨?_, tracked.emptied⟩
  intro client produced found
  rw [same]
  exact tracked.owned client produced found

theorem isClosed_closeClient (cache : ClientCache) (client : Nat) :
    (cache.closeClient client).isClosed client = true := by
  cases found : cache.clients[client]? <;> simp [isClosed, closeClient, found]

theorem Tracked.remove (tracked : cache.Tracked) (stored : cache.cachedClient key = some client) :
    ((cache.closeClient client).delete key).Tracked := by
  refine (tracked.closeClient client).delete ?_
  intro other found
  have same : some client = some other := stored.symm.trans found
  cases same
  exact isClosed_closeClient cache client

theorem Tracked.lookup (tracked : cache.Tracked) (key : Bytes) : (cache.lookup key).Tracked := by
  unfold ClientCache.lookup
  split
  case h_1 client stored =>
    split
    · exact (tracked.remove stored).advance nofun (by simp)
    · exact tracked.advance nofun (by simp)
  case h_2 => exact tracked.advance nofun (by simp)

theorem Tracked.generate (tracked : cache.Tracked) (key : Bytes) (connected : Bool) :
    (cache.generate key connected).Tracked := by
  unfold ClientCache.generate
  split
  · refine ⟨?_, tracked.emptied⟩
    intro client produced found
    rcases Nat.lt_or_ge client cache.clients.length with earlier | later
    · rw [List.getElem?_append_left earlier] at found
      refine (tracked.owned client produced found).imp_right (Or.imp_right ?_)
      intro waiting
      have other : Getting.generated produced.key client ≠ .missed key := nofun
      exact List.mem_cons_of_mem _ ((List.mem_erase_of_ne other).mpr waiting)
    · -- The new client comes last, and the call that has produced it holds it.
      rw [List.getElem?_append_right later] at found
      obtain ⟨last, rfl⟩ : client - cache.clients.length = 0 ∧ ⟨key, false⟩ = produced := by
        simpa [List.getElem?_singleton] using found
      have last : client = cache.clients.length := by omega
      subst last
      exact .inr (.inr List.mem_cons_self)
  · exact tracked.advance nofun (by simp)

theorem Tracked.store (tracked : cache.Tracked) (alone : StoresAlone cache (.store key client)) :
    (cache.store key client).Tracked := by
  refine ⟨?_, ?_⟩
  · intro other produced found
    rcases tracked.owned other produced found with done | stored | held
    · exact .inl done
    · by_cases here : produced.key = key
      · have shut := alone.2 other (here ▸ stored)
        rw [isClosed, show cache.clients[other]? = some produced from found] at shut
        exact .inl shut
      · exact .inr (.inl ((Function.update_of_ne here ..).trans stored))
    · by_cases same : Getting.generated produced.key other = .generated key client
      · cases same
        exact .inr (.inl (Function.update_self ..))
      · exact .inr (.inr ((List.mem_erase_of_ne same).mpr held))
  · intro shutdown
    have opened : cache.isShutdown = false := alone.1
    rw [show cache.isShutdown = true from shutdown] at opened
    cases opened

theorem Tracked.close (tracked : cache.Tracked) : cache.close.Tracked := by
  refine ⟨?_, fun _ _ => rfl⟩
  intro client produced found
  simp only [ClientCache.close, List.getElem?_mapIdx] at found
  obtain ⟨earlier, before, rfl⟩ := Option.map_eq_some_iff.mp found
  split
  · exact .inl rfl
  case isFalse absent =>
    rcases tracked.owned client earlier before with done | stored | held
    · exact .inl done
    · exact absurd stored absent
    · exact .inr (.inr held)

theorem Tracked.step {event : Event} {after : ClientCache} (tracked : cache.Tracked)
    (alone : StoresAlone cache event) (moved : cache.step event = some after) : after.Tracked := by
  cases event with
  | enter key =>
    obtain ⟨_, ⟨⟩⟩ := Option.ite_none_left_eq_some.mp moved
    refine ⟨?_, tracked.emptied⟩
    intro client produced found
    exact (tracked.owned client produced found).imp_right (Or.imp_right (List.mem_cons_of_mem _))
  | lookup key =>
    obtain ⟨_, ⟨⟩⟩ := Option.ite_none_right_eq_some.mp moved
    exact tracked.lookup key
  | generate key connected =>
    obtain ⟨_, ⟨⟩⟩ := Option.ite_none_right_eq_some.mp moved
    exact tracked.generate key connected
  | store key client =>
    obtain ⟨_, ⟨⟩⟩ := Option.ite_none_right_eq_some.mp moved
    exact tracked.store alone
  | remove key client =>
    cases moved
    unfold ClientCache.remove
    split
    case isTrue stored => exact tracked.remove stored
    case isFalse => exact tracked
  | closeClient client =>
    cases moved
    exact tracked.closeClient client
  | lose client =>
    cases moved
    exact tracked.closeClient client
  | close =>
    cases moved
    exact tracked.close

/-- In a run in which each client is stored while the `xClient` is not closed, and not in
place of an open one, no client is leaked whenever no call is in progress. -/
theorem noLeak_of_reached (reached : system.Reached StoresAlone cache) (idle : cache.calls = []) :
    cache.NoLeak := by
  refine Tracked.noLeak (reached.invariant ?_ ?_) idle
  · rintro _ rfl
    exact ⟨nofun, nofun⟩
  · intro cache event after tracked alone moved
    exact tracked.step alone moved

theorem noLeak_of_reached_call : ∃ cache, system.Reached StoresAlone cache ∧ cache.calls = [] ∧
    cache.clients.length = 1 ∧ cache.isShutdown = true ∧ cache.NoLeak := by
  have start : system.Reached StoresAlone new := .start rfl
  have entered := start.step (.enter (utf8 "tcp@a")) trivial rfl
  have missed := entered.step (.lookup (utf8 "tcp@a")) trivial rfl
  have generated := missed.step (.generate (utf8 "tcp@a") true) trivial rfl
  have stored := generated.step (.store (utf8 "tcp@a") 0) ⟨rfl, nofun⟩ rfl
  have closed := stored.step .close trivial rfl
  exact ⟨_, closed, rfl, rfl, rfl, noLeak_of_reached closed rfl⟩

/-- Two calls that both miss the client of a server both connect, and the second one
takes the place of the first. -/
def twoCalls : List Event :=
  [.enter (utf8 "tcp@a"), .enter (utf8 "tcp@a"), .lookup (utf8 "tcp@a"), .lookup (utf8 "tcp@a"),
    .generate (utf8 "tcp@a") true, .generate (utf8 "tcp@a") true, .store (utf8 "tcp@a") 0, .store (utf8 "tcp@a") 1]

/-- A call stores its client when the `xClient` was closed. -/
def lateCall : List Event :=
  [.enter (utf8 "tcp@a"), .lookup (utf8 "tcp@a"), .generate (utf8 "tcp@a") true, .close, .store (utf8 "tcp@a") 0]

theorem clients_leak :
    (∃ cache, system.play new twoCalls = some cache ∧ cache.calls = [] ∧ ¬ cache.NoLeak) ∧
    ∃ cache, system.play new lateCall = some cache ∧ cache.calls = [] ∧ cache.isShutdown = true ∧ ¬ cache.NoLeak := by
  refine ⟨⟨_, rfl, rfl, ?_⟩, ⟨_, rfl, rfl, rfl, ?_⟩⟩
  · intro noLeak
    rcases noLeak.kept 0 ⟨utf8 "tcp@a", false⟩ rfl with closed | stored
    · cases closed
    · cases stored
  · intro noLeak
    cases (noLeak.emptied rfl).1 (utf8 "tcp@a")

end ClientCache

end Irpc.XClient
