import Irpc.Protocol.Message

/-! Handlers that take requests before the services do. They are found in one table, under
the path and the method joined by a dot. -/
namespace Irpc.Server

open Irpc.Foundation Irpc.Protocol

variable {Handler : Type}

abbrev Router (Handler : Type) := AList fun _ : Bytes => Handler

def routerKey (servicePath serviceMethod : Bytes) : Bytes := servicePath ++ utf8 "." ++ serviceMethod

def addHandler (router : Router Handler) (servicePath serviceMethod : Bytes) (handler : Handler) : Router Handler :=
  router.insert (routerKey servicePath serviceMethod) handler

structure HandlerEntry (Handler : Type) where
  servicePath : Bytes
  serviceMethod : Bytes
  handler : Handler

/-- The table after such calls, from the first to the last. -/
def Router.ofRegistrations (registrations : List (HandlerEntry Handler)) : Router Handler :=
  registrations.foldl (fun router call => addHandler router call.servicePath call.serviceMethod call.handler) ∅

/-- Who answers a request in the goroutine that `serveConn` starts for it. -/
inductive Route (Handler : Type) where
  | heartbeat
  | handler (handler : Handler)
  | service
  deriving DecidableEq

def dispatch (router : Router Handler) (req : Message) : Route Handler :=
  if req.header.isHeartbeat then .heartbeat
  else
    match router.lookup (routerKey req.servicePath req.serviceMethod) with
    | some handler => .handler handler
    | none => .service

namespace HandlerEntry

def key (call : HandlerEntry Handler) : Bytes := routerKey call.servicePath call.serviceMethod

/-- The registration is for the very pair the request names. -/
def IsFor (call : HandlerEntry Handler) (req : Message) : Prop :=
  call.servicePath = req.servicePath ∧ call.serviceMethod = req.serviceMethod

instance (call : HandlerEntry Handler) (req : Message) : Decidable (call.IsFor req) :=
  inferInstanceAs (Decidable (_ ∧ _))

end HandlerEntry

def latest (registrations : List (HandlerEntry Handler)) (req : Message) : Option (HandlerEntry Handler) :=
  registrations.reverse.find? fun call => call.IsFor req

/-- The last registration the table cannot tell from one for the pair of the request. -/
def latestAlike (registrations : List (HandlerEntry Handler)) (req : Message) : Option (HandlerEntry Handler) :=
  registrations.reverse.find? fun call => call.key = routerKey req.servicePath req.serviceMethod

section Dispatch

variable {registrations : List (HandlerEntry Handler)} {req : Message}

theorem HandlerEntry.IsFor.key_eq {call : HandlerEntry Handler} (isFor : call.IsFor req) :
    call.key = routerKey req.servicePath req.serviceMethod := by
  rw [HandlerEntry.key, isFor.1, isFor.2]

/-- One more registration replaces what is stored under its key, and nothing else. -/
theorem lookup_ofRegistrations (registrations : List (HandlerEntry Handler)) (key : Bytes) :
    (Router.ofRegistrations registrations).lookup key =
      (registrations.reverse.find? fun call => call.key = key).map HandlerEntry.handler := by
  induction registrations using List.reverseRecOn with
  | nil => rfl
  | append_singleton earlier call ih =>
    rw [Router.ofRegistrations, List.foldl_concat, ← Router.ofRegistrations, List.reverse_concat, List.find?_cons]
    by_cases same : call.key = key
    · subst same
      simp only [decide_true, Option.map_some]
      exact AList.lookup_insert _
    · simp only [same, decide_false]
      rw [← ih]
      exact AList.lookup_insert_ne (Ne.symm same)

theorem dispatch_eq_handler_iff (handler : Handler) :
    dispatch (Router.ofRegistrations registrations) req = .handler handler ↔
      req.header.isHeartbeat = false ∧ (latestAlike registrations req).map HandlerEntry.handler = some handler := by
  unfold dispatch latestAlike
  rw [lookup_ofRegistrations]
  split
  case isTrue heartbeat => simp [heartbeat]
  case isFalse call =>
    simp only [call, true_and]
    cases (registrations.reverse.find? _).map HandlerEntry.handler <;> simp

/-- Where a pair is registered, the table knows a registration that looks like it. -/
theorem latestAlike_of_latest {call : HandlerEntry Handler} (found : latest registrations req = some call) :
    latestAlike registrations req ≠ none := by
  intro missing
  have isFor := List.find?_some found
  have member := List.mem_of_find?_eq_some found
  have unlike := List.find?_eq_none.mp missing call member
  exact unlike (decide_eq_true (of_decide_eq_true isFor).key_eq)

/-- If the last one that looks alike is for the pair itself, it is the last one for the pair. -/
theorem latest_of_latestAlike {call : HandlerEntry Handler} (found : latestAlike registrations req = some call)
    (isFor : call.IsFor req) : latest registrations req = some call := by
  unfold latestAlike at found
  unfold latest
  obtain ⟨alike, before, after, split, unlike⟩ := List.find?_eq_some_iff_append.mp found
  refine List.find?_eq_some_iff_append.mpr ⟨decide_eq_true isFor, before, after, split, fun other member => ?_⟩
  have different := unlike other member
  simp only [Bool.not_eq_eq_eq_not, Bool.not_true, decide_eq_false_iff_not] at different ⊢
  exact fun other => different other.key_eq

/-- The handler that is run is the one last registered for the very pair. -/
def DispatchesExactly (registrations : List (HandlerEntry Handler)) (req : Message) : Prop :=
  ∀ handler, dispatch (Router.ofRegistrations registrations) req = .handler handler ↔
    (latest registrations req).map HandlerEntry.handler = some handler

/-- The table finds the handler of the last registration for the pair exactly if the last
registration that looks like one for the pair is one, or has the handler of that one. -/
theorem handler_latestAlike_iff : (latestAlike registrations req).map HandlerEntry.handler =
      (latest registrations req).map HandlerEntry.handler ↔
    ∀ call, latestAlike registrations req = some call → call.IsFor req ∨
      (latest registrations req).map HandlerEntry.handler = some call.handler := by
  constructor
  · intro same call alike
    rw [alike] at same
    exact .inr same.symm
  · intro tells
    cases alike : latestAlike registrations req with
    | none =>
      cases found : latest registrations req with
      | none => rfl
      | some call => exact absurd alike (latestAlike_of_latest found)
    | some call =>
      rcases tells call alike with isFor | same
      · rw [latest_of_latestAlike alike isFor]
      · exact same.symm

theorem dispatchesExactly_of_call (call : req.header.isHeartbeat = false) :
    DispatchesExactly registrations req ↔ (latestAlike registrations req).map HandlerEntry.handler =
      (latest registrations req).map HandlerEntry.handler := by
  unfold DispatchesExactly
  simp only [dispatch_eq_handler_iff, call, true_and]
  exact ⟨Option.ext, fun same handler => by rw [same]⟩

/-- For a heartbeat no handler is run. Another request is dispatched exactly if its pair is
not mistaken for another one. -/
theorem dispatches_exactly_iff (registrations : List (HandlerEntry Handler)) (req : Message) :
    DispatchesExactly registrations req ↔
      if req.header.isHeartbeat then latest registrations req = none
      else ∀ call, latestAlike registrations req = some call → call.IsFor req ∨
        (latest registrations req).map HandlerEntry.handler = some call.handler := by
  split
  case isTrue heartbeat =>
    unfold DispatchesExactly
    simp only [dispatch_eq_handler_iff, heartbeat, Bool.true_eq_false, false_and, false_iff]
    cases latest registrations req <;> simp
  case isFalse call => rw [dispatchesExactly_of_call (by simpa using call), handler_latestAlike_iff]

theorem dispatch_confuses_pairs :
    let registrations : List (HandlerEntry Nat) :=
      [⟨utf8 "a", utf8 "b.c", 1⟩, ⟨utf8 "a.b", utf8 "c", 2⟩]
    let req := { Message.newMessage with servicePath := utf8 "a", serviceMethod := utf8 "b.c" }
    dispatch (Router.ofRegistrations registrations) req = .handler 2 ∧
      (latest registrations req).map HandlerEntry.handler = some 1 ∧ ¬ DispatchesExactly registrations req := by
  refine ⟨by decide, by decide, fun exactly => ?_⟩
  have wrong := (exactly 2).mp (by decide)
  revert wrong
  decide

/-- Methods without a dot keep the keys of different pairs apart. -/
theorem routerKey_inj {path method otherPath otherMethod : Bytes} (plain : 46 ∉ method)
    (otherPlain : 46 ∉ otherMethod) (same : routerKey path method = routerKey otherPath otherMethod) :
    path = otherPath ∧ method = otherMethod := by
  have dot : utf8 "." = [46] := by decide
  simp only [routerKey, dot, List.append_assoc, List.singleton_append] at same
  rcases List.append_eq_append_iff.mp same with ⟨rest, rfl, tail⟩ | ⟨rest, rfl, tail⟩
  all_goals
    cases rest with
    | nil =>
      obtain ⟨-, rfl⟩ := List.cons.inj tail
      simp
    | cons byte rest =>
      obtain ⟨-, rfl⟩ := List.cons.inj tail
      simp at plain otherPlain

/-- Where no method has a dot, every request but a heartbeat is dispatched exactly. -/
theorem dispatchesExactly_of_plain (plain : ∀ call ∈ registrations, 46 ∉ call.serviceMethod)
    (named : 46 ∉ req.serviceMethod) (call : req.header.isHeartbeat = false) :
    DispatchesExactly registrations req := by
  rw [dispatchesExactly_of_call call, handler_latestAlike_iff]
  intro found alike
  have member := List.mem_reverse.mp (List.mem_of_find?_eq_some alike)
  have same := List.find?_some alike
  exact .inl (routerKey_inj (plain found member) named (of_decide_eq_true same))

end Dispatch

end Irpc.Server
