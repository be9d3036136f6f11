import Mathlib

/-! Systems that move by events. Every choice of the environment (a schedule,
a network outcome, a buffer taken from a pool) is part of the event, so a step
is a partial function of the state and the event. -/
namespace Irpc.Foundation

universe u v

/-- `step` has no result for an event that is not enabled in a state. -/
structure System (State : Type u) (Event : Type v) where
  initial : State → Prop
  step : State → Event → Option State

namespace System

variable {State : Type u} {Event : Type v} (system : System State Event)

/-- States reached by a run in which every step meets `allowed` in the state
it starts from. -/
inductive Reached (allowed : State → Event → Prop) : State → Prop where
  | start (first : system.initial state) : Reached allowed state
  | step (earlier : Reached allowed state) (event : Event) (meets : allowed state event)
      (moved : system.step state event = some next) : Reached allowed next

def Reachable : State → Prop := system.Reached fun _ _ => True

variable {system} {allowed : State → Event → Prop}

/-- What holds initially and survives each allowed step holds in every state
of every allowed run. -/
theorem Reached.invariant {holds : State → Prop} (reached : system.Reached allowed state)
    (first : ∀ state, system.initial state → holds state)
    (keep : ∀ state event next, holds state → allowed state event →
      system.step state event = some next → holds next) : holds state := by
  induction reached with
  | start initial => exact first _ initial
  | step _ event meets moved ih => exact keep _ event _ ih meets moved

theorem Reached.mono {weaker : State → Event → Prop} (reached : system.Reached allowed state)
    (weakens : ∀ state event, allowed state event → weaker state event) : system.Reached weaker state := by
  induction reached with
  | start first => exact .start first
  | step _ event meets moved ih => exact ih.step event (weakens _ event meets) moved

/-- Play a list of events, stopping without a result at a disabled one. -/
def play (system : System State Event) : State → List Event → Option State
  | state, [] => some state
  | state, event :: rest => (system.step state event).bind fun next => play system next rest

theorem Reachable.play (reachable : system.Reachable state)
    (played : system.play state events = some final) : system.Reachable final := by
  induction events generalizing state with
  | nil =>
    cases played
    exact reachable
  | cons event rest ih =>
    obtain ⟨next, moved, remaining⟩ := Option.bind_eq_some_iff.mp played
    exact ih (.step reachable event trivial moved) remaining

/-- Play a list of events that all meet a condition. -/
def playWithin (system : System State Event) (allowed : State → Event → Prop)
    [∀ state event, Decidable (allowed state event)] : State → List Event → Option State
  | state, [] => some state
  | state, event :: rest =>
    if allowed state event then (system.step state event).bind fun next => playWithin system allowed next rest else none

theorem Reached.playWithin [∀ state event, Decidable (allowed state event)] (reached : system.Reached allowed state)
    (played : system.playWithin allowed state events = some final) : system.Reached allowed final := by
  induction events generalizing state with
  | nil =>
    cases played
    exact reached
  | cons event rest ih =>
    obtain ⟨meets, moves⟩ := Option.ite_none_right_eq_some.mp played
    obtain ⟨next, moved, remaining⟩ := Option.bind_eq_some_iff.mp moves
    exact ih (.step reached event meets moved) remaining

/-- Play a list of events that meet a condition in every state. -/
theorem Reached.playAll (reached : system.Reached allowed state) (played : system.play state events = some final)
    (all : ∀ event ∈ events, ∀ state, allowed state event) : system.Reached allowed final := by
  induction events generalizing state with
  | nil =>
    cases played
    exact reached
  | cons event rest ih =>
    obtain ⟨next, moved, remaining⟩ := Option.bind_eq_some_iff.mp played
    obtain ⟨meets, later⟩ := List.forall_mem_cons.mp all
    exact ih (reached.step event (meets state) moved) remaining later

end System

/-! Many parties are kept in a list, and a step changes one of them. -/

theorem forall_mem_set {holds : α → Prop} {items : List α} (all : ∀ item ∈ items, holds item) (new : holds item)
    (index : Nat) : ∀ other ∈ items.set index item, holds other := by
  intro other member
  rcases List.mem_or_eq_of_mem_set member with old | same
  · exact all other old
  · rw [same]
    exact new

theorem map_set_of_eq {items : List α} {measure : α → β} (found : items[index]? = some old)
    (same : measure new = measure old) : (items.set index new).map measure = items.map measure := by
  induction items generalizing index with
  | nil => cases found
  | cons first rest ih =>
    cases index with
    | zero =>
      cases found
      simp [same]
    | succ index => simpa using ih found

theorem sum_map_set {items : List α} {measure : α → Nat} (found : items[index]? = some old) (new : α) :
    ((items.set index new).map measure).sum + measure old = (items.map measure).sum + measure new := by
  induction items generalizing index with
  | nil => cases found
  | cons first rest ih =>
    cases index with
    | zero =>
      cases found
      simp only [List.set_cons_zero, List.map_cons, List.sum_cons]
      omega
    | succ index =>
      have later := ih found
      simp only [List.set_cons_succ, List.map_cons, List.sum_cons]
      omega

theorem sum_map_set_lt {items : List α} {measure : α → Nat} (found : items[index]? = some old)
    (less : measure new < measure old) :
    ((items.set index new).map measure).sum < (items.map measure).sum := by
  have sums : ((items.set index new).map measure).sum + measure old = (items.map measure).sum + measure new :=
    sum_map_set found new
  omega

end Irpc.Foundation
