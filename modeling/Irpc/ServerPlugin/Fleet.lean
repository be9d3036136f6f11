import Irpc.ServerPlugin.Register

/-! The registry plugins of several servers, which share a base path and the store below
it. -/
namespace Irpc.ServerPlugin

open Irpc.Foundation

namespace RegisterPlugin

variable {plugin : RegisterPlugin} {state after : State} {event : Event} {allowed : Bytes → Prop}

def callerNames : Caller → List Bytes
  | .registering name _ _ | .unregistering name _ => [name]
  | .stopping pending => pending
  | .deleting name pending => name :: pending
  | .free | .awaiting | .returning _ _ => []

structure Named (allowed : Bytes → Prop) (state : State) : Prop where
  services : ∀ name ∈ state.services, allowed name
  caller : ∀ name ∈ callerNames state.caller, allowed name
  ticker : ∀ name ∈ state.ticker.names, allowed name

/-- Services are registered and unregistered under such names. -/
def Names (allowed : Bytes → Prop) : Event → Prop
  | .call (.register name _) | .call (.unregister name) => allowed name
  | _ => True

/-- What a plugin writes to the store: the base path, the directory of a service, and the
node of the server in it, which it also deletes. -/
inductive Access (plugin : RegisterPlugin) (allowed : Bytes → Prop) : Bytes → Option Bytes → Prop where
  | base : Access plugin allowed plugin.basePath (some (utf8 "irpc_path"))
  | dir (names : allowed name) : Access plugin allowed (plugin.dirPath name) (some name)
  | node (names : allowed name) (value : Option Bytes) : Access plugin allowed (plugin.nodePath name) value

/-- What a step does to the store. -/
inductive Effect (plugin : RegisterPlugin) (allowed : Bytes → Prop) (store : Bytes → Option Bytes) :
    (Bytes → Option Bytes) → Prop where
  | none : Effect plugin allowed store store
  | access (path : Bytes) (value : Option Bytes) (accesses : Access plugin allowed path value) :
      Effect plugin allowed store (Function.update store path value)

theorem named_start (store : Bytes → Option Bytes) : Named allowed (plugin.start store) where
  services := List.forall_mem_nil _
  caller := List.forall_mem_nil _
  ticker := by
    unfold start
    dsimp only
    split <;> exact List.forall_mem_nil _

theorem Named.go (named : Named allowed state) {caller : Caller}
    (names : ∀ name ∈ callerNames caller, allowed name) : Named allowed { state with caller := caller } :=
  ⟨named.services, names, named.ticker⟩

theorem Named.begin (named : Named allowed state) (names : Names allowed (.call call)) :
    Named allowed (plugin.begin state call) ∧ (plugin.begin state call).store = state.store := by
  cases call with
  | register name metadata =>
    dsimp only [RegisterPlugin.begin]
    split
    · exact ⟨named.go (List.forall_mem_nil _), rfl⟩
    · exact ⟨⟨named.services, List.forall_mem_singleton.mpr names, named.ticker⟩, rfl⟩
  | unregister name =>
    dsimp only [RegisterPlugin.begin]
    split
    · exact ⟨named.go (List.forall_mem_nil _), rfl⟩
    · split
      · exact ⟨named.go (List.forall_mem_nil _), rfl⟩
      · exact ⟨named.go (List.forall_mem_singleton.mpr names), rfl⟩
  | stop => exact ⟨named.go named.services, rfl⟩

theorem Named.register (named : Named allowed state) (phase : state.caller = .registering name metadata next)
    (moved : plugin.register state name metadata next = some after) :
    Named allowed after ∧ Effect plugin allowed state.store after.store := by
  have names : allowed name := named.caller name (by simp [phase, callerNames])
  have single : ∀ other ∈ [name], allowed other := List.forall_mem_singleton.mpr names
  cases next with
  | putBase =>
    cases moved
    exact ⟨⟨named.services, single, named.ticker⟩, .access _ _ .base⟩
  | putDir =>
    cases moved
    exact ⟨⟨named.services, single, named.ticker⟩, .access _ _ (.dir names)⟩
  | deleteFirst =>
    cases moved
    exact ⟨⟨named.services, single, named.ticker⟩, .access _ _ (.node names none)⟩
  | putNode =>
    obtain ⟨-, same⟩ := Option.ite_none_left_eq_some.mp moved
    cases same
    exact ⟨⟨named.services, single, named.ticker⟩, .access _ _ (.node names (some metadata))⟩
  | appendService =>
    cases moved
    exact ⟨⟨List.forall_mem_append.mpr ⟨named.services, single⟩, single, named.ticker⟩, .none⟩
  | setMeta =>
    cases moved
    exact ⟨⟨named.services, List.forall_mem_nil _, named.ticker⟩, .none⟩

theorem Named.unregister (named : Named allowed state) (phase : state.caller = .unregistering name next) :
    Named allowed (plugin.unregister state name next) ∧
      Effect plugin allowed state.store (plugin.unregister state name next).store := by
  have names : allowed name := named.caller name (by simp [phase, callerNames])
  have single : ∀ other ∈ [name], allowed other := List.forall_mem_singleton.mpr names
  cases next with
  | putBase => exact ⟨⟨named.services, single, named.ticker⟩, .access _ _ .base⟩
  | putDir => exact ⟨⟨named.services, single, named.ticker⟩, .access _ _ (.dir names)⟩
  | deleteNode => exact ⟨⟨named.services, single, named.ticker⟩, .access _ _ (.node names none)⟩
  | filterServices =>
    refine ⟨⟨?_, single, named.ticker⟩, .none⟩
    intro other member
    exact named.services other (List.mem_of_mem_filter member)
  | deleteMeta => exact ⟨⟨named.services, List.forall_mem_nil _, named.ticker⟩, .none⟩

theorem Named.act (named : Named allowed state) (moved : plugin.act state = some after) :
    Named allowed after ∧ Effect plugin allowed state.store after.store := by
  unfold RegisterPlugin.act at moved
  split at moved
  · cases moved
  case h_2 name metadata next phase => exact named.register phase moved
  case h_3 name next phase =>
    cases moved
    exact named.unregister phase
  case h_4 name pending phase =>
    have names := named.caller
    rw [phase] at names
    split at moved
    · cases moved
      exact ⟨named.go fun other member => names other (List.mem_cons_of_mem name member), .none⟩
    · cases moved
      exact ⟨named.go names, .none⟩
  case h_5 name pending phase =>
    cases moved
    have names := named.caller
    rw [phase] at names
    obtain ⟨first, rest⟩ := List.forall_mem_cons.mp names
    exact ⟨⟨named.services, rest, named.ticker⟩, .access _ _ (.node first none)⟩
  case h_6 =>
    split at moved
    · cases moved
      exact ⟨named.go (List.forall_mem_nil _), .none⟩
    · cases moved
      exact ⟨⟨named.services, List.forall_mem_nil _, named.ticker⟩, .none⟩
  case h_7 =>
    obtain ⟨-, same⟩ := Option.ite_none_right_eq_some.mp moved
    cases same
    exact ⟨named.go (List.forall_mem_nil _), .none⟩
  case h_8 =>
    cases moved
    exact ⟨⟨named.services, List.forall_mem_nil _, named.ticker⟩, .none⟩

theorem Named.refresh (named : Named allowed state) (moved : plugin.refresh state encoded = some after) :
    Named allowed after ∧ Effect plugin allowed state.store after.store := by
  have names := named.ticker
  unfold RegisterPlugin.refresh at moved
  split at moved
  · cases moved
    exact ⟨⟨named.services, named.caller, List.forall_mem_nil _⟩, .none⟩
  case h_2 name pending phase =>
    rw [phase] at names
    split at moved
    · cases moved
      exact ⟨⟨named.services, named.caller, names⟩, .none⟩
    · cases moved
      exact ⟨⟨named.services, named.caller, names⟩, .none⟩
  case h_3 name pending phase =>
    cases moved
    rw [phase] at names
    exact ⟨⟨named.services, named.caller, names⟩, .none⟩
  case h_4 name value pending phase =>
    cases moved
    rw [phase] at names
    obtain ⟨first, rest⟩ := List.forall_mem_cons.mp names
    exact ⟨⟨named.services, named.caller, rest⟩, .access _ _ (.node first (some value))⟩
  · cases moved

/-- A step keeps to the names, and to what the plugin may write. Only time deletes anything
else. -/
theorem Named.step (named : Named allowed state) (names : Names allowed event)
    (moved : plugin.step state event = some after) :
    Named allowed after ∧ (Effect plugin allowed state.store after.store ∨
      ∃ path, event = .expire path ∧ after.store = Function.update state.store path none) := by
  cases event with
  | call call =>
    dsimp only [RegisterPlugin.step] at moved
    split at moved
    · cases moved
      obtain ⟨still, same⟩ := named.begin names
      exact ⟨still, .inl (by rw [same]; exact .none)⟩
    · cases moved
  | act =>
    obtain ⟨still, effect⟩ := named.act moved
    exact ⟨still, .inl effect⟩
  | tick =>
    dsimp only [RegisterPlugin.step] at moved
    split at moved
    · cases moved
      exact ⟨⟨named.services, named.caller, named.services⟩, .inl .none⟩
    · cases moved
  | die =>
    dsimp only [RegisterPlugin.step] at moved
    split at moved
    · obtain ⟨-, same⟩ := Option.ite_none_right_eq_some.mp moved
      cases same
      exact ⟨⟨named.services, named.caller, List.forall_mem_nil _⟩, .inl .none⟩
    · cases moved
  | refresh encoded =>
    obtain ⟨still, effect⟩ := named.refresh moved
    exact ⟨still, .inl effect⟩
  | expire path =>
    cases moved
    exact ⟨⟨named.services, named.caller, named.ticker⟩, .inr ⟨path, rfl, rfl⟩⟩

end RegisterPlugin

/-- Servers with one base path, each with an address of its own. -/
structure Deployment where
  basePath : Bytes
  plugins : List RegisterPlugin
  shared : ∀ plugin ∈ plugins, plugin.basePath = basePath
  consul : ∀ plugin ∈ plugins, plugin.registry = .consul
  plain : ∀ plugin ∈ plugins, 47 ∉ plugin.serviceAddress
  distinct : (plugins.map RegisterPlugin.serviceAddress).Nodup

/-- The store and the plugins. What a plugin has for the store of its own is not used. -/
structure Fleet where
  store : Bytes → Option Bytes
  states : List RegisterPlugin.State

namespace Fleet

open RegisterPlugin

structure Event where
  index : Nat
  event : RegisterPlugin.Event

def step (deployment : Deployment) (fleet : Fleet) (event : Event) : Option Fleet :=
  match deployment.plugins[event.index]?, fleet.states[event.index]? with
  | some plugin, some state =>
    (plugin.step { state with store := fleet.store } event.event).map fun after =>
      ⟨after.store, fleet.states.set event.index after⟩
  | _, _ => none

/-- There is nothing below the base path when the servers start. -/
def system (deployment : Deployment) : System Fleet Event where
  initial fleet := (∀ path, deployment.basePath ++ [47] <+: path → fleet.store path = none) ∧
    fleet.states = deployment.plugins.map fun plugin => plugin.start fleet.store
  step := step deployment

/-- The names of services are single segments of a path. -/
def Plain (_ : Fleet) (event : Event) : Prop := Names (47 ∉ ·) event.event

variable {deployment : Deployment} {fleet next : Fleet} {event : Event}

theorem step_cases (moved : fleet.step deployment event = some next) :
    ∃ plugin state after, deployment.plugins[event.index]? = some plugin ∧
      fleet.states[event.index]? = some state ∧
      plugin.step { state with store := fleet.store } event.event = some after ∧
      next = ⟨after.store, fleet.states.set event.index after⟩ := by
  unfold step at moved
  split at moved
  case h_1 plugin state found present =>
    obtain ⟨after, ran, same⟩ := Option.map_eq_some_iff.mp moved
    exact ⟨plugin, state, after, found, present, ran, same.symm⟩
  case h_2 => cases moved

/-- A key below the base path is a directory or a node. -/
inductive Entry (deployment : Deployment) : Bytes → Prop where
  | dir (plain : 47 ∉ name) : Entry deployment (deployment.basePath ++ 47 :: name)
  | node (plain : 47 ∉ name) (member : plugin ∈ deployment.plugins) : Entry deployment (plugin.nodePath name)

/-- What holds of the store and the plugins in every run. -/
structure Tidy (deployment : Deployment) (fleet : Fleet) : Prop where
  named : ∀ state ∈ fleet.states, Named (47 ∉ ·) state
  entries : ∀ path, deployment.basePath ++ [47] <+: path → fleet.store path ≠ none → Entry deployment path

theorem entry_of_access (member : plugin ∈ deployment.plugins) (accesses : Access plugin (47 ∉ ·) path value)
    (below : deployment.basePath ++ [47] <+: path) : Entry deployment path := by
  cases accesses with
  | base =>
    rw [deployment.shared plugin member] at below
    have length := below.length_le
    rw [List.length_append, List.length_singleton] at length
    omega
  | dir plain =>
    rw [dirPath, deployment.shared plugin member]
    exact .dir plain
  | node plain value => exact .node plain member

/-- A step is one of its plugin, or a node's time is over. -/
theorem Tidy.moves (tidy : Tidy deployment fleet) (plain : Plain fleet event)
    (moved : fleet.step deployment event = some next) :
    (∀ state ∈ next.states, Named (47 ∉ ·) state) ∧ ∃ plugin, deployment.plugins[event.index]? = some plugin ∧
      (Effect plugin (47 ∉ ·) fleet.store next.store ∨
        ∃ path, event.event = .expire path ∧ next.store = Function.update fleet.store path none) := by
  obtain ⟨plugin, state, after, found, present, ran, rfl⟩ := step_cases moved
  have kept := tidy.named state (List.mem_of_getElem? present)
  have named : Named (47 ∉ ·) { state with store := fleet.store } := ⟨kept.services, kept.caller, kept.ticker⟩
  obtain ⟨still, effect⟩ := named.step plain ran
  exact ⟨forall_mem_set tidy.named still _, plugin, found, effect⟩

theorem Tidy.step (tidy : Tidy deployment fleet) (plain : Plain fleet event)
    (moved : fleet.step deployment event = some next) : Tidy deployment next := by
  obtain ⟨named, plugin, found, effect⟩ := tidy.moves plain moved
  refine ⟨named, ?_⟩
  intro path below stored
  generalize next.store = store at effect stored
  rcases effect with effect | ⟨expired, -, rfl⟩
  · cases effect with
    | none => exact tidy.entries path below stored
    | access written value accesses =>
      by_cases same : path = written
      · rw [same] at below ⊢
        exact entry_of_access (List.mem_of_getElem? found) accesses below
      · rw [Function.update_of_ne same] at stored
        exact tidy.entries path below stored
  · by_cases same : path = expired
    · rw [same, Function.update_self] at stored
      exact absurd rfl stored
    · rw [Function.update_of_ne same] at stored
      exact tidy.entries path below stored

theorem tidy_of_reached (reached : (system deployment).Reached Plain fleet) : Tidy deployment fleet := by
  refine reached.invariant ?_ ?_
  · rintro fleet ⟨blank, started⟩
    refine ⟨?_, fun path below stored => absurd (blank path below) stored⟩
    rw [started]
    intro state member
    obtain ⟨plugin, -, rfl⟩ := List.mem_map.mp member
    exact named_start fleet.store
  · intro fleet event next tidy plain moved
    exact tidy.step plain moved

theorem segment_inj {name other rest behind : Bytes} (plain : 47 ∉ name) (others : 47 ∉ other)
    (same : name ++ 47 :: rest = other ++ 47 :: behind) : name = other ∧ rest = behind := by
  have first : ∀ {segment tail : Bytes}, 47 ∉ segment →
      (segment ++ 47 :: tail).takeWhile (· != 47) = segment := by
    intro segment tail plain
    rw [List.takeWhile_append_of_pos]
    · simp
    · intro byte member
      simpa using ne_of_mem_of_not_mem member plain
  have names : name = other := by rw [← first plain, same, first others]
  subst names
  exact ⟨rfl, (List.cons.inj (List.append_cancel_left same)).2⟩

theorem nodePath_inj {left right : RegisterPlugin} (leftMember : left ∈ deployment.plugins)
    (rightMember : right ∈ deployment.plugins) (plain : 47 ∉ name) (others : 47 ∉ other)
    (same : left.nodePath name = right.nodePath other) : name = other ∧ left.serviceAddress = right.serviceAddress := by
  rw [nodePath, nodePath, deployment.shared left leftMember, deployment.shared right rightMember] at same
  exact segment_inj plain others (List.cons.inj (List.append_cancel_left same)).2

end Fleet

namespace RegisterPlugin

variable {plugin : RegisterPlugin} {state after : State} {event : Event} {service : Bytes}

/-- `Register` has put the node of the service and not returned yet. -/
def HasPut (service : Bytes) : Caller → Prop
  | .registering name _ .appendService | .registering name _ .setMeta => name = service
  | .returning (.register name _) none => name = service
  | _ => False

/-- The call does not remove the node of the service. -/
def Sparing (service : Bytes) : Caller → Prop
  | .unregistering name _ => name ≠ service
  | .registering _ _ .deleteFirst => False
  | .stopping _ | .deleting _ _ | .awaiting => False
  | _ => True

theorem sparing_of_hasPut {caller : Caller} (has : HasPut service caller) : Sparing service caller := by
  unfold HasPut at has
  split at has
  · trivial
  · trivial
  · trivial
  · exact has.elim

def Spares (plugin : RegisterPlugin) (service : Bytes) : Event → Prop
  | .call (.unregister name) => name ≠ service
  | .call .stop => False
  | .expire path => path ≠ plugin.nodePath service
  | _ => True

/-- What a step means for the node of a service: only a call that removes it and the end of its
time take it away, and `Register` goes on only behind a node that is there. -/
structure Minds (plugin : RegisterPlugin) (service : Bytes) (state : State) (event : Event) (after : State) :
    Prop where
  stored : Sparing service state.caller → event ≠ .expire (plugin.nodePath service) →
    state.store (plugin.nodePath service) ≠ none → after.store (plugin.nodePath service) ≠ none
  put : HasPut service after.caller →
    HasPut service state.caller ∨ after.store (plugin.nodePath service) ≠ none
  sparing : Sparing service state.caller → Spares plugin service event → Sparing service after.caller

theorem update_ne_none {store : Bytes → Option Bytes} {key : Bytes} (stored : store key ≠ none) (path value : Bytes) :
    Function.update store path (some value) key ≠ none := by
  by_cases same : key = path
  · rw [same, Function.update_self]
    nofun
  · rw [Function.update_of_ne same]
    exact stored

theorem delete_ne_none {key path : Bytes} (stored : state.store key ≠ none) (apart : key ≠ path) :
    (delete state path).store key ≠ none := by
  dsimp only [delete]
  rwa [Function.update_of_ne apart]

/-- A step that removes nothing and puts no node of a service. -/
theorem minds_of_keeps (keeps : state.store (plugin.nodePath service) ≠ none →
      after.store (plugin.nodePath service) ≠ none)
    (idle : ¬ HasPut service after.caller) (sparing : Sparing service after.caller) :
    Minds plugin service state event after :=
  ⟨fun _ _ => keeps, fun has => absurd has idle, fun _ _ => sparing⟩

theorem minds_of_caller (keeps : event ≠ .expire (plugin.nodePath service) →
      state.store (plugin.nodePath service) ≠ none → after.store (plugin.nodePath service) ≠ none)
    (same : after.caller = state.caller) : Minds plugin service state event after := by
  refine ⟨fun _ => keeps, fun has => .inl ?_, fun sparing _ => ?_⟩
  · rwa [← same]
  · rwa [same]

theorem minds_begin (call : Call) : Minds plugin service state (.call call) (plugin.begin state call) := by
  cases call with
  | register name metadata =>
    dsimp only [RegisterPlugin.begin]
    split
    · exact minds_of_keeps id id trivial
    · exact minds_of_keeps id id trivial
  | unregister name =>
    dsimp only [RegisterPlugin.begin]
    split
    · exact minds_of_keeps id id trivial
    · split
      · exact minds_of_keeps id id trivial
      · exact ⟨fun _ _ => id, nofun, fun _ spares => spares⟩
  | stop => exact ⟨fun _ _ => id, nofun, fun _ spares => spares.elim⟩

theorem minds_register (consul : plugin.registry = .consul) (phase : state.caller = .registering name metadata next)
    (moved : plugin.register state name metadata next = some after) : Minds plugin service state .act after := by
  cases next with
  | putBase =>
    cases moved
    exact minds_of_keeps (fun stored => update_ne_none stored _ _) id trivial
  | putDir =>
    cases moved
    have other : plugin.registry ≠ .zooKeeper := by
      rw [consul]
      decide
    rw [if_neg other]
    exact minds_of_keeps (fun stored => update_ne_none stored _ _) id trivial
  | deleteFirst =>
    cases moved
    refine ⟨fun sparing => ?_, nofun, fun _ _ => trivial⟩
    rw [phase] at sparing
    exact sparing.elim
  | putNode =>
    obtain ⟨-, same⟩ := Option.ite_none_left_eq_some.mp moved
    cases same
    refine ⟨fun _ _ stored => update_ne_none stored _ _, ?_, fun _ _ => trivial⟩
    rintro rfl
    refine .inr ?_
    simp [put]
  | appendService =>
    cases moved
    refine ⟨fun _ _ => id, ?_, fun _ _ => trivial⟩
    rintro rfl
    rw [phase]
    exact .inl rfl
  | setMeta =>
    cases moved
    refine ⟨fun _ _ => id, ?_, fun _ _ => trivial⟩
    rintro rfl
    rw [phase]
    exact .inl rfl

theorem minds_unregister (phase : state.caller = .unregistering name next) :
    Minds plugin service state .act (plugin.unregister state name next) := by
  have other : Sparing service state.caller → name ≠ service := by
    rw [phase]
    exact id
  cases next with
  | putBase => exact ⟨fun _ _ stored => update_ne_none stored _ _, nofun, fun sparing _ => other sparing⟩
  | putDir => exact ⟨fun _ _ stored => update_ne_none stored _ _, nofun, fun sparing _ => other sparing⟩
  | deleteNode =>
    refine ⟨fun sparing _ stored => ?_, nofun, fun sparing _ => other sparing⟩
    have apart : plugin.nodePath service ≠ plugin.nodePath name := by
      intro same
      have names := List.cons.inj (List.append_cancel_left same)
      exact other sparing (List.append_cancel_right names.2).symm
    exact delete_ne_none stored apart
  | filterServices => exact ⟨fun _ _ => id, nofun, fun sparing _ => other sparing⟩
  | deleteMeta => exact minds_of_keeps id id trivial

theorem minds_act (consul : plugin.registry = .consul) (moved : plugin.act state = some after) :
    Minds plugin service state .act after := by
  -- A call of `Stop` spares nothing, and never becomes one of `Register`.
  have stops : ¬ Sparing service state.caller → ¬ HasPut service after.caller →
      Minds plugin service state .act after :=
    fun removes idle => ⟨fun sparing => absurd sparing removes, fun has => absurd has idle,
      fun sparing => absurd sparing removes⟩
  unfold RegisterPlugin.act at moved
  split at moved
  · cases moved
  case h_2 name metadata next phase => exact minds_register consul phase moved
  case h_3 name next phase =>
    cases moved
    exact minds_unregister phase
  case h_4 phase =>
    refine stops (by rw [phase]; exact id) ?_
    split at moved <;> cases moved <;> exact id
  case h_5 phase =>
    refine stops (by rw [phase]; exact id) ?_
    cases moved
    exact id
  case h_6 phase =>
    refine stops (by rw [phase]; exact id) ?_
    split at moved <;> cases moved <;> exact id
  case h_7 phase =>
    refine stops (by rw [phase]; exact id) ?_
    obtain ⟨-, same⟩ := Option.ite_none_right_eq_some.mp moved
    cases same
    exact id
  case h_8 call err phase =>
    cases moved
    exact minds_of_keeps id id trivial

theorem minds_refresh (moved : plugin.refresh state encoded = some after) :
    Minds plugin service state (.refresh encoded) after := by
  unfold RegisterPlugin.refresh at moved
  split at moved
  · cases moved
    exact minds_of_caller (fun _ => id) rfl
  · split at moved
    · cases moved
      exact minds_of_caller (fun _ => id) rfl
    · cases moved
      exact minds_of_caller (fun _ => id) rfl
  · cases moved
    exact minds_of_caller (fun _ => id) rfl
  · cases moved
    exact minds_of_caller (fun _ stored => update_ne_none stored _ _) rfl
  · cases moved

theorem minds_step (consul : plugin.registry = .consul) (moved : plugin.step state event = some after) :
    Minds plugin service state event after := by
  cases event with
  | call call =>
    dsimp only [RegisterPlugin.step] at moved
    split at moved
    · cases moved
      exact minds_begin call
    · cases moved
  | act => exact minds_act consul moved
  | tick =>
    dsimp only [RegisterPlugin.step] at moved
    split at moved
    · cases moved
      exact minds_of_caller (fun _ => id) rfl
    · cases moved
  | die =>
    dsimp only [RegisterPlugin.step] at moved
    split at moved
    · obtain ⟨-, same⟩ := Option.ite_none_right_eq_some.mp moved
      cases same
      exact minds_of_caller (fun _ => id) rfl
    · cases moved
  | refresh encoded => exact minds_refresh moved
  | expire path =>
    cases moved
    refine minds_of_caller (fun alive stored => delete_ne_none stored ?_) rfl
    rintro rfl
    exact alive rfl

end RegisterPlugin

namespace Fleet

open RegisterPlugin

variable {deployment : Deployment} {fleet next : Fleet} {event : Event} {index : Nat} {service : Bytes}

/-- No node loses its time while `Register` is about to return for it. -/
def Timely (deployment : Deployment) (index : Nat) (service : Bytes) (fleet : Fleet) (event : Event) : Prop :=
  Plain fleet event ∧ ∀ plugin state, deployment.plugins[index]? = some plugin → fleet.states[index]? = some state →
    HasPut service state.caller → event.event ≠ .expire (plugin.nodePath service)

/-- Nobody removes the node that one of the servers has for a service: the server does not
unregister the service and is not stopped, and the node is refreshed in time. -/
structure Steady (deployment : Deployment) (index : Nat) (service : Bytes) (event : Event) : Prop where
  names : Names (47 ∉ ·) event.event
  spares : ∀ plugin, deployment.plugins[index]? = some plugin → event.index = index →
    Spares plugin service event.event
  alive : ∀ plugin, deployment.plugins[index]? = some plugin → event.event ≠ .expire (plugin.nodePath service)

theorem stored_of_other {plugin other : RegisterPlugin} (member : plugin ∈ deployment.plugins)
    (otherMember : other ∈ deployment.plugins) (apart : plugin.serviceAddress ≠ other.serviceAddress)
    (plain : 47 ∉ service) {store after : Bytes → Option Bytes} (effect : Effect other (47 ∉ ·) store after)
    (stored : store (plugin.nodePath service) ≠ none) : after (plugin.nodePath service) ≠ none := by
  cases effect with
  | none => exact stored
  | access path value accesses =>
    cases accesses with
    | base => exact update_ne_none stored _ _
    | dir names => exact update_ne_none stored _ _
    | node names value =>
      have elsewhere : plugin.nodePath service ≠ other.nodePath _ := fun same =>
        apart (nodePath_inj member otherMember plain names same).2
      rwa [Function.update_of_ne elsewhere]

theorem index_of_address {left right : RegisterPlugin} {other : Nat} (first : deployment.plugins[other]? = some left)
    (second : deployment.plugins[index]? = some right) (same : left.serviceAddress = right.serviceAddress) :
    other = index := by
  have bound := (List.getElem?_eq_some_iff.mp first).1
  refine (List.getElem?_inj (by simpa using bound) deployment.distinct).mp ?_
  rw [List.getElem?_map, List.getElem?_map, first, second, Option.map_some, Option.map_some, same]

/-- What a step of the fleet means for the node of a service. -/
theorem minds_of_step {plugin : RegisterPlugin} {after : State} (tidy : Tidy deployment fleet) (plain : 47 ∉ service)
    (names : Plain fleet event) (moved : fleet.step deployment event = some next)
    (found : deployment.plugins[index]? = some plugin) (present : next.states[index]? = some after) :
    ∃ before, fleet.states[index]? = some before ∧
      (Sparing service before.caller → event.event ≠ .expire (plugin.nodePath service) →
        fleet.store (plugin.nodePath service) ≠ none → next.store (plugin.nodePath service) ≠ none) ∧
      (HasPut service after.caller →
        HasPut service before.caller ∨ next.store (plugin.nodePath service) ≠ none) ∧
      (Sparing service before.caller → (event.index = index → Spares plugin service event.event) →
        Sparing service after.caller) := by
  have member := List.mem_of_getElem? found
  obtain ⟨-, other, otherFound, effect⟩ := tidy.moves names moved
  obtain ⟨acting, before, reached, acts, held, ran, rfl⟩ := step_cases moved
  by_cases own : event.index = index
  · subst own
    cases acts.symm.trans found
    have same : reached = after := by
      have bound := (List.getElem?_eq_some_iff.mp held).1
      rw [List.getElem?_set_self bound] at present
      exact Option.some.inj present
    subst same
    have minds : Minds plugin service _ _ _ := minds_step (deployment.consul plugin member) ran
    exact ⟨before, held, minds.stored, minds.put, fun sparing spares => minds.sparing sparing (spares rfl)⟩
  · rw [List.getElem?_set_ne own] at present
    refine ⟨after, present, fun _ alive stored => ?_, .inl, fun sparing _ => sparing⟩
    rcases effect with effect | ⟨path, expires, deleted⟩
    · refine stored_of_other member (List.mem_of_getElem? otherFound) ?_ plain effect stored
      intro same
      exact own (index_of_address otherFound found same.symm)
    · have elsewhere : plugin.nodePath service ≠ path := by
        rintro rfl
        exact alive expires
      dsimp only at deleted ⊢
      rwa [deleted, Function.update_of_ne elsewhere]

/-- While `Register` has put the node and not returned, the node is there. -/
theorem stored_of_hasPut (plain : 47 ∉ service)
    (reached : (system deployment).Reached (Timely deployment index service) fleet) {plugin : RegisterPlugin}
    (found : deployment.plugins[index]? = some plugin) {state : State} (present : fleet.states[index]? = some state)
    (has : HasPut service state.caller) : fleet.store (plugin.nodePath service) ≠ none := by
  induction reached generalizing state with
  | start initial =>
    rw [initial.2, List.getElem?_map, found, Option.map_some] at present
    cases present
    exact has.elim
  | @step fleet next earlier event timely moved ih =>
    have tidy := tidy_of_reached (earlier.mono fun _ _ timely => timely.1)
    obtain ⟨before, held, stored, put, -⟩ := minds_of_step tidy plain timely.1 moved found present
    rcases put has with had | there
    · exact stored (sparing_of_hasPut had) (timely.2 plugin before found held had) (ih held had)
    · exact there

theorem length_states_of_step (moved : fleet.step deployment event = some next) :
    next.states.length = fleet.states.length := by
  obtain ⟨-, -, after, -, -, -, rfl⟩ := step_cases moved
  exact List.length_set

/-- The node stays as long as nobody removes it. -/
theorem stored_of_steady (plain : 47 ∉ service) {plugin : RegisterPlugin}
    (found : deployment.plugins[index]? = some plugin) {events : List Event} {final : Fleet}
    (played : (system deployment).play fleet events = some final)
    (steady : ∀ event ∈ events, Steady deployment index service event) (tidy : Tidy deployment fleet) {state : State}
    (present : fleet.states[index]? = some state) (sparing : Sparing service state.caller)
    (stored : fleet.store (plugin.nodePath service) ≠ none) : final.store (plugin.nodePath service) ≠ none := by
  induction events generalizing fleet state with
  | nil =>
    cases played
    exact stored
  | cons event rest ih =>
    obtain ⟨next, moved, remaining⟩ := Option.bind_eq_some_iff.mp played
    obtain ⟨first, later⟩ := List.forall_mem_cons.mp steady
    have bound : index < next.states.length := by
      rw [length_states_of_step moved]
      exact (List.getElem?_eq_some_iff.mp present).1
    have after := List.getElem?_eq_getElem bound
    obtain ⟨before, held, keeps, -, spares⟩ := minds_of_step tidy plain first.names moved found after
    cases held.symm.trans present
    refine ih remaining later (tidy.step first.names moved) after ?_ ?_
    · exact spares sparing (first.spares plugin found)
    · exact keeps sparing (first.alive plugin found) stored

end Fleet

end Irpc.ServerPlugin
