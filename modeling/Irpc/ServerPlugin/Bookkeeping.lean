import Irpc.Protocol.Message
import Irpc.ServerPlugin.Register
import Mathlib

/-! What the plugin for Consul remembers of its services: a list of names and a map of their
metadata, which both have to follow the calls, whichever operation of the store fails. -/
namespace Irpc.ServerPlugin

open Irpc.Foundation Irpc.Protocol

structure ConsulRegisterPlugin where
  serviceAddress : Bytes
  basePath : Bytes
  services : List Bytes
  metas : Option Metadata
  /-- `kv` is not nil. -/
  connected : Bool

inductive StoreOperation where
  | newStore
  | put (path value : Bytes)
  | delete (path : Bytes)
  deriving DecidableEq

/-- The errors of the store operations of a call. -/
abbrev StoreErrors := StoreOperation → Option GoError

namespace ConsulRegisterPlugin

/-- The plugin after a call, and the error it returns. A call that panics has no result. -/
abbrev Outcome := Option (ConsulRegisterPlugin × Option GoError)

/-- A call returns the error of an operation, or goes on. -/
def attempt (errors : StoreErrors) (operation : StoreOperation) (plugin : ConsulRegisterPlugin)
    (next : ConsulRegisterPlugin → Outcome) : Outcome :=
  match errors operation with
  | some err => some (plugin, some err)
  | none => next plugin

def connect (errors : StoreErrors) (plugin : ConsulRegisterPlugin) (next : ConsulRegisterPlugin → Outcome) : Outcome :=
  if plugin.connected then next plugin
  else plugin.attempt errors .newStore fun plugin => next { plugin with connected := true }

def dirPath (plugin : ConsulRegisterPlugin) (name : Bytes) : Bytes := plugin.basePath ++ 47 :: name

def nodePath (plugin : ConsulRegisterPlugin) (name : Bytes) : Bytes :=
  plugin.basePath ++ 47 :: (name ++ 47 :: plugin.serviceAddress)

/-- What `Register` and `Unregister` do before they come to the service's node. -/
def prepare (errors : StoreErrors) (name : Bytes) (plugin : ConsulRegisterPlugin)
    (next : ConsulRegisterPlugin → Outcome) : Outcome :=
  plugin.connect errors fun plugin =>
  (stripSlash .consul plugin.basePath).bind fun basePath =>
  { plugin with basePath := basePath }.attempt errors (.put basePath (utf8 "irpc_path")) fun plugin =>
  plugin.attempt errors (.put (plugin.dirPath name) name) next

def remember (name metadata : Bytes) (plugin : ConsulRegisterPlugin) : ConsulRegisterPlugin :=
  { plugin with services := plugin.services ++ [name], metas := some ((plugin.metas.getD ∅).insert name metadata) }

def forget (name : Bytes) (plugin : ConsulRegisterPlugin) : ConsulRegisterPlugin :=
  { plugin with
    services := plugin.services.filter fun s => s ≠ name, metas := some ((plugin.metas.getD ∅).erase name) }

def register (errors : StoreErrors) (name metadata : Bytes) (plugin : ConsulRegisterPlugin) : Outcome :=
  if isBlank name then some (plugin, some (.plain (utf8 "register service `name` can't be empty")))
  else
    plugin.prepare errors name fun plugin =>
    plugin.attempt errors (.put (plugin.nodePath name) metadata) fun plugin =>
    some (plugin.remember name metadata, none)

def unregister (errors : StoreErrors) (name : Bytes) (plugin : ConsulRegisterPlugin) : Outcome :=
  if plugin.services.length = 0 then some (plugin, none)
  else if isBlank name then some (plugin, some (.plain (utf8 "unregister service `name` can't be empty")))
  else
    plugin.prepare errors name fun plugin =>
    plugin.attempt errors (.delete (plugin.nodePath name)) fun plugin =>
    some (plugin.forget name, none)

def metaOf (plugin : ConsulRegisterPlugin) (name : Bytes) : Option Bytes := plugin.metas.bind (·.lookup name)

@[simp] theorem services_remember (plugin : ConsulRegisterPlugin) (name metadata : Bytes) :
    (plugin.remember name metadata).services = plugin.services ++ [name] := rfl

@[simp] theorem services_forget (plugin : ConsulRegisterPlugin) (name : Bytes) :
    (plugin.forget name).services = plugin.services.filter fun s => s ≠ name := rfl

@[simp] theorem metaOf_connected (plugin : ConsulRegisterPlugin) (connected : Bool) :
    { plugin with connected := connected }.metaOf = plugin.metaOf := rfl

theorem lookup_getD_metas (plugin : ConsulRegisterPlugin) (name : Bytes) :
    (plugin.metas.getD ∅).lookup name = plugin.metaOf name := by
  cases held : plugin.metas with
  | none => simp [metaOf, held]
  | some metas => simp [metaOf, held]

@[simp] theorem metaOf_remember (plugin : ConsulRegisterPlugin) (name metadata : Bytes) :
    (plugin.remember name metadata).metaOf = Function.update plugin.metaOf name (some metadata) := by
  funext other
  change ((plugin.metas.getD ∅).insert name metadata).lookup other = _
  by_cases same : other = name
  · subst same
    rw [Finmap.lookup_insert, Function.update_self]
  · rw [Finmap.lookup_insert_of_ne _ same, lookup_getD_metas, Function.update_of_ne same]

@[simp] theorem metaOf_forget (plugin : ConsulRegisterPlugin) (name : Bytes) :
    (plugin.forget name).metaOf = Function.update plugin.metaOf name none := by
  funext other
  change ((plugin.metas.getD ∅).erase name).lookup other = _
  by_cases same : other = name
  · subst same
    rw [Finmap.lookup_erase, Function.update_self]
  · rw [Finmap.lookup_erase_ne same, lookup_getD_metas, Function.update_of_ne same]

/-- The path is not empty, and has no leading slash. -/
def SoundPath (basePath : Bytes) : Prop := ∃ first rest, basePath = first :: rest ∧ first ≠ 47

theorem SoundPath.stripSlash {basePath : Bytes} (sound : SoundPath basePath) :
    stripSlash .consul basePath = some basePath := by
  obtain ⟨first, rest, rfl, plain⟩ := sound
  simp [ServerPlugin.stripSlash, plain]

section Calls

variable (errors : StoreErrors) (plugin : ConsulRegisterPlugin) (name : Bytes) (next : ConsulRegisterPlugin → Outcome)

theorem attempt_cases (operation : StoreOperation) :
    (∃ err, plugin.attempt errors operation next = some (plugin, some err)) ∨
      plugin.attempt errors operation next = next plugin := by
  unfold attempt
  cases errors operation with
  | none => exact .inr rfl
  | some err => exact .inl ⟨err, rfl⟩

theorem connect_cases :
    (∃ err, plugin.connect errors next = some (plugin, some err)) ∨
      plugin.connect errors next = next { plugin with connected := true } := by
  unfold connect
  split
  case isTrue connected =>
    rw [← connected]
    exact .inr rfl
  case isFalse => exact attempt_cases errors plugin _ _

variable {plugin}

/-- Whatever fails, the call either returns an error or goes on, and has at most connected the
plugin. -/
theorem prepare_cases (sound : SoundPath plugin.basePath) :
    ∃ connected, (∃ err, plugin.prepare errors name next = some ({ plugin with connected := connected }, some err)) ∨
      plugin.prepare errors name next = next { plugin with connected := connected } := by
  unfold prepare
  rcases connect_cases errors plugin _ with ⟨err, failed⟩ | opened
  · exact ⟨plugin.connected, .inl ⟨err, failed⟩⟩
  · refine ⟨true, ?_⟩
    rw [opened, sound.stripSlash, Option.bind_some]
    rcases attempt_cases errors { plugin with connected := true } _ _ with ⟨err, failed⟩ | done
    · exact .inl ⟨err, failed⟩
    · rw [done]
      exact attempt_cases errors _ _ _

/-- An operation on the service's node, and a change of the plugin if it succeeds. -/
theorem prepare_attempt_cases (sound : SoundPath plugin.basePath)
    (operation : ConsulRegisterPlugin → StoreOperation) (change : ConsulRegisterPlugin → ConsulRegisterPlugin) :
    ∃ connected,
      (∃ err, plugin.prepare errors name (fun plugin =>
        plugin.attempt errors (operation plugin) fun plugin => some (change plugin, none)) =
          some ({ plugin with connected := connected }, some err)) ∨
      plugin.prepare errors name (fun plugin =>
        plugin.attempt errors (operation plugin) fun plugin => some (change plugin, none)) =
          some (change { plugin with connected := connected }, none) := by
  obtain ⟨connected, failed | done⟩ := prepare_cases errors name (fun plugin =>
    plugin.attempt errors (operation plugin) fun plugin => some (change plugin, none)) sound
  · exact ⟨connected, .inl failed⟩
  · rw [done]
    exact ⟨connected, attempt_cases errors _ _ _⟩

/-- `Register` changes what the plugin remembers only if it succeeds. -/
theorem register_cases (sound : SoundPath plugin.basePath) (metadata : Bytes) :
    ∃ connected,
      (∃ err, plugin.register errors name metadata = some ({ plugin with connected := connected }, some err)) ∨
      plugin.register errors name metadata =
        some ({ plugin with connected := connected }.remember name metadata, none) := by
  unfold register
  split
  · exact ⟨plugin.connected, .inl ⟨_, rfl⟩⟩
  · exact prepare_attempt_cases errors name sound _ _

theorem unregister_cases (sound : SoundPath plugin.basePath) :
    ∃ connected, (∃ err, plugin.unregister errors name = some ({ plugin with connected := connected }, some err)) ∨
      (plugin.services = [] ∧ plugin.unregister errors name = some (plugin, none)) ∨
      plugin.unregister errors name = some ({ plugin with connected := connected }.forget name, none) := by
  unfold unregister
  split
  case isTrue empty => exact ⟨plugin.connected, .inr (.inl ⟨List.eq_nil_of_length_eq_zero empty, rfl⟩)⟩
  case isFalse =>
    split
    · exact ⟨plugin.connected, .inl ⟨_, rfl⟩⟩
    · obtain ⟨connected, failed | done⟩ := prepare_attempt_cases errors name sound
        (fun plugin => .delete (plugin.nodePath name)) (forget name)
      · exact ⟨connected, .inl failed⟩
      · exact ⟨connected, .inr (.inr done)⟩

end Calls

inductive Operation where
  | register (name metadata : Bytes)
  | unregister (name : Bytes)

def Operation.run (errors : StoreErrors) : Operation → ConsulRegisterPlugin → Outcome
  | .register name metadata, plugin => plugin.register errors name metadata
  | .unregister name, plugin => plugin.unregister errors name

/-- A plugin, and the calls it has seen with their errors, the latest first. -/
structure Used where
  plugin : ConsulRegisterPlugin
  calls : List (Operation × Option GoError)

def Used.step (used : Used) (event : Operation × StoreErrors) : Option Used :=
  (event.1.run event.2 used.plugin).map fun (plugin, err) => ⟨plugin, (event.1, err) :: used.calls⟩

/-- Plugins as they are made, with a sound path. They may be connected already. -/
def usage : System Used (Operation × StoreErrors) where
  initial used := used.calls = [] ∧ used.plugin.services = [] ∧ used.plugin.metas = none ∧
    SoundPath used.plugin.basePath
  step := Used.step

/-- The metadata of the latest `Register` of a service that succeeded. -/
def latestMeta (name : Bytes) : List (Operation × Option GoError) → Option Bytes
  | [] => none
  | (.register other metadata, none) :: earlier => if other = name then some metadata else latestMeta name earlier
  | _ :: earlier => latestMeta name earlier

/-- The names in the list are those of the map, and the map has what was registered last. -/
structure Used.Kept (used : Used) : Prop where
  sound : SoundPath used.plugin.basePath
  names : ∀ name, name ∈ used.plugin.services ↔ used.plugin.metaOf name ≠ none
  latest : ∀ name metadata, used.plugin.metaOf name = some metadata → latestMeta name used.calls = some metadata

theorem latestMeta_failed (name : Bytes) (operation : Operation) (err : GoError)
    (calls : List (Operation × Option GoError)) :
    latestMeta name ((operation, some err) :: calls) = latestMeta name calls := by
  cases operation <;> rfl

namespace Used.Kept

variable {used after : Used}

theorem failed (kept : used.Kept) (connected : Bool) (operation : Operation) (err : GoError) :
    Used.Kept ⟨{ used.plugin with connected := connected }, (operation, some err) :: used.calls⟩ := by
  refine ⟨kept.sound, kept.names, ?_⟩
  intro name metadata held
  rw [latestMeta_failed]
  exact kept.latest name metadata held

theorem registered (kept : used.Kept) (connected : Bool) (name metadata : Bytes) :
    Used.Kept ⟨{ used.plugin with connected := connected }.remember name metadata,
      (.register name metadata, none) :: used.calls⟩ := by
  refine ⟨kept.sound, ?_, ?_⟩
  · intro other
    by_cases same : other = name
    · subst same
      simp
    · simpa [same] using kept.names other
  · intro other held found
    by_cases same : other = name
    · subst same
      simpa [latestMeta] using found
    · rw [metaOf_remember, Function.update_of_ne same] at found
      rw [latestMeta, if_neg (Ne.symm same)]
      exact kept.latest other held found

theorem unregistered (kept : used.Kept) (connected : Bool) (name : Bytes) :
    Used.Kept ⟨{ used.plugin with connected := connected }.forget name, (.unregister name, none) :: used.calls⟩ := by
  refine ⟨kept.sound, ?_, ?_⟩
  · intro other
    by_cases same : other = name
    · subst same
      simp
    · simpa [same] using kept.names other
  · intro other held found
    by_cases same : other = name
    · subst same
      simp at found
    · rw [metaOf_forget, Function.update_of_ne same] at found
      exact kept.latest other held found

theorem step (kept : used.Kept) {event : Operation × StoreErrors} (moved : used.step event = some after) :
    after.Kept := by
  obtain ⟨operation, errors⟩ := event
  obtain ⟨⟨plugin, err⟩, ran, rfl⟩ := Option.map_eq_some_iff.mp moved
  cases operation with
  | register name metadata =>
    obtain ⟨connected, ⟨err, failed⟩ | done⟩ := register_cases errors name kept.sound metadata
    · cases failed.symm.trans ran
      exact kept.failed connected _ err
    · cases done.symm.trans ran
      exact kept.registered connected name metadata
  | unregister name =>
    obtain ⟨connected, ⟨err, failed⟩ | ⟨-, idle⟩ | done⟩ := unregister_cases errors name kept.sound
    · cases failed.symm.trans ran
      exact kept.failed connected _ err
    · cases idle.symm.trans ran
      exact ⟨kept.sound, kept.names, kept.latest⟩
    · cases done.symm.trans ran
      exact kept.unregistered connected name

end Used.Kept

theorem kept_of_reachable {used : Used} (reachable : usage.Reachable used) : used.Kept := by
  refine System.Reached.invariant reachable ?_ fun _ _ _ kept _ moved => kept.step moved
  rintro used ⟨-, unused, empty, sound⟩
  refine ⟨sound, ?_, ?_⟩
  · simp [unused, metaOf, empty]
  · simp [metaOf, empty]

/-- Whatever the store does, the names in `Services` are those of `metas`, each with the metadata
it was registered with last. The next call returns, changes neither if it returns an error, and
if it unregisters a service, neither has it any more. -/
theorem bookkeeping {used : Used} (reachable : usage.Reachable used) :
    (∀ name, name ∈ used.plugin.services ↔ ∃ metadata, used.plugin.metaOf name = some metadata) ∧
      (∀ name metadata, used.plugin.metaOf name = some metadata → latestMeta name used.calls = some metadata) ∧
      ∀ (operation : Operation) (errors : StoreErrors), ∃ after err,
        operation.run errors used.plugin = some (after, err) ∧
        (err ≠ none → after.services = used.plugin.services ∧ after.metas = used.plugin.metas) ∧
        (err = none → used.plugin.services ≠ [] → ∀ name, operation = .unregister name →
          name ∉ after.services ∧ after.metaOf name = none) := by
  have kept := kept_of_reachable reachable
  refine ⟨fun name => (kept.names name).trans Option.ne_none_iff_exists', kept.latest, ?_⟩
  intro operation errors
  cases operation with
  | register name metadata =>
    obtain ⟨connected, ⟨err, failed⟩ | done⟩ := register_cases errors name kept.sound metadata
    · exact ⟨_, _, failed, fun _ => ⟨rfl, rfl⟩, nofun⟩
    · exact ⟨_, _, done, fun failed => absurd rfl failed, fun _ _ => nofun⟩
  | unregister name =>
    obtain ⟨connected, ⟨err, failed⟩ | ⟨empty, idle⟩ | done⟩ := unregister_cases errors name kept.sound
    · exact ⟨_, _, failed, fun _ => ⟨rfl, rfl⟩, nofun⟩
    · exact ⟨_, _, idle, fun failed => absurd rfl failed, fun _ registered => absurd empty registered⟩
    · refine ⟨_, _, done, fun failed => absurd rfl failed, ?_⟩
      rintro - - _ ⟨⟩
      simp

def unusedPlugin : ConsulRegisterPlugin := ⟨utf8 "tcp@a", [105], [], none, false⟩

def twiceUsed : Used where
  plugin := ⟨utf8 "tcp@a", [105], [[65], [65]], some (((∅ : Metadata).insert [65] [120]).insert [65] [121]), true⟩
  calls := [(.register [65] [121], none), (.register [65] [120], none)]

theorem bookkeeping_twice :
    twiceUsed.plugin.services = [[65], [65]] ∧ ∃ metadata, twiceUsed.plugin.metaOf [65] = some metadata := by
  have made : usage.initial ⟨unusedPlugin, []⟩ := ⟨rfl, rfl, rfl, 105, [], rfl, by decide⟩
  have played : usage.play ⟨unusedPlugin, []⟩
      [(.register [65] [120], fun _ => none), (.register [65] [121], fun _ => none)] = some twiceUsed := rfl
  exact ⟨rfl, ((bookkeeping (System.Reachable.play (.start made) played)).1 [65]).mp List.mem_cons_self⟩

def Shows (plugin : ConsulRegisterPlugin) (state : RegisterPlugin.State) : Prop :=
  state.services = plugin.services ∧ state.metas = plugin.metaOf

def Operation.call : Operation → Call
  | .register name metadata => .register name metadata
  | .unregister name => .unregister name

/-- A store without errors lets every call come to the service's node. -/
theorem prepare_of_no_errors {plugin : ConsulRegisterPlugin} (sound : SoundPath plugin.basePath) (name : Bytes)
    (next : ConsulRegisterPlugin → Outcome) :
    plugin.prepare (fun _ => none) name next = next { plugin with connected := true } := by
  have opened : plugin.connect (fun _ => none) = fun next => next { plugin with connected := true } := by
    funext next
    unfold connect
    split
    case isTrue connected => rw [← connected]
    case isFalse => rfl
  simp only [prepare, opened, sound.stripSlash]
  rfl

/-- Without errors of the store a call does what the steps of the started plugin come to, if
nothing else happens between them. -/
theorem Shows.run {plugin : ConsulRegisterPlugin} {started : RegisterPlugin} {state : RegisterPlugin.State}
    (same : plugin.Shows state) (sound : SoundPath plugin.basePath) (consul : started.registry = .consul)
    (free : state.caller = .free) (operation : Operation) :
    ∃ after err events final, operation.run (fun _ => none) plugin = some (after, err) ∧
      started.system.play state events = some final ∧ final.caller = .free ∧ after.Shows final ∧
      final.results = (operation.call, err) :: state.results := by
  obtain ⟨services, metas⟩ := same
  cases operation with
  | register name metadata =>
    by_cases blank : isBlank name
    · refine ⟨plugin, some RegisterPlugin.errRegister, [.call (.register name metadata), .act], ?_⟩
      simp [Operation.run, ConsulRegisterPlugin.register, blank, System.play, RegisterPlugin.system,
        RegisterPlugin.step, RegisterPlugin.begin, RegisterPlugin.act, free, Operation.call, Shows, services, metas,
        RegisterPlugin.errRegister]
    · refine ⟨{ plugin with connected := true }.remember name metadata, none,
        .call (.register name metadata) :: List.replicate 6 .act, ?_⟩
      simp [Operation.run, ConsulRegisterPlugin.register, blank, prepare_of_no_errors sound, attempt, System.play,
        RegisterPlugin.system, RegisterPlugin.step, RegisterPlugin.begin, RegisterPlugin.act, RegisterPlugin.register,
        RegisterPlugin.put, free, consul, Operation.call, Shows, services, metas, List.replicate]
  | unregister name =>
    by_cases empty : plugin.services = []
    · refine ⟨plugin, none, [.call (.unregister name), .act], ?_⟩
      simp [Operation.run, ConsulRegisterPlugin.unregister, empty, System.play, RegisterPlugin.system,
        RegisterPlugin.step, RegisterPlugin.begin, RegisterPlugin.act, free, Operation.call, Shows, services, metas]
    · by_cases blank : isBlank name
      · refine ⟨plugin, some started.errUnregister, [.call (.unregister name), .act], ?_⟩
        simp [Operation.run, ConsulRegisterPlugin.unregister, empty, blank, System.play, RegisterPlugin.system,
          RegisterPlugin.step, RegisterPlugin.begin, RegisterPlugin.act, free, Operation.call, Shows, services, metas,
          RegisterPlugin.errUnregister, consul]
      · refine ⟨{ plugin with connected := true }.forget name, none,
          .call (.unregister name) :: List.replicate 6 .act, ?_⟩
        simp [Operation.run, ConsulRegisterPlugin.unregister, empty, blank, prepare_of_no_errors sound, attempt,
          System.play, RegisterPlugin.system, RegisterPlugin.step, RegisterPlugin.begin, RegisterPlugin.act,
          RegisterPlugin.unregister, RegisterPlugin.put, RegisterPlugin.delete, free, Operation.call, Shows, services,
          metas, List.replicate]

end ConsulRegisterPlugin

end Irpc.ServerPlugin
