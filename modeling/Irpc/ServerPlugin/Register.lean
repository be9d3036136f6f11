import Irpc.Errors
import Irpc.Foundation.System

/-! The plugins that keep a server's services in a registry: a key-value store whose nodes
expire, and a goroutine that refreshes them at every tick. -/
namespace Irpc.ServerPlugin

open Irpc.Foundation

inductive Registry where
  | consul
  | zooKeeper
  | redis
  deriving DecidableEq

/-- Take one leading slash off, which panics on an empty path. The plugin for Redis does not. -/
def stripSlash (registry : Registry) (basePath : Bytes) : Option Bytes :=
  match registry, basePath with
  | .redis, basePath => some basePath
  | _, [] => none
  | _, first :: rest => some (if first = 47 then rest else first :: rest)

/-- A plugin that was started. Every method strips the path again, which has no effect any more. -/
structure RegisterPlugin where
  registry : Registry
  serviceAddress : Bytes
  basePath : Bytes
  stripped : stripSlash registry basePath = some basePath
  /-- `UpdateInterval` is positive, and the goroutine was started. -/
  updating : Bool

/-- `strings.TrimSpace` leaves nothing. -/
def isBlank : Bytes → Bool
  | [] => true
  | first :: rest =>
    if 9 ≤ first ∧ first ≤ 13 ∨ first = 32 then isBlank rest
    else if first = 0xC2 then
      match rest with
      | second :: rest => (second = 0x85 ∨ second = 0xA0) && isBlank rest
      | [] => false
    else
      match rest with
      | second :: third :: rest =>
        (first = 0xE1 ∧ second = 0x9A ∧ third = 0x80 ∨
          first = 0xE2 ∧ second = 0x80 ∧ (0x80 ≤ third ∧ third ≤ 0x8A ∨ third = 0xA8 ∨ third = 0xA9 ∨ third = 0xAF) ∨
          first = 0xE2 ∧ second = 0x81 ∧ third = 0x9F ∨ first = 0xE3 ∧ second = 0x80 ∧ third = 0x80) && isBlank rest
      | _ => false

inductive Call where
  | register (name metadata : Bytes)
  | unregister (name : Bytes)
  | stop
  deriving DecidableEq

inductive RegisterStep where
  | putBase
  | putDir
  /-- ZooKeeper creates a node only if there is none. -/
  | deleteFirst
  | putNode
  | appendService
  | setMeta

inductive UnregisterStep where
  | putBase
  | putDir
  | deleteNode
  | filterServices
  | deleteMeta

/-- The one who calls the plugin's methods. `Services` is not protected, so there is one call at
a time. -/
inductive Caller where
  | free
  | registering (name metadata : Bytes) (next : RegisterStep)
  | unregistering (name : Bytes) (next : UnregisterStep)
  /-- `Stop` looks for the nodes that are left. -/
  | stopping (pending : List Bytes)
  | deleting (name : Bytes) (pending : List Bytes)
  /-- `Stop` waits for the goroutine. -/
  | awaiting
  | returning (call : Call) (err : Option GoError)

/-- The goroutine, with the names it has still to refresh at this tick. -/
inductive Ticker where
  | absent
  | waiting
  | fetching (pending : List Bytes)
  /-- There was no node, and the service's metadata are looked up. -/
  | missing (name : Bytes) (pending : List Bytes)
  | putting (name value : Bytes) (pending : List Bytes)
  | ended

def Ticker.names : Ticker → List Bytes
  | .absent | .waiting | .ended => []
  | .fetching pending => pending
  | .missing name pending | .putting name _ pending => name :: pending

namespace RegisterPlugin

structure State where
  store : Bytes → Option Bytes
  services : List Bytes
  metas : Bytes → Option Bytes
  caller : Caller
  ticker : Ticker
  dying : Bool
  done : Bool
  results : List (Call × Option GoError)
  /-- The names that were unregistered, or stopped, and not registered again. -/
  gone : List Bytes

inductive Event where
  | call (call : Call)
  /-- The caller's next step. -/
  | act
  | tick
  | die
  /-- The goroutine's next step. A node that was there is put back with the server's metrics. -/
  | refresh (encoded : Bytes)
  /-- A node's time to live is over. -/
  | expire (path : Bytes)

variable (plugin : RegisterPlugin)

def dirPath (name : Bytes) : Bytes := plugin.basePath ++ 47 :: name

def nodePath (name : Bytes) : Bytes := plugin.basePath ++ 47 :: (name ++ 47 :: plugin.serviceAddress)

def errRegister : GoError := .plain (utf8 "register service `name` can't be empty")

def errUnregister : GoError := .plain (match plugin.registry with
  | .consul => utf8 "unregister service `name` can't be empty"
  | .zooKeeper => utf8 "Register service `name` can't be empty"
  | .redis => utf8 "register service `name` can't be empty")

def put (state : State) (path value : Bytes) : State :=
  { state with store := Function.update state.store path (some value) }

def delete (state : State) (path : Bytes) : State := { state with store := Function.update state.store path none }

def begin (state : State) : Call → State
  | .register name metadata =>
    if isBlank name then { state with caller := .returning (.register name metadata) (some errRegister) }
    else { state with
      caller := .registering name metadata .putBase, gone := state.gone.filter fun other => other ≠ name }
  | .unregister name =>
    if state.services = [] then { state with caller := .returning (.unregister name) none }
    else if isBlank name then { state with caller := .returning (.unregister name) (some plugin.errUnregister) }
    else { state with caller := .unregistering name .putBase }
  | .stop => { state with caller := .stopping state.services }

/-- Only runs without errors of the store go on: a node that is there cannot be created. -/
def register (state : State) (name metadata : Bytes) : RegisterStep → Option State
  | .putBase => some { put state plugin.basePath (utf8 "irpc_path") with caller := .registering name metadata .putDir }
  | .putDir => some { put state (plugin.dirPath name) name with
      caller := .registering name metadata (if plugin.registry = .zooKeeper then .deleteFirst else .putNode) }
  | .deleteFirst => some { delete state (plugin.nodePath name) with caller := .registering name metadata .putNode }
  | .putNode =>
    if plugin.registry = .zooKeeper ∧ state.store (plugin.nodePath name) ≠ none then none
    else some { put state (plugin.nodePath name) metadata with caller := .registering name metadata .appendService }
  | .appendService => some { state with
      services := state.services ++ [name], caller := .registering name metadata .setMeta }
  | .setMeta => some { state with
      metas := Function.update state.metas name (some metadata), caller := .returning (.register name metadata) none }

def unregister (state : State) (name : Bytes) : UnregisterStep → State
  | .putBase => { put state plugin.basePath (utf8 "irpc_path") with caller := .unregistering name .putDir }
  | .putDir => { put state (plugin.dirPath name) name with caller := .unregistering name .deleteNode }
  | .deleteNode => { delete state (plugin.nodePath name) with caller := .unregistering name .filterServices }
  | .filterServices => { state with
      services := state.services.filter fun service => service ≠ name, caller := .unregistering name .deleteMeta }
  | .deleteMeta => { state with
      metas := Function.update state.metas name none, caller := .returning (.unregister name) none }

/-- The names a call was to remove from the registry. -/
def removedBy (services : List Bytes) : Call → List Bytes
  | .register _ _ => []
  | .unregister name => [name]
  | .stop => services

def act (state : State) : Option State :=
  match state.caller with
  | .free => none
  | .registering name metadata next => plugin.register state name metadata next
  | .unregistering name next => some (plugin.unregister state name next)
  | .stopping (name :: pending) =>
    if state.store (plugin.nodePath name) = none then some { state with caller := .stopping pending }
    else some { state with caller := .deleting name pending }
  | .deleting name pending => some { delete state (plugin.nodePath name) with caller := .stopping pending }
  | .stopping [] =>
    -- The channel is closed already if the plugin was stopped before, and closing it again panics.
    if state.dying then some { state with caller := .free } else some { state with dying := true, caller := .awaiting }
  | .awaiting => if state.done then some { state with caller := .returning .stop none } else none
  | .returning call err => some { state with
      caller := .free, results := (call, err) :: state.results, gone := removedBy state.services call ++ state.gone }

def refresh (state : State) (encoded : Bytes) : Option State :=
  match state.ticker with
  | .fetching [] => some { state with ticker := .waiting }
  | .fetching (name :: pending) =>
    if state.store (plugin.nodePath name) = none then some { state with ticker := .missing name pending }
    else some { state with ticker := .putting name encoded pending }
  | .missing name pending => some { state with ticker := .putting name ((state.metas name).getD []) pending }
  | .putting name value pending => some { put state (plugin.nodePath name) value with ticker := .fetching pending }
  | _ => none

def step (state : State) : Event → Option State
  | .call call =>
    match state.caller with
    | .free => some (plugin.begin state call)
    | _ => none
  | .act => plugin.act state
  | .tick =>
    match state.ticker with
    | .waiting => some { state with ticker := .fetching state.services }
    | _ => none
  | .die =>
    match state.ticker with
    | .waiting => if state.dying then some { state with ticker := .ended, done := true } else none
    | _ => none
  | .refresh encoded => plugin.refresh state encoded
  | .expire path => some (delete state path)

/-- The store may hold anything when `Start` puts the base path. -/
def start (store : Bytes → Option Bytes) : State where
  store := Function.update store plugin.basePath (some (utf8 "irpc_path"))
  services := []
  metas _ := none
  caller := .free
  ticker := if plugin.updating then .waiting else .absent
  dying := false
  done := false
  results := []
  gone := []

def system : System State Event := ⟨fun state => ∃ store, state = plugin.start store, plugin.step⟩

end RegisterPlugin

end Irpc.ServerPlugin
