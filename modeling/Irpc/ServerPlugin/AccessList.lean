import Irpc.Server.ServeListener

/-! The plugins that know the addresses they let in or keep out, and the ways by which `Serve`
comes to connections. `ServeListener` asks the plugins. The HTTP server, which the networks
`http`, `ws` and `wss` have instead, does not. -/
namespace Irpc.ServerPlugin

open Irpc.Foundation Irpc.Server

/-- What is known of the remote addresses of connections. -/
structure Remote (Conn Mask : Type) where
  /-- The host of the remote address, unless `SplitHostPort` reports an error. -/
  host : Conn → Option Bytes
  /-- `Contains` of a mask, for what `ParseIP` makes of a host. -/
  contains : Mask → Bytes → Bool

/-- The fields of a `BlacklistPlugin`, or those of a `WhitelistPlugin`. -/
structure AccessList (Mask : Type) where
  addresses : Bytes → Bool
  masks : List Mask

variable {Conn Mask : Type} (remote : Remote Conn Mask)

namespace AccessList

/-- `HandleConnAccept` of either plugin, with its verdict on an address that is listed. -/
def handleConnAccept (listed : Bool) (plugin : AccessList Mask) (conn : Conn) : Conn × Bool :=
  match remote.host conn with
  | none => (conn, !listed)
  | some ip =>
    if plugin.addresses ip then (conn, listed)
    else if plugin.masks.any fun mask => remote.contains mask ip then (conn, listed)
    else (conn, !listed)

def Lists (plugin : AccessList Mask) (ip : Bytes) : Prop :=
  plugin.addresses ip = true ∨ ∃ mask ∈ plugin.masks, remote.contains mask ip = true

/-- The address of the connection is known and listed. -/
def Matches (plugin : AccessList Mask) (conn : Conn) : Prop := ∃ ip ∈ remote.host conn, plugin.Lists remote ip

theorem matches_congr {plugin : AccessList Mask} {conn next : Conn} (same : remote.host next = remote.host conn) :
    plugin.Matches remote next ↔ plugin.Matches remote conn := by
  rw [Matches, Matches, same]

/-- The plugin keeps the connection, and its verdict depends on the list only. -/
theorem handleConnAccept_eq (listed : Bool) (plugin : AccessList Mask) (conn : Conn) :
    (handleConnAccept remote listed plugin conn).1 = conn ∧
      ((handleConnAccept remote listed plugin conn).2 = listed ↔ plugin.Matches remote conn) := by
  unfold handleConnAccept Matches
  cases known : remote.host conn with
  | none => simp
  | some ip =>
    simp only [Option.mem_def, Option.some.injEq, exists_eq_left', Lists]
    split
    case isTrue named => simp [named]
    case isFalse other =>
      split
      case isTrue masked => exact ⟨rfl, iff_of_true rfl (.inr (List.any_eq_true.mp masked))⟩
      case isFalse outside =>
        have unlisted : ¬ ∃ mask ∈ plugin.masks, remote.contains mask ip = true := by simpa using outside
        simp [other, unlisted]

end AccessList

def BlacklistPlugin.handleConnAccept (plugin : AccessList Mask) : Conn → Conn × Bool :=
  plugin.handleConnAccept remote false

def WhitelistPlugin.handleConnAccept (plugin : AccessList Mask) : Conn → Conn × Bool :=
  plugin.handleConnAccept remote true

/-- A plugin that handles accepted connections. -/
inductive AcceptPlugin (Conn Mask : Type) where
  | blacklist (plugin : AccessList Mask)
  | whitelist (plugin : AccessList Mask)
  | other (handle : Conn → Conn × Bool)

namespace AcceptPlugin

def handleConnAccept : AcceptPlugin Conn Mask → Conn → Conn × Bool
  | .blacklist plugin => BlacklistPlugin.handleConnAccept remote plugin
  | .whitelist plugin => WhitelistPlugin.handleConnAccept remote plugin
  | .other handle => handle

def Permits : AcceptPlugin Conn Mask → Conn → Prop
  | .blacklist plugin, conn => ¬ plugin.Matches remote conn
  | .whitelist plugin, conn => plugin.Matches remote conn
  | .other _, _ => True

/-- A connection that another plugin gives back has the address of the one it was given. -/
def KeepsHost : AcceptPlugin Conn Mask → Prop
  | .other handle => ∀ conn, remote.host (handle conn).1 = remote.host conn
  | _ => True

variable {remote} {plugin : AcceptPlugin Conn Mask} {conn next : Conn}

theorem Permits.congr (permits : plugin.Permits remote conn) (same : remote.host next = remote.host conn) :
    plugin.Permits remote next := by
  cases plugin with
  | blacklist list => exact fun found => permits ((AccessList.matches_congr remote same).mp found)
  | whitelist list => exact (AccessList.matches_congr remote same).mpr permits
  | other handle => trivial

theorem host_handleConnAccept (keeps : plugin.KeepsHost remote) (conn : Conn) :
    remote.host (plugin.handleConnAccept remote conn).1 = remote.host conn := by
  cases plugin with
  | blacklist list => exact congrArg remote.host (list.handleConnAccept_eq remote false conn).1
  | whitelist list => exact congrArg remote.host (list.handleConnAccept_eq remote true conn).1
  | other handle => exact keeps conn

theorem permits_of_accepted (accepted : (plugin.handleConnAccept remote conn).2 = true) :
    plugin.Permits remote conn := by
  cases plugin with
  | blacklist list =>
    intro found
    have refused := (list.handleConnAccept_eq remote false conn).2.mpr found
    exact absurd (accepted.symm.trans refused) Bool.noConfusion
  | whitelist list => exact (list.handleConnAccept_eq remote true conn).2.mp accepted
  | other handle => trivial

end AcceptPlugin

def Permitted (plugins : List (AcceptPlugin Conn Mask)) (conn : Conn) : Prop :=
  ∀ plugin ∈ plugins, plugin.Permits remote conn

/-- What comes through `DoPostConnAccept` is permitted by all plugins, wherever they stand. -/
theorem permitted_doPostConnAccept {plugins : List (AcceptPlugin Conn Mask)}
    (keeps : ∀ plugin ∈ plugins, plugin.KeepsHost remote) {conn : Conn}
    (accepted : (doPostConnAccept (plugins.map (·.handleConnAccept remote)) conn).2 = true) :
    remote.host (doPostConnAccept (plugins.map (·.handleConnAccept remote)) conn).1 = remote.host conn ∧
      Permitted remote plugins (doPostConnAccept (plugins.map (·.handleConnAccept remote)) conn).1 := by
  induction plugins generalizing conn with
  | nil => exact ⟨rfl, List.forall_mem_nil _⟩
  | cons plugin rest ih =>
    obtain ⟨first, others⟩ := List.forall_mem_cons.mp keeps
    rw [List.map_cons, doPostConnAccept] at accepted ⊢
    split at accepted
    case isFalse => cases accepted
    case isTrue letIn =>
      rw [if_pos letIn]
      obtain ⟨same, permitted⟩ := ih others accepted
      have whole := same.trans (plugin.host_handleConnAccept first conn)
      exact ⟨whole, List.forall_mem_cons.mpr ⟨(plugin.permits_of_accepted letIn).congr whole, permitted⟩⟩

namespace Serving

/-- `Serve` starts an HTTP server for these networks. -/
def ByHTTP (network : Bytes) : Prop := network = utf8 "http" ∨ network = utf8 "ws" ∨ network = utf8 "wss"

instance (network : Bytes) : Decidable (ByHTTP network) := inferInstanceAs (Decidable (_ ∨ _ ∨ _))

/-- The connection is recorded, and `serveConn` started for it. -/
def start (conn : Conn) (listener : Listener Conn) : Listener Conn :=
  { listener with activeConn := conn :: listener.activeConn, served := conn :: listener.served }

/-- `ServeHTTP` for a request and the result of `Hijack`, and what it writes. -/
def serveHTTP (method : Bytes) (hijacked : Except GoError Conn) (listener : Listener Conn) : Listener Conn × Bytes :=
  if method ≠ utf8 "CONNECT" then (listener, utf8 "405 must CONNECT\n")
  else
    match hijacked with
    | .error _ => (listener, [])
    | .ok conn => (start conn listener, utf8 "HTTP/1.0 200 Connected to irpc\n\n")

def serveWS (conn : Conn) (listener : Listener Conn) : Listener Conn := start conn listener

inductive Event (Conn : Type) where
  /-- The loop of `ServeListener`. -/
  | listener (event : Listener.Event Conn)
  /-- The HTTP server calls `ServeHTTP`. -/
  | request (method : Bytes) (hijacked : Except GoError Conn)
  /-- It calls `ServeWS`. -/
  | webSocket (conn : Conn)

def step (network : Bytes) (plugins : List (AcceptPlugin Conn Mask)) (isTLS : Conn → Bool)
    (listener : Listener Conn) : Event Conn → Option (Listener Conn)
  | .listener event =>
    if ByHTTP network then none else listener.step (plugins.map (·.handleConnAccept remote)) isTLS event
  | .request method hijacked =>
    if network = utf8 "http" then some (serveHTTP method hijacked listener).1 else none
  | .webSocket conn =>
    if network = utf8 "ws" ∨ network = utf8 "wss" then some (serveWS conn listener) else none

def system (network : Bytes) (plugins : List (AcceptPlugin Conn Mask)) (isTLS : Conn → Bool) :
    System (Listener Conn) (Event Conn) where
  initial listener := listener = .started
  step := step remote network plugins isTLS

/-- Nobody is served whom a list keeps out. -/
def Enforced (plugins : List (AcceptPlugin Conn Mask)) (listener : Listener Conn) : Prop :=
  ∀ conn ∈ listener.served, Permitted remote plugins conn

variable {remote} {network : Bytes} {plugins : List (AcceptPlugin Conn Mask)} {isTLS : Conn → Bool}
  {listener after : Listener Conn}

/-- The loop starts `serveConn` for no other connections than those the plugins let in. -/
theorem enforced_listener_step (keeps : ∀ plugin ∈ plugins, plugin.KeepsHost remote) {event : Listener.Event Conn}
    (enforced : Enforced remote plugins listener)
    (moved : listener.step (plugins.map (·.handleConnAccept remote)) isTLS event = some after) :
    Enforced remote plugins after := by
  cases Listener.moves_of_step moved with
  | connect accepting =>
    unfold Listener.connect
    dsimp only
    split
    case isTrue accepted =>
      split
      · exact enforced
      · exact List.forall_mem_cons.mpr ⟨(permitted_doPostConnAccept remote keeps accepted).2, enforced⟩
    case isFalse => exact enforced
  | fail accepting =>
    unfold Listener.fail
    split
    · exact enforced
    · split
      · exact enforced
      · split <;> exact enforced
  | shutdown => exact enforced
  | done waiting => exact enforced

theorem enforced_of_reachable (keeps : ∀ plugin ∈ plugins, plugin.KeepsHost remote) (direct : ¬ ByHTTP network)
    (reachable : (system remote network plugins isTLS).Reachable listener) :
    Enforced remote plugins listener := by
  refine reachable.invariant ?_ ?_
  · rintro _ rfl
    exact List.forall_mem_nil _
  · intro listener event after enforced _ moved
    cases event with
    | listener event =>
      obtain ⟨-, moved⟩ := Option.ite_none_left_eq_some.mp moved
      exact enforced_listener_step keeps enforced moved
    | request method hijacked =>
      obtain ⟨http, -⟩ := Option.ite_none_right_eq_some.mp moved
      exact absurd (.inl http) direct
    | webSocket conn =>
      obtain ⟨ws, -⟩ := Option.ite_none_right_eq_some.mp moved
      exact absurd (.inr ws) direct

/-- The HTTP server brings any connection to `serveConn`. -/
theorem exists_served_of_byHTTP (remote : Remote Conn Mask) (plugins : List (AcceptPlugin Conn Mask))
    (isTLS : Conn → Bool) (byHTTP : ByHTTP network) (conn : Conn) :
    ∃ listener, (system remote network plugins isTLS).Reachable listener ∧ conn ∈ listener.served := by
  have started : (system remote network plugins isTLS).Reachable .started := .start rfl
  rcases byHTTP with http | ws
  · have upgraded : (system remote network plugins isTLS).step .started (.request (utf8 "CONNECT") (.ok conn)) =
        some (serveHTTP (utf8 "CONNECT") (.ok conn) .started).1 := if_pos http
    exact ⟨_, started.step _ trivial upgraded, List.mem_cons_self⟩
  · have upgraded : (system remote network plugins isTLS).step .started (.webSocket conn) =
        some (serveWS conn .started) := if_pos ws
    exact ⟨_, started.step _ trivial upgraded, List.mem_cons_self⟩

/-- The lists hold for every connection of every run, in any order and beside any plugins that
keep the addresses, exactly if the network is not one of those served by the HTTP server, or
the lists keep nobody out. -/
theorem lists_enforced_iff (keeps : ∀ plugin ∈ plugins, plugin.KeepsHost remote) :
    (∀ listener, (system remote network plugins isTLS).Reachable listener → Enforced remote plugins listener) ↔
      ¬ ByHTTP network ∨ ∀ conn, Permitted remote plugins conn := by
  constructor
  · intro enforced
    by_cases byHTTP : ByHTTP network
    · refine .inr fun conn => ?_
      obtain ⟨listener, reachable, served⟩ := exists_served_of_byHTTP remote plugins isTLS byHTTP conn
      exact enforced listener reachable conn served
    · exact .inl byHTTP
  · rintro (direct | everybody) listener reachable
    · exact enforced_of_reachable keeps direct reachable
    · exact fun conn _ => everybody conn

def numbered : Remote UInt8 Unit := ⟨fun conn => some [conn], fun _ _ => false⟩

def withoutSeven : List (AcceptPlugin UInt8 Unit) := [.blacklist ⟨fun ip => ip == [7], []⟩]

theorem lists_enforced_seven :
    (∀ listener, (system numbered (utf8 "tcp") withoutSeven fun _ => false).Reachable listener →
      Enforced numbered withoutSeven listener) ∧
    ¬ ∀ listener, (system numbered (utf8 "http") withoutSeven fun _ => false).Reachable listener →
      Enforced numbered withoutSeven listener := by
  have keeps : ∀ plugin ∈ withoutSeven, plugin.KeepsHost numbered := List.forall_mem_singleton.mpr trivial
  have kept : ¬ Permitted numbered withoutSeven 7 := by
    intro permitted
    exact permitted _ (List.mem_singleton_self _) ⟨[7], rfl, .inl rfl⟩
  refine ⟨(lists_enforced_iff keeps).mpr (.inl (by decide)), fun enforced => ?_⟩
  rcases (lists_enforced_iff keeps).mp enforced with direct | everybody
  · exact direct (.inl rfl)
  · exact kept (everybody 7)

end Serving

end Irpc.ServerPlugin
