import Irpc.Server.ServeConn

/-! The life of a server: `serveConn` for each connection in `activeConn`, the goroutines
of the requests that were read, and `Close` and `Shutdown` beside them. The steps are
those between which another goroutine can be scheduled. -/
namespace Irpc.Server

open Irpc.Foundation Irpc.Protocol

variable {Value : Type}

/-- How far the handling of a request has come. -/
inductive Progress where
  /-- The request was read, and nobody counts it. -/
  | read
  /-- Its goroutine has incremented `handlerMsgNum`. -/
  | running
  /-- `writeResponse` is over. -/
  | replied
  | finished
  deriving DecidableEq

structure Job where
  request : Request
  handling : Handling
  progress : Progress
  /-- The response is in the channel. -/
  queued : Bool
  written : List Message

inductive Serving where
  | accepted
  /-- Before it looks whether the server shuts down. -/
  | top
  | reading
  /-- The loop itself responds to the request it has read last. -/
  | answering (continues : Bool)
  | returned
  /-- The shutdown is waited for. -/
  | waiting
  | leaving
  | ended
  deriving DecidableEq

/-- What the loop does after it has read a request. -/
def Handling.serving : Handling → Serving
  | .inLoop _ continues => .answering continues
  | .dispatched _ => .top

def Handling.isDispatched : Handling → Bool
  | .inLoop .. => false
  | .dispatched _ => true

namespace Job

def new (server : Server Value) (request : Request) : Job :=
  ⟨request, server.handle request, .read, false, []⟩

/-- `writeResponse`. Sending to the channel when it is closed panics, and the response
is lost. -/
def submit (job : Job) (asyncWrite channelOpen isOpen : Bool) : Job :=
  if asyncWrite then { job with queued := channelOpen && job.handling.response.isSome }
  else { job with written := job.written ++ if isOpen then job.handling.response.toList else [] }

/-- `serveAsyncWrite` takes the response out of the channel. -/
def flush (job : Job) (isOpen : Bool) : Job :=
  { job with
    queued := false
    written := job.written ++ if isOpen then job.handling.response.toList else [] }

end Job

structure Link where
  serving : Serving
  /-- The connection is in `activeConn`. -/
  active : Bool
  isOpen : Bool
  /-- The channel of responses, which there is with `AsyncWrite` only. -/
  channelOpen : Bool
  /-- `serveAsyncWrite` runs. -/
  writing : Bool
  /-- The requests that were read, the last one first. -/
  jobs : List Job
  /-- The calls of `DoPostConnClose` with this connection. -/
  hooks : Nat
  /-- `Close` or `Shutdown` found the connection in `activeConn`. -/
  removed : Bool

namespace Link

/-- `setActiveConn`, and the goroutine of `serveConn` starts. -/
def new : Link := ⟨.accepted, true, true, true, true, [], 0, false⟩

def closeConn (link : Link) : Link :=
  { link with serving := .ended, active := false, isOpen := false, hooks := link.hooks + 1 }

/-- What `Close` and `Shutdown` do with each connection in `activeConn`. -/
def remove (link : Link) : Link :=
  if link.active then
    { link with active := false, isOpen := false, hooks := link.hooks + 1, removed := true }
  else link

/-- The channel holds one response while it is open. -/
def accepts (link : Link) (asyncWrite : Bool) (job : Job) : Bool :=
  !asyncWrite || job.handling.response.isNone || !link.channelOpen || link.jobs.all fun job => !job.queued

inductive Event where
  | begin
  | next
  | read (request : Request)
  | answer
  /-- Reading fails, or a plugin refuses to read. -/
  | stop
  | closeChannel
  | leave
  | closeConn
  /-- The goroutine of a request increments `handlerMsgNum`. -/
  | start (index : Nat)
  | reply (index : Nat)
  /-- It decrements `handlerMsgNum` and ends. -/
  | finish (index : Nat)
  | flush (index : Nat)
  | stopWriter

def setJob (link : Link) (index : Nat) (job : Job) : Link := { link with jobs := link.jobs.set index job }

/-- The flags of the server that a connection sees. -/
structure Flags where
  inShutdown : Bool
  /-- `doneChan` is closed. -/
  done : Bool

def step (server : Server Value) (asyncWrite : Bool) (flags : Flags) (link : Link) : Event → Option Link
  | .begin =>
    if link.serving = .accepted then
      some (if flags.inShutdown then link.closeConn else { link with serving := .top })
    else none
  | .next =>
    if link.serving = .top then
      some { link with serving := if flags.inShutdown then .returned else .reading }
    else none
  | .read request =>
    if link.serving = .reading ∧ link.isOpen then
      some { link with
        serving := (server.handle request).serving
        jobs := Job.new server request :: link.jobs }
    else none
  | .answer =>
    match link.serving, link.jobs[0]? with
    | .answering continues, some job =>
      -- The loop closes the channel only after it has returned.
      if job.progress = .read ∧ link.accepts asyncWrite job then
        some { link.setJob 0 { job.submit asyncWrite true link.isOpen with progress := .finished } with
          serving := if continues then .top else .returned }
      else none
    | _, _ => none
  | .stop => if link.serving = .reading then some { link with serving := .returned } else none
  | .closeChannel =>
    if link.serving = .returned ∧ link.channelOpen then some { link with channelOpen := false } else none
  | .leave =>
    if link.serving = .returned ∧ link.channelOpen = false then
      some { link with serving := if flags.inShutdown then .waiting else .leaving }
    else none
  | .closeConn =>
    if link.serving = .leaving ∨ link.serving = .waiting ∧ flags.done then some link.closeConn else none
  | .start index =>
    match link.jobs[index]? with
    | some job =>
      if job.progress = .read ∧ job.handling.isDispatched then
        some (link.setJob index { job with progress := .running })
      else none
    | none => none
  | .reply index =>
    match link.jobs[index]? with
    | some job =>
      if job.progress = .running ∧ link.accepts asyncWrite job then
        some (link.setJob index
          { job.submit asyncWrite link.channelOpen link.isOpen with progress := .replied })
      else none
    | none => none
  | .finish index =>
    match link.jobs[index]? with
    | some job =>
      if job.progress = .replied then some (link.setJob index { job with progress := .finished }) else none
    | none => none
  | .flush index =>
    match link.jobs[index]? with
    | some job =>
      if job.queued ∧ link.writing then some (link.setJob index (job.flush link.isOpen)) else none
    | none => none
  | .stopWriter =>
    if link.writing ∧ (flags.done ∨ link.channelOpen = false ∧ link.jobs.all fun job => !job.queued) then
      some { link with writing := false }
    else none

/-- Everything `serveConn` and the goroutines it starts can do. -/
inductive Moves (server : Server Value) (asyncWrite : Bool) (flags : Flags) (link : Link) :
    Event → Link → Prop where
  | refuse (accepted : link.serving = .accepted) : Moves server asyncWrite flags link .begin link.closeConn
  | begin (accepted : link.serving = .accepted) :
      Moves server asyncWrite flags link .begin { link with serving := .top }
  | next (top : link.serving = .top) : Moves server asyncWrite flags link .next
      { link with serving := if flags.inShutdown then .returned else .reading }
  | read (reading : link.serving = .reading) (isOpen : link.isOpen = true) :
      Moves server asyncWrite flags link (.read request)
        { link with
          serving := (server.handle request).serving
          jobs := Job.new server request :: link.jobs }
  | answer (answering : link.serving = .answering continues) (found : link.jobs[0]? = some job)
      (unanswered : job.progress = .read) :
      Moves server asyncWrite flags link .answer
        { link.setJob 0 { job.submit asyncWrite true link.isOpen with progress := .finished } with
          serving := if continues then .top else .returned }
  | stop (reading : link.serving = .reading) :
      Moves server asyncWrite flags link .stop { link with serving := .returned }
  | closeChannel (returned : link.serving = .returned) :
      Moves server asyncWrite flags link .closeChannel { link with channelOpen := false }
  | leave (returned : link.serving = .returned) : Moves server asyncWrite flags link .leave
      { link with serving := if flags.inShutdown then .waiting else .leaving }
  | closeConn (out : link.serving = .leaving ∨ link.serving = .waiting) :
      Moves server asyncWrite flags link .closeConn link.closeConn
  | start (found : link.jobs[index]? = some job) (unanswered : job.progress = .read)
      (dispatched : job.handling.isDispatched = true) :
      Moves server asyncWrite flags link (.start index) (link.setJob index { job with progress := .running })
  | reply (found : link.jobs[index]? = some job) (running : job.progress = .running) :
      Moves server asyncWrite flags link (.reply index) (link.setJob index
        { job.submit asyncWrite link.channelOpen link.isOpen with progress := .replied })
  | finish (found : link.jobs[index]? = some job) (replied : job.progress = .replied) :
      Moves server asyncWrite flags link (.finish index) (link.setJob index { job with progress := .finished })
  | flush (found : link.jobs[index]? = some job) (queued : job.queued = true) :
      Moves server asyncWrite flags link (.flush index) (link.setJob index (job.flush link.isOpen))
  | stopWriter : Moves server asyncWrite flags link .stopWriter { link with writing := false }

variable {server : Server Value} {asyncWrite : Bool} {flags : Flags} {link after : Link} {event : Event}

theorem moves_of_step (moved : link.step server asyncWrite flags event = some after) :
    Moves server asyncWrite flags link event after := by
  cases event with
  | begin =>
    obtain ⟨accepted, ⟨⟩⟩ := Option.ite_none_right_eq_some.mp moved
    split
    · exact .refuse accepted
    · exact .begin accepted
  | next =>
    obtain ⟨top, ⟨⟩⟩ := Option.ite_none_right_eq_some.mp moved
    exact .next top
  | read request =>
    obtain ⟨⟨reading, isOpen⟩, ⟨⟩⟩ := Option.ite_none_right_eq_some.mp moved
    exact .read reading isOpen
  | answer =>
    dsimp only [step] at moved
    split at moved
    case h_1 continues job answering found =>
      obtain ⟨⟨unanswered, _⟩, ⟨⟩⟩ := Option.ite_none_right_eq_some.mp moved
      exact .answer answering found unanswered
    case h_2 => cases moved
  | stop =>
    obtain ⟨reading, ⟨⟩⟩ := Option.ite_none_right_eq_some.mp moved
    exact .stop reading
  | closeChannel =>
    obtain ⟨⟨returned, _⟩, ⟨⟩⟩ := Option.ite_none_right_eq_some.mp moved
    exact .closeChannel returned
  | leave =>
    obtain ⟨⟨returned, _⟩, ⟨⟩⟩ := Option.ite_none_right_eq_some.mp moved
    exact .leave returned
  | closeConn =>
    obtain ⟨out, ⟨⟩⟩ := Option.ite_none_right_eq_some.mp moved
    exact .closeConn (out.imp id And.left)
  | start index =>
    dsimp only [step] at moved
    split at moved
    case h_1 job found =>
      obtain ⟨⟨unanswered, dispatched⟩, ⟨⟩⟩ := Option.ite_none_right_eq_some.mp moved
      exact .start found unanswered dispatched
    case h_2 => cases moved
  | reply index =>
    dsimp only [step] at moved
    split at moved
    case h_1 job found =>
      obtain ⟨⟨running, _⟩, ⟨⟩⟩ := Option.ite_none_right_eq_some.mp moved
      exact .reply found running
    case h_2 => cases moved
  | finish index =>
    dsimp only [step] at moved
    split at moved
    case h_1 job found =>
      obtain ⟨replied, ⟨⟩⟩ := Option.ite_none_right_eq_some.mp moved
      exact .finish found replied
    case h_2 => cases moved
  | flush index =>
    dsimp only [step] at moved
    split at moved
    case h_1 job found =>
      obtain ⟨⟨queued, _⟩, ⟨⟩⟩ := Option.ite_none_right_eq_some.mp moved
      exact .flush found queued
    case h_2 => cases moved
  | stopWriter =>
    obtain ⟨_, ⟨⟩⟩ := Option.ite_none_right_eq_some.mp moved
    exact .stopWriter

end Link

inductive Phase where
  | idle
  /-- It waits for `handlerMsgNum` to become zero. -/
  | polling
  | closing (expired : Bool)
  | returned (expired : Bool)
  deriving DecidableEq

structure Host where
  links : List Link
  handlerMsgNum : Nat
  phase : Phase
  /-- `doneChan` is closed. -/
  done : Bool

/-- The value of `handlerMsgNum` after a step of a connection. -/
def Link.Event.count : Link.Event → Nat → Nat
  | .start _, num => num + 1
  | .finish _, num => num - 1
  | _, num => num

namespace Host

def idle : Host := ⟨[], 0, .idle, false⟩

def flags (host : Host) : Link.Flags := ⟨host.phase != .idle, host.done⟩

inductive Event where
  | accept
  | link (index : Nat) (event : Link.Event)
  /-- `Shutdown` sets `inShutdown`, and closes the listener and the reading side of the
  connections. -/
  | shutdown
  /-- `checkProcessMsg`. -/
  | check
  | expire
  /-- `Shutdown` closes the connections that are left. -/
  | closeAll
  | close

def removeAll (host : Host) : Host := { host with links := host.links.map Link.remove, done := true }

def step (server : Server Value) (asyncWrite : Bool) (host : Host) : Event → Option Host
  | .accept => some { host with links := host.links ++ [.new] }
  | .link index event =>
    match host.links[index]? with
    | some link => (link.step server asyncWrite host.flags event).map fun after =>
        { host with links := host.links.set index after, handlerMsgNum := event.count host.handlerMsgNum }
    | none => none
  | .shutdown => if host.phase = .idle then some { host with phase := .polling } else none
  | .check =>
    if host.phase = .polling then
      some (if host.handlerMsgNum = 0 then { host with phase := .closing false } else host)
    else none
  | .expire => if host.phase = .polling then some { host with phase := .closing true } else none
  | .closeAll =>
    match host.phase with
    | .closing expired => some { host.removeAll with phase := .returned expired }
    | _ => none
  | .close => some host.removeAll

def system (server : Server Value) (asyncWrite : Bool) : System Host Event where
  initial host := host = idle
  step := step server asyncWrite

/-- Everything a step can do, with what it needs. -/
inductive Moves (server : Server Value) (asyncWrite : Bool) (host : Host) : Event → Host → Prop where
  | accept : Moves server asyncWrite host .accept { host with links := host.links ++ [.new] }
  | link (found : host.links[index]? = some link)
      (moves : link.Moves server asyncWrite host.flags event after) :
      Moves server asyncWrite host (.link index event)
        { host with links := host.links.set index after, handlerMsgNum := event.count host.handlerMsgNum }
  | shutdown (idle : host.phase = .idle) :
      Moves server asyncWrite host .shutdown { host with phase := .polling }
  | idleCheck (polling : host.phase = .polling) (none : host.handlerMsgNum = 0) :
      Moves server asyncWrite host .check { host with phase := .closing false }
  | busyCheck : Moves server asyncWrite host .check host
  | expire (polling : host.phase = .polling) :
      Moves server asyncWrite host .expire { host with phase := .closing true }
  | closeAll (closing : host.phase = .closing expired) :
      Moves server asyncWrite host .closeAll { host.removeAll with phase := .returned expired }
  | close : Moves server asyncWrite host .close host.removeAll

variable {server : Server Value} {asyncWrite : Bool} {host after : Host} {event : Event}

theorem moves_of_step (moved : host.step server asyncWrite event = some after) :
    Moves server asyncWrite host event after := by
  cases event with
  | accept =>
    cases moved
    exact .accept
  | link index event =>
    dsimp only [step] at moved
    split at moved
    case h_1 link found =>
      obtain ⟨next, stepped, rfl⟩ := Option.map_eq_some_iff.mp moved
      exact .link found (Link.moves_of_step stepped)
    case h_2 => cases moved
  | shutdown =>
    obtain ⟨idle, ⟨⟩⟩ := Option.ite_none_right_eq_some.mp moved
    exact .shutdown idle
  | check =>
    obtain ⟨polling, ⟨⟩⟩ := Option.ite_none_right_eq_some.mp moved
    split
    case isTrue none => exact .idleCheck polling none
    case isFalse => exact .busyCheck
  | expire =>
    obtain ⟨polling, ⟨⟩⟩ := Option.ite_none_right_eq_some.mp moved
    exact .expire polling
  | closeAll =>
    dsimp only [step] at moved
    split at moved
    case h_1 expired closing =>
      cases moved
      exact .closeAll closing
    case h_2 => cases moved
  | close =>
    cases moved
    exact .close

end Host

/-- `DoPostConnClose` is called when the connection is found in `activeConn`, and when
`serveConn` ends. Afterwards it is not in `activeConn`. -/
structure Link.Hooked (link : Link) : Prop where
  hooks : link.hooks = (if link.removed then 1 else 0) + if link.serving = .ended then 1 else 0
  inactive : link.removed = true ∨ link.serving = .ended → link.active = false

namespace Link

variable {server : Server Value} {asyncWrite : Bool} {flags : Flags} {link after : Link} {event : Event}

theorem Hooked.closeConn (hooked : link.Hooked) (serving : link.serving ≠ .ended) :
    link.closeConn.Hooked := by
  refine ⟨?_, fun _ => rfl⟩
  have hooks := hooked.hooks
  rw [if_neg serving] at hooks
  simp [Link.closeConn, hooks]

theorem Hooked.remove (hooked : link.Hooked) : link.remove.Hooked := by
  unfold Link.remove
  split
  case isTrue active =>
    have kept : ¬ (link.removed = true ∨ link.serving = .ended) := by
      intro gone
      rw [hooked.inactive gone] at active
      cases active
    push Not at kept
    refine ⟨?_, fun _ => rfl⟩
    have hooks := hooked.hooks
    rw [if_neg kept.1, if_neg kept.2] at hooks
    simp [hooks, kept.2]
  case isFalse => exact hooked

/-- The hooks depend on how far `serveConn` has come, and on nothing else of a connection. -/
theorem Hooked.of_serving (hooked : link.Hooked) (before : link.serving ≠ .ended)
    (later : after.serving ≠ .ended) (hooks : after.hooks = link.hooks) (active : after.active = link.active)
    (removed : after.removed = link.removed) : after.Hooked := by
  refine ⟨?_, ?_⟩
  · rw [hooks, hooked.hooks, removed, if_neg before, if_neg later]
  · intro gone
    rw [active]
    refine hooked.inactive (.inl ?_)
    rw [← removed]
    exact gone.resolve_right later

theorem Hooked.setJob (hooked : link.Hooked) (index : Nat) (job : Job) : (link.setJob index job).Hooked :=
  ⟨hooked.hooks, hooked.inactive⟩

theorem Hooked.step (hooked : link.Hooked) (moves : Moves server asyncWrite flags link event after) :
    after.Hooked := by
  cases moves with
  | refuse accepted => exact hooked.closeConn (by simp [accepted])
  | begin accepted => exact hooked.of_serving (by simp [accepted]) nofun rfl rfl rfl
  | next top => exact hooked.of_serving (by simp [top]) (by cases flags.inShutdown <;> exact nofun) rfl rfl rfl
  | @read request reading isOpen =>
    refine hooked.of_serving (by simp [reading]) ?_ rfl rfl rfl
    cases server.handle request <;> simp [Handling.serving]
  | @answer continues job answering found unanswered =>
    exact hooked.of_serving (by simp [answering]) (by cases continues <;> exact nofun) rfl rfl rfl
  | stop reading => exact hooked.of_serving (by simp [reading]) nofun rfl rfl rfl
  | closeChannel returned => exact ⟨hooked.hooks, hooked.inactive⟩
  | leave returned =>
    exact hooked.of_serving (by simp [returned]) (by cases flags.inShutdown <;> exact nofun) rfl rfl rfl
  | closeConn out => exact hooked.closeConn (by rcases out with leaving | waiting <;> simp [*])
  | start found unanswered dispatched => exact hooked.setJob ..
  | reply found running => exact hooked.setJob ..
  | finish found replied => exact hooked.setJob ..
  | flush found queued => exact hooked.setJob ..
  | stopWriter => exact ⟨hooked.hooks, hooked.inactive⟩

end Link

namespace Host

variable {server : Server Value} {asyncWrite : Bool} {host after : Host} {event : Event}

def Hooked (host : Host) : Prop := ∀ link ∈ host.links, link.Hooked

theorem Hooked.removeAll (hooked : host.Hooked) : host.removeAll.Hooked := by
  refine List.forall_mem_map.mpr ?_
  intro link member
  exact (hooked link member).remove

theorem Hooked.step (hooked : host.Hooked) (moves : Moves server asyncWrite host event after) :
    after.Hooked := by
  cases moves with
  | accept => exact List.forall_mem_append.mpr ⟨hooked, List.forall_mem_singleton.mpr ⟨rfl, nofun⟩⟩
  | link found moves => exact forall_mem_set hooked ((hooked _ (List.mem_of_getElem? found)).step moves) _
  | shutdown idle => exact hooked
  | idleCheck polling none => exact hooked
  | busyCheck => exact hooked
  | expire polling => exact hooked
  | closeAll closing => exact hooked.removeAll
  | close => exact hooked.removeAll

theorem hooked_of_reachable (reachable : (system server asyncWrite).Reachable host) : host.Hooked := by
  refine reachable.invariant ?_ ?_
  · rintro _ rfl
    exact List.forall_mem_nil _
  · intro host event after hooked _ moved
    exact hooked.step (moves_of_step moved)

/-- `DoPostConnClose` is called at most once for each connection exactly if no connection
that `Close` or `Shutdown` found in `activeConn` has left `serveConn`. When all have
left it, it was called once for each exactly if `Close` and `Shutdown` found none. -/
theorem hooks_once_iff (reachable : (system server asyncWrite).Reachable host) :
    ((∀ link ∈ host.links, link.hooks ≤ 1) ↔
      ∀ link ∈ host.links, link.removed = true → link.serving ≠ .ended) ∧
    ((∀ link ∈ host.links, link.serving = .ended) →
      ((∀ link ∈ host.links, link.hooks = 1) ↔ ∀ link ∈ host.links, link.removed = false)) := by
  have hooked := hooked_of_reachable reachable
  refine ⟨?_, ?_⟩
  · apply forall₂_congr
    intro link member
    rw [(hooked link member).hooks]
    cases removed : link.removed <;> by_cases ended : link.serving = .ended <;> simp [ended]
  · intro ended
    apply forall₂_congr
    intro link member
    rw [(hooked link member).hooks, if_pos (ended link member)]
    cases link.removed <;> simp

def served : List Event :=
  [.accept, .link 0 .begin, .link 0 .next, .link 0 .stop, .link 0 .closeChannel, .link 0 .leave, .link 0 .closeConn]

theorem hooks_once_iff_served : ∃ host, (system (echoServer fun argv _ => .returned argv none) false).play idle
    served = some host ∧ host.links.length = 1 ∧ (∀ link ∈ host.links, link.serving = .ended) ∧
      ∀ link ∈ host.links, link.hooks = 1 := by
  have played : (system (echoServer fun argv _ => .returned argv none) false).play idle served =
      some ⟨[Link.closeConn ⟨.leaving, true, true, false, true, [], 0, false⟩], 0, .idle, false⟩ := rfl
  have reachable := System.Reachable.play (.start rfl) played
  have ended : ∀ link ∈ [Link.closeConn ⟨.leaving, true, true, false, true, [], 0, false⟩], link.serving = .ended :=
    List.forall_mem_singleton.mpr rfl
  refine ⟨_, played, rfl, ended, ((hooks_once_iff reachable).2 ended).mpr ?_⟩
  exact List.forall_mem_singleton.mpr rfl

/-- `Close` calls the hook of an open connection, and `serveConn` calls it again when it
ends. -/
theorem hook_twice : ∃ host, (system (echoServer fun argv _ => .returned argv none) false).play idle
    [.accept, .link 0 .begin, .link 0 .next, .close, .link 0 .stop, .link 0 .closeChannel, .link 0 .leave,
      .link 0 .closeConn] = some host ∧
    (∀ link ∈ host.links, link.serving = .ended) ∧ ∃ link ∈ host.links, link.hooks = 2 :=
  ⟨⟨[⟨.ended, false, false, false, true, [], 2, true⟩], 0, .idle, true⟩, rfl, List.forall_mem_singleton.mpr rfl,
    _, List.mem_singleton_self _, rfl⟩

end Host

end Irpc.Server
