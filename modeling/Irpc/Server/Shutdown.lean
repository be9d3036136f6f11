import Irpc.Server.Lifecycle

/-! What a graceful shutdown owes to the requests that were read: which of them are
answered when `Shutdown` closes the connections it still finds in `activeConn`. -/
namespace Irpc.Server

open Irpc.Foundation Irpc.Protocol

variable {Value : Type}

def Progress.counted : Progress → Nat
  | .running => 1
  | .replied => 1
  | _ => 0

def Link.counted (link : Link) : Nat := (link.jobs.map fun job => job.progress.counted).sum

def Host.counted (host : Host) : Nat := (host.links.map Link.counted).sum

namespace Link

variable {server : Server Value} {asyncWrite : Bool} {flags : Flags} {link after : Link} {event : Event}

theorem counted_setJob {old job : Job} (found : link.jobs[index]? = some old)
    (changed : later + old.progress.counted = earlier + job.progress.counted) :
    later + link.counted = earlier + (link.setJob index job).counted := by
  have sums : (link.setJob index job).counted + old.progress.counted = link.counted + job.progress.counted :=
    sum_map_set found job
  omega

theorem counted_le_of_found {job : Job} {index : Nat} (found : link.jobs[index]? = some job) :
    job.progress.counted ≤ link.counted :=
  List.le_sum_of_mem (List.mem_map_of_mem (List.mem_of_getElem? found))

/-- `handlerMsgNum` changes by what a connection adds to it. -/
theorem counted_of_moves (moves : Moves server asyncWrite flags link event after)
    (included : link.counted ≤ num) : event.count num + link.counted = num + after.counted := by
  cases moves with
  | refuse accepted => rfl
  | begin accepted => rfl
  | next top => rfl
  | read reading isOpen => simp [Event.count, counted, Job.new, Progress.counted]
  | answer answering found unanswered => exact counted_setJob found (by rw [unanswered]; rfl)
  | stop reading => rfl
  | closeChannel returned => rfl
  | leave returned => rfl
  | closeConn out => rfl
  | start found unanswered dispatched => exact counted_setJob found (by rw [unanswered]; rfl)
  | reply found running => exact counted_setJob found (by rw [running]; rfl)
  | finish found replied =>
    have positive := counted_le_of_found found
    refine counted_setJob found ?_
    rw [replied] at positive ⊢
    exact Nat.sub_add_cancel (positive.trans included)
  | flush found queued => exact counted_setJob found rfl
  | stopWriter => rfl

theorem counted_remove (link : Link) : link.remove.counted = link.counted := by
  unfold remove
  split <;> rfl

end Link

namespace Host

variable {server : Server Value} {asyncWrite : Bool} {host after : Host} {event : Event}

theorem counted_removeAll (host : Host) : host.removeAll.counted = host.counted := by
  simp [counted, removeAll, Function.comp_def, Link.counted_remove]

theorem counted_of_moves (moves : Moves server asyncWrite host event after)
    (counts : host.handlerMsgNum = host.counted) : after.handlerMsgNum = after.counted := by
  cases moves with
  | accept => simp [counted, counts, Link.counted, Link.new]
  | @link index link event next found moves =>
    have included : link.counted ≤ host.handlerMsgNum := by
      rw [counts]
      exact List.le_sum_of_mem (List.mem_map_of_mem (List.mem_of_getElem? found))
    have changed := Link.counted_of_moves moves included
    have sums : ((host.links.set index next).map Link.counted).sum + link.counted = host.counted + next.counted :=
      sum_map_set found next
    simp only [counted]
    omega
  | shutdown idle => exact counts
  | idleCheck polling none => exact counts
  | busyCheck => exact counts
  | expire polling => exact counts
  | closeAll closing => exact counts.trans (counted_removeAll host).symm
  | close => exact counts.trans (counted_removeAll host).symm

end Host

def Progress.isReplied : Progress → Bool
  | .read => false
  | .running => false
  | .replied => true
  | .finished => true

/-- A request that was served, and whose response is written unless it is in the channel. -/
structure Job.Faithful (server : Server Value) (job : Job) : Prop where
  handling : job.handling = server.handle job.request
  served : Served server job.request
  replied : job.queued = true → job.progress.isReplied = true
  written : job.written =
    if job.progress.isReplied && !job.queued then job.handling.response.toList else []

/-- Nothing is left to be done for the request. -/
structure Job.Settled (job : Job) : Prop where
  finished : job.progress = .finished
  sent : job.queued = false

/-- What `handlerMsgNum` does not know of. -/
def Job.Uncounted (job : Job) : Prop := job.progress = .read ∨ job.queued = true

namespace Job

variable {server : Server Value} {job : Job}

theorem faithful_new {request : Request} (served : Served server request) : (new server request).Faithful server :=
  ⟨rfl, served, nofun, rfl⟩

theorem Faithful.advance (faithful : job.Faithful server) {progress : Progress}
    (same : progress.isReplied = job.progress.isReplied) :
    Faithful server { job with progress := progress } := by
  refine ⟨faithful.handling, faithful.served, ?_, ?_⟩
  · intro queued
    exact same.trans (faithful.replied queued)
  · rw [same]
    exact faithful.written

/-- The response is sent on an open connection, or through an open channel. -/
theorem Faithful.submit (faithful : job.Faithful server) (unsent : job.progress.isReplied = false)
    {asyncWrite channelOpen : Bool} (sendable : asyncWrite = true → channelOpen = true) {progress : Progress}
    (replied : progress.isReplied = true) :
    Faithful server { job.submit asyncWrite channelOpen true with progress := progress } := by
  have nothing : job.written = [] := by simp [faithful.written, unsent]
  refine ⟨?_, ?_, fun _ => replied, ?_⟩
  · cases asyncWrite <;> exact faithful.handling
  · cases asyncWrite <;> exact faithful.served
  · cases asyncWrite with
    | true =>
      rw [sendable rfl]
      cases responds : job.handling.response <;> simp [Job.submit, nothing, replied, responds]
    | false =>
      have direct : job.queued = false := by
        by_contra queued
        rw [faithful.replied (by simpa using queued)] at unsent
        cases unsent
      simp [Job.submit, nothing, replied, direct]

theorem Faithful.flush (faithful : job.Faithful server) (queued : job.queued = true) :
    (job.flush true).Faithful server := by
  refine ⟨faithful.handling, faithful.served, nofun, ?_⟩
  simp [Job.flush, faithful.written, queued, faithful.replied queued]

theorem not_settled (unfinished : job.progress ≠ .finished) : ¬ job.Settled :=
  fun settled => unfinished settled.finished

theorem settled_of_not_uncounted (known : ¬ job.Uncounted) (uncounted : job.progress.counted = 0) :
    job.Settled := by
  obtain ⟨started, direct⟩ := not_or.mp known
  refine ⟨?_, by simpa using direct⟩
  cases progress : job.progress with
  | read => exact absurd progress started
  | running => simp [progress, Progress.counted] at uncounted
  | replied => simp [progress, Progress.counted] at uncounted
  | finished => rfl

/-- Once nothing is left to be done, the one response to a two-way request is written. -/
theorem Faithful.answered (faithful : job.Faithful server) (settled : job.Settled)
    (twoway : job.request.req.header.isOneway = false) :
    ∃ res, job.written = [res] ∧ res.header.seq = job.request.req.header.seq := by
  have responds := served_iff.mp faithful.served
  rw [twoway, ← faithful.handling] at responds
  obtain ⟨res, found⟩ := Option.isSome_iff_exists.mp responds
  refine ⟨res, ?_, ?_⟩
  · simp [faithful.written, settled.finished, settled.sent, Progress.isReplied, found]
  · exact (respondsTo_handle (by rw [← faithful.handling, found])).seq

end Job

/-- What holds of a connection in a phase of `Shutdown`. Those that it removed are
settled, unless the context has expired. -/
structure Link.Orderly (server : Server Value) (phase : Phase) (link : Link) : Prop where
  isOpen : link.active = true → link.isOpen = true
  faithful : link.active = true → ∀ job ∈ link.jobs, job.Faithful server
  settled : link.active = true → phase = .closing false → ∀ job ∈ link.jobs, job.Settled
  returned : link.removed = true → ∃ expired, phase = .returned expired
  closed : link.removed = true → link.isOpen = false
  drained : link.removed = true → phase = .returned false →
    ∀ job ∈ link.jobs, job.Faithful server ∧ job.Settled

/-- No request is read when `Shutdown` has stopped to wait, every one is served, and no
response is sent to a closed channel. -/
def Link.Calm (server : Server Value) (asyncWrite : Bool) (phase : Phase) (link : Link) : Event → Prop
  | .read request => phase ≠ .closing false ∧ Served server request
  | .reply _ => asyncWrite = true → link.channelOpen = true
  | _ => True

/-- Moreover there is nothing that `handlerMsgNum` does not know of when `Shutdown` finds
it zero, and `Close` is not called. -/
def Host.Calm (server : Server Value) (asyncWrite : Bool) (host : Host) : Event → Prop
  | .link index event => ∀ link, host.links[index]? = some link → link.Calm server asyncWrite host.phase event
  | .check => host.handlerMsgNum = 0 →
      ∀ link ∈ host.links, link.active = true → ∀ job ∈ link.jobs, ¬ job.Uncounted
  | .close => False
  | _ => True

namespace Link

variable {server : Server Value} {asyncWrite : Bool} {flags : Flags} {phase : Phase}
  {link after : Link} {event : Event}

theorem Orderly.idle (orderly : link.Orderly server phase) (same : after.active = link.active)
    (isOpen : after.isOpen = link.isOpen) (jobs : after.jobs = link.jobs) (removed : after.removed = link.removed) :
    after.Orderly server phase := by
  refine ⟨?_, ?_, ?_, ?_, ?_, ?_⟩
  all_goals simp only [same, isOpen, jobs, removed]
  · exact orderly.isOpen
  · exact orderly.faithful
  · exact orderly.settled
  · exact orderly.returned
  · exact orderly.closed
  · exact orderly.drained

theorem Orderly.closeConn (orderly : link.Orderly server phase) : link.closeConn.Orderly server phase :=
  ⟨nofun, nofun, nofun, orderly.returned, fun _ => rfl, orderly.drained⟩

/-- A job that is not settled can go on, if its connection is neither closed by
`Shutdown` nor about to be. -/
theorem Orderly.setJob (orderly : link.Orderly server phase) {old job : Job}
    (found : link.jobs[index]? = some old) (unsettled : ¬ old.Settled)
    (kept : link.active = true → old.Faithful server → job.Faithful server) :
    (link.setJob index job).Orderly server phase := by
  have member := List.mem_of_getElem? found
  refine ⟨orderly.isOpen, ?_, ?_, orderly.returned, orderly.closed, ?_⟩
  · intro active
    have faithful := orderly.faithful active
    exact forall_mem_set faithful (kept active (faithful old member)) index
  · intro active closing
    exact absurd (orderly.settled active closing old member) unsettled
  · intro removed returned
    exact absurd (orderly.drained removed returned old member).2 unsettled

theorem Orderly.step (orderly : link.Orderly server phase) (calm : link.Calm server asyncWrite phase event)
    (moves : Moves server asyncWrite flags link event after) : after.Orderly server phase := by
  cases moves with
  | refuse accepted => exact orderly.closeConn
  | begin accepted => exact orderly.idle rfl rfl rfl rfl
  | next top => exact orderly.idle rfl rfl rfl rfl
  | read reading isOpen =>
    have kept : link.removed ≠ true := by
      intro removed
      rw [orderly.closed removed] at isOpen
      cases isOpen
    refine ⟨orderly.isOpen, ?_, ?_, ?_, ?_, ?_⟩
    · intro active
      exact List.forall_mem_cons.mpr ⟨Job.faithful_new calm.2, orderly.faithful active⟩
    · intro _ closing
      exact absurd closing calm.1
    all_goals exact fun removed => absurd removed kept
  | answer answering found unanswered =>
    refine Orderly.idle (orderly.setJob found ?_ ?_) rfl rfl rfl rfl
    · exact Job.not_settled (by simp [unanswered])
    · intro active faithful
      rw [orderly.isOpen active]
      exact faithful.submit (by rw [unanswered]; rfl) (fun _ => rfl) rfl
  | stop reading => exact orderly.idle rfl rfl rfl rfl
  | closeChannel returned => exact orderly.idle rfl rfl rfl rfl
  | leave returned => exact orderly.idle rfl rfl rfl rfl
  | closeConn out => exact orderly.closeConn
  | start found unanswered dispatched =>
    refine orderly.setJob found ?_ ?_
    · exact Job.not_settled (by simp [unanswered])
    · intro _ faithful
      exact faithful.advance (by rw [unanswered]; rfl)
  | reply found running =>
    refine orderly.setJob found ?_ ?_
    · exact Job.not_settled (by simp [running])
    · intro active faithful
      rw [orderly.isOpen active]
      exact faithful.submit (by rw [running]; rfl) calm rfl
  | finish found replied =>
    refine orderly.setJob found ?_ ?_
    · exact Job.not_settled (by simp [replied])
    · intro _ faithful
      exact faithful.advance (by rw [replied]; rfl)
  | flush found queued =>
    refine orderly.setJob found ?_ ?_
    · intro settled
      rw [settled.sent] at queued
      cases queued
    · intro active faithful
      rw [orderly.isOpen active]
      exact faithful.flush queued
  | stopWriter => exact orderly.idle rfl rfl rfl rfl

/-- `Shutdown` goes on before it has removed any connection. -/
theorem Orderly.enter (orderly : link.Orderly server phase) (early : ∀ expired, phase ≠ .returned expired)
    {next : Phase} (settled : link.active = true → next = .closing false → ∀ job ∈ link.jobs, job.Settled) :
    link.Orderly server next := by
  have kept : link.removed ≠ true := by
    intro removed
    obtain ⟨expired, returned⟩ := orderly.returned removed
    exact early expired returned
  exact ⟨orderly.isOpen, orderly.faithful, settled, fun removed => absurd removed kept, orderly.closed,
    fun removed => absurd removed kept⟩

theorem Orderly.remove (orderly : link.Orderly server (.closing expired)) :
    link.remove.Orderly server (.returned expired) := by
  unfold Link.remove
  split
  case isTrue active =>
    refine ⟨nofun, nofun, nofun, fun _ => ⟨expired, rfl⟩, fun _ => rfl, ?_⟩
    intro _ returned job member
    cases returned
    exact ⟨orderly.faithful active job member, orderly.settled active rfl job member⟩
  case isFalse inactive =>
    refine orderly.enter nofun ?_
    intro active
    exact absurd active inactive

end Link

structure Host.Orderly (server : Server Value) (host : Host) : Prop where
  counts : host.handlerMsgNum = host.counted
  links : ∀ link ∈ host.links, link.Orderly server host.phase

namespace Host

variable {server : Server Value} {asyncWrite : Bool} {host after : Host} {event : Event}

/-- When `handlerMsgNum` is zero and nothing escapes it, nothing is left to be done. -/
theorem Orderly.settled (orderly : host.Orderly server) (none : host.handlerMsgNum = 0)
    (known : ∀ link ∈ host.links, link.active = true → ∀ job ∈ link.jobs, ¬ job.Uncounted)
    {link : Link} (member : link ∈ host.links) (active : link.active = true) :
    ∀ job ∈ link.jobs, job.Settled := by
  intro job present
  refine Job.settled_of_not_uncounted (known link member active job present) ?_
  have here : job.progress.counted ≤ link.counted := List.le_sum_of_mem (List.mem_map_of_mem present)
  have all : link.counted ≤ host.counted := List.le_sum_of_mem (List.mem_map_of_mem member)
  have counts := orderly.counts
  omega

theorem Orderly.step (orderly : host.Orderly server) (calm : host.Calm server asyncWrite event)
    (moves : Moves server asyncWrite host event after) : after.Orderly server := by
  refine ⟨counted_of_moves moves orderly.counts, ?_⟩
  cases moves with
  | accept =>
    refine List.forall_mem_append.mpr ⟨orderly.links, List.forall_mem_singleton.mpr ?_⟩
    exact ⟨fun _ => rfl, fun _ => List.forall_mem_nil _, fun _ _ => List.forall_mem_nil _, nofun, nofun, nofun⟩
  | link found moves =>
    have changed := (orderly.links _ (List.mem_of_getElem? found)).step (calm _ found) moves
    exact forall_mem_set orderly.links changed _
  | shutdown idle =>
    intro link member
    exact (orderly.links link member).enter (by simp [idle]) nofun
  | idleCheck polling none =>
    intro link member
    exact (orderly.links link member).enter (by simp [polling])
      fun active _ => orderly.settled none (calm none) member active
  | busyCheck => exact orderly.links
  | expire polling =>
    intro link member
    exact (orderly.links link member).enter (by simp [polling]) nofun
  | closeAll closing =>
    refine List.forall_mem_map.mpr ?_
    intro link member
    exact (closing ▸ orderly.links link member).remove
  | close => exact calm.elim

theorem orderly_of_reached (reached : (system server asyncWrite).Reached (Calm server asyncWrite) host) :
    host.Orderly server := by
  refine reached.invariant ?_ ?_
  · rintro _ rfl
    exact ⟨rfl, List.forall_mem_nil _⟩
  · intro host event after orderly calm moved
    exact orderly.step calm (moves_of_step moved)

/-- In a run in which nothing escapes `handlerMsgNum`, and `Shutdown` returns before its
context expires, each two-way request that was read on a connection `Shutdown` has closed
was answered before. Nothing is written to a closed connection. -/
theorem shutdown_drains (reached : (system server asyncWrite).Reached (Calm server asyncWrite) host)
    (returned : host.phase = .returned false) :
    ∀ link ∈ host.links, link.removed = true → ∀ job ∈ link.jobs, job.request.req.header.isOneway = false →
      ∃ res, job.written = [res] ∧ res.header.seq = job.request.req.header.seq := by
  intro link member removed job present twoway
  have orderly := (orderly_of_reached reached).links link member
  obtain ⟨faithful, settled⟩ := orderly.drained removed returned job present
  exact faithful.answered settled twoway

section Heartbeat

open Connection

def ping (progress : Progress) (queued : Bool) (written : List Message) : Job :=
  ⟨acceptedRequest heartbeat, .dispatched (some (heartbeatResponse heartbeat)), progress, queued, written⟩

def listening : Host := ⟨[⟨.reading, true, true, true, true, [], 0, false⟩], 0, .idle, false⟩

def pinged : Host := ⟨[⟨.top, true, true, true, true, [ping .read false []], 0, false⟩], 0, .idle, false⟩

theorem read_heartbeat (server : Server Value) (asyncWrite : Bool) :
    listening.step server asyncWrite (.link 0 (.read (acceptedRequest heartbeat))) = some pinged := by
  have handled : server.handle (acceptedRequest heartbeat) = .dispatched (some (heartbeatResponse heartbeat)) := by
    rw [handle_acceptedRequest, serveRequest_heartbeat (by decide)]
  simp only [listening, step, List.getElem?_cons_zero, Link.step, Job.new, handled]
  rfl

theorem served_heartbeat (server : Server Value) : Served server (acceptedRequest heartbeat) :=
  ⟨nofun, fun _ normal => absurd normal (by decide)⟩

theorem reached_heartbeat (server : Server Value) (asyncWrite : Bool) :
    (system server asyncWrite).Reached (Calm server asyncWrite) pinged := by
  have start : (system server asyncWrite).Reached (Calm server asyncWrite) idle := .start rfl
  have accepted := start.step .accept trivial rfl
  have begun := accepted.step (.link 0 .begin) (fun _ _ => trivial) rfl
  have waits : (system server asyncWrite).Reached (Calm server asyncWrite) listening :=
    begun.step (.link 0 .next) (fun _ _ => trivial) rfl
  exact waits.step (.link 0 (.read (acceptedRequest heartbeat))) (fun _ _ => ⟨nofun, served_heartbeat server⟩)
    (read_heartbeat server asyncWrite)

theorem shutdown_drains_heartbeat :
    ∃ host, (system (echoServer fun argv _ => .returned argv none) false).Reached
        (Calm (echoServer fun argv _ => .returned argv none) false) host ∧
      host.phase = .returned false ∧ ∃ link ∈ host.links, link.removed = true ∧ ∃ job ∈ link.jobs,
        job.request.req.header.isOneway = false ∧
        ∃ res, job.written = [res] ∧ res.header.seq = job.request.req.header.seq := by
  have read := reached_heartbeat (echoServer fun argv _ => .returned argv none) false
  have started := read.step (.link 0 (.start 0)) (fun _ _ => trivial) rfl
  have replied := started.step (.link 0 (.reply 0)) (fun _ _ => nofun) rfl
  have finished := replied.step (.link 0 (.finish 0)) (fun _ _ => trivial) rfl
  have polling := finished.step .shutdown trivial rfl
  have known : ∀ job ∈ [ping .finished false [heartbeatResponse heartbeat]], ¬ job.Uncounted :=
    List.forall_mem_singleton.mpr (by simp [Job.Uncounted, ping])
  have checked := polling.step .check (fun _ => List.forall_mem_singleton.mpr fun _ => known) rfl
  have closed := checked.step .closeAll trivial rfl
  refine ⟨_, closed, rfl, _, List.mem_singleton_self _, rfl, _, List.mem_singleton_self _, by decide, ?_⟩
  exact shutdown_drains closed rfl _ (List.mem_singleton_self _) rfl _ (List.mem_singleton_self _) (by decide)

/-- `Shutdown` has closed a connection on which a two-way request was not answered. -/
def DropsResponse (server : Server Value) (asyncWrite : Bool) : Prop :=
  ∃ host, (system server asyncWrite).Reachable host ∧ host.phase = .returned false ∧
    ∃ link ∈ host.links, link.removed = true ∧ ∃ job ∈ link.jobs,
      job.request.req.header.isOneway = false ∧ job.progress = .finished ∧ job.written = []

theorem dropsResponse_of_play {server : Server Value} {asyncWrite : Bool} {events : List Event} {link : Link}
    (played : (system server asyncWrite).play pinged events = some ⟨[link], 0, .returned false, true⟩)
    (removed : link.removed = true) (jobs : link.jobs = [ping .finished queued []]) :
    DropsResponse server asyncWrite := by
  have read : (system server asyncWrite).Reachable pinged :=
    (reached_heartbeat server asyncWrite).mono fun _ _ _ => trivial
  refine ⟨_, read.play played, rfl, link, List.mem_singleton_self _, removed, ping .finished queued [], ?_⟩
  have twoway : heartbeat.header.isOneway = false := by decide
  rw [jobs]
  exact ⟨List.mem_singleton_self _, twoway, rfl, rfl⟩

/-- `Shutdown` finds nothing to wait for when the goroutine of a request has not come to
count it, and when a response is in the channel. It closes the connection, and the
response is not written. -/
theorem response_dropped :
    DropsResponse (echoServer fun argv _ => .returned argv none) false ∧
    DropsResponse (echoServer fun argv _ => .returned argv none) true := by
  refine ⟨?_, ?_⟩
  · have played : (system (echoServer fun argv _ => .returned argv none) false).play pinged
        [.shutdown, .check, .closeAll, .link 0 (.start 0), .link 0 (.reply 0), .link 0 (.finish 0)] =
          some ⟨[⟨.top, false, false, true, true, [ping .finished false []], 1, true⟩], 0, .returned false, true⟩ :=
      rfl
    exact dropsResponse_of_play played rfl rfl
  · have played : (system (echoServer fun argv _ => .returned argv none) true).play pinged
        [.link 0 (.start 0), .link 0 (.reply 0), .link 0 (.finish 0), .shutdown, .check, .closeAll,
          .link 0 .stopWriter] =
          some ⟨[⟨.top, false, false, true, false, [ping .finished true []], 1, true⟩], 0, .returned false, true⟩ :=
      rfl
    exact dropsResponse_of_play played rfl rfl

end Heartbeat

end Host

end Irpc.Server
