import Irpc.Server.TokenService

/-! What holds of the tokens and of the connections in every run. -/
namespace Irpc.Server.TokenService

open Irpc.Foundation

variable {Request Info Launch Cache : Type} {service : TokenService Request Info Launch Cache}
  {state next : State Request Info Launch Cache}

/-- A token that may still be used, for the request that obtained it. -/
structure Waiting (service : TokenService Request Info Launch Cache) (state : State Request Info Launch Cache)
    (token : Token) (info : Info) : Prop where
  issued : ∃ request, (token, request) ∈ state.issued ∧ service.infoOf request = info
  live : token ∉ state.evicted
  unused : token ∉ state.started.map Handover.token

/-- A token is in the cache, in the loop's hands or used, or lost. -/
structure Valid (service : TokenService Request Info Launch Cache) (state : State Request Info Launch Cache) :
    Prop where
  distinct : (state.issued.map Prod.fst).Nodup
  welcome : ∀ entry ∈ state.issued, service.refuse entry.2 = none
  evicted : ∀ token ∈ state.evicted, token ∈ state.issued.map Prod.fst
  cached : ∀ token info, service.known state.cachedTokens token = some info → Waiting service state token info
  taken : ∀ token info, state.loop.taken? = some (token, info) → Waiting service state token info
  gone : ∀ conn token info, state.loop = .removed conn token info → service.known state.cachedTokens token = none
  once : (state.started.map Handover.token).Nodup
  live : ∀ handover ∈ state.started, handover.token ∉ state.evicted
  paired : ∀ handover ∈ state.started, ∃ request, (handover.token, request) ∈ state.issued ∧
    service.launch (service.infoOf request) = some handover.launch

theorem valid_start : Valid service service.start where
  distinct := List.nodup_nil
  welcome := by simp [start]
  evicted := by simp [start]
  cached := by
    intro token info held
    obtain ⟨cache, created, held⟩ := Option.bind_eq_some_iff.mp held
    rw [service.cache.lookup_new created] at held
    cases held
  taken := by simp [start, AcceptLoop.taken?]
  gone := by simp [start]
  once := List.nodup_nil
  live := by simp [start]
  paired := by simp [start]

theorem taken?_of_free {loop : AcceptLoop Info} (free : loop.conn? = none) : loop.taken? = none := by
  cases loop <;> first | rfl | cases free

theorem Waiting.mem_issued (waiting : Waiting service state token info) : token ∈ state.issued.map Prod.fst := by
  obtain ⟨request, issued, _⟩ := waiting.issued
  exact List.mem_map_of_mem issued

theorem Waiting.granted (waiting : Waiting service state token info)
    (kept : token ∉ service.lost state.cachedTokens cachedTokens state.loop) (obtained : Token) (request : Request) :
    Waiting service { state with
      cachedTokens := cachedTokens
      issued := (obtained, request) :: state.issued
      evicted := state.evicted ∪ service.lost state.cachedTokens cachedTokens state.loop } token info where
  issued := by
    obtain ⟨earlier, issued, same⟩ := waiting.issued
    exact ⟨earlier, List.mem_cons_of_mem _ issued, same⟩
  live := by
    rintro (before | now)
    · exact waiting.live before
    · exact kept now
  unused := waiting.unused

/-- The cache loses only what was waiting in it. -/
theorem Valid.waiting_of_lost (valid : Valid service state)
    (dropped : token ∈ service.lost state.cachedTokens cachedTokens state.loop) :
    ∃ info, Waiting service state token info := by
  obtain ⟨info, held⟩ := Option.ne_none_iff_exists'.mp dropped.1
  exact ⟨info, valid.cached token info held⟩

theorem Valid.issued_of_started (valid : Valid service state) (member : token ∈ state.started.map Handover.token) :
    token ∈ state.issued.map Prod.fst := by
  obtain ⟨handover, started, rfl⟩ := List.mem_map.mp member
  obtain ⟨request, issued, _⟩ := valid.paired handover started
  exact List.mem_map_of_mem issued

theorem Valid.granted (valid : Valid service state) (welcome : service.refuse request = none)
    (fresh : token ∉ state.issued.map Prod.fst)
    (added : ∀ other info, service.known cachedTokens other = some info →
      other = token ∧ info = service.infoOf request ∨
        other ≠ token ∧ service.known state.cachedTokens other = some info) :
    Valid service { state with
      cachedTokens := cachedTokens
      issued := (token, request) :: state.issued
      evicted := state.evicted ∪ service.lost state.cachedTokens cachedTokens state.loop } where
  distinct := List.nodup_cons.mpr ⟨fresh, valid.distinct⟩
  welcome := List.forall_mem_cons.mpr ⟨welcome, valid.welcome⟩
  evicted := by
    rintro other (before | dropped)
    · exact List.mem_cons_of_mem _ (valid.evicted other before)
    · obtain ⟨info, waiting⟩ := valid.waiting_of_lost dropped
      exact List.mem_cons_of_mem _ waiting.mem_issued
  cached := by
    intro other info held
    have kept : other ∉ service.lost state.cachedTokens cachedTokens state.loop := fun dropped => by
      rw [dropped.2.1] at held
      cases held
    rcases added other info held with ⟨rfl, rfl⟩ | ⟨_, before⟩
    · have live : other ∉ state.evicted := fun before => fresh (valid.evicted other before)
      have unused : other ∉ state.started.map Handover.token := fun used => fresh (valid.issued_of_started used)
      exact ⟨⟨request, List.mem_cons_self, rfl⟩, by rintro (before | now); exacts [live before, kept now], unused⟩
    · exact (valid.cached other info before).granted kept token request
  taken := by
    intro other info taken
    exact (valid.taken other info taken).granted (fun dropped => dropped.2.2 info taken) token request
  gone := by
    intro conn other info removed
    have taken : state.loop.taken? = some (other, info) := by rw [removed]; rfl
    refine Option.eq_none_iff_forall_ne_some.mpr fun found held => ?_
    rcases added other found held with ⟨rfl, _⟩ | ⟨_, before⟩
    · exact fresh (valid.taken other info taken).mem_issued
    · rw [valid.gone conn other info removed] at before
      cases before
  once := valid.once
  live := by
    rintro handover started (before | dropped)
    · exact valid.live handover started before
    · obtain ⟨info, waiting⟩ := valid.waiting_of_lost dropped
      exact waiting.unused (List.mem_map_of_mem started)
  paired := by
    intro handover started
    obtain ⟨earlier, issued, launches⟩ := valid.paired handover started
    exact ⟨earlier, List.mem_cons_of_mem _ issued, launches⟩

/-- The loop goes on with what it has, or with a token from the cache. -/
theorem Valid.moved (valid : Valid service state)
    (kept : ∀ token info, service.known cachedTokens token = some info →
      service.known state.cachedTokens token = some info)
    (taken : ∀ token info, loop.taken? = some (token, info) → Waiting service state token info)
    (gone : ∀ conn token info, loop = .removed conn token info → service.known cachedTokens token = none) :
    Valid service ⟨cachedTokens, tempDelay, loop, accepted, state.issued, state.evicted, state.started, closed⟩ :=
  { distinct := valid.distinct
    welcome := valid.welcome
    evicted := valid.evicted
    cached := fun token info held =>
      have waiting := valid.cached token info (kept token info held)
      ⟨waiting.issued, waiting.live, waiting.unused⟩
    taken := fun token info held =>
      have waiting := taken token info held
      ⟨waiting.issued, waiting.live, waiting.unused⟩
    gone := gone
    once := valid.once
    live := valid.live
    paired := valid.paired }

theorem Valid.free (valid : Valid service state)
    (kept : ∀ token info, service.known cachedTokens token = some info →
      service.known state.cachedTokens token = some info)
    (free : loop.taken? = none) :
    Valid service ⟨cachedTokens, tempDelay, loop, accepted, state.issued, state.evicted, state.started, closed⟩ := by
  refine valid.moved kept (fun token info held => ?_) fun conn token info removed => ?_
  · rw [free] at held
    cases held
  · rw [removed] at free
    cases free

theorem Valid.started (valid : Valid service state) (removed : state.loop = .removed conn token info)
    (launches : service.launch info = some launched) :
    Valid service { state with loop := .accepting, started := ⟨conn, token, launched⟩ :: state.started } := by
  have waiting : Waiting service state token info := valid.taken token info (by rw [removed]; rfl)
  refine
    { distinct := valid.distinct
      welcome := valid.welcome
      evicted := valid.evicted
      cached := fun other found held => ?_
      taken := fun other found held => ?_
      gone := fun conn other found held => ?_
      once := List.nodup_cons.mpr ⟨waiting.unused, valid.once⟩
      live := List.forall_mem_cons.mpr ⟨waiting.live, valid.live⟩
      paired := List.forall_mem_cons.mpr ⟨?_, valid.paired⟩ }
  · -- The token that is used now has left the cache.
    have before := valid.cached other found held
    have different : other ≠ token := by
      rintro rfl
      rw [valid.gone conn other info removed] at held
      cases held
    exact ⟨before.issued, before.live, List.not_mem_cons_of_ne_of_not_mem different before.unused⟩
  · cases held
  · cases held
  · obtain ⟨request, issued, rfl⟩ := waiting.issued
    exact ⟨request, issued, launches⟩

theorem Valid.step (valid : Valid service state) (moves : Moves service state event next) : Valid service next := by
  cases moves with
  | granted welcome fresh cachedTokens added => exact valid.granted welcome fresh added
  | refused => exact valid
  | idle free tempDelay loop still => exact valid.free (fun _ _ held => held) (taken?_of_free still)
  | accepted free => exact valid.free (fun _ _ held => held) rfl
  | read reading token => exact valid.free (fun _ _ held => held) rfl
  | closed inHand cachedTokens kept loop free =>
    exact valid.free (fun token info held => kept token ▸ held) (taken?_of_free free)
  | found presented cachedTokens kept cached =>
    refine valid.moved (fun token info held => kept token ▸ held) (fun token info held => ?_) (by simp)
    cases held
    exact valid.cached _ _ cached
  | removed found cachedTokens gone kept =>
    refine valid.moved (fun token info held => ?_) (fun token info held => ?_) fun conn token info removed => ?_
    · rw [← kept token fun same => by rw [same, gone] at held; cases held]
      exact held
    · exact valid.taken token info (by rw [found]; exact held)
    · cases removed
      exact gone
  | started removed launches => exact valid.started removed launches

/-- The handler that is started belongs to the one request that obtained the token. -/
theorem Valid.launch_of_issued (valid : Valid service state) (started : handover ∈ state.started)
    (issued : (handover.token, request) ∈ state.issued) :
    service.launch (service.infoOf request) = some handover.launch := by
  obtain ⟨other, paired, launches⟩ := valid.paired handover started
  have same : (handover.token, request) = (handover.token, other) :=
    List.inj_on_of_nodup_map valid.distinct issued paired rfl
  cases same
  exact launches

theorem valid_of_reachable (reachable : service.system.Reachable state) : Valid service state :=
  reachable.invariant (fun _ first => first ▸ valid_start) fun _ _ _ valid _ moved => valid.step (moves_of_step moved)

/-- A run in which every request is a permitted one. -/
def Only (permitted : Request → Prop) (_ : State Request Info Launch Cache) (event : Event Request) : Prop :=
  ∀ request random, event = .request request random → permitted request

theorem issued_permitted {permitted : Request → Prop} (reached : service.system.Reached (Only permitted) state) :
    ∀ entry ∈ state.issued, permitted entry.2 := by
  induction reached with
  | start first =>
    rw [first, start]
    simp
  | step _ event only moved all =>
    cases moves_of_step moved with
    | granted => exact List.forall_mem_cons.mpr ⟨only _ _ rfl, all⟩
    | _ => exact all

/-- A request that is not refused obtains a token, even if there is no cache. -/
theorem exists_issued {permitted : Request → Prop} (welcome : service.refuse request = none)
    (asked : permitted request) (token : Token) :
    ∃ state, service.system.Reached (Only permitted) state ∧ (token, request) ∈ state.issued := by
  have fresh : Fresh service.start (.ok token) := by simp [Fresh, start]
  have moved : service.system.step service.start (.request request (.ok token)) =
      some (service.answer service.start request (.ok token)) := by
    simp only [system, step, if_pos fresh]
  refine ⟨_, (System.Reached.start rfl).step _ (fun _ _ same => ?_) moved, ?_⟩
  · cases same
    exact asked
  · cases created : service.start.cachedTokens <;> simp [answer, grant, issueToken, welcome, created, issue]

/-- Every accepted connection is in the loop's hands, handed over or closed, and only one of
these. -/
def Accounted (state : State Request Info Launch Cache) : Prop :=
  (state.loop.conn?.toList ++ (state.started.map Handover.conn ++ state.closed)).Perm (List.range state.accepted)

theorem Accounted.step (accounted : Accounted state) (moves : Moves service state event next) : Accounted next := by
  rw [Accounted] at accounted
  cases moves with
  | granted => exact accounted
  | refused => exact accounted
  | idle free tempDelay loop still =>
    rw [free] at accounted
    rwa [Accounted, still]
  | accepted free =>
    rw [free] at accounted
    rw [Accounted, List.range_succ]
    exact (accounted.cons _).trans (List.perm_append_singleton _ _).symm
  | read reading token => rwa [reading] at accounted
  | closed inHand cachedTokens kept loop free =>
    rw [inHand] at accounted
    rw [Accounted, close, free]
    exact List.perm_middle.trans accounted
  | found presented => rwa [presented] at accounted
  | removed found => rwa [found] at accounted
  | started removed => rwa [removed] at accounted

theorem accounted_of_reachable (reachable : service.system.Reachable state) : Accounted state :=
  reachable.invariant (fun _ first => first ▸ List.Perm.refl _) fun _ _ _ accounted _ moved =>
    accounted.step (moves_of_step moved)

def Settled (state : State Request Info Launch Cache) (conn : Nat) : Prop :=
  conn ∈ state.closed ∨ conn ∈ state.started.map Handover.conn

def Settles (service : TokenService Request Info Launch Cache) (state : State Request Info Launch Cache)
    (conn : Nat) : Prop :=
  ∃ steps later, service.system.play state (List.replicate steps .advance) = some later ∧ Settled later conn

theorem Settled.settles (settled : Settled state conn) : Settles service state conn := ⟨0, state, rfl, settled⟩

theorem Settles.of_advance (moved : service.advance state = some next) (settles : Settles service next conn) :
    Settles service state conn := by
  obtain ⟨steps, later, played, settled⟩ := settles
  refine ⟨steps + 1, later, ?_, settled⟩
  have first : service.system.step state .advance = some next := moved
  rw [List.replicate_succ, System.play, first]
  exact played

theorem settled_close (state : State Request Info Launch Cache) (conn : Nat) (loop : AcceptLoop Info) :
    Settled (close state conn loop) conn :=
  .inl List.mem_cons_self

theorem settles_removed (removed : state.loop = .removed conn token info) : Settles service state conn := by
  refine .of_advance (by rw [advance, removed]) (Settled.settles ?_)
  rw [dispatch]
  split
  · exact settled_close state conn _
  · exact .inr List.mem_cons_self

theorem settles_found (found : state.loop = .found conn token info) : Settles service state conn := by
  refine .of_advance (by rw [advance, found]) ?_
  rw [useUp]
  split
  · exact (settled_close state conn _).settles
  · exact settles_removed rfl

theorem settles_lookingUp (looking : state.loop = .lookingUp conn token) : Settles service state conn := by
  refine .of_advance (by rw [advance, looking]) ?_
  rw [lookUp]
  split
  · exact (settled_close state conn _).settles
  · split
    · exact Settled.settles (settled_close state conn .accepting)
    · exact settles_found rfl

theorem settles_of_reachable (reachable : service.system.Reachable state) (accepted : conn < state.accepted)
    (answered : state.loop ≠ .reading conn) : Settles service state conn := by
  have place : conn ∈ state.loop.conn?.toList ++ (state.started.map Handover.conn ++ state.closed) :=
    (accounted_of_reachable reachable).mem_iff.mpr (List.mem_range.mpr accepted)
  rcases List.mem_append.mp place with inHand | elsewhere
  · rw [Option.mem_toList] at inHand
    cases loop : state.loop with
    | accepting | ended =>
      rw [loop] at inHand
      cases inHand
    | reading other =>
      rw [loop] at inHand
      cases inHand
      exact absurd loop answered
    | lookingUp | found | removed =>
      rw [loop] at inHand
      cases inHand
      first | exact settles_lookingUp loop | exact settles_found loop | exact settles_removed loop
  · exact Settled.settles ((List.mem_append.mp elsewhere).symm)

end Irpc.Server.TokenService
