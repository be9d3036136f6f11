import Irpc.ServerPlugin.Register

/-! When the node of an unregistered service stays away. -/
namespace Irpc.ServerPlugin.RegisterPlugin

open Irpc.Foundation

/-- The names whose node the running call has removed, or found removed. -/
def dropped (services : List Bytes) : Caller → List Bytes
  | .free | .registering _ _ _ => []
  | .unregistering name .filterServices | .unregistering name .deleteMeta => [name]
  | .unregistering _ _ => []
  | .stopping pending => services.filter fun name => name ∉ pending
  | .deleting name pending => services.filter fun other => other ∉ name :: pending
  | .awaiting => services
  | .returning call _ => removedBy services call

/-- When a node is removed, or found removed, the goroutine does not hold its name. Nor is there a
service whose directory has the path of a removed node. -/
def CarefulAct (plugin : RegisterPlugin) (state : State) : Caller → Prop
  | .registering name _ .putDir | .unregistering name .putDir =>
    ∀ other ∈ state.gone, plugin.dirPath name ≠ plugin.nodePath other
  | .unregistering name .deleteNode | .deleting name _ => name ∉ state.ticker.names
  | .stopping (name :: _) => state.store (plugin.nodePath name) = none → name ∉ state.ticker.names
  | _ => True

/-- No tick comes between the removal of a node and that of its name from `Services`, and
`Unregister` does nothing only if there is nothing to do. -/
def Careful (plugin : RegisterPlugin) (state : State) : Event → Prop
  | .call (.unregister name) => state.services = [] ∨ isBlank name = true →
    state.store (plugin.nodePath name) = none ∧ name ∉ state.ticker.names
  | .act => CarefulAct plugin state state.caller
  | .tick => ∀ name ∈ state.services, name ∉ dropped state.services state.caller
  | _ => True

instance (plugin : RegisterPlugin) (state : State) (caller : Caller) : Decidable (CarefulAct plugin state caller) := by
  unfold CarefulAct
  split <;> infer_instance

instance (plugin : RegisterPlugin) (state : State) (event : Event) : Decidable (plugin.Careful state event) := by
  unfold Careful
  split <;> infer_instance

variable {plugin : RegisterPlugin} {state : State}

/-- What the caller has established before its next step. -/
def Established (state : State) : Caller → Prop
  | .registering name _ _ => name ∉ state.gone ∧ isBlank name = false
  | .unregistering name .deleteMeta | .returning (.unregister name) _ => name ∉ state.services
  | .returning .stop _ => state.ticker = .ended
  | _ => True

/-- The names that are unregistered, or about to be and without a node. -/
def Removed (state : State) (name : Bytes) : Prop := name ∈ state.gone ∨ name ∈ dropped state.services state.caller

structure Clean (plugin : RegisterPlugin) (state : State) : Prop where
  removed : ∀ name, Removed state name → state.store (plugin.nodePath name) = none ∧ name ∉ state.ticker.names
  quiet : ∀ name ∈ state.gone, name ∈ state.services → state.ticker = .ended
  named : ∀ name ∈ state.services, isBlank name = false
  done : state.done = true → state.ticker = .ended
  established : Established state state.caller

theorem Clean.removed_of_caller (clean : Clean plugin state) (phase : state.caller = caller) (name : Bytes)
    (away : name ∈ state.gone ∨ name ∈ dropped state.services caller) :
    state.store (plugin.nodePath name) = none ∧ name ∉ state.ticker.names :=
  clean.removed name (by rwa [Removed, phase])

theorem Clean.established_of_caller (clean : Clean plugin state) (phase : state.caller = caller) :
    Established state caller :=
  phase ▸ clean.established

theorem nodePath_injective (plugin : RegisterPlugin) : Function.Injective plugin.nodePath := by
  intro name other same
  have names := List.cons.inj (List.append_cancel_left same)
  exact List.append_cancel_right names.2

theorem nodePath_ne_basePath (plugin : RegisterPlugin) (name : Bytes) : plugin.basePath ≠ plugin.nodePath name := by
  intro same
  have lengths := congrArg List.length same
  simp only [nodePath, List.length_append, List.length_cons] at lengths
  omega

theorem mem_dropped_stopping :
    name ∈ dropped services (.stopping pending) ↔ name ∈ services ∧ name ∉ pending := by
  simp [dropped]

theorem mem_dropped_deleting :
    name ∈ dropped services (.deleting first rest) ↔ name ∈ services ∧ name ∉ first :: rest := by
  simp [dropped]

theorem clean_start (store : Bytes → Option Bytes) : Clean plugin (plugin.start store) where
  removed := by simp [start, Removed, dropped]
  quiet := by simp [start]
  named := by simp [start]
  done := by simp [start]
  established := trivial

theorem store_put_of_ne (different : other ≠ path) (value : Bytes) :
    (put state path value).store other = state.store other :=
  Function.update_of_ne different _ _

theorem store_delete_self (state : State) (path : Bytes) : (delete state path).store path = none :=
  Function.update_self _ _ _

theorem store_delete_of_absent (absent : state.store other = none) (path : Bytes) :
    (delete state path).store other = none := by
  by_cases same : other = path
  · rw [same, store_delete_self]
  · exact (Function.update_of_ne same _ _).trans absent

theorem Clean.put (clean : Clean plugin state) (elsewhere : ∀ name, Removed state name → plugin.nodePath name ≠ path)
    (value : Bytes) :
    Clean plugin (put state path value) where
  removed := by
    intro name gone
    obtain ⟨absent, free⟩ := clean.removed name gone
    exact ⟨(store_put_of_ne (elsewhere name gone) value).trans absent, free⟩
  quiet := clean.quiet
  named := clean.named
  done := clean.done
  established := clean.established

theorem Clean.put_basePath (clean : Clean plugin state) (value : Bytes) :
    Clean plugin (RegisterPlugin.put state plugin.basePath value) :=
  clean.put (fun other _ => (nodePath_ne_basePath plugin other).symm) value

theorem Clean.delete (clean : Clean plugin state) (path : Bytes) : Clean plugin (delete state path) where
  removed := by
    intro name gone
    obtain ⟨absent, free⟩ := clean.removed name gone
    exact ⟨store_delete_of_absent absent path, free⟩
  quiet := clean.quiet
  named := clean.named
  done := clean.done
  established := clean.established

theorem Clean.go (clean : Clean plugin state) (caller : Caller)
    (removed : ∀ name ∈ dropped state.services caller,
      state.store (plugin.nodePath name) = none ∧ name ∉ state.ticker.names)
    (established : Established state caller) (metas : Bytes → Option Bytes) (dying : Bool) :
    Clean plugin { state with caller := caller, metas := metas, dying := dying } where
  removed := by
    rintro name (gone | now)
    · exact clean.removed name (.inl gone)
    · exact removed name now
  quiet := clean.quiet
  named := clean.named
  done := clean.done
  established := established

theorem Clean.registering (clean : Clean plugin state) (established : name ∉ state.gone ∧ isBlank name = false)
    (metadata : Bytes) (next : RegisterStep) : Clean plugin { state with caller := .registering name metadata next } :=
  clean.go (.registering name metadata next) (by simp [dropped]) established state.metas state.dying

theorem Clean.begin_register (clean : Clean plugin state) (name metadata : Bytes) :
    Clean plugin (plugin.begin state (.register name metadata)) := by
  rw [begin]
  split
  · exact clean.go _ (by simp [dropped, removedBy]) (by trivial) _ _
  · rename_i proper
    exact
      { removed := fun other away => clean.removed other (away.imp List.mem_of_mem_filter nofun)
        quiet := fun other gone => clean.quiet other (List.mem_of_mem_filter gone)
        named := clean.named
        done := clean.done
        established := ⟨by simp, Bool.eq_false_iff.mpr proper⟩ }

theorem Clean.begin_unregister (clean : Clean plugin state)
    (careful : state.services = [] ∨ isBlank name = true →
      state.store (plugin.nodePath name) = none ∧ name ∉ state.ticker.names) :
    Clean plugin (plugin.begin state (.unregister name)) := by
  rw [begin]
  split
  · rename_i empty
    refine clean.go _ ?_ ?_ _ _
    · intro other same
      rw [List.mem_singleton.mp same]
      exact careful (.inl empty)
    · simp [Established, empty]
  · split
    · rename_i blank
      refine clean.go _ ?_ (fun listed => ?_) _ _
      · intro other same
        rw [List.mem_singleton.mp same]
        exact careful (.inr blank)
      · rw [clean.named name listed] at blank
        cases blank
    · exact clean.go _ (by simp [dropped]) (by trivial) _ _

theorem Clean.begin_stop (clean : Clean plugin state) : Clean plugin (plugin.begin state .stop) :=
  clean.go (.stopping state.services) (by simp [mem_dropped_stopping]) trivial _ _

theorem Clean.register (clean : Clean plugin state) (registering : state.caller = .registering name metadata next)
    (careful : next = .putDir → ∀ other ∈ state.gone, plugin.dirPath name ≠ plugin.nodePath other)
    (moved : plugin.register state name metadata next = some later) : Clean plugin later := by
  have established := clean.established_of_caller registering
  have gone : ∀ other, Removed state other → other ∈ state.gone := by
    rintro other (gone | now)
    · exact gone
    · rw [registering] at now
      cases now
  cases next with
  | putBase =>
    cases moved
    exact (clean.put_basePath _).registering established metadata _
  | putDir =>
    cases moved
    exact (clean.put (fun other away => (careful rfl other (gone other away)).symm) _).registering established
      metadata _
  | deleteFirst =>
    cases moved
    exact (clean.delete _).registering established metadata _
  | putNode =>
    obtain ⟨_, ⟨⟩⟩ := Option.ite_none_left_eq_some.mp moved
    refine (clean.put (fun other away same => ?_) _).registering established metadata _
    rw [nodePath_injective plugin same] at away
    exact established.1 (gone name away)
  | appendService =>
    cases moved
    refine ⟨fun other away => clean.removed other (away.imp_right nofun), fun other away listed => ?_,
      fun other listed => ?_, clean.done, established⟩
    · rcases List.mem_append.mp listed with before | now
      · exact clean.quiet other away before
      · rw [List.mem_singleton.mp now] at away
        exact absurd away established.1
    · rcases List.mem_append.mp listed with before | now
      · exact clean.named other before
      · rw [List.mem_singleton.mp now]
        exact established.2
  | setMeta =>
    cases moved
    exact clean.go _ (by simp [dropped, removedBy]) (by trivial) _ _

theorem Clean.unregister (clean : Clean plugin state) (unregistering : state.caller = .unregistering name next)
    (careful : plugin.Careful state .act) : Clean plugin (plugin.unregister state name next) := by
  rw [Careful, unregistering] at careful
  have established := clean.established_of_caller unregistering
  have removed := clean.removed_of_caller unregistering
  cases next with
  | putBase =>
    exact (clean.put_basePath _).go _ (by simp [dropped]) (by trivial) _ _
  | putDir =>
    refine (clean.put (fun other away same => ?_) _).go _ (by simp [dropped]) (by trivial) _ _
    rw [Removed, unregistering] at away
    rcases away with gone | now
    · exact careful other gone same.symm
    · cases now
  | deleteNode =>
    refine (clean.delete _).go _ ?_ (by trivial) _ _
    intro other same
    rw [List.mem_singleton.mp same]
    exact ⟨store_delete_self _ _, careful⟩
  | filterServices =>
    exact
      { removed := removed
        quiet := fun other gone listed => clean.quiet other gone (List.mem_of_mem_filter listed)
        named := fun other listed => clean.named other (List.mem_of_mem_filter listed)
        done := clean.done
        established := by
          show name ∉ state.services.filter _
          simp }
  | deleteMeta =>
    exact clean.go (.returning (.unregister name) none) (fun other now => removed other (.inr now)) established _ _

theorem Clean.act_stopping (clean : Clean plugin state) (stopping : state.caller = .stopping pending)
    (careful : plugin.Careful state .act) (moved : plugin.act state = some next) : Clean plugin next := by
  have removed := clean.removed_of_caller stopping
  rw [Careful, stopping] at careful
  rw [act, stopping] at moved
  cases pending with
  | nil =>
    dsimp only at moved
    split at moved <;> cases moved
    · exact clean.go _ (by simp [dropped]) (by trivial) _ _
    · refine clean.go .awaiting (fun name listed => removed name (.inr ?_)) trivial _ _
      exact mem_dropped_stopping.mpr ⟨listed, List.not_mem_nil⟩
  | cons first rest =>
    dsimp only at moved
    split at moved <;> cases moved
    · rename_i absent
      refine clean.go _ ?_ (by trivial) _ _
      intro name now
      obtain ⟨listed, other⟩ := mem_dropped_stopping.mp now
      by_cases same : name = first
      · rw [same]
        exact ⟨absent, careful absent⟩
      · exact removed name (.inr (mem_dropped_stopping.mpr ⟨listed, List.not_mem_cons_of_ne_of_not_mem same other⟩))
    · exact clean.go (.deleting first rest) (fun name now => removed name (.inr now)) trivial _ _

theorem Clean.act_deleting (clean : Clean plugin state) (deleting : state.caller = .deleting first rest)
    (careful : plugin.Careful state .act) (moved : plugin.act state = some next) : Clean plugin next := by
  have removed := (clean.delete (plugin.nodePath first)).removed_of_caller deleting
  rw [Careful, deleting] at careful
  rw [act, deleting] at moved
  cases moved
  refine (clean.delete _).go _ ?_ (by trivial) _ _
  intro name now
  obtain ⟨listed, other⟩ := mem_dropped_stopping.mp now
  by_cases same : name = first
  · rw [same]
    exact ⟨store_delete_self _ _, careful⟩
  · exact removed name (.inr (mem_dropped_deleting.mpr ⟨listed, List.not_mem_cons_of_ne_of_not_mem same other⟩))

theorem Clean.act_awaiting (clean : Clean plugin state) (awaiting : state.caller = .awaiting)
    (moved : plugin.act state = some next) : Clean plugin next := by
  rw [act, awaiting] at moved
  obtain ⟨done, ⟨⟩⟩ := Option.ite_none_right_eq_some.mp moved
  have removed := clean.removed_of_caller awaiting
  exact clean.go (.returning .stop none) (fun name listed => removed name (.inr listed)) (clean.done done) _ _

theorem Clean.act_returning (clean : Clean plugin state) (returning : state.caller = .returning call err)
    (moved : plugin.act state = some next) : Clean plugin next := by
  rw [act, returning] at moved
  cases moved
  have removed := clean.removed_of_caller returning
  have established := clean.established_of_caller returning
  refine ⟨fun name away => removed name ?_, fun name away listed => ?_, clean.named, clean.done, trivial⟩
  · rcases away with gone | now
    · exact (List.mem_append.mp gone).symm
    · cases now
  · rcases List.mem_append.mp away with now | before
    · cases call with
      | register => cases now
      | unregister other =>
        rw [List.mem_singleton.mp now] at listed
        exact absurd listed established
      | stop => exact established
    · exact clean.quiet name before listed

theorem Clean.act (clean : Clean plugin state) (careful : plugin.Careful state .act)
    (moved : plugin.act state = some next) : Clean plugin next := by
  cases caller : state.caller with
  | free =>
    rw [RegisterPlugin.act, caller] at moved
    cases moved
  | registering name metadata step =>
    rw [RegisterPlugin.act, caller] at moved
    rw [Careful, caller] at careful
    exact clean.register caller (fun dir => by subst dir; exact careful) moved
  | unregistering name step =>
    rw [RegisterPlugin.act, caller] at moved
    cases moved
    exact clean.unregister caller careful
  | stopping pending => exact clean.act_stopping caller careful moved
  | deleting name pending => exact clean.act_deleting caller careful moved
  | awaiting => exact clean.act_awaiting caller moved
  | returning call err => exact clean.act_returning caller moved

theorem Clean.established_of_ticker (clean : Clean plugin state) (ticker : Ticker) (done : Bool)
    (stays : state.ticker = .ended → ticker = .ended) :
    Established { state with ticker := ticker, done := done } state.caller := by
  have established := clean.established
  cases caller : state.caller <;> rw [caller] at established
  case unregistering next => cases next <;> exact established
  case returning call err =>
    cases call with
    | register => trivial
    | unregister => exact established
    | stop => exact stays established
  all_goals exact established

/-- The goroutine goes on, with names that are there to stay. -/
theorem Clean.turn (clean : Clean plugin state) (running : state.ticker ≠ .ended) (ticker : Ticker)
    (names : ∀ name, Removed state name → name ∉ ticker.names) :
    Clean plugin { state with ticker := ticker } where
  removed name away := ⟨(clean.removed name away).1, names name away⟩
  quiet name gone listed := absurd (clean.quiet name gone listed) running
  named := clean.named
  done done := absurd (clean.done done) running
  established := clean.established_of_ticker ticker _ fun ended => absurd ended running

theorem Clean.tick (clean : Clean plugin state) (waiting : state.ticker = .waiting)
    (careful : plugin.Careful state .tick) : Clean plugin { state with ticker := .fetching state.services } := by
  have running : state.ticker ≠ .ended := by simp [waiting]
  refine clean.turn running _ fun name away listed => ?_
  rcases away with gone | now
  · exact running (clean.quiet name gone listed)
  · exact careful name listed now

theorem Clean.die (clean : Clean plugin state) : Clean plugin { state with ticker := .ended, done := true } where
  removed name away := ⟨(clean.removed name away).1, List.not_mem_nil⟩
  quiet _ _ _ := rfl
  named := clean.named
  done _ := rfl
  established := clean.established_of_ticker .ended true fun _ => rfl

theorem Clean.refresh (clean : Clean plugin state) (moved : plugin.refresh state encoded = some next) :
    Clean plugin next := by
  have free : ∀ name, Removed state name → name ∉ state.ticker.names := fun name away => (clean.removed name away).2
  rw [RegisterPlugin.refresh] at moved
  split at moved
  · rename_i ticker
    cases moved
    exact clean.turn (by simp [ticker]) _ fun _ _ => List.not_mem_nil
  · rename_i name pending ticker
    rw [ticker] at free
    split at moved <;> cases moved
    · exact clean.turn (by simp [ticker]) _ free
    · exact clean.turn (by simp [ticker]) _ free
  · rename_i name pending ticker
    rw [ticker] at free
    cases moved
    exact clean.turn (by simp [ticker]) _ free
  · rename_i name value pending ticker
    rw [ticker] at free
    cases moved
    -- The name is in the goroutine's hands, so that its node is none of the removed ones.
    have kept : Clean plugin (RegisterPlugin.put state (plugin.nodePath name) value) := by
      refine clean.put (fun other away same => ?_) value
      rw [nodePath_injective plugin same] at away
      exact free name away List.mem_cons_self
    exact kept.turn (by simp [RegisterPlugin.put, ticker]) _ fun other away later =>
      free other away (List.mem_cons_of_mem _ later)
  · cases moved

theorem Clean.step (clean : Clean plugin state) (careful : plugin.Careful state event)
    (moved : plugin.step state event = some next) : Clean plugin next := by
  cases event with
  | call call =>
    rw [RegisterPlugin.step] at moved
    split at moved <;> cases moved
    cases call with
    | register name metadata => exact clean.begin_register name metadata
    | unregister name => exact clean.begin_unregister careful
    | stop => exact clean.begin_stop
  | act => exact clean.act careful moved
  | tick =>
    rw [RegisterPlugin.step] at moved
    split at moved <;> cases moved
    exact clean.tick (by assumption) careful
  | die =>
    rw [RegisterPlugin.step] at moved
    split at moved
    · obtain ⟨_, ⟨⟩⟩ := Option.ite_none_right_eq_some.mp moved
      exact clean.die
    · cases moved
  | refresh encoded => exact clean.refresh moved
  | expire path =>
    cases moved
    exact clean.delete path

/-- As long as the goroutine keeps away from the names that are being removed, an unregistered
service has no node until it is registered again. -/
theorem unregistered_stays_away (plugin : RegisterPlugin) (reached : plugin.system.Reached plugin.Careful state)
    (name : Bytes) (gone : name ∈ state.gone) : state.store (plugin.nodePath name) = none := by
  have clean : Clean plugin state := by
    refine reached.invariant ?_ fun _ _ _ clean careful moved => clean.step careful moved
    rintro _ ⟨store, rfl⟩
    exact clean_start store
  exact (clean.removed name (.inl gone)).1

def samplePlugin (registry : Registry) : RegisterPlugin :=
  ⟨registry, utf8 "tcp@:8972", utf8 "irpc", by cases registry <;> rfl, true⟩

def arith : Bytes := utf8 "Arith"

/-- The call of a method, from its beginning to its return. -/
def whole (call : Call) (steps : Nat) : List Event := .call call :: List.replicate steps .act

/-- A service is registered, refreshed and, between two ticks, unregistered. -/
def betweenTicks : List Event :=
  whole (.register arith []) 6 ++ [.tick, .refresh [], .refresh [], .refresh []] ++
    whole (.unregister arith) 6 ++ [.tick]

theorem unregistered_stays_away_arith :
    ∃ state, (samplePlugin .consul).system.Reached (samplePlugin .consul).Careful state ∧ arith ∈ state.gone ∧
      state.store ((samplePlugin .consul).nodePath arith) = none :=
  have played : (samplePlugin .consul).system.playWithin (samplePlugin .consul).Careful
    ((samplePlugin .consul).start fun _ => none) betweenTicks = some _ := rfl
  have first : (samplePlugin .consul).system.Reached (samplePlugin .consul).Careful
    ((samplePlugin .consul).start fun _ => none) := .start ⟨_, rfl⟩
  have reached := first.playWithin played
  ⟨_, reached, List.mem_cons_self, unregistered_stays_away _ reached arith List.mem_cons_self⟩

/-- The goroutine has seen the node when the service is unregistered, and puts it back. -/
def overtaken (steps : Nat) : List Event :=
  whole (.register arith []) steps ++ [.tick, .refresh []] ++ whole (.unregister arith) 6 ++ [.refresh []]

/-- The ticker fires once more before the goroutine finds out that the plugin was stopped. -/
def lastTick (steps : Nat) : List Event :=
  whole (.register arith []) steps ++ whole .stop 3 ++
    [.tick, .refresh [], .refresh [], .refresh [], .refresh [], .die, .act, .act]

/-- An unregistered service has a node again. -/
def Resurrected (plugin : RegisterPlugin) : Prop :=
  ∃ state, plugin.system.Reachable state ∧ ∃ name ∈ state.gone, state.store (plugin.nodePath name) ≠ none

theorem resurrected_of_play (plugin : RegisterPlugin) (events : List Event) (name : Bytes)
    (back : (plugin.system.play (plugin.start fun _ => none) events).any
      (fun state => name ∈ state.gone ∧ state.store (plugin.nodePath name) ≠ none) = true) :
    Resurrected plugin := by
  cases played : plugin.system.play (plugin.start fun _ => none) events with
  | none =>
    rw [played] at back
    cases back
  | some state =>
    rw [played] at back
    obtain ⟨gone, present⟩ := of_decide_eq_true back
    exact ⟨state, .play (.start ⟨fun _ => none, rfl⟩) played, name, gone, present⟩

theorem overtaken_resurrects :
    Resurrected (samplePlugin .consul) ∧ Resurrected (samplePlugin .zooKeeper) ∧ Resurrected (samplePlugin .redis) :=
  ⟨resurrected_of_play _ (overtaken 6) arith rfl, resurrected_of_play _ (overtaken 7) arith rfl,
    resurrected_of_play _ (overtaken 6) arith rfl⟩

theorem lastTick_resurrects :
    Resurrected (samplePlugin .consul) ∧ Resurrected (samplePlugin .zooKeeper) ∧ Resurrected (samplePlugin .redis) :=
  ⟨resurrected_of_play _ (lastTick 6) arith rfl, resurrected_of_play _ (lastTick 7) arith rfl,
    resurrected_of_play _ (lastTick 6) arith rfl⟩

end Irpc.ServerPlugin.RegisterPlugin
