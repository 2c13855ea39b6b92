import PageRouter.Proofs.Session.Holding
import PageRouter.Proofs.Session.Within

namespace PageRouter

/-- Callbacks at these channels belong to no router. -/
def Channel.IsMinor : Channel → Prop
  | .locations _ | .routes _ => False
  | _ => True

/-- Callbacks at these channels belong to a router or a guard. -/
def Channel.IsInner : Channel → Prop
  | .changes | .unload | .observers _ => False
  | _ => True

/-- Observers that belong to no router are not registered with one. -/
theorem Channel.IsInner.ne_observers {channel : Channel} (hinner : channel.IsInner) {set : SetId} :
    channel ≠ .observers set := by
  rintro rfl
  exact hinner

/-- Events that say nothing of a change of the history or of what a router shows. -/
def Event.IsMinor {ε : Type} : Event ε → Prop
  | .changed _ | .routeReplaced .. | .syncAsked _ | .syncFailed .. | .errorTaken .. | .detached _ => False
  | .ran _ channel _ _ => channel.IsMinor
  | _ => True

/-- Events that say nothing of the history, and do not start a pass over its listeners either. -/
def Event.KeepsHistory {ε : Type} : Event ε → Prop
  | .changed _ | .passStarted _ .changes => False
  | _ => True

/-- Events that say nothing of how guards stand. -/
def Event.KeepsGuards {ε : Type} : Event ε → Prop
  | .looked _ | .unwound _ => False
  | _ => True

/-- Events that do not tell of a router that could not follow the history. -/
def Event.KeepsUp {ε : Type} : Event ε → Prop
  | .syncFailed .. => False
  | _ => True

/-- The pass, the channel and the registration of a callback that an event tells about to run. -/
def Event.run? {ε : Type} : Event ε → Option (Nat × Channel × Nat)
  | .ran pass channel id _ => some (pass, channel, id)
  | _ => none

/-- Events that concern neither the history, nor how guards stand, nor whether routers could follow. -/
structure Event.IsAside {ε : Type} (event : Event ε) : Prop where
  keepsHistory : event.KeepsHistory
  keepsGuards : event.KeepsGuards
  keepsUp : event.KeepsUp

variable {κ σ ε α β : Type}

/-- An event that does not tell of what a router shows does not tell of one that could not follow. -/
theorem Event.IsMinor.keepsUp {event : Event ε} (h : event.IsMinor) : event.KeepsUp := by
  cases event <;> first | exact h.elim | trivial

/-- A session after a router could not follow a change, the error of which it keeps. -/
abbrev World.fail (world : World κ σ ε) (router : RouterId) (error : RouteError) : World κ σ ε :=
  (world.record (.syncFailed router error)).modifyRouter router fun r => { r with syncError := some error }

/-- A session after the error that a router kept was taken. -/
abbrev World.takeError (world : World κ σ ε) (router : RouterId) : World κ σ ε :=
  (world.record (.errorTaken router (world.routers[router]?.bind (·.syncError)))).modifyRouter router
    fun r => { r with syncError := none }

/-- The callbacks that were run, latest first. -/
def World.runs (world : World κ σ ε) : List (Nat × Channel × Nat) :=
  world.journal.filterMap Event.run?

/-- A registry after one callback more was registered, or one was removed. -/
inductive Registry.Changed (registry : Registry α) : Registry α → Prop
  | subscribe (callback : α) : Changed registry (registry.subscribe callback)
  | unsubscribe (id : Nat) : Changed registry (registry.unsubscribe id)

/-- A change of a session that keeps the history and what its routers show. Most of these changes are slight: they do
not concern the blockers of guards either. The others are those of adding and removing blockers. -/
inductive Minor : World κ σ ε → World κ σ ε → Prop
  | elsewhere {world world' : World κ σ ε} (hhistory : world'.history = world.history)
      (hchanges : world'.changes = world.changes) (hrouters : world'.routers = world.routers)
      (hjournal : world'.journal = world.journal)
      (hhandles : ∀ id, ⟨.changes, id⟩ ∈ world'.handles → ⟨.changes, id⟩ ∈ world.handles)
      (hsets : KeepsSets world world') : Minor world world'
  | record (world : World κ σ ε) {event : Event ε} (hminor : event.IsMinor) :
      Minor world (world.record event)
  | hold (world : World κ σ ε) (router : RouterId) : Minor world (world.holdRouter router)
  | release (world : World κ σ ε) (router : RouterId) : Minor world (world.releaseRouter router)
  | detach (world : World κ σ ε) (router : RouterId) : Minor world (world.detach router)
  | fail (world : World κ σ ε) (router : RouterId) (error : RouteError) :
      Minor world (world.fail router error)
  | takeError (world : World κ σ ε) (router : RouterId) : Minor world (world.takeError router)
  | observeLocations (world : World κ σ ε) (router : RouterId) (change : Registry κ → Registry κ)
      (hchange : ∀ registry : Registry κ, registry.Changed (change registry)) :
      Minor world (world.modifyRouter router
        fun r => { r with locationObservers := change r.locationObservers })
  | observeRoutes (world : World κ σ ε) (router : RouterId) (change : Registry κ → Registry κ)
      (hchange : ∀ registry : Registry κ, registry.Changed (change registry)) :
      Minor world (world.modifyRouter router
        fun r => { r with routeObservers := change r.routeObservers })
  | listen (world : World κ σ ε) (callback : κ) :
      Minor world { world with
        changes := world.changes.subscribe (.host callback)
        handles := ⟨.changes, world.changes.nextId⟩ :: world.handles }
  | unlisten (world : World κ σ ε) (id : Nat) (hhandle : ⟨.changes, id⟩ ∈ world.handles) :
      Minor world { world with
        changes := world.changes.unsubscribe id
        handles := world.handles.erase ⟨.changes, id⟩ }
  | opened (world : World κ σ ε) (router : Router κ) (guards : List (Guard κ)) (nextStamp : Nat)
      (hlocation : router.location.value = world.history.location)
      (hroute : router.tree.resolve world.history.location.pathname =
        .ok (router.route.map (·.value)))
      (hsubscription : router.subscription = some world.changes.nextId)
      (hholders : router.holders = 1) (hlocationObservers : router.locationObservers = {})
      (hrouteObservers : router.routeObservers = {}) (hsyncError : router.syncError = none) :
      Minor world { world with
        routers := world.routers ++ [router]
        changes := world.changes.subscribe (.router world.routers.length)
        guards, nextStamp }

/-- What a guard has to do with its blockers, whoever holds it. -/
def Guard.unheld (guard : Guard κ) : Guard κ :=
  { guard with holders := 0 }

namespace World

/-- A guard of a session, whoever holds it. One that is not there is like a new one. -/
def guardAt (world : World κ σ ε) (guard : GuardId) : Guard κ :=
  (world.guards[guard]?.getD {}).unheld

/-- What a guard has to do with its blockers is seen from the guards of the session alone. -/
theorem guardAt_of_guards_eq {world after : World κ σ ε} (hguards : after.guards = world.guards)
    (guard : GuardId) : after.guardAt guard = world.guardAt guard :=
  congrArg (fun guards : List (Guard κ) => (guards[guard]?.getD {}).unheld) hguards

/-- Changing who holds a guard changes nothing about what it has to do with its blockers. -/
theorem guardAt_modifyGuard (world : World κ σ ε) (guard : GuardId) {f : Guard κ → Guard κ}
    (hf : ∀ g, (f g).unheld = g.unheld) (other : GuardId) :
    (world.modifyGuard guard f).guardAt other = world.guardAt other := by
  rw [guardAt, modifyGuard, List.getElem?_modify, guardAt]
  cases world.guards[other]? with
  | none => rfl
  | some g =>
    dsimp only [Option.map_eq_map, Option.map_some, Option.getD_some]
    split
    · exact hf g
    · rfl

/-- Holding a guard is such a change. -/
theorem guardAt_holdGuard (world : World κ σ ε) (guard other : GuardId) :
    (world.holdGuard guard).guardAt other = world.guardAt other :=
  guardAt_modifyGuard world guard (f := fun g => { g with holders := g.holders + 1 }) (fun _ => rfl) other

/-- Letting go of a guard is such a change. -/
theorem guardAt_releaseGuard (world : World κ σ ε) (guard other : GuardId) :
    (world.releaseGuard guard).guardAt other = world.guardAt other :=
  guardAt_modifyGuard world guard (f := fun g => { g with holders := g.holders - 1 }) (fun _ => rfl) other

/-- A router that is detached is noted as such, and as nothing else. -/
theorem journal_detach (world : World κ σ ε) (router : RouterId) :
    ∃ events, (world.detach router).journal = events ++ world.journal ∧ ∀ event ∈ events, event = .detached router := by
  rw [detach]
  split
  · exact ⟨[], rfl, by simp⟩
  · exact ⟨[.detached router], rfl, by simp⟩

/-- A router that is let go of is detached if nobody holds it any more, and that is all that is noted. -/
theorem journal_releaseRouter (world : World κ σ ε) (router : RouterId) :
    ∃ events, (world.releaseRouter router).journal = events ++ world.journal ∧
      ∀ event ∈ events, event = .detached router := by
  rw [releaseRouter]
  split
  · exact ⟨[], rfl, by simp⟩
  · dsimp only
    split
    · exact journal_detach (world.modifyRouter router _) router
    · exact ⟨[], rfl, by simp⟩

private theorem nextPass_detach (world : World κ σ ε) (router : RouterId) :
    (world.detach router).nextPass = world.nextPass := by
  rw [World.detach]
  split <;> rfl

/-- No pass is started when a router is let go of. -/
theorem nextPass_releaseRouter (world : World κ σ ε) (router : RouterId) :
    (world.releaseRouter router).nextPass = world.nextPass := by
  rw [World.releaseRouter]
  split
  · rfl
  · dsimp only
    split
    · exact nextPass_detach (world.modifyRouter router _) router
    · rfl

/-- No callback runs when a router is detached. -/
theorem runs_of_detached {world after : World κ σ ε} {router : RouterId} {events : List (Event ε)}
    (hjournal : after.journal = events ++ world.journal) (hevents : ∀ event ∈ events, event = .detached router) :
    after.runs = world.runs := by
  have hnone : events.filterMap Event.run? = [] :=
    List.filterMap_eq_nil_iff.2 fun event hevent => hevents event hevent ▸ rfl
  rw [World.runs, hjournal, List.filterMap_append, hnone, List.nil_append, World.runs]

/-- A guard that was just opened is like one that was not there. -/
theorem guardAt_concat {world after : World κ σ ε} (hguards : after.guards = world.guards ++ [({} : Guard κ)])
    (guard : GuardId) : after.guardAt guard = world.guardAt guard := by
  rw [guardAt, hguards, guardAt, List.getElem?_append]
  split
  · rfl
  · next hbeyond =>
    rw [List.getElem?_eq_none (Nat.not_lt.1 hbeyond), List.getElem?_singleton]
    split <;> rfl

end World

/-- The unload handlers of guards stay, and those of the host come and go with the registrations in its hands. -/
inductive KeepsUnload (world after : World κ σ ε) : Prop
  | same (hunload : after.unload = world.unload)
      (hhandles : ∀ id, ⟨.unload, id⟩ ∈ after.handles → ⟨.unload, id⟩ ∈ world.handles)
  | listen (callback : κ) (hunload : after.unload = world.unload.subscribe (.host callback))
      (hhandles : after.handles = ⟨.unload, world.unload.nextId⟩ :: world.handles)
  | unlisten (id : Nat) (hhandle : ⟨.unload, id⟩ ∈ world.handles)
      (hunload : after.unload = world.unload.unsubscribe id)
      (hhandles : after.handles = world.handles.erase ⟨.unload, id⟩)

/-- A change of a session that does not concern the blockers of guards. -/
structure KeepsGuards (world after : World κ σ ε) : Prop where
  guardAt : ∀ guard, after.guardAt guard = world.guardAt guard
  unload : KeepsUnload world after

/-- A change of neither guards nor handlers nor registrations in the hands of the host does not concern blockers. -/
theorem KeepsGuards.of_eq {world after : World κ σ ε} (hguards : after.guards = world.guards)
    (hunload : after.unload = world.unload) (hhandles : after.handles = world.handles) :
    KeepsGuards world after :=
  ⟨World.guardAt_of_guards_eq hguards, .same hunload fun _ hid => hhandles ▸ hid⟩

/-- A minor change that does not concern the blockers of guards, nor how routers follow the history. -/
structure Slight (world after : World κ σ ε) : Prop where
  minor : Minor world after
  guards : KeepsGuards world after
  events : ∃ events, after.journal = events ++ world.journal ∧
    ∀ event ∈ events, event.IsAside

/-- A slight change that starts no pass, and in which no callback runs. -/
structure Still (world after : World κ σ ε) : Prop extends Slight world after where
  nextPass : after.nextPass = world.nextPass
  runs : after.runs = world.runs

namespace Slight

variable {world after : World κ σ ε}

/-- What is changed here concerns neither the history nor routers, nor who is told or asked of anything. -/
theorem elsewhere (hhistory : after.history = world.history) (hchanges : after.changes = world.changes)
    (hrouters : after.routers = world.routers) (hjournal : after.journal = world.journal)
    (hhandles : after.handles ⊆ world.handles) (hsets : KeepsSets world after)
    (hguards : ∀ guard, after.guardAt guard = world.guardAt guard) (hunload : after.unload = world.unload) :
    Slight world after where
  minor := .elsewhere hhistory hchanges hrouters hjournal (fun _ hid => hhandles hid) hsets
  guards := ⟨hguards, .same hunload fun _ hid => hhandles hid⟩
  events := ⟨[], hjournal, by simp⟩

/-- A note is slight unless it tells of the history, of guards, or of what routers show. -/
theorem record (world : World κ σ ε) {event : Event ε} (hminor : event.IsMinor)
    (hhistory : event.KeepsHistory) (hguards : event.KeepsGuards) : Slight world (world.record event) where
  minor := .record world hminor
  guards := .of_eq rfl rfl rfl
  events := ⟨[event], rfl, by simpa using ⟨hhistory, hguards, hminor.keepsUp⟩⟩

end Slight

section Detaching

private theorem keepsGuards_detach (world : World κ σ ε) (router : RouterId) :
    (world.detach router).guards = world.guards ∧ (world.detach router).unload = world.unload ∧
      (world.detach router).handles = world.handles := by
  rw [World.detach]
  split <;> exact ⟨rfl, rfl, rfl⟩

/-- Letting go of a router does not concern the blockers of guards, not even of its own. -/
theorem keepsGuards_releaseRouter (world : World κ σ ε) (router : RouterId) :
    KeepsGuards world (world.releaseRouter router) := by
  rw [World.releaseRouter]
  split
  · exact .of_eq rfl rfl rfl
  · dsimp only
    split
    · obtain ⟨hguards, hunload, hhandles⟩ :=
        keepsGuards_detach (world.modifyRouter router fun r => { r with holders := r.holders - 1 }) router
      refine ⟨fun guard => ?_, .same hunload fun _ hid => hhandles ▸ hid⟩
      exact (World.guardAt_releaseGuard _ _ guard).trans (World.guardAt_of_guards_eq hguards guard)
    · exact .of_eq rfl rfl rfl

/-- Notes about detached routers concern nothing that callbacks are judged by. -/
theorem isAside_of_detached {router : RouterId} {events : List (Event ε)}
    (hevents : ∀ event ∈ events, event = .detached router) (event : Event ε) (hevent : event ∈ events) :
    event.IsAside :=
  hevents event hevent ▸ ⟨trivial, trivial, trivial⟩

end Detaching

namespace Still

variable {world after : World κ σ ε}

/-- What is changed here concerns neither the history nor routers, nor who is told or asked of anything, nor the
numbers of passes. -/
theorem elsewhere (hhistory : after.history = world.history) (hchanges : after.changes = world.changes)
    (hrouters : after.routers = world.routers) (hjournal : after.journal = world.journal)
    (hhandles : after.handles ⊆ world.handles) (hsets : KeepsSets world after)
    (hguards : ∀ guard, after.guardAt guard = world.guardAt guard) (hunload : after.unload = world.unload)
    (hnextPass : after.nextPass = world.nextPass) : Still world after where
  toSlight := .elsewhere hhistory hchanges hrouters hjournal hhandles hsets hguards hunload
  nextPass := hnextPass
  runs := congrArg (List.filterMap Event.run?) hjournal

/-- A note is still if it is slight and does not tell that a callback is about to run. -/
theorem record (world : World κ σ ε) {event : Event ε} (hminor : event.IsMinor) (hhistory : event.KeepsHistory)
    (hguards : event.KeepsGuards) (hrun : event.run? = none) : Still world (world.record event) where
  toSlight := .record world hminor hhistory hguards
  nextPass := rfl
  runs := List.filterMap_cons_none hrun

theorem hold (world : World κ σ ε) (router : RouterId) : Still world (world.holdRouter router) where
  minor := .hold world router
  guards := .of_eq rfl rfl rfl
  events := ⟨[], rfl, by simp⟩
  nextPass := rfl
  runs := rfl

/-- Detaching a router is a note and the removal of its listener. -/
theorem detach (world : World κ σ ε) (router : RouterId) : Still world (world.detach router) := by
  obtain ⟨hguards, hunload, hhandles⟩ := keepsGuards_detach world router
  obtain ⟨events, hjournal, hevents⟩ := world.journal_detach router
  exact {
    minor := .detach world router
    guards := .of_eq hguards hunload hhandles
    events := ⟨events, hjournal, isAside_of_detached hevents⟩
    nextPass := world.nextPass_detach router
    runs := World.runs_of_detached hjournal hevents }

/-- Letting go of a router is detaching it at most. -/
theorem release (world : World κ σ ε) (router : RouterId) : Still world (world.releaseRouter router) := by
  obtain ⟨events, hjournal, hevents⟩ := world.journal_releaseRouter router
  exact {
    minor := .release world router
    guards := keepsGuards_releaseRouter world router
    events := ⟨events, hjournal, isAside_of_detached hevents⟩
    nextPass := world.nextPass_releaseRouter router
    runs := World.runs_of_detached hjournal hevents }

/-- Taking the error that a router kept is a note, and the router without the error. -/
theorem takeError (world : World κ σ ε) (router : RouterId) : Still world (world.takeError router) where
  minor := .takeError world router
  guards := .of_eq rfl rfl rfl
  events := ⟨[.errorTaken router _], rfl, by simpa using ⟨trivial, trivial, trivial⟩⟩
  nextPass := rfl
  runs := rfl

/-- Registering and removing location observers of a router is still, since these are run by reconciliations alone. -/
theorem observeLocations (world : World κ σ ε) (router : RouterId) {change : Registry κ → Registry κ}
    (hchange : ∀ registry : Registry κ, registry.Changed (change registry)) :
    Still world (world.modifyRouter router
      fun r => { r with locationObservers := change r.locationObservers }) where
  minor := .observeLocations world router change hchange
  guards := .of_eq rfl rfl rfl
  events := ⟨[], rfl, by simp⟩
  nextPass := rfl
  runs := rfl

/-- The same for its route observers. -/
theorem observeRoutes (world : World κ σ ε) (router : RouterId) {change : Registry κ → Registry κ}
    (hchange : ∀ registry : Registry κ, registry.Changed (change registry)) :
    Still world (world.modifyRouter router
      fun r => { r with routeObservers := change r.routeObservers }) where
  minor := .observeRoutes world router change hchange
  guards := .of_eq rfl rfl rfl
  events := ⟨[], rfl, by simp⟩
  nextPass := rfl
  runs := rfl

/-- A listener of the host is put behind all others, so that routers listen as before. -/
theorem listen (world : World κ σ ε) (callback : κ) :
    Still world { world with
      changes := world.changes.subscribe (.host callback)
      handles := ⟨.changes, world.changes.nextId⟩ :: world.handles } where
  minor := .listen world callback
  guards := ⟨World.guardAt_of_guards_eq rfl, .same rfl fun id hid => by simpa using hid⟩
  events := ⟨[], rfl, by simp⟩
  nextPass := rfl
  runs := rfl

/-- A listener that the host takes back is its own, so that routers listen as before. -/
theorem unlisten (world : World κ σ ε) {id : Nat} (hhandle : ⟨.changes, id⟩ ∈ world.handles) :
    Still world { world with
      changes := world.changes.unsubscribe id
      handles := world.handles.erase ⟨.changes, id⟩ } where
  minor := .unlisten world id hhandle
  guards := ⟨World.guardAt_of_guards_eq rfl, .same rfl fun _ hid => List.mem_of_mem_erase hid⟩
  events := ⟨[], rfl, by simp⟩
  nextPass := rfl
  runs := rfl

/-- An unload handler of the host is none of a guard. -/
theorem listenUnload (world : World κ σ ε) (callback : κ) :
    Still world { world with
      unload := world.unload.subscribe (.host callback)
      handles := ⟨.unload, world.unload.nextId⟩ :: world.handles } where
  minor := .elsewhere rfl rfl rfl rfl (fun id hid => by simpa using hid)
    (.of_sets_eq rfl fun _ => Subscription.idsAt_cons_of_ne nofun)
  guards := ⟨World.guardAt_of_guards_eq rfl, .listen callback rfl rfl⟩
  events := ⟨[], rfl, by simp⟩
  nextPass := rfl
  runs := rfl

/-- An unload handler that the host takes back is its own. -/
theorem unlistenUnload (world : World κ σ ε) {id : Nat} (hhandle : ⟨.unload, id⟩ ∈ world.handles) :
    Still world { world with
      unload := world.unload.unsubscribe id
      handles := world.handles.erase ⟨.unload, id⟩ } where
  minor := .elsewhere rfl rfl rfl rfl (fun _ hid => List.mem_of_mem_erase hid)
    (.of_sets_eq rfl fun _ => Subscription.idsAt_erase_of_ne nofun)
  guards := ⟨World.guardAt_of_guards_eq rfl, .unlisten id hhandle rfl rfl⟩
  events := ⟨[], rfl, by simp⟩
  nextPass := rfl
  runs := rfl

theorem openSet (world : World κ σ ε) : Still world { world with sets := world.sets ++ [{}] } :=
  elsewhere rfl rfl rfl rfl (List.Subset.refl _) (.opened world) (World.guardAt_of_guards_eq rfl) rfl rfl

/-- Observers that belong to no router hear of nothing that happens in a session. -/
theorem listenSet (world : World κ σ ε) (set : SetId) (callback : κ) : Still world (world.listenSet set callback) where
  minor := .elsewhere rfl rfl rfl rfl (fun id hid => by simpa using hid) (.listenSet world set callback)
  guards := ⟨World.guardAt_of_guards_eq rfl, .same rfl fun id hid => by simpa using hid⟩
  events := ⟨[], rfl, by simp⟩
  nextPass := rfl
  runs := rfl

theorem unlistenSet (world : World κ σ ε) {set : SetId} {id : Nat} (hhandle : ⟨.observers set, id⟩ ∈ world.handles) :
    Still world (world.unlistenSet set id) :=
  elsewhere rfl rfl rfl rfl List.erase_subset (.unlistenSet world hhandle) (World.guardAt_of_guards_eq rfl) rfl rfl

/-- The memory of the host is its own. -/
theorem remember (world : World κ σ ε) (change : σ → σ) :
    Still world { world with memory := change world.memory } :=
  elsewhere rfl rfl rfl rfl (List.Subset.refl _) (.of_handles_eq rfl rfl) (World.guardAt_of_guards_eq rfl) rfl rfl

/-- A guard that was just opened has no blockers, like one that was not there. -/
theorem openGuard (world : World κ σ ε) : Still world { world with guards := world.guards ++ [{}] } :=
  elsewhere rfl rfl rfl rfl (List.Subset.refl _) (.of_handles_eq rfl rfl) (World.guardAt_concat rfl) rfl rfl

theorem holdGuard (world : World κ σ ε) (guard : GuardId) : Still world (world.holdGuard guard) :=
  elsewhere rfl rfl rfl rfl (List.Subset.refl _) (.of_handles_eq rfl rfl) (World.guardAt_holdGuard world guard) rfl rfl

theorem releaseGuard (world : World κ σ ε) (guard : GuardId) : Still world (world.releaseGuard guard) :=
  elsewhere rfl rfl rfl rfl (List.Subset.refl _) (.of_handles_eq rfl rfl) (World.guardAt_releaseGuard world guard) rfl rfl

end Still

end PageRouter
