import PageRouter.Proofs.Route.Resolution
import PageRouter.Proofs.Session.Minor

namespace PageRouter

variable {κ σ ε α β : Type}

/-- Resolving a path fails in one way only, by a tie. -/
theorem RouteTree.eq_ambiguous_of_resolve_eq_error {tree : RouteTree} {path : String} {error : RouteError}
    (herror : tree.resolve path = .error error) : ∃ templates, error = .ambiguous path templates := by
  rw [RouteTree.resolve, resolve_eq_verdict] at herror
  exact ⟨_, (verdict_eq_error_iff.1 herror).2⟩

/-- What can become of a history at once. -/
inductive History.Next (history : History) : History → Prop
  | commit (action : Action) (entry : Entry) : Next history (history.commit action entry)
  | move {delta : Int} {after : History} (hmove : history.move? delta = some after) : Next history after

namespace Run

section Resolving

/-- A path that resolves leaves the session as it is. -/
theorem exec_resolve_ok {tree : RouteTree} {path : String} {route : Option Match}
    (hroute : tree.resolve path = .ok route) (world : World κ σ ε) :
    (resolve tree path).exec world = (.ok (.ok route), world) := by
  rw [resolve, hroute]
  rfl

/-- A tie is written into the journal before it is returned. -/
theorem exec_resolve_error {tree : RouteTree} {path : String} {templates : List String}
    (htie : tree.resolve path = .error (.ambiguous path templates)) (world : World κ σ ε) :
    (resolve tree path).exec world =
      (.ok (.error (.ambiguous path templates)), world.record (.ambiguous path templates)) := by
  rw [resolve, htie]
  rfl

/-- A router that was opened shows the current location with its route, and listens to changes. -/
theorem exec_openRouter_ok {tree : RouteTree} {world : World κ σ ε} {route : Option Match}
    (hroute : tree.resolve world.history.location.pathname = .ok route) :
    ∃ (stored : Option (Stamped Match)) (nextStamp : Nat), stored.map (·.value) = route ∧
      (openRouter tree).exec world = (.ok (.ok world.routers.length), { world with
        routers := world.routers ++ [{
          tree, guard := world.guards.length, location := ⟨world.nextStamp, world.history.location⟩
          route := stored, subscription := some world.changes.nextId }]
        changes := world.changes.subscribe (.router world.routers.length)
        guards := world.guards ++ [{}], nextStamp }) := by
  rw [openRouter, exec_get_bind, exec_bind_ok (exec_resolve_ok hroute world)]
  cases route with
  | none => exact ⟨none, world.nextStamp + 1, rfl, rfl⟩
  | some found => exact ⟨some ⟨world.nextStamp + 1, found⟩, world.nextStamp + 2, rfl, rfl⟩

end Resolving

section Registering

/-- What is handed out for a blocker is a registration with a guard. -/
theorem yields_addBlocker (host : Host κ σ ε) (invoke : Invoke κ σ ε) (guard : GuardId) (callback : κ) :
    Yields (·.channel.IsInner) (addBlocker host invoke guard callback) := by
  rw [addBlocker, changingGuard]
  refine yields_between (yields_bind fun world => ?_)
  split
  · exact yields_pure trivial
  · refine yields_bind fun _ => ?_
    split
    · exact yields_bind fun _ => yields_pure trivial
    · exact yields_pure trivial

/-- What is handed out for a blocker of a router is a registration with the guard of the router. -/
theorem yields_block (host : Host κ σ ε) (invoke : Invoke κ σ ε) (router : RouterId) (callback : κ) :
    Yields (·.channel.IsInner) (block host invoke router callback) := by
  rw [block, holdingRouter]
  refine yields_between (yields_bind fun world => ?_)
  split
  · exact yields_pure trivial
  · exact yields_addBlocker host invoke _ callback

/-- A registration that is handed out is one at the channel that was asked for. -/
theorem yields_subscribe (host : Host κ σ ε) (invoke : Invoke κ σ ε) {channel : Channel} (callback : κ)
    (hinner : channel.IsInner) : Yields (·.channel.IsInner) (subscribe host invoke channel callback) := by
  cases channel with
  | changes | unload | observers _ => exact hinner.elim
  | locations router => exact yields_modifyGet fun _ => trivial
  | routes router => exact yields_modifyGet fun _ => trivial
  | blockers guard =>
    rw [subscribe, holdingGuard]
    exact yields_between (yields_addBlocker host invoke guard callback)

end Registering

/-- Something that is said of a computation that starts in a session. -/
abbrev Judgement (κ σ ε : Type) := ∀ α : Type, Run κ σ ε α → World κ σ ε → Prop

/-- It is said of a computation wherever that starts. -/
def Judgement.Always (J : Judgement κ σ ε) (body : Run κ σ ε α) : Prop :=
  ∀ world, J α body world

/-- A judgement of composed computations that follows from the judgements of their parts. Whatever is to be said of
computations in sessions takes such rules of composition, and one rule for each part that requests are made of; it
then holds of all that can be requested. -/
structure Composes (J : Judgement κ σ ε) : Prop where
  of_pure {α : Type} (value : α) (world : World κ σ ε) : J α (pure value) world
  of_get_bind {β : Type} {next : World κ σ ε → Run κ σ ε β} {world : World κ σ ε}
    (hnext : J β (next world) world) : J β ((get : Run κ σ ε (World κ σ ε)) >>= next) world
  of_bind {α β : Type} {first : Run κ σ ε α} {next : α → Run κ σ ε β} {world : World κ σ ε}
    (hfirst : J α first world)
    (hnext : ∀ value after, first.exec world = (.ok value, after) → J β (next value) after) :
    J β (first >>= next) world

namespace Composes

variable {J : Judgement κ σ ε} (h : Composes J)

include h

/-- A computation that only gives a value is judged well in every session. -/
theorem always_pure (value : α) : J.Always (pure value : Run κ σ ε α) :=
  h.of_pure value

/-- A computation that looks at the session first is judged by how it goes on. -/
theorem get_bind {next : World κ σ ε → Run κ σ ε β} (hnext : ∀ world, J.Always (next world)) :
    J.Always ((get : Run κ σ ε (World κ σ ε)) >>= next) :=
  fun world => h.of_get_bind (hnext world world)

/-- Computations one after the other are judged part by part. -/
theorem bind {first : Run κ σ ε α} {next : α → Run κ σ ε β} (hfirst : J.Always first)
    (hnext : ∀ value, J.Always (next value)) : J.Always (first >>= next) :=
  fun world => h.of_bind (hfirst world) fun value after _ => hnext value after

theorem perform {invoke : Invoke κ σ ε} {callback : κ} (hinvoke : J.Always (invoke callback false)) :
    J.Always (perform invoke callback) :=
  h.bind hinvoke fun _ => h.always_pure ()

/-- Asking one after the other is judged by the notes about who is asked, and by what those do who are. -/
theorem askUntilYes {pass : Nat} {channel : Channel} {ask : α → Run κ σ ε Bool}
    (hran : ∀ id, J.Always (recordRan pass channel id)) (hask : ∀ callback, J.Always (ask callback))
    (asked : List (Nat × α)) : J.Always (askUntilYes pass channel ask asked) := by
  induction asked with
  | nil => exact h.always_pure false
  | cons first more ih =>
    refine h.bind (hran first.1) fun _ => h.bind (hask first.2) fun answer => ?_
    cases answer with
    | true => exact h.always_pure true
    | false => exact ih

end Composes

/-- A change of a guard that puts at most one blocker into its chain, or takes one out. -/
def MendsChain (f : Guard κ → Guard κ) : Prop :=
  ∀ g, (f g).blockers = g.blockers ∨ g.blockers.Changed (f g).blockers

/-- A judgement that holds of each step of adding and removing blockers. -/
structure Mending (J : Judgement κ σ ε) : Prop extends Composes J where
  modifyGuard (guard : GuardId) {f : Guard κ → Guard κ} (hmends : MendsChain f) :
    J.Always (modify (·.modifyGuard guard f))
  between (guard : GuardId) {f g : Guard κ → Guard κ} (hf : MendsChain f) (hg : MendsChain g) {α : Type}
    {body : Run κ σ ε α} (hbody : J.Always body) :
    J.Always (between (·.modifyGuard guard f) (·.modifyGuard guard g) body)
  unloading {α : Type} {body : Run κ σ ε α} {value : α} {world : World κ σ ε}
    {unload : Registry (UnloadHandler κ)} (hexec : body.exec world = (.ok value, { world with unload })) :
    J α body world
  noteUnwinding (guard : GuardId) {body : Run κ σ ε Unit} (hbody : J.Always body) :
    J.Always (noteUnwinding guard body)

namespace Mending

variable {J : Judgement κ σ ε} (h : Mending J)

include h

/-- Counting an addition or a removal while it is under way touches no blocker. -/
theorem changingGuard (guard : GuardId) {body : Run κ σ ε α} (hbody : J.Always body) :
    J.Always (changingGuard guard body) := by
  refine h.between guard ?_ ?_ hbody
  · exact fun _ => .inl rfl
  · exact fun _ => .inl rfl

variable {host : Host κ σ ε} {invoke : Invoke κ σ ε} (hinvoke : ∀ callback told, J.Always (invoke callback told))

include hinvoke

/-- Callbacks that a source runs around a registration are callbacks like others. -/
theorem performHook (guard : GuardId) (hook : Option κ) : J.Always (performHook invoke guard hook) := by
  cases hook with
  | none => exact h.always_pure ()
  | some callback => exact h.noteUnwinding guard (h.perform (hinvoke callback false))

/-- Taking the handler of a guard out is a step of the list of handlers, with callbacks around it. -/
theorem detachUnload (guard : GuardId) (registration : Nat) :
    J.Always (detachUnload host invoke guard registration) := by
  refine h.bind (h.performHook hinvoke guard host.beforeDetach) fun _ => ?_
  refine h.bind (fun world => h.unloading (exec_modify _ world)) fun _ => ?_
  exact h.performHook hinvoke guard host.afterDetach

/-- Registering the handler of a guard comes to taking it out again if no blocker is left by then. -/
theorem attachUnload (guard : GuardId) : J.Always (attachUnload host invoke guard) := by
  refine h.bind (h.performHook hinvoke guard host.beforeAttach) fun _ => ?_
  refine h.bind (fun world => h.unloading (exec_modifyGet _ world)) fun registration => ?_
  refine h.bind (h.performHook hinvoke guard host.afterAttach) fun _ => ?_
  refine h.bind (h.modifyGuard guard fun _ => .inl rfl) fun _ => h.get_bind fun world => ?_
  split
  · exact h.detachUnload hinvoke guard registration
  · exact h.modifyGuard guard fun _ => .inl rfl

/-- Adding a blocker changes the chain once and attaches the handler if that is due. -/
theorem addBlocker (guard : GuardId) (callback : κ) : J.Always (addBlocker host invoke guard callback) := by
  refine h.changingGuard guard (h.get_bind fun world => ?_)
  split
  · exact h.always_pure _
  · refine h.bind (h.modifyGuard guard fun _ => .inr (.subscribe callback)) fun _ => ?_
    split
    · exact h.bind (h.attachUnload hinvoke guard) fun _ => h.always_pure _
    · exact h.always_pure _

/-- Removing a blocker changes the chain once and takes the handler out if that was the last one. -/
theorem removeBlocker (guard : GuardId) (id : Nat) : J.Always (removeBlocker host invoke guard id) := by
  refine h.get_bind fun world => ?_
  split
  · refine h.between guard ?_ ?_ (h.changingGuard guard ?_)
    · exact fun _ => .inl rfl
    · exact fun _ => .inl rfl
    refine h.bind (h.modifyGuard guard fun _ => .inr (.unsubscribe id)) fun _ => h.get_bind fun world => ?_
    split
    · exact h.always_pure ()
    · split
      · refine h.bind (h.modifyGuard guard fun _ => .inl rfl) fun _ => ?_
        split
        · exact h.always_pure ()
        · exact h.detachUnload hinvoke guard _
      · exact h.always_pure ()
  · exact h.always_pure ()

end Mending

/-- A judgement that holds of each step of a pass, unless that is one over the listeners or over the observers of a
router. -/
structure Noting (J : Judgement κ σ ε) : Prop extends Composes J where
  startPass {channel : Channel} (hother : channel ≠ .changes) : J.Always (startPass channel)
  recordRan {channel : Channel} (hminor : channel.IsMinor) (pass id : Nat) : J.Always (recordRan pass channel id)
  contain {body : Run κ σ ε Unit} (hbody : J.Always body) : J.Always (contain body)

namespace Noting

variable {J : Judgement κ σ ε} (h : Noting J)

include h

/-- Observers run one after the other, each contained, with a note in front. -/
theorem runObservers {pass : Nat} {channel : Channel} (hminor : channel.IsMinor) {run : α → Run κ σ ε Unit}
    (hrun : ∀ observer, J.Always (run observer)) (observers : List (Nat × α)) :
    J.Always (runObservers pass channel run observers) := by
  induction observers with
  | nil => exact h.always_pure ()
  | cons first more ih =>
    exact h.bind (h.recordRan hminor pass first.1) fun _ => h.bind (h.contain (hrun first.2)) fun _ => ih

/-- A pass over observers is the start of a pass and a run of those that are registered by then. -/
theorem notify {channel : Channel} (hminor : channel.IsMinor) (hother : channel ≠ .changes)
    {run : α → Run κ σ ε Unit} (hrun : ∀ observer, J.Always (run observer)) (registry : Registry α) :
    J.Always (notify channel run registry) :=
  h.bind (h.startPass hother) fun _ => h.runObservers hminor hrun registry.entries

/-- A pass that asks is the start of a pass and a question after the other. -/
theorem askAll {channel : Channel} (hminor : channel.IsMinor) (hother : channel ≠ .changes)
    {ask : α → Run κ σ ε Bool} (hask : ∀ callback, J.Always (ask callback)) (registry : Registry α) :
    J.Always (askAll channel ask registry) :=
  h.bind (h.startPass hother) fun pass => h.askUntilYes (h.recordRan hminor pass) hask registry.entries

end Noting

/-- A judgement that holds of slight changes, of passes over callbacks, and of adding and removing blockers. -/
structure Handling (J : Judgement κ σ ε) : Prop extends Composes J where
  still {α : Type} {body : Run κ σ ε α} {value : α} {world after : World κ σ ε}
    (hexec : body.exec world = (.ok value, after)) (hstill : Still world after) : J α body world
  between {before after : World κ σ ε → World κ σ ε} (hbefore : ∀ world, Still world (before world))
    (hafter : ∀ world, Still world (after world)) {α : Type} {body : Run κ σ ε α} (hbody : J.Always body) :
    J.Always (between before after body)
  notify {channel : Channel} (hminor : channel.IsMinor) (hother : channel ≠ .changes) {α : Type}
    {run : α → Run κ σ ε Unit} (hrun : ∀ observer, J.Always (run observer)) (registry : Registry α) :
    J.Always (notify channel run registry)
  askAll {channel : Channel} (hminor : channel.IsMinor) (hother : channel ≠ .changes) {α : Type}
    {ask : α → Run κ σ ε Bool} (hask : ∀ callback, J.Always (ask callback)) (registry : Registry α) :
    J.Always (askAll channel ask registry)
  addBlocker {host : Host κ σ ε} {invoke : Invoke κ σ ε}
    (hinvoke : ∀ callback told, J.Always (invoke callback told)) (guard : GuardId) (callback : κ) :
    J.Always (addBlocker host invoke guard callback)
  removeBlocker {host : Host κ σ ε} {invoke : Invoke κ σ ε}
    (hinvoke : ∀ callback told, J.Always (invoke callback told)) (guard : GuardId) (id : Nat) :
    J.Always (removeBlocker host invoke guard id)

namespace Handling

variable {J : Judgement κ σ ε} (h : Handling J)

include h

/-- A change of the session that is still is judged well. -/
theorem always_modifyGet {f : World κ σ ε → α × World κ σ ε} (hf : ∀ world, Still world (f world).2) :
    J.Always (modifyGet f : Run κ σ ε α) :=
  fun world => h.still (exec_modifyGet f world) (hf world)

private theorem always_modify {f : World κ σ ε → World κ σ ε} (hf : ∀ world, Still world (f world)) :
    J.Always (modify f : Run κ σ ε PUnit) :=
  fun world => h.still (exec_modify f world) (hf world)

/-- A note that concerns nothing that routers and guards do is a still change. -/
theorem record {event : Event ε} (hminor : event.IsMinor) (hhistory : event.KeepsHistory)
    (hguards : event.KeepsGuards) (hrun : event.run? = none) : J.Always (record event : Run κ σ ε Unit) :=
  h.always_modify fun world => .record world hminor hhistory hguards hrun

/-- Holding a router, and letting go of it in any case, is still on both sides. -/
theorem holdingRouter (router : RouterId) {body : Run κ σ ε α} (hbody : J.Always body) :
    J.Always (holdingRouter router body) :=
  h.between (fun world => .hold world router) (fun world => .release world router) hbody

private theorem holdingGuard (guard : GuardId) {body : Run κ σ ε α} (hbody : J.Always body) :
    J.Always (holdingGuard guard body) :=
  h.between (fun world => .holdGuard world guard) (fun world => .releaseGuard world guard) hbody

/-- Resolving a path adds a note of a tie at most. -/
theorem resolve (tree : RouteTree) (path : String) : J.Always (resolve tree path : Run κ σ ε _) := by
  unfold Run.resolve
  split
  · exact h.bind (h.record trivial trivial trivial rfl) fun _ => h.always_pure _
  · exact h.always_pure _

private theorem entryState (host : Host κ σ ε) (router : Router κ) (path : String) :
    J.Always (entryState host router path) := by
  unfold Run.entryState
  split
  · exact h.always_pure _
  · refine h.bind (h.resolve _ _) fun result => ?_
    split <;> exact h.always_pure _

/-- Opening a router adds a router that listens, or a note of a tie. -/
theorem openRouter (tree : RouteTree) : J.Always (openRouter tree : Run κ σ ε _) := by
  intro world
  rcases hresult : tree.resolve world.history.location.pathname with error | route
  · obtain ⟨templates, rfl⟩ := RouteTree.eq_ambiguous_of_resolve_eq_error hresult
    have hexec : (Run.openRouter tree).exec world =
        (.ok (.error (.ambiguous world.history.location.pathname templates)),
          world.record (.ambiguous world.history.location.pathname templates)) := by
      rw [Run.openRouter, exec_get_bind, exec_bind_ok (exec_resolve_error hresult world)]
      rfl
    exact h.still hexec (.record world trivial trivial trivial rfl)
  · obtain ⟨stored, nextStamp, hstored, hexec⟩ := exec_openRouter_ok hresult
    exact h.still hexec {
      minor := .opened world _ _ _ rfl (hstored ▸ hresult) rfl rfl rfl rfl rfl
      guards := ⟨World.guardAt_concat rfl, .same rfl fun _ hid => hid⟩
      events := ⟨[], rfl, by simp⟩
      nextPass := rfl
      runs := rfl }

/-- A registration with a router or a guard can be handed out. -/
theorem issue {registering : Run κ σ ε Subscription} (hbody : J.Always registering)
    (hinner : Yields (·.channel.IsInner) registering) : J.Always (issue registering) := by
  intro world
  refine h.of_bind (hbody world) fun subscription after hexec => h.still rfl ?_
  have hinner : subscription.channel.IsInner := hinner world subscription after hexec
  have hold {channel : Channel} {id : Nat} (houter : ¬channel.IsInner)
      (hid : ⟨channel, id⟩ ∈ subscription :: after.handles) : ⟨channel, id⟩ ∈ after.handles := by
    refine (List.mem_cons.1 hid).resolve_left fun heq => houter ?_
    subst heq
    exact hinner
  exact {
    minor := .elsewhere rfl rfl rfl rfl (fun _ hid => hold id hid)
      (.of_sets_eq rfl fun _ => Subscription.idsAt_cons_of_ne hinner.ne_observers)
    guards := ⟨World.guardAt_of_guards_eq rfl, .same rfl fun _ hid => hold id hid⟩
    events := ⟨[], rfl, by simp⟩
    nextPass := rfl
    runs := rfl }

variable {host : Host κ σ ε} {invoke : Invoke κ σ ε} (hinvoke : ∀ callback told, J.Always (invoke callback told))

include hinvoke

/-- Asking blockers is a pass over a chain. -/
theorem askBlockers (guard : GuardId) (cancelable : Bool) : J.Always (askBlockers invoke guard cancelable) := by
  refine h.get_bind fun world => ?_
  split
  · exact h.always_pure false
  · exact h.askAll (show (Channel.blockers guard).IsMinor from trivial) (by simp)
      (fun callback => hinvoke callback cancelable) _

/-- Whether a navigation is stopped is asked of the chain, and noted. -/
theorem isBlocked (guard : GuardId) (operation : Operation) : J.Always (isBlocked invoke guard operation) := by
  refine h.bind (h.askBlockers hinvoke guard true) fun vetoed => ?_
  split
  · exact h.bind (h.record trivial trivial trivial rfl) fun _ => h.always_pure vetoed
  · exact h.always_pure vetoed

theorem askUnload (handler : UnloadHandler κ) : J.Always (askUnload invoke handler) := by
  cases handler with
  | host callback => exact hinvoke callback false
  | guard guard =>
    refine h.get_bind fun world => ?_
    split
    · exact h.holdingGuard guard (h.askBlockers hinvoke guard false)
    · exact h.always_pure false

/-- Whether leaving needs to be confirmed is asked of the handlers. -/
theorem requestUnload : J.Always (requestUnload invoke) :=
  h.get_bind fun world =>
    h.askAll (show Channel.unload.IsMinor from trivial) (by simp) (h.askUnload hinvoke) world.unload

/-- Observers that belong to no router are told in a pass of their own. -/
theorem notifySet (set : SetId) : J.Always (notifySet invoke set) := by
  refine h.get_bind fun world => ?_
  split
  · exact h.always_pure ()
  · exact h.notify (show (Channel.observers set).IsMinor from trivial) (by simp)
      (fun observer => h.perform (hinvoke observer false)) _

/-- Blocking a router is to add a blocker to its guard while the router is held. -/
theorem block (router : RouterId) (callback : κ) : J.Always (block host invoke router callback) := by
  refine h.holdingRouter router (h.get_bind fun world => ?_)
  split
  · exact h.always_pure _
  · exact h.addBlocker hinvoke _ callback

/-- Registering at a channel of a router or a guard changes what is registered there, and no more. -/
theorem subscribe {channel : Channel} (callback : κ) (hinner : channel.IsInner) :
    J.Always (subscribe host invoke channel callback) := by
  cases channel with
  | changes | unload | observers _ => exact hinner.elim
  | locations router =>
    exact h.always_modifyGet fun world => .observeLocations world router fun _ => .subscribe callback
  | routes router =>
    exact h.always_modifyGet fun world => .observeRoutes world router fun _ => .subscribe callback
  | blockers guard => exact h.holdingGuard guard (h.addBlocker hinvoke guard callback)

/-- Taking back a registration with a router or a guard changes what is registered there, and no more. -/
theorem unsubscribe {subscription : Subscription} (hinner : subscription.channel.IsInner) :
    J.Always (unsubscribe host invoke subscription) := by
  obtain ⟨channel, id⟩ := subscription
  cases channel with
  | changes | unload | observers _ => exact hinner.elim
  | locations router => exact h.always_modify fun world => .observeLocations world router fun _ => .unsubscribe id
  | routes router => exact h.always_modify fun world => .observeRoutes world router fun _ => .unsubscribe id
  | blockers guard => exact h.removeBlocker hinvoke guard id

private theorem issue_subscribe (channel : Channel) (callback : κ) :
    J.Always (Run.issue (Run.subscribe host invoke channel callback)) := by
  cases channel with
  | changes => exact fun world => h.still rfl (.listen world callback)
  | unload => exact fun world => h.still rfl (.listenUnload world callback)
  | observers set => exact fun world => h.still rfl (.listenSet world set callback)
  | locations _ | routes _ | blockers _ =>
    exact h.issue (h.subscribe hinvoke callback trivial) (yields_subscribe host invoke callback trivial)

/-- Giving back a registration takes it out of the hands of the host and then takes it back. -/
theorem redeem (subscription : Subscription) : J.Always (redeem host invoke subscription) := by
  intro world
  refine h.of_get_bind ?_
  by_cases hhandle : world.handles.contains subscription = true
  · rw [if_pos hhandle]
    have hinner (hinner : subscription.channel.IsInner) : J.Always (do
        modify fun world => { world with handles := world.handles.erase subscription }
        Run.unsubscribe host invoke subscription) := by
      refine h.bind (h.always_modify fun world => ?_) fun _ => h.unsubscribe hinvoke hinner
      have hsets : KeepsSets world { world with handles := world.handles.erase subscription } :=
        .of_sets_eq rfl fun _ => Subscription.idsAt_erase_of_ne hinner.ne_observers
      exact .elsewhere rfl rfl rfl rfl List.erase_subset hsets (World.guardAt_of_guards_eq rfl) rfl rfl
    obtain ⟨channel, id⟩ := subscription
    cases channel with
    | changes => exact h.still rfl (.unlisten world (by simpa using hhandle))
    | unload => exact h.still rfl (.unlistenUnload world (by simpa using hhandle))
    | observers _ => exact h.still rfl (.unlistenSet world (by simpa using hhandle))
    | locations _ | routes _ | blockers _ => exact hinner trivial world
  · rw [if_neg hhandle]
    exact h.of_pure () world

end Handling

/-- Two judgements, the wider of which may hold of a request as a whole and of one of its parts only, and the other of
the rest of it. -/
structure Serving (J K : Judgement κ σ ε) : Prop extends Handling J where
  widen {α : Type} {body : Run κ σ ε α} {world : World κ σ ε} (hbody : J α body world) : K α body world
  wide_get_bind {β : Type} {next : World κ σ ε → Run κ σ ε β} {world : World κ σ ε}
    (hnext : K β (next world) world) : K β ((get : Run κ σ ε (World κ σ ε)) >>= next) world
  before {α β : Type} {first : Run κ σ ε α} {next : α → Run κ σ ε β} {world : World κ σ ε}
    (hfirst : J α first world)
    (hnext : ∀ value after, first.exec world = (.ok value, after) → K β (next value) after) :
    K β (first >>= next) world
  after {α β : Type} {first : Run κ σ ε α} {next : α → Run κ σ ε β} {world : World κ σ ε}
    (hfirst : K α first world)
    (hnext : ∀ value after, first.exec world = (.ok value, after) → J β (next value) after) :
    K β (first >>= next) world
  wide_between {before after : World κ σ ε → World κ σ ε} (hbefore : ∀ world, Still world (before world))
    (hafter : ∀ world, Still world (after world)) {α : Type} {body : Run κ σ ε α} (hbody : K.Always body) :
    K.Always (Run.between before after body)

/-- One judgement serves for the whole as well as for the parts. -/
theorem Handling.serving {J : Judgement κ σ ε} (h : Handling J) : Serving J J where
  toHandling := h
  widen hbody := hbody
  wide_get_bind := h.of_get_bind
  before := h.of_bind
  after := h.of_bind
  wide_between := h.between

namespace Serving

variable {J K : Judgement κ σ ε} (h : Serving J K)

include h

private theorem always_pure (value : α) : K.Always (pure value : Run κ σ ε α) :=
  fun world => h.widen (h.of_pure value world)

private theorem get_bind {next : World κ σ ε → Run κ σ ε β} (hnext : ∀ world, K.Always (next world)) :
    K.Always ((get : Run κ σ ε (World κ σ ε)) >>= next) :=
  fun world => h.wide_get_bind (hnext world world)

/-- A part that is judged narrowly may come before a whole that is judged widely. -/
theorem bind_before {first : Run κ σ ε α} {next : α → Run κ σ ε β} (hfirst : J.Always first)
    (hnext : ∀ value, K.Always (next value)) : K.Always (first >>= next) :=
  fun world => h.before (hfirst world) fun value after _ => hnext value after

/-- A part that is judged narrowly may come after it, too. -/
theorem bind_after {first : Run κ σ ε α} {next : α → Run κ σ ε β} (hfirst : K.Always first)
    (hnext : ∀ value, J.Always (next value)) : K.Always (first >>= next) :=
  fun world => h.after (hfirst world) fun value after _ => hnext value after

private theorem holdingRouter (router : RouterId) {body : Run κ σ ε α} (hbody : K.Always body) :
    K.Always (Run.holdingRouter router body) :=
  h.wide_between (fun world => .hold world router) (fun world => .release world router) hbody

private theorem holdingGuard (guard : GuardId) {body : Run κ σ ε α} (hbody : K.Always body) :
    K.Always (Run.holdingGuard guard body) :=
  h.wide_between (fun world => .holdGuard world guard) (fun world => .releaseGuard world guard) hbody

variable {host : Host κ σ ε} {invoke : Invoke κ σ ε}

/-- A source refuses a navigation, which changes nothing, or commits it. -/
theorem sourceCommit (hcommit : ∀ action state path, K.Always (commit host invoke action state path))
    (action : Action) (state : EntryState) (path : String) :
    K.Always (Run.sourceCommit host invoke action state path) := by
  refine h.get_bind fun world => ?_
  split
  · exact h.always_pure _
  · exact hcommit action state path

variable (hinvoke : ∀ callback told, J.Always (invoke callback told))

include hinvoke

/-- A guarded navigation asks the blockers, and commits if all of them say no. -/
theorem guardedCommit (hcommit : ∀ action state path, K.Always (commit host invoke action state path))
    (guard : GuardId) (action : Action) (state : EntryState) (path : String) :
    K.Always (Run.guardedCommit host invoke guard action state path) := by
  refine h.bind_before (h.isBlocked hinvoke guard _) fun blocked => ?_
  cases blocked with
  | true => exact h.always_pure _
  | false =>
    refine h.bind_after (h.sourceCommit hcommit action state path) fun result => ?_
    split <;> exact h.toComposes.always_pure _

/-- A guarded move through the history asks the blockers, and goes if all of them say no. -/
theorem guardedMove (hgo : ∀ delta, K.Always (go invoke delta)) (guard : GuardId) (step : Move) :
    K.Always (Run.guardedMove invoke guard step) := by
  refine h.bind_before (h.isBlocked hinvoke guard _) fun blocked => ?_
  cases blocked with
  | true => exact h.always_pure _
  | false => exact h.bind_after (hgo step.delta) fun _ => h.toComposes.always_pure _

/-- Navigating a router checks the target, makes up the state of the entry, and is guarded from there on. -/
theorem navigate (hcommit : ∀ action state path, K.Always (commit host invoke action state path))
    (router : RouterId) (path : String) (action : Action) :
    K.Always (Run.navigate host invoke router path action) := by
  refine h.holdingRouter router (h.get_bind fun world => ?_)
  split
  · exact h.always_pure _
  · refine h.bind_before (h.entryState host _ path) fun result => ?_
    split
    · exact h.always_pure _
    · exact h.guardedCommit hinvoke hcommit _ action _ path

/-- Moving a router through the history is guarded by its blockers. -/
theorem move (hgo : ∀ delta, K.Always (go invoke delta)) (router : RouterId) (step : Move) :
    K.Always (Run.move invoke router step) := by
  refine h.holdingRouter router (h.get_bind fun world => ?_)
  split
  · exact h.always_pure _
  · exact h.guardedMove hinvoke hgo _ step

/-- A request is made of slight changes, of callbacks, of blockers that come and go, and of one announcement or one
reconciliation at most. -/
theorem fulfil
    (hannounce : ∀ world history, world.history.Next history → K Unit (announce invoke history) world)
    (hsync : ∀ router, K.Always (do Run.record (.syncAsked router); sync invoke router))
    {reply : Reply} (request : Request κ reply) : K.Always (Run.fulfil host invoke request) := by
  -- These two announce. Requests that pass through a guard or a router come to one of them.
  have hcommit (action : Action) (state : EntryState) (path : String) :
      K.Always (commit host invoke action state path) := by
    refine fun world => h.wide_get_bind ?_
    split
    · exact h.always_pure _ world
    · exact h.after (hannounce world _ (.commit action _)) fun _ after _ => h.of_pure _ after
  have hgo (delta : Int) : K.Always (go invoke delta) := by
    refine fun world => h.wide_get_bind ?_
    split
    · exact h.always_pure () world
    · next history hmove => exact hannounce world history (.move hmove)
  have hwiden {α : Type} {body : Run κ σ ε α} (hbody : J.Always body) : K.Always body :=
    fun world => h.widen (hbody world)
  cases request with
  | commit action state path => exact hcommit action state path
  | go delta => exact hgo delta
  | requestUnload => exact hwiden (h.requestUnload hinvoke)
  | openGuard => exact hwiden (h.always_modifyGet fun world => .openGuard world)
  | releaseGuard guard => exact hwiden (h.always_modify fun world => .releaseGuard world guard)
  | askBlockers guard cancelable =>
    exact hwiden (h.toHandling.holdingGuard guard (h.askBlockers hinvoke guard cancelable))
  | guardedCommit guard action state path =>
    exact h.holdingGuard guard (h.guardedCommit hinvoke hcommit guard action state path)
  | guardedMove guard step => exact h.holdingGuard guard (h.guardedMove hinvoke hgo guard step)
  | openRouter tree => exact hwiden (h.openRouter tree)
  | holdRouter router => exact hwiden (h.always_modify fun world => .hold world router)
  | releaseRouter router => exact hwiden (h.always_modify fun world => .release world router)
  | navigate router path action => exact h.navigate hinvoke hcommit router path action
  | move router step => exact h.move hinvoke hgo router step
  | sync router => exact h.holdingRouter router (hsync router)
  | takeSyncError router => exact hwiden (h.always_modifyGet fun world => .takeError world router)
  | detach router => exact hwiden (h.always_modify fun world => .detach world router)
  | block router callback =>
    exact hwiden (h.issue (h.block hinvoke router callback) (yields_block host invoke router callback))
  | openSet => exact hwiden (h.always_modifyGet fun world => .openSet world)
  | notify set => exact hwiden (h.notifySet hinvoke set)
  | subscribe channel callback => exact hwiden (h.issue_subscribe hinvoke channel callback)
  | unsubscribe subscription => exact hwiden (h.redeem hinvoke subscription)

end Serving

/-- A judgement that also holds of what a host does besides its requests. -/
structure Playing (J : Judgement κ σ ε) : Prop extends Handling J where
  of_throw {α : Type} (stop : Stop) (world : World κ σ ε) : J α (throw stop) world
  of_look (world : World κ σ ε) : J Unit (Run.record (.looked world.standings)) world

namespace Playing

variable {J : Judgement κ σ ε} (h : Playing J) {host : Host κ σ ε}

include h

/-- A program is judged by its requests, one after the other. -/
theorem execute {invoke : Invoke κ σ ε}
    (hrequest : ∀ {reply : Reply} (request : Request κ reply), J.Always (Run.fulfil host invoke request))
    (program : Program κ σ ε α) : J.Always (Run.execute host invoke program) := by
  induction program with
  | done result => exact h.of_pure result
  | panic payload => exact h.of_throw _
  | inspect next ih =>
    exact fun world => h.of_get_bind (h.of_bind (h.of_look world) fun _ after _ => ih world after)
  | remember change next ih => exact h.bind (h.always_modify fun world => .remember world change) fun _ => ih
  | note text next ih => exact h.bind (h.record trivial trivial trivial rfl) fun _ => ih
  | ask request next ih => exact h.bind (hrequest request) ih

/-- Callbacks are programs, so that what holds of requests whose callbacks run less deep holds of every callback, by
induction on the depth. -/
theorem invoke (hrequest : ∀ depth, (∀ callback told, J.Always (Run.invoke host depth callback told)) →
      ∀ {reply : Reply} (request : Request κ reply), J.Always (Run.fulfil host (Run.invoke host depth) request))
    (depth : Nat) (callback : κ) (told : Bool) : J.Always (Run.invoke host depth callback told) := by
  -- A callback runs at a smaller depth than the program that calls for it.
  induction depth generalizing callback told with
  | zero => exact h.of_throw _
  | succ depth ih => exact h.execute (hrequest depth ih) (host.respond callback told)

end Playing

end Run

end PageRouter
