import PageRouter.Session.Program

namespace PageRouter

/-- Why a run ends without a result. -/
inductive Stop where
  /-- A callback panicked, and nobody on the way caught it. -/
  | panic (payload : Payload)
  /-- Callbacks are nested deeper than the run allows. -/
  | exhausted
  deriving DecidableEq, Repr

/-- A computation on a session. -/
abbrev Run (κ σ ε : Type) := ExceptT Stop (StateM (World κ σ ε))

/-- A way to run callbacks: the callback, what it is told, and its answer. Operations are given such a way; callbacks
are programs that ask for operations again, to any depth, and the depth is what bounds a run. -/
abbrev Invoke (κ σ ε : Type) := κ → Bool → Run κ σ ε Bool

namespace Run

variable {κ σ ε α β : Type}

def record (event : Event ε) : Run κ σ ε Unit :=
  modify (·.record event)

/-- Runs a computation between two changes of the session, the second of which is made in any case. -/
def between (before after : World κ σ ε → World κ σ ε) (body : Run κ σ ε α) : Run κ σ ε α :=
  ExceptT.mk fun world =>
    let (result, world) := body.run (before world)
    (result, after world)

/-- Runs a computation while a router is held. -/
def holdingRouter (router : RouterId) (body : Run κ σ ε α) : Run κ σ ε α :=
  between (·.holdRouter router) (·.releaseRouter router) body

/-- Runs a computation while a guard is held. -/
def holdingGuard (guard : GuardId) (body : Run κ σ ε α) : Run κ σ ε α :=
  between (·.holdGuard guard) (·.releaseGuard guard) body

/-- Runs a computation while it counts among the additions and removals of a guard that are under way. -/
def changingGuard (guard : GuardId) (body : Run κ σ ε α) : Run κ σ ε α :=
  between (·.modifyGuard guard fun g => { g with changing := g.changing + 1 })
    (·.modifyGuard guard fun g => { g with changing := g.changing - 1 }) body

/-- Runs an observer. Its panic is written into the journal and goes no further. -/
def contain (body : Run κ σ ε Unit) : Run κ σ ε Unit :=
  ExceptT.mk fun world =>
    match body.run world with
    | (.error (.panic payload), world) => (.ok (), world.record (.panicked payload))
    | result => result

/-- Starts a pass over the callbacks at a channel, and returns its number. -/
def startPass (channel : Channel) : Run κ σ ε Nat :=
  modifyGet fun world =>
    let pass := world.nextPass
    (pass, { world with nextPass := pass + 1 }.record (.passStarted pass channel))

/-- Writes down that a callback is about to run in a pass. -/
def recordRan (pass : Nat) (channel : Channel) (id : Nat) : Run κ σ ε Unit :=
  modify fun world => world.record (.ran pass channel id (world.sightAt? channel))

/-- Runs observers one after the other. A panic of one does not keep the others from running. -/
def runObservers (pass : Nat) (channel : Channel) (run : α → Run κ σ ε Unit) :
    List (Nat × α) → Run κ σ ε Unit
  | [] => pure ()
  | (id, observer) :: more => do
    recordRan pass channel id
    contain (run observer)
    runObservers pass channel run more

/-- Runs the observers that are registered when the pass starts. -/
def notify (channel : Channel) (run : α → Run κ σ ε Unit) (registry : Registry α) :
    Run κ σ ε Unit := do
  let pass ← startPass channel
  runObservers pass channel run registry.entries

/-- Asks one after the other until one answers yes. -/
def askUntilYes (pass : Nat) (channel : Channel) (ask : α → Run κ σ ε Bool) :
    List (Nat × α) → Run κ σ ε Bool
  | [] => pure false
  | (id, asked) :: more => do
    recordRan pass channel id
    if ← ask asked then pure true else askUntilYes pass channel ask more

/-- Asks those that are registered when the pass starts, until one answers yes. -/
def askAll (channel : Channel) (ask : α → Run κ σ ε Bool) (registry : Registry α) :
    Run κ σ ε Bool := do
  let pass ← startPass channel
  askUntilYes pass channel ask registry.entries

/-- Runs a callback for what it does, not for its answer. -/
def perform (invoke : Invoke κ σ ε) (callback : κ) : Run κ σ ε Unit :=
  discard (invoke callback false)

/-- The route of a path, where a tie is written into the journal. -/
def resolve (tree : RouteTree) (path : String) : Run κ σ ε (Except RouteError (Option Match)) := do
  match tree.resolve path with
  | .error (.ambiguous path templates) =>
    record (.ambiguous path templates)
    return .error (.ambiguous path templates)
  | result => return result

/-- Stores a value with a stamp of its own. -/
def stamp (value : α) : Run κ σ ε (Stamped α) :=
  modifyGet fun world => (⟨world.nextStamp, value⟩, { world with nextStamp := world.nextStamp + 1 })

/-- Tells the observers of a router that are registered at one of its channels. -/
def tell (invoke : Invoke κ σ ε) (channel : RouterId → Channel) (observers : Router κ → Registry κ)
    (router : RouterId) : Run κ σ ε Unit := do
  match (← get).routers[router]? with
  | none => return
  | some r => notify (channel router) (perform invoke) (observers r)

/-- Resolves the location that a router shows. Route observers are told only of another route, and a tie leaves
the route as it was. -/
def rematch (invoke : Invoke κ σ ε) (router : RouterId) : Run κ σ ε (Except RouteError Unit) := do
  match (← get).routers[router]? with
  | none => return .ok ()
  | some r =>
    match ← resolve r.tree r.location.value.pathname with
    | .error error => return .error error
    | .ok route =>
      if !Match.sameRoute? (r.route.map (·.value)) route then
        modify (·.replaceRoute router route)
        tell invoke .routes (·.routeObservers) router
      return .ok ()

/-- Reconciles a router with the history: takes over the location, tells the location observers, and then
resolves the location that the router shows by then. -/
def sync (invoke : Invoke κ σ ε) (router : RouterId) : Run κ σ ε (Except RouteError Unit) := do
  modify (·.relocate router)
  tell invoke .locations (·.locationObservers) router
  rematch invoke router

/-- Follows a change of the history with a router, if it is still there. A failure is kept for
`takeSyncError`. -/
def follow (invoke : Invoke κ σ ε) (router : RouterId) : Run κ σ ε Unit := do
  if (← get).isRouterHeld router then
    holdingRouter router do
      match ← sync invoke router with
      | .ok () => return
      | .error error =>
        record (.syncFailed router error)
        modify (·.modifyRouter router fun r => { r with syncError := some error })

/-- Tells a listener of a change of the history. -/
def hear (invoke : Invoke κ σ ε) : Listener κ → Run κ σ ε Unit
  | .host callback => perform invoke callback
  | .router router => follow invoke router

/-- Puts a changed history in place, and tells all listeners of the change. -/
def announce (invoke : Invoke κ σ ε) (history : History) : Run κ σ ε Unit := do
  modify ({ · with history })
  record (.changed history.current)
  notify .changes (hear invoke) (← get).changes

/-- Records a navigation in the history. -/
def commit (host : Host κ σ ε) (invoke : Invoke κ σ ε) (action : Action) (state : EntryState)
    (path : String) : Run κ σ ε (Except RouteError Unit) := do
  let world ← get
  match host.join world.history.location path with
  | .error error => return .error error
  | .ok location =>
    announce invoke (world.history.commit action { location, state := some state })
    return .ok ()

/-- Moves through the history. A move past its ends, or over no entry, does nothing. -/
def go (invoke : Invoke κ σ ε) (delta : Int) : Run κ σ ε Unit := do
  match (← get).history.move? delta with
  | none => return
  | some history => announce invoke history

/-- Records a navigation by way of the host's source, which may refuse it. -/
def sourceCommit (host : Host κ σ ε) (invoke : Invoke κ σ ε) (action : Action) (state : EntryState)
    (path : String) : Run κ σ ε (Except RouteError Unit) := do
  match host.refusal (← get).memory with
  | some reason => return .error (.invalidLocation path (.refused reason))
  | none => commit host invoke action state path

/-- Asks the blockers of a guard for a veto, in order, up to the first one. -/
def askBlockers (invoke : Invoke κ σ ε) (guard : GuardId) (cancelable : Bool) : Run κ σ ε Bool := do
  match (← get).guards[guard]? with
  | none => return false
  | some g => askAll (.blockers guard) (invoke · cancelable) g.blockers

/-- Asks the blockers of a guard before an operation, and writes a veto into the journal. -/
def isBlocked (invoke : Invoke κ σ ε) (guard : GuardId) (operation : Operation) : Run κ σ ε Bool := do
  let vetoed ← askBlockers invoke guard true
  if vetoed then record (.blocked operation)
  return vetoed

/-- Records a navigation unless a blocker vetoes it. -/
def guardedCommit (host : Host κ σ ε) (invoke : Invoke κ σ ε) (guard : GuardId) (action : Action)
    (state : EntryState) (path : String) : Run κ σ ε (Except RouteError Outcome) := do
  if ← isBlocked invoke guard action.operation then return .ok .blocked
  match ← sourceCommit host invoke action state path with
  | .error error => return .error error
  | .ok () => return .ok .committed

/-- Moves through the history unless a blocker vetoes it. -/
def guardedMove (invoke : Invoke κ σ ε) (guard : GuardId) (move : Move) : Run κ σ ε Outcome := do
  if ← isBlocked invoke guard move.operation then return .blocked
  go invoke move.delta
  return .committed

/-- Asks an unload handler whether leaving needs to be confirmed. A guard that is gone has no objection. -/
def askUnload (invoke : Invoke κ σ ε) : UnloadHandler κ → Run κ σ ε Bool
  | .host callback => invoke callback false
  | .guard guard => do
    if (← get).isGuardHeld guard then holdingGuard guard (askBlockers invoke guard false)
    else return false

/-- Asks whether leaving needs to be confirmed. -/
def requestUnload (invoke : Invoke κ σ ε) : Run κ σ ε Bool := do
  askAll .unload (askUnload invoke) (← get).unload

/-- Registers an unload handler at the history, and returns its registration. -/
def subscribeUnload (handler : UnloadHandler κ) : Run κ σ ε Nat :=
  modifyGet fun world =>
    (world.unload.nextId, { world with unload := world.unload.subscribe handler })

/-- Runs a computation on behalf of a guard. Its panic is written into the journal and goes on. -/
def noteUnwinding (guard : GuardId) (body : Run κ σ ε Unit) : Run κ σ ε Unit :=
  ExceptT.mk fun world =>
    match body.run world with
    | (.error (.panic payload), world) => (.error (.panic payload), world.record (.unwound guard))
    | result => result

/-- Runs a callback of the host's source on behalf of a guard, if the source has one here. -/
def performHook (invoke : Invoke κ σ ε) (guard : GuardId) : Option κ → Run κ σ ε Unit
  | none => pure ()
  | some callback => noteUnwinding guard (perform invoke callback)

/-- Removes the unload handler of a guard by way of the host's source. -/
def detachUnload (host : Host κ σ ε) (invoke : Invoke κ σ ε) (guard : GuardId) (registration : Nat) :
    Run κ σ ε Unit := do
  performHook invoke guard host.beforeDetach
  modify fun world => { world with unload := world.unload.unsubscribe registration }
  performHook invoke guard host.afterDetach

/-- Registers the unload handler of a guard by way of the host's source. If no blocker is left by then, the
handler is removed again. -/
def attachUnload (host : Host κ σ ε) (invoke : Invoke κ σ ε) (guard : GuardId) : Run κ σ ε Unit := do
  performHook invoke guard host.beforeAttach
  let registration ← subscribeUnload (.guard guard)
  performHook invoke guard host.afterAttach
  modify (·.modifyGuard guard fun g => { g with attaching := false })
  if (← get).guards[guard]?.all (·.blockers.isEmpty) then detachUnload host invoke guard registration
  else modify (·.modifyGuard guard fun g => { g with unload := some registration })

/-- Puts a blocker at the end of a guard's chain. The first one has the guard's unload handler attached. -/
def addBlocker (host : Host κ σ ε) (invoke : Invoke κ σ ε) (guard : GuardId) (callback : κ) :
    Run κ σ ε Subscription :=
  changingGuard guard do
    match (← get).guards[guard]? with
    | none => return ⟨.blockers guard, 0⟩
    | some g =>
      let attach := g.unload.isNone && !g.attaching
      modify (·.modifyGuard guard fun g =>
        { g with blockers := g.blockers.subscribe callback, attaching := g.attaching || attach })
      if attach then attachUnload host invoke guard
      return ⟨.blockers guard, g.blockers.nextId⟩

/-- Takes a blocker out of a guard's chain. With the last one, the guard's unload handler is detached. -/
def removeBlocker (host : Host κ σ ε) (invoke : Invoke κ σ ε) (guard : GuardId) (id : Nat) :
    Run κ σ ε Unit := do
  if (← get).isGuardHeld guard then
    holdingGuard guard <| changingGuard guard do
      modify (·.modifyGuard guard fun g => { g with blockers := g.blockers.unsubscribe id })
      match (← get).guards[guard]? with
      | none => return
      | some g =>
        if g.blockers.isEmpty then
          modify (·.modifyGuard guard fun g => { g with unload := none })
          match g.unload with
          | none => return
          | some registration => detachUnload host invoke guard registration

def openGuard : Run κ σ ε GuardId :=
  modifyGet fun world => (world.guards.length, { world with guards := world.guards ++ [{}] })

/-- Opens a router on the history. It starts at the current location, which must not be a tie. No observer
runs. -/
def openRouter (tree : RouteTree) : Run κ σ ε (Except RouteError RouterId) := do
  let location := (← get).history.location
  match ← resolve tree location.pathname with
  | .error error => return .error error
  | .ok route =>
    let location ← stamp location
    let route ← match route with
      | none => pure none
      | some found => some <$> stamp found
    let guard ← openGuard
    modifyGet fun world =>
      let router := world.routers.length
      let subscription := some world.changes.nextId
      (.ok router, { world with
        routers := world.routers ++ [{ tree, guard, location, route, subscription }]
        changes := world.changes.subscribe (.router router) })

/-- The state that a navigation of a router to a path records: the route that the path has from where the
router is, with its name and parameters. -/
def entryState (host : Host κ σ ε) (router : Router κ) (path : String) :
    Run κ σ ε (Except RouteError EntryState) := do
  match host.join router.location.value path with
  | .error error => return .error error
  | .ok target =>
    match ← resolve router.tree target.pathname with
    | .error error => return .error error
    | .ok none => return .ok { path }
    | .ok (some found) =>
      return .ok { path, routeName := router.tree.nameOf? found.pattern, params := found.params }

/-- Navigates to a path. A path that cannot be followed or that is a tie is refused before any blocker is
asked. -/
def navigate (host : Host κ σ ε) (invoke : Invoke κ σ ε) (router : RouterId) (path : String)
    (action : Action) : Run κ σ ε (Except RouteError Outcome) :=
  holdingRouter router do
    match (← get).routers[router]? with
    | none => return .ok .blocked
    | some r =>
      match ← entryState host r path with
      | .error error => return .error error
      | .ok state => guardedCommit host invoke r.guard action state path

/-- Moves through the history by way of a router. -/
def move (invoke : Invoke κ σ ε) (router : RouterId) (move : Move) : Run κ σ ε Outcome :=
  holdingRouter router do
    match (← get).routers[router]? with
    | none => return .blocked
    | some r => guardedMove invoke r.guard move

/-- Takes the error of the last change that a router could not follow. -/
def takeSyncError (router : RouterId) : Run κ σ ε (Option RouteError) :=
  modifyGet fun world =>
    let error := world.routers[router]?.bind (·.syncError)
    (error, (world.record (.errorTaken router error)).modifyRouter router fun r => { r with syncError := none })

/-- Reconciles a router with the history on demand. -/
def syncOnDemand (invoke : Invoke κ σ ε) (router : RouterId) : Run κ σ ε (Except RouteError Unit) :=
  holdingRouter router do
    record (.syncAsked router)
    sync invoke router

/-- Adds a blocker to the guard of a router. -/
def block (host : Host κ σ ε) (invoke : Invoke κ σ ε) (router : RouterId) (callback : κ) :
    Run κ σ ε Subscription :=
  holdingRouter router do
    match (← get).routers[router]? with
    | none => return ⟨.blockers 0, 0⟩
    | some r => addBlocker host invoke r.guard callback

/-- Registers a callback at a channel. -/
def subscribe (host : Host κ σ ε) (invoke : Invoke κ σ ε) (channel : Channel) (callback : κ) :
    Run κ σ ε Subscription :=
  match channel with
  | .changes => modifyGet fun world =>
      (⟨channel, world.changes.nextId⟩,
        { world with changes := world.changes.subscribe (.host callback) })
  | .unload => do return ⟨channel, ← subscribeUnload (.host callback)⟩
  | .locations router => modifyGet fun world =>
      (⟨channel, (world.routers[router]?.map (·.locationObservers.nextId)).getD 0⟩,
        world.modifyRouter router fun r =>
          { r with locationObservers := r.locationObservers.subscribe callback })
  | .routes router => modifyGet fun world =>
      (⟨channel, (world.routers[router]?.map (·.routeObservers.nextId)).getD 0⟩,
        world.modifyRouter router fun r =>
          { r with routeObservers := r.routeObservers.subscribe callback })
  | .blockers guard => holdingGuard guard (addBlocker host invoke guard callback)
  | .observers set => modifyGet fun world =>
      (⟨channel, (world.sets[set]?.map (·.nextId)).getD 0⟩,
        { world with sets := world.sets.modify set (·.subscribe callback) })

/-- Takes a registration back. -/
def unsubscribe (host : Host κ σ ε) (invoke : Invoke κ σ ε) (subscription : Subscription) :
    Run κ σ ε Unit :=
  let id := subscription.id
  match subscription.channel with
  | .changes => modify fun world => { world with changes := world.changes.unsubscribe id }
  | .unload => modify fun world => { world with unload := world.unload.unsubscribe id }
  | .locations router => modify (·.modifyRouter router fun r =>
      { r with locationObservers := r.locationObservers.unsubscribe id })
  | .routes router => modify (·.modifyRouter router fun r =>
      { r with routeObservers := r.routeObservers.unsubscribe id })
  | .blockers guard => removeBlocker host invoke guard id
  | .observers set => modify fun world =>
      { world with sets := world.sets.modify set (·.unsubscribe id) }

/-- Hands a registration to the host, who can take it back from then on. -/
def issue (registering : Run κ σ ε Subscription) : Run κ σ ε Subscription := do
  let subscription ← registering
  modify fun world => { world with handles := subscription :: world.handles }
  return subscription

/-- Takes back a registration that the host has in its hands, which can be done once. -/
def redeem (host : Host κ σ ε) (invoke : Invoke κ σ ε) (subscription : Subscription) :
    Run κ σ ε Unit := do
  if (← get).handles.contains subscription then
    modify fun world => { world with handles := world.handles.erase subscription }
    unsubscribe host invoke subscription

/-- Runs the observers of a set. -/
def notifySet (invoke : Invoke κ σ ε) (set : SetId) : Run κ σ ε Unit := do
  match (← get).sets[set]? with
  | none => return
  | some observers => notify (.observers set) (perform invoke) observers

/-- Does what a request asks for. -/
def fulfil (host : Host κ σ ε) (invoke : Invoke κ σ ε) :
    {reply : Reply} → Request κ reply → Run κ σ ε reply.Value
  | _, .commit action state path => commit host invoke action state path
  | _, .go delta => go invoke delta
  | _, .requestUnload => requestUnload invoke
  | _, .openGuard => openGuard
  | _, .releaseGuard guard => modify (·.releaseGuard guard)
  | _, .askBlockers guard cancelable => holdingGuard guard (askBlockers invoke guard cancelable)
  | _, .guardedCommit guard action state path =>
    holdingGuard guard (guardedCommit host invoke guard action state path)
  | _, .guardedMove guard m => holdingGuard guard (guardedMove invoke guard m)
  | _, .openRouter tree => openRouter tree
  | _, .holdRouter router => modify (·.holdRouter router)
  | _, .releaseRouter router => modify (·.releaseRouter router)
  | _, .navigate router path action => navigate host invoke router path action
  | _, .move router m => move invoke router m
  | _, .sync router => syncOnDemand invoke router
  | _, .takeSyncError router => takeSyncError router
  | _, .detach router => modify (·.detach router)
  | _, .block router callback => issue (block host invoke router callback)
  | _, .openSet => modifyGet fun world => (world.sets.length, { world with sets := world.sets ++ [{}] })
  | _, .notify set => notifySet invoke set
  | _, .subscribe channel callback => issue (subscribe host invoke channel callback)
  | _, .unsubscribe subscription => redeem host invoke subscription

/-- Does what a program does. -/
def execute (host : Host κ σ ε) (invoke : Invoke κ σ ε) : Program κ σ ε α → Run κ σ ε α
  | .done result => pure result
  | .panic payload => throw (.panic payload)
  | .inspect next => do
    let world ← get
    record (.looked world.standings)
    execute host invoke (next world)
  | .remember change next => do
    modify fun world => { world with memory := change world.memory }
    execute host invoke next
  | .note text next => do
    record (.noted text)
    execute host invoke next
  | .ask request next => do execute host invoke (next (← fulfil host invoke request))

/-- Runs a callback, in which callbacks may be nested `depth - 1` deep. -/
def invoke (host : Host κ σ ε) : Nat → Invoke κ σ ε
  | 0 => fun _ _ => throw .exhausted
  | depth + 1 => fun callback told => execute host (invoke host depth) (host.respond callback told)

end Run

/-- Runs a program against a session, with callbacks nested at most `depth` deep. -/
def Program.run {κ σ ε α : Type} (host : Host κ σ ε) (depth : Nat) (program : Program κ σ ε α)
    (world : World κ σ ε) : Except Stop α × World κ σ ε :=
  (Run.execute host (Run.invoke host depth) program).run world

end PageRouter
