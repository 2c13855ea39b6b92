import PageRouter.Session.Actor
import PageRouter.Session.Report
import PageRouter.Session.Run

namespace PageRouter

/-- A session whose host does steps one after the other, with callbacks that follow scripts. -/
structure Scenario where
  /-- The routes of routers that have none of their own, if there are such routes. -/
  source : Option RouteSource := none
  settings : Settings := {}
  origin : String := "http://localhost"
  /-- The path at which the history starts. -/
  path : String := "/"
  steps : List Step := []

namespace Play

def withRouter (handle : String) (next : RouterId → Router Actor → Play Answer) : Play Answer := do
  let world ← Program.look
  match world.memory.routers.lookup handle with
  | none => return .missing .router
  | some id =>
    match world.routers[id]? with
    | none => return .missing .router
    | some router => next id router

def withGuard (handle : String) (next : GuardId → Guard Actor → Play Answer) : Play Answer := do
  let world ← Program.look
  match world.memory.guards.lookup handle with
  | none => return .missing .guard
  | some id =>
    match world.guards[id]? with
    | none => return .missing .guard
    | some guard => next id guard

/-- Goes on with the set under a handle, which is opened if there is none. -/
def withSet (handle : String) (next : SetId → Registry Actor → Play Answer) : Play Answer := do
  let world ← Program.look
  match world.memory.sets.lookup handle with
  | some id => next id (world.sets[id]?.getD {})
  | none =>
    let id ← Program.request .openSet
    Program.update fun memory => { memory with sets := memory.sets.store handle id }
    next id {}

/-- Stores a router under a handle. One that was there before is let go of. -/
def storeRouter (handle : String) (id : RouterId) : Play Unit := do
  let old := (← Program.memory).routers.lookup handle
  Program.update fun memory => { memory with routers := memory.routers.store handle id }
  match old with
  | some old => Program.request (.releaseRouter old)
  | none => return

/-- Stores a guard under a handle. One that was there before is let go of. -/
def storeGuard (handle : String) (id : GuardId) : Play Unit := do
  let old := (← Program.memory).guards.lookup handle
  Program.update fun memory => { memory with guards := memory.guards.store handle id }
  match old with
  | some old => Program.request (.releaseGuard old)
  | none => return

/-- Registers a callback that follows a script, and then stores the registration under its name. -/
def register (name : String) (asked : Bool) (script : Script Step)
    (request : Actor → Request Actor .subscription) : Play Answer := do
  let id := (← Program.memory).actors
  Program.update fun memory => { memory with actors := id + 1 }
  let subscription ← Program.request (request (.scripted id name asked script))
  Program.update fun memory =>
    { memory with subscriptions := memory.subscriptions.store name subscription }
  return .nothing

def openRouter (settings : Settings) (source : RouteSource) (handle : String) : Play Answer := do
  match RouteTree.load settings (← Program.memory).nextSerial source with
  | .error (.load error) => return .loadError error
  | .error (.route error) => return .routeError error
  | .ok (tree, next) =>
    Program.update fun memory => { memory with nextSerial := next }
    match ← Program.request (.openRouter tree) with
    | .error error => return .routeError error
    | .ok id =>
      storeRouter handle id
      return .nothing

def ofNavigation : Except RouteError Outcome → Answer
  | .ok outcome => .outcome outcome
  | .error error => .routeError error

def ofResult : Except RouteError Unit → Answer
  | .ok () => .nothing
  | .error error => .routeError error

def lookup (settings : Settings) (router : Router Actor) (choice : Choice) (strict : Bool) :
    Play Answer := do
  match router.tree.select settings (← Program.memory).nextSerial choice with
  | .error .noGroup => return .missing .group
  | .error (.route error) => return .routeError error
  | .ok selection =>
    if strict then
      match router.routeIn selection with
      | .ok found => return .route found
      | .error error => return .routeError error
    else return .route (router.routeIn? selection)

/-- Compares what a router shows with a mark. -/
def compare (mark : Mark) (router : Router Actor) : Answer :=
  .comparison (mark.location.stamp = router.location.stamp) (mark.location.value = router.location.value)
    (mark.route.map (·.stamp) = router.route.map (·.stamp))
    (Match.sameRoute? (mark.route.map (·.value)) (router.route.map (·.value)))

def describe : Subject → Play Answer
  | .router handle => withRouter handle fun _ router => return .text router.describe
  | .guard handle => withGuard handle fun _ guard => return .text guard.describe
  | .set handle => withSet handle fun _ set => return .text set.describe
  | .subscription handle => do
    match (← Program.memory).subscriptions.lookup handle with
    | some subscription => return .text subscription.describe
    | none => return .missing .subscription

/-- Does a step. -/
def step (scenario : Scenario) : Step → Play Answer
  | .commit action path state => ofResult <$> Program.request (.commit action state path)
  | .go delta => do
    Program.request (.go delta)
    return .nothing
  | .requestUnload => .truth <$> Program.request .requestUnload
  | .location => return .location (← Program.look).history.location
  | .onChange name script => register name false script (.subscribe .changes)
  | .onUnload name script => register name true script (.subscribe .unload)
  | .openGuard handle => do
    storeGuard handle (← Program.request .openGuard)
    return .nothing
  | .guardCommit handle action path state => withGuard handle fun id _ =>
    ofNavigation <$> Program.request (.guardedCommit id action state path)
  | .guardMove handle move => withGuard handle fun id _ =>
    .outcome <$> Program.request (.guardedMove id move)
  | .guardBlock handle name script => withGuard handle fun id _ =>
    register name true script (.subscribe (.blockers id))
  | .guardAsk handle cancelable => withGuard handle fun id _ =>
    .truth <$> Program.request (.askBlockers id cancelable)
  | .guardInfo handle => withGuard handle fun _ guard =>
    return .guard guard.blockers.size guard.unload.isSome (← Program.look).history.location.path
  | .openRouter handle source settings =>
    match source.or scenario.source with
    | some source => openRouter (settings.getD scenario.settings) source handle
    | none => return .loadError .absent
  | .shareRouter handle other => withRouter handle fun id _ => do
    Program.request (.holdRouter id)
    storeRouter other id
    return .nothing
  | .closeRouter handle => do
    match (← Program.memory).routers.lookup handle with
    | none => return .truth false
    | some id =>
      Program.update fun memory => { memory with routers := memory.routers.remove handle }
      Program.request (.releaseRouter id)
      return .truth true
  | .navigate handle path action => withRouter handle fun id _ =>
    ofNavigation <$> Program.request (.navigate id path action)
  | .navigateTo handle name params extras action => withRouter handle fun id router => do
    match router.tree.reverse name params extras with
    | .error error => return .routeError error
    | .ok path => ofNavigation <$> Program.request (.navigate id path action)
  | .reverse handle name params extras => withRouter handle fun _ router =>
    match router.tree.reverse name params extras with
    | .error error => return .routeError error
    | .ok path => return .text path
  | .move handle move => withRouter handle fun id _ => .outcome <$> Program.request (.move id move)
  | .sync handle => withRouter handle fun id _ => ofResult <$> Program.request (.sync id)
  | .takeSyncError handle => withRouter handle fun id _ => do
    match ← Program.request (.takeSyncError id) with
    | some error => return .routeError error
    | none => return .nothing
  | .onLocation handle name script => withRouter handle fun id _ =>
    register name false script (.subscribe (.locations id))
  | .onRoute handle name script => withRouter handle fun id _ =>
    register name false script (.subscribe (.routes id))
  | .block handle name script => withRouter handle fun id _ => register name true script (.block id)
  | .lookup handle choice strict => withRouter handle fun _ router =>
    lookup scenario.settings router choice strict
  | .searchParams handle => withRouter handle fun _ router =>
    return .pairs router.sight.location.searchParams
  | .routerInfo handle => withRouter handle fun _ router =>
    return .router router.sight.location router.sight.route router.tree.names
  | .detach handle => withRouter handle fun id _ => do
    Program.request (.detach id)
    return .nothing
  | .mark handle name => withRouter handle fun _ router => do
    let mark : Mark := ⟨router.location, router.route⟩
    Program.update fun memory => { memory with marks := memory.marks.store name mark }
    return .nothing
  | .check handle name => withRouter handle fun _ router => do
    match (← Program.memory).marks.lookup name with
    | none => return .missing .mark
    | some mark => return compare mark router
  | .observe handle name script => withSet handle fun id _ =>
    register name false script (.subscribe (.observers id))
  | .notify handle => withSet handle fun id _ => do
    Program.request (.notify id)
    return .nothing
  | .setInfo handle => withSet handle fun _ set => return .set set.size
  | .unsubscribe name => do
    match (← Program.memory).subscriptions.lookup name with
    | none => return .truth false
    | some subscription =>
      Program.update fun memory => { memory with subscriptions := memory.subscriptions.remove name }
      Program.request (.unsubscribe subscription)
      return .truth true
  | .forget name => do
    let known := ((← Program.memory).subscriptions.lookup name).isSome
    Program.update fun memory => { memory with subscriptions := memory.subscriptions.remove name }
    return .truth known
  | .flag name value => do
    Program.update fun memory => { memory with flags := memory.flags.store name value }
    return .nothing
  | .beforeAttach steps => do
    Program.update fun memory => { memory with beforeAttach := steps }
    return .nothing
  | .describe subject => describe subject

/-- Does steps in the name of a callback, and notes the answer of each. -/
def steps (scenario : Scenario) (name : String) : List Step → Play Unit
  | [] => return
  | first :: more => do
    Program.write (.did name (← step scenario first))
    steps scenario name more

/-- What a callback does. -/
def respond (scenario : Scenario) : Actor → Bool → Play Bool
  | .attaching, _ => do
    Program.write .attaching
    let pending := (← Program.memory).beforeAttach
    Program.update fun memory => { memory with beforeAttach := [] }
    steps scenario "attach" pending
    return false
  | .detaching, _ => do
    Program.write .detaching
    return false
  | .scripted id name asked script, told => do
    let world ← Program.look
    let location := world.history.location
    let earlier := world.memory.runs.count id
    Program.write (.fired name location.path (if asked then some told else none))
    Program.update fun memory => { memory with runs := id :: memory.runs }
    if script.place.all (· = location.pathname) && earlier < script.limit then
      steps scenario name script.steps
    match script.panic with
    | some payload => .panic payload
    | none => return script.veto.answer (← Program.memory) earlier told

end Play

namespace Scenario

/-- The host of a scenario. Its location source refuses navigations while the flag `source_fail` is up. -/
def host (scenario : Scenario) : Host Actor Memory Note where
  respond := Play.respond scenario
  refusal memory := if memory.flag "source_fail" then some "source refused" else none
  beforeAttach := some .attaching
  beforeDetach := some .detaching

/-- A step that was done: its answer, what happened meanwhile, and the session after it. -/
structure Frame where
  answer : Answer
  events : List (Event Note)
  after : World Actor Memory Note

def answerOf : Except Stop Answer → Answer
  | .ok answer => answer
  | .error (.panic payload) => .panicked payload
  | .error .exhausted => .exhausted

/-- Does steps one after the other. -/
def frames (scenario : Scenario) (depth : Nat) (world : World Actor Memory Note) :
    List Step → List Frame
  | [] => []
  | step :: more =>
    let (result, after) := (Play.step scenario step).run scenario.host depth { world with journal := [] }
    ⟨answerOf result, after.journal.reverse, after⟩ :: scenario.frames depth after more

/-- Plays a scenario. -/
def play (scenario : Scenario) : Except RouteError (List Frame) := do
  let history ← History.start scenario.origin scenario.path
  let memory : Memory := {}
  return scenario.frames (Step.listWeight scenario.steps + 1) { history, memory } scenario.steps

end Scenario

end PageRouter
