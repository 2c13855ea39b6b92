import PageRouter.Route.Tree
import PageRouter.Session.History
import PageRouter.Session.Registry

namespace PageRouter

/-- Names a router of a session. -/
abbrev RouterId := Nat

/-- Names a guard of a session. -/
abbrev GuardId := Nat

/-- Names a set of observers that belongs to no router. -/
abbrev SetId := Nat

/-- Places where callbacks are registered. -/
inductive Channel where
  /-- Run after every change of the history. -/
  | changes
  /-- Asked when the host is about to leave. -/
  | unload
  /-- Run when the location of a router may have changed. -/
  | locations (router : RouterId)
  /-- Run when the route of a router has changed. -/
  | routes (router : RouterId)
  /-- Asked before navigations through a guard. -/
  | blockers (guard : GuardId)
  | observers (set : SetId)
  deriving DecidableEq, Repr

/-- A registration at a channel, which can be taken back. -/
structure Subscription where
  channel : Channel
  id : Nat
  deriving DecidableEq, Repr

/-- What a callback throws. -/
inductive Payload where
  | text (message : String)
  /-- A value that is no text. -/
  | value
  deriving DecidableEq, Repr

/-- A value that was stored at a definite moment: it carries the stamp of that moment, so that equal values
stored at different moments can be told apart. -/
structure Stamped (α : Type) where
  stamp : Nat
  value : α
  deriving DecidableEq, Repr

/-- Navigations that a guard can stop. -/
inductive Operation where
  | push
  | replace
  | go
  | back
  | forward
  deriving DecidableEq, Repr

def Action.operation : Action → Operation
  | push => .push
  | replace => .replace

/-- What a router shows: its location and its route. -/
structure Sight where
  location : Location
  route : Option Match
  deriving DecidableEq

/-- How a guard stands: what it says of itself, and what the history holds of it. -/
structure Standing where
  blockers : Nat
  /-- Whether the guard has its unload handler attached. -/
  attached : Bool
  attaching : Bool
  /-- How many unload handlers of the guard are registered. -/
  handlers : Nat
  /-- How many additions and removals of blockers are under way. -/
  changing : Nat
  deriving DecidableEq, Repr

/-- What is written into the journal of a session. -/
inductive Event (ε : Type) where
  /-- A guard stopped a navigation. -/
  | blocked (operation : Operation)
  /-- A path was resolved to several routes. -/
  | ambiguous (path : String) (templates : List String)
  /-- An observer panicked, which is not passed on. -/
  | panicked (payload : Payload)
  /-- A router could not follow a change of the history. -/
  | syncFailed (router : RouterId) (error : RouteError)
  /-- A note of the host. -/
  | noted (note : ε)
  /-- The history has a new current entry. -/
  | changed (entry : Entry)
  /-- The callbacks at a channel are about to be run in turn. -/
  | passStarted (pass : Nat) (channel : Channel)
  /-- A callback is about to run in a pass; for the channels of a router, with what the router shows. -/
  | ran (pass : Nat) (channel : Channel) (id : Nat) (sight : Option Sight)
  /-- A router shows another route than before. -/
  | routeReplaced (router : RouterId) (before after : Option (Stamped Match))
  /-- A router is asked to reconcile itself with the history, with no change of it at hand. -/
  | syncAsked (router : RouterId)
  /-- The error that a router keeps is asked for, which may be none, and not kept any longer. -/
  | errorTaken (router : RouterId) (error : Option RouteError)
  /-- A router does not listen to changes of the history any longer. -/
  | detached (router : RouterId)
  /-- A program looks at the session, in which the guards stand like this. -/
  | looked (standings : List Standing)
  /-- A panic goes through the registration or the removal of a guard's unload handler. -/
  | unwound (guard : GuardId)

/-- Who hears of changes of the history. -/
inductive Listener (κ : Type) where
  | host (callback : κ)
  | router (router : RouterId)
  deriving DecidableEq, Repr

/-- Who is asked when the host is about to leave. -/
inductive UnloadHandler (κ : Type) where
  | host (callback : κ)
  | guard (guard : GuardId)
  deriving DecidableEq, Repr

/-- A guard: blockers that are asked before navigations. -/
structure Guard (κ : Type) where
  blockers : Registry κ := {}
  /-- The registration of the unload handler that stands for the blockers. -/
  unload : Option Nat := none
  /-- Whether the unload handler is being registered right now. -/
  attaching : Bool := false
  /-- How many hold the guard; one that nobody holds is gone. -/
  holders : Nat := 1
  /-- How many additions and removals of blockers are under way. -/
  changing : Nat := 0
  deriving Repr

/-- A router: routes, and the location and route that it showed last. -/
structure Router (κ : Type) where
  tree : RouteTree
  guard : GuardId
  location : Stamped Location
  route : Option (Stamped Match)
  locationObservers : Registry κ := {}
  routeObservers : Registry κ := {}
  /-- The registration at the history, unless the router is detached. -/
  subscription : Option Nat := none
  /-- The error of the last change of the history that the router could not follow. -/
  syncError : Option RouteError := none
  /-- How many hold the router; one that nobody holds is gone. -/
  holders : Nat := 1

namespace Router

variable {κ : Type}

/-- What a router shows. -/
def sight (router : Router κ) : Sight :=
  ⟨router.location.value, router.route.map (·.value)⟩

def routeIn? (router : Router κ) (selection : Selection) : Option Match :=
  router.sight.route.filter (·.isIn selection)

/-- The route that a router shows, which has to be selected. -/
def routeIn (router : Router κ) (selection : Selection) : Except RouteError Match :=
  match router.routeIn? selection with
  | some found => .ok found
  | none => .error (.mismatch (router.sight.route.map (·.template)))

end Router

/-- The state of a session: one history, the routers and guards on it, and whatever its host remembers. Callbacks are
values of a type `κ` that the host chooses, together with the programs that they stand for; `σ` is the host's memory
and `ε` the type of what it notes down. -/
structure World (κ σ ε : Type) where
  history : History
  changes : Registry (Listener κ) := {}
  unload : Registry (UnloadHandler κ) := {}
  routers : List (Router κ) := []
  guards : List (Guard κ) := []
  sets : List (Registry κ) := []
  /-- The registrations that the host made and can still take back. -/
  handles : List Subscription := []
  nextStamp : Nat := 0
  nextPass : Nat := 0
  memory : σ
  /-- What happened, latest first. -/
  journal : List (Event ε) := []

namespace World

variable {κ σ ε : Type}

def record (world : World κ σ ε) (event : Event ε) : World κ σ ε :=
  { world with journal := event :: world.journal }

def modifyRouter (world : World κ σ ε) (router : RouterId) (f : Router κ → Router κ) : World κ σ ε :=
  { world with routers := world.routers.modify router f }

def modifyGuard (world : World κ σ ε) (guard : GuardId) (f : Guard κ → Guard κ) : World κ σ ε :=
  { world with guards := world.guards.modify guard f }

def sight? (world : World κ σ ε) (router : RouterId) : Option Sight :=
  world.routers[router]?.map (·.sight)

def sightAt? (world : World κ σ ε) : Channel → Option Sight
  | .locations router | .routes router => world.sight? router
  | _ => none

/-- One more holds a guard. -/
def holdGuard (world : World κ σ ε) (guard : GuardId) : World κ σ ε :=
  world.modifyGuard guard fun g => { g with holders := g.holders + 1 }

/-- One less holds a guard. -/
def releaseGuard (world : World κ σ ε) (guard : GuardId) : World κ σ ε :=
  world.modifyGuard guard fun g => { g with holders := g.holders - 1 }

/-- The unload handlers of a guard that are registered, by their ids. -/
def unloadHandlers (world : World κ σ ε) (guard : GuardId) : List Nat :=
  world.unload.entries.filterMap fun
    | (id, .guard other) => if other = guard then some id else none
    | (_, .host _) => none

/-- How the guards stand, in order. -/
def standings (world : World κ σ ε) : List Standing :=
  world.guards.mapIdx fun guard g => {
    blockers := g.blockers.size
    attached := g.unload.isSome
    attaching := g.attaching
    handlers := (world.unloadHandlers guard).length
    changing := g.changing }

def isGuardHeld (world : World κ σ ε) (guard : GuardId) : Bool :=
  world.guards[guard]?.any (0 < ·.holders)

/-- Whether anybody holds a router. -/
def isRouterHeld (world : World κ σ ε) (router : RouterId) : Bool :=
  world.routers[router]?.any (0 < ·.holders)

def holdRouter (world : World κ σ ε) (router : RouterId) : World κ σ ε :=
  world.modifyRouter router fun r => { r with holders := r.holders + 1 }

def detach (world : World κ σ ε) (router : RouterId) : World κ σ ε :=
  match world.routers[router]?.bind (·.subscription) with
  | none => world
  | some id =>
    { world with changes := world.changes.unsubscribe id }
      |>.modifyRouter router (fun r => { r with subscription := none })
      |>.record (.detached router)

/-- One less holds a router. When nobody holds it any more, it leaves the history and lets go of its guard. -/
def releaseRouter (world : World κ σ ε) (router : RouterId) : World κ σ ε :=
  match world.routers[router]? with
  | none => world
  | some r =>
    let world := world.modifyRouter router fun r => { r with holders := r.holders - 1 }
    if r.holders = 1 then (world.detach router).releaseGuard r.guard else world

/-- Has a router take over the current location of the history, unless it shows an equal one. -/
def relocate (world : World κ σ ε) (router : RouterId) : World κ σ ε :=
  match world.routers[router]? with
  | none => world
  | some r =>
    let location := world.history.location
    if r.location.value = location then world
    else
      { world with nextStamp := world.nextStamp + 1 }.modifyRouter router
        fun r => { r with location := ⟨world.nextStamp, location⟩ }

/-- Puts another route in place of the one that a router shows. -/
def replaceRoute (world : World κ σ ε) (router : RouterId) (route : Option Match) : World κ σ ε :=
  match world.routers[router]? with
  | none => world
  | some r =>
    let stored := route.map fun found => ⟨world.nextStamp, found⟩
    { world with nextStamp := if route.isSome then world.nextStamp + 1 else world.nextStamp }
      |>.modifyRouter router (fun r => { r with route := stored })
      |>.record (.routeReplaced router r.route stored)

end World

end PageRouter
