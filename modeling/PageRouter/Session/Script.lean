import PageRouter.Route.Choice
import PageRouter.Route.Source
import PageRouter.Session.Program

namespace PageRouter

/-- What a blocker or an unload handler answers. -/
inductive Veto where
  | fixed (answer : Bool)
  /-- Yes in the first runs, as many as given. -/
  | firstRuns (count : Nat)
  /-- Yes to navigations that can be cancelled. -/
  | ifCancelable
  /-- Yes to navigations that cannot be cancelled. -/
  | unlessCancelable
  /-- The value of a flag. -/
  | flag (name : String)
  deriving DecidableEq, Repr

/-- What a callback does when it runs, over steps of a type of their own: steps, a panic, an answer. -/
structure Script (step : Type) where
  /-- Where steps are done: at this pathname, or anywhere. -/
  place : Option String := none
  /-- How many runs do steps. -/
  limit : Nat := 1
  steps : List step := []
  /-- What the callback throws after its steps. -/
  panic : Option Payload := none
  veto : Veto := .fixed false

/-- What to describe in a line of text. -/
inductive Subject where
  | router (handle : String)
  | guard (handle : String)
  | set (handle : String)
  | subscription (handle : String)
  deriving DecidableEq, Repr

/-- One thing that a host does with a session. A step names what it acts on by handles. -/
inductive Step where
  /-- Records a navigation in the history itself. -/
  | commit (action : Action) (path : String) (state : EntryState)
  | go (delta : Int)
  | requestUnload
  | location
  /-- Registers an observer of the history. -/
  | onChange (name : String) (script : Script Step)
  | onUnload (name : String) (script : Script Step)
  | openGuard (guard : String)
  | guardCommit (guard : String) (action : Action) (path : String) (state : EntryState)
  | guardMove (guard : String) (move : Move)
  | guardBlock (guard name : String) (script : Script Step)
  /-- Asks the blockers of a guard. -/
  | guardAsk (guard : String) (cancelable : Bool)
  | guardInfo (guard : String)
  /-- Opens a router, with routes and settings of its own or else those of the scenario. -/
  | openRouter (router : String) (source : Option RouteSource) (settings : Option Settings)
  | shareRouter (router other : String)
  | closeRouter (router : String)
  | navigate (router path : String) (action : Action)
  /-- Navigates to the path that is built for a name. -/
  | navigateTo (router name : String) (params : Option Params) (extras : Option Extras) (action : Action)
  | reverse (router name : String) (params : Option Params) (extras : Option Extras)
  | move (router : String) (move : Move)
  | sync (router : String)
  | takeSyncError (router : String)
  | onLocation (router name : String) (script : Script Step)
  | onRoute (router name : String) (script : Script Step)
  | block (router name : String) (script : Script Step)
  /-- The route of a router, if it is among those chosen; if `strict`, anything else is an error. -/
  | lookup (router : String) (choice : Choice) (strict : Bool)
  | searchParams (router : String)
  | routerInfo (router : String)
  | detach (router : String)
  /-- Remembers what a router shows. -/
  | mark (router mark : String)
  /-- Compares what a router shows with what was remembered. -/
  | check (router mark : String)
  | observe (set name : String) (script : Script Step)
  | notify (set : String)
  | setInfo (set : String)
  /-- Takes a registration back. -/
  | unsubscribe (name : String)
  /-- Forgets about a registration, which stays. -/
  | forget (name : String)
  | flag (name : String) (value : Bool)
  /-- Gives the location source steps to do before it next registers the unload handler of a guard. -/
  | beforeAttach (steps : List Step)
  | describe (subject : Subject)

/-- What a step can miss. -/
inductive Missing where
  | router
  | guard
  | subscription
  | mark
  | group
  deriving DecidableEq, Repr

/-- What a step answers. -/
inductive Answer where
  | nothing
  | truth (value : Bool)
  | text (value : String)
  | outcome (outcome : Outcome)
  | location (location : Location)
  | route (found : Option Match)
  | pairs (pairs : List (String × String))
  /-- A guard: its blockers, whether its unload handler is attached, and the path of the history. -/
  | guard (blockers : Nat) (attached : Bool) (path : String)
  | router (location : Location) (route : Option Match) (names : List String)
  | set (size : Nat)
  /-- Whether what a router shows is the very thing remembered, and whether it is equal to it. -/
  | comparison (sameLocation equalLocation sameRoute equalRoute : Bool)
  | routeError (error : RouteError)
  | loadError (error : LoadError)
  | missing (what : Missing)
  | panicked (payload : Payload)
  /-- The run was cut off. -/
  | exhausted

mutual

/-- A bound on how many callbacks a step can have running inside each other. -/
def Step.weight : Step → Nat
  | .onChange _ script | .onUnload _ script | .guardBlock _ _ script | .onLocation _ _ script
  | .onRoute _ _ script | .block _ _ script | .observe _ _ script => Step.scriptWeight script
  | .beforeAttach steps => Step.listWeight steps + 1
  | _ => 0

/-- The same for a script, each run of which may register callbacks again. -/
def Step.scriptWeight : Script Step → Nat
  | ⟨_, limit, steps, _, _⟩ => limit * (Step.listWeight steps + 1)

def Step.listWeight : List Step → Nat
  | [] => 0
  | step :: more => step.weight + Step.listWeight more

end

end PageRouter
