import PageRouter.Session.World

namespace PageRouter

/-- What a guarded navigation came to. -/
inductive Outcome where
  | committed
  /-- A blocker stopped it. -/
  | blocked
  deriving DecidableEq, Repr

/-- Moves through the history that a guard can stop. -/
inductive Move where
  | go (delta : Int)
  | back
  | forward
  deriving DecidableEq, Repr

def Move.delta : Move → Int
  | go delta => delta
  | back => -1
  | forward => 1

def Move.operation : Move → Operation
  | go _ => .go
  | back => .back
  | forward => .forward

/-- The kinds of answers to requests. -/
inductive Reply where
  | done
  | truth
  | result
  | outcome
  | navigation
  | router
  | guard
  | set
  | subscription
  | error

/-- The values of a kind of answers. -/
@[reducible]
def Reply.Value : Reply → Type
  | done => Unit
  | truth => Bool
  | result => Except RouteError Unit
  | outcome => Outcome
  | navigation => Except RouteError Outcome
  | router => Except RouteError RouterId
  | guard => GuardId
  | set => SetId
  | subscription => Subscription
  | error => Option RouteError

/-- What can be asked of a session, with the kind of the answer. -/
inductive Request (κ : Type) : Reply → Type where
  /-- Records a navigation in the history, past all guards. -/
  | commit (action : Action) (state : EntryState) (path : String) : Request κ .result
  /-- Moves through the history, past all guards. -/
  | go (delta : Int) : Request κ .done
  /-- Asks whether leaving needs to be confirmed. -/
  | requestUnload : Request κ .truth
  | openGuard : Request κ .guard
  | releaseGuard (guard : GuardId) : Request κ .done
  /-- Asks the blockers of a guard for a veto. -/
  | askBlockers (guard : GuardId) (cancelable : Bool) : Request κ .truth
  | guardedCommit (guard : GuardId) (action : Action) (state : EntryState) (path : String) :
      Request κ .navigation
  | guardedMove (guard : GuardId) (move : Move) : Request κ .outcome
  | openRouter (tree : RouteTree) : Request κ .router
  | holdRouter (router : RouterId) : Request κ .done
  | releaseRouter (router : RouterId) : Request κ .done
  | navigate (router : RouterId) (path : String) (action : Action) : Request κ .navigation
  | move (router : RouterId) (move : Move) : Request κ .outcome
  /-- Reconciles a router with the history. -/
  | sync (router : RouterId) : Request κ .result
  /-- Takes the error of the last change that a router could not follow. -/
  | takeSyncError (router : RouterId) : Request κ .error
  | detach (router : RouterId) : Request κ .done
  /-- Adds a blocker to the guard of a router. -/
  | block (router : RouterId) (callback : κ) : Request κ .subscription
  | openSet : Request κ .set
  /-- Runs the observers of a set. -/
  | notify (set : SetId) : Request κ .done
  | subscribe (channel : Channel) (callback : κ) : Request κ .subscription
  | unsubscribe (subscription : Subscription) : Request κ .done

/-- What a host or one of its callbacks does, step by step and up to a result. A program can look at the whole
session, but it changes the session through requests alone; its own memory and notes are its own. -/
inductive Program (κ σ ε α : Type) where
  | done (result : α)
  /-- Gives up; what follows is not done. -/
  | panic (payload : Payload)
  /-- Looks at the session. -/
  | inspect (next : World κ σ ε → Program κ σ ε α)
  /-- Changes the memory of the host. -/
  | remember (change : σ → σ) (next : Program κ σ ε α)
  /-- Writes a note into the journal. -/
  | note (note : ε) (next : Program κ σ ε α)
  /-- Asks something of the session. -/
  | ask {reply : Reply} (request : Request κ reply) (next : reply.Value → Program κ σ ε α)

namespace Program

variable {κ σ ε α β : Type}

def andThen : Program κ σ ε α → (α → Program κ σ ε β) → Program κ σ ε β
  | done result, next => next result
  | panic payload, _ => panic payload
  | inspect look, next => inspect fun world => (look world).andThen next
  | remember change rest, next => remember change (rest.andThen next)
  | note text rest, next => note text (rest.andThen next)
  | ask request answer, next => ask request fun value => (answer value).andThen next

instance : Monad (Program κ σ ε) where
  pure := done
  bind := andThen

/-- Asks something of the session and answers what it answers. -/
def request {reply : Reply} (request : Request κ reply) : Program κ σ ε reply.Value :=
  ask request done

/-- The session as it is. -/
def look : Program κ σ ε (World κ σ ε) :=
  inspect done

def memory : Program κ σ ε σ :=
  inspect fun world => done world.memory

def update (change : σ → σ) : Program κ σ ε Unit :=
  remember change (done ())

def write (text : ε) : Program κ σ ε Unit :=
  note text (done ())

end Program

/-- A host: the programs of its callbacks, and the conduct of its location source, which passes everything on
to the history and may do something of its own on the way. -/
structure Host (κ σ ε : Type) where
  /-- What a callback does. Blockers are told whether the navigation can be cancelled; their answer, and that
  of unload handlers, is a veto. -/
  respond : κ → Bool → Program κ σ ε Bool
  /-- Why the source refuses to record navigations now, if it does. -/
  refusal : σ → Option String
  /-- Run by the source before it registers the unload handler of a guard. -/
  beforeAttach : Option κ := none
  /-- Run by the source after that, before it hands out the registration. -/
  afterAttach : Option κ := none
  /-- Run by the source before it removes the unload handler of a guard. -/
  beforeDetach : Option κ := none
  /-- Run by the source after that. -/
  afterDetach : Option κ := none
  /-- How a target is followed from a location. -/
  join : Location → String → Except RouteError Location := Location.join

end PageRouter
