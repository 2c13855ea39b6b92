import PageRouter.Proofs.Session.Asking
import PageRouter.Proofs.Session.Navigate

namespace PageRouter

variable {κ σ ε α : Type}

/-- A router that shows the same and has the same observers and the same error, whoever holds it. -/
structure Router.Undisturbed (r after : Router κ) : Prop where
  location : after.location = r.location
  route : after.route = r.route
  locationObservers : after.locationObservers = r.locationObservers
  routeObservers : after.routeObservers = r.routeObservers
  syncError : after.syncError = r.syncError

private theorem Router.Undisturbed.refl (r : Router κ) : r.Undisturbed r :=
  ⟨rfl, rfl, rfl, rfl, rfl⟩

private theorem Router.Undisturbed.trans {first second third : Router κ} (hfirst : first.Undisturbed second)
    (hsecond : second.Undisturbed third) : first.Undisturbed third where
  location := hsecond.location.trans hfirst.location
  route := hsecond.route.trans hfirst.route
  locationObservers := hsecond.locationObservers.trans hfirst.locationObservers
  routeObservers := hsecond.routeObservers.trans hfirst.routeObservers
  syncError := hsecond.syncError.trans hfirst.syncError

/-- An event that tells of no callback: that a navigation was blocked, or that a router left the history. -/
def Event.IsFarewell : Event ε → Prop
  | .blocked _ | .detached _ => True
  | _ => False

/-- A session after nothing but that a call of a router has ended: the history, what routers show, all observers and
errors are the same, and no callback was run. Only if callbacks have dropped the router in the meantime, so that the
call was the last to hold it, the router has left the history. -/
structure World.Undisturbed (router : RouterId) (moment after : World κ σ ε) : Prop where
  history : after.history = moment.history
  routers : moment.Each Router.Undisturbed after
  sets : after.sets = moment.sets
  changes : (∀ r, moment.routers[router]? = some r → r.holders ≠ 1) → after.changes = moment.changes
  events : ∃ events, after.journal = events ++ moment.journal ∧ ∀ event ∈ events, event.IsFarewell

namespace World

/-- A call of a router that somebody else holds, too, leaves no trace of its own. -/
theorem releaseRouter_holdRouter {world : World κ σ ε} {router : RouterId} {r : Router κ}
    (hrouter : world.routers[router]? = some r) (hheld : 0 < r.holders) :
    (world.holdRouter router).releaseRouter router = world := by
  have hhold : (world.holdRouter router).routers[router]? = some { r with holders := r.holders + 1 } := by
    rw [holdRouter, getElem?_modifyRouter, if_pos rfl, hrouter, Option.map_some]
  have hmore : r.holders + 1 ≠ 1 := by omega
  rw [releaseRouter, hhold]
  dsimp only
  rw [if_neg hmore, holdRouter, modifyRouter, modifyRouter, List.modify_modify_eq]
  have hsame : world.routers.modify router ((fun r => { r with holders := r.holders - 1 }) ∘
      fun r : Router κ => { r with holders := r.holders + 1 }) = world.routers := List.modify_id router world.routers
  rw [hsame]

private theorem record_releaseRouter_holdRouter {world : World κ σ ε} {router : RouterId} {r : Router κ}
    (hrouter : world.routers[router]? = some r) (hheld : 0 < r.holders) (event : Event ε) :
    ((world.holdRouter router).record event).releaseRouter router = world.record event := by
  have hrecorded : (world.record event).routers[router]? = some r := hrouter
  exact releaseRouter_holdRouter hrecorded hheld

@[simp] theorem sets_detach (world : World κ σ ε) (router : RouterId) :
    (world.detach router).sets = world.sets := by
  rw [detach]
  split <;> rfl

/-- Letting go of a router takes no listener away unless it was held by nobody else. -/
theorem farewell_releaseRouter (world : World κ σ ε) (router : RouterId) :
    (world.releaseRouter router).sets = world.sets ∧
      ((∀ r, world.routers[router]? = some r → r.holders ≠ 1) →
        (world.releaseRouter router).changes = world.changes) := by
  rw [releaseRouter]
  split
  · exact ⟨rfl, fun _ => rfl⟩
  · next r hrouter =>
    dsimp only
    split
    · next hlast => exact ⟨sets_detach .., fun hmore => absurd hlast (hmore r hrouter)⟩
    · exact ⟨rfl, fun _ => rfl⟩

/-- A call of a router that has ended leaves no more than that. -/
theorem undisturbed_releaseRouter (world : World κ σ ε) (router : RouterId) :
    world.Undisturbed router (world.releaseRouter router) where
  history := history_releaseRouter world router
  routers := each_releaseRouter .refl (fun _ _ _ => .trans) (fun _ => ⟨rfl, rfl, rfl, rfl, rfl⟩)
    (fun _ => ⟨rfl, rfl, rfl, rfl, rfl⟩) world router
  sets := (farewell_releaseRouter world router).1
  changes := (farewell_releaseRouter world router).2
  events := by
    obtain ⟨events, hjournal, hevents⟩ := world.journal_releaseRouter router
    exact ⟨events, hjournal, fun event hevent => hevents event hevent ▸ trivial⟩

/-- A call that was stopped leaves no more than that and a note about it. -/
theorem undisturbed_blocked (world : World κ σ ε) (router : RouterId) (operation : Operation) :
    world.Undisturbed router ((world.record (.blocked operation)).releaseRouter router) := by
  obtain ⟨hhistory, hrouters, hsets, hchanges, events, hjournal, hfarewell⟩ :=
    undisturbed_releaseRouter (world.record (.blocked operation)) router
  refine ⟨hhistory, hrouters, hsets, hchanges, events ++ [.blocked operation], ?_, fun event hevent => ?_⟩
  · rw [hjournal, List.append_assoc]
    rfl
  · rcases List.mem_append.1 hevent with hmem | hmem
    · exact hfarewell event hmem
    · rw [List.mem_singleton.1 hmem]
      trivial

end World

namespace Run

/-- What becomes of an operation that the blockers of a guard can stop. It goes on if all of them say no, and not
otherwise. -/
inductive Course (invoke : Invoke κ σ ε) (guard : GuardId) (g : Guard κ) (operation : Operation)
    (act : Run κ σ ε α) (stopped : α) (world : World κ σ ε) : Except Stop α → World κ σ ε → Prop
  | reached {moment ended : World κ σ ε} {result : Except Stop α}
      (hcleared : Consults invoke guard g world (.ok false) moment) (hact : act.exec moment = (result, ended)) :
      Course invoke guard g operation act stopped world result ended
  | vetoed {moment : World κ σ ε} (hvetoed : Consults invoke guard g world (.ok true) moment) :
      Course invoke guard g operation act stopped world (.ok stopped) (moment.record (.blocked operation))
  | broken {moment : World κ σ ε} {stop : Stop} (hbroken : Consults invoke guard g world (.error stop) moment) :
      Course invoke guard g operation act stopped world (.error stop) moment

section Course

variable {invoke : Invoke κ σ ε} {guard : GuardId} {g : Guard κ} {operation : Operation} {act : Run κ σ ε α}
  {stopped : α} {world : World κ σ ε}

private theorem exec_isBlocked_bind :
    (isBlocked invoke guard operation >>= fun blocked => if blocked then pure stopped else act).exec world =
      match (askBlockers invoke guard true).exec world with
      | (.ok false, moment) => act.exec moment
      | (.ok true, moment) => (.ok stopped, moment.record (.blocked operation))
      | (.error stop, moment) => (.error stop, moment) := by
  rw [exec_bind, isBlocked, exec_bind]
  rcases (askBlockers invoke guard true).exec world with ⟨stop | (_ | _), moment⟩ <;> rfl

/-- An operation that can be stopped takes its course in no other ways. -/
theorem guarded_eq_iff (hguard : world.guards[guard]? = some g) {result : Except Stop α} {ended : World κ σ ε} :
    (isBlocked invoke guard operation >>= fun blocked => if blocked then pure stopped else act).exec world =
        (result, ended) ↔ Course invoke guard g operation act stopped world result ended := by
  rw [exec_isBlocked_bind]
  constructor
  · intro hexec
    rcases hasked : (askBlockers invoke guard true).exec world with ⟨stop | (_ | _), moment⟩
    · rw [hasked] at hexec
      cases hexec
      exact .broken ((askBlockers_eq_iff hguard).1 hasked)
    · rw [hasked] at hexec
      exact .reached ((askBlockers_eq_iff hguard).1 hasked) hexec
    · rw [hasked] at hexec
      cases hexec
      exact .vetoed ((askBlockers_eq_iff hguard).1 hasked)
  · intro hcourse
    cases hcourse with
    | reached hcleared hact =>
      rw [(askBlockers_eq_iff hguard).2 hcleared]
      exact hact
    | vetoed hvetoed => rw [(askBlockers_eq_iff hguard).2 hvetoed]
    | broken hbroken => rw [(askBlockers_eq_iff hguard).2 hbroken]

/-- If the operation itself never ends as it does when it is stopped, a veto has stopped it. -/
theorem Course.vetoed_of_stopped {ended : World κ σ ε}
    (h : Course invoke guard g operation act stopped world (.ok stopped) ended)
    (hact : ∀ moment, act.exec moment ≠ (.ok stopped, ended)) :
    ∃ moment, Consults invoke guard g world (.ok true) moment ∧ ended = moment.record (.blocked operation) := by
  cases h with
  | @reached moment _ _ _ hexec => exact absurd hexec (hact moment)
  | @vetoed moment hvetoed => exact ⟨moment, hvetoed, rfl⟩

end Course

/-- What a navigation does once no blocker has stopped it: the source records it, or refuses to. -/
def committing (host : Host κ σ ε) (invoke : Invoke κ σ ε) (action : Action) (state : EntryState) (path : String) :
    Run κ σ ε (Except RouteError Outcome) := do
  match ← sourceCommit host invoke action state path with
  | .error error => return .error error
  | .ok () => return .ok .committed

/-- What a move does once no blocker has stopped it. -/
def going (invoke : Invoke κ σ ε) (step : Move) : Run κ σ ε Outcome := do
  go invoke step.delta
  return .committed

private theorem guardedCommit_eq (host : Host κ σ ε) (invoke : Invoke κ σ ε) (guard : GuardId) (action : Action)
    (state : EntryState) (path : String) :
    guardedCommit host invoke guard action state path =
      (isBlocked invoke guard action.operation >>= fun blocked =>
        if blocked then pure (.ok .blocked) else committing host invoke action state path) := rfl

private theorem guardedMove_eq (invoke : Invoke κ σ ε) (guard : GuardId) (step : Move) :
    guardedMove invoke guard step =
      (isBlocked invoke guard step.operation >>= fun blocked =>
        if blocked then pure .blocked else going invoke step) := rfl

/-- A source that does not record a navigation leaves everything as it is. -/
theorem sourceCommit_eq_error {host : Host κ σ ε} {invoke : Invoke κ σ ε} {action : Action} {state : EntryState}
    {path : String} {moment ended : World κ σ ε} {error : RouteError}
    (hcommit : (sourceCommit host invoke action state path).exec moment = (.ok (.error error), ended)) :
    ended = moment := by
  rw [sourceCommit, exec_get_bind] at hcommit
  split at hcommit
  · cases hcommit
    rfl
  · rw [commit, exec_get_bind] at hcommit
    split at hcommit
    · cases hcommit
      rfl
    · obtain ⟨_, _, _, hdone⟩ := exec_bind_eq_ok_iff.1 hcommit
      cases hdone

/-- A navigation that the source refuses, or that cannot be followed from where the history is, has changed nothing.
-/
theorem committing_eq_error {host : Host κ σ ε} {invoke : Invoke κ σ ε} {action : Action} {state : EntryState}
    {path : String} {moment ended : World κ σ ε} {error : RouteError}
    (hcommit : (committing host invoke action state path).exec moment = (.ok (.error error), ended)) :
    ended = moment := by
  obtain ⟨result, middle, hsource, hdone⟩ := exec_bind_eq_ok_iff.1 hcommit
  rcases result with error' | _
  · cases hdone
    exact sourceCommit_eq_error hsource
  · cases hdone

/-- Once no blocker has stopped it, a navigation does not answer that it was stopped. -/
theorem committing_ne_blocked {host : Host κ σ ε} {invoke : Invoke κ σ ε} {action : Action} {state : EntryState}
    {path : String} {moment ended : World κ σ ε} :
    (committing host invoke action state path).exec moment ≠ (.ok (.ok .blocked), ended) := by
  intro hcommit
  obtain ⟨result, middle, hsource, hdone⟩ := exec_bind_eq_ok_iff.1 hcommit
  rcases result with error | _ <;> cases hdone

private theorem going_ne_blocked {invoke : Invoke κ σ ε} {step : Move} {moment ended : World κ σ ε} :
    (going invoke step).exec moment ≠ (.ok .blocked, ended) := by
  intro hgo
  obtain ⟨_, _, _, hdone⟩ := exec_bind_eq_ok_iff.1 hgo
  cases hdone

section Calls

variable {host : Host κ σ ε} {invoke : Invoke κ σ ε} {world : World κ σ ε} {router : RouterId} {r : Router κ}
  {path : String} {action : Action}

private theorem exec_entryState_of_unjoined {error : RouteError}
    (hjoin : host.join r.location.value path = .error error)
    (world : World κ σ ε) : (entryState host r path).exec world = (.ok (.error error), world) := by
  rw [entryState, hjoin]
  rfl

private theorem exec_entryState_of_tied {target : Location} {templates : List String}
    (hjoin : host.join r.location.value path = .ok target)
    (htie : r.tree.resolve target.pathname = .error (.ambiguous target.pathname templates)) (world : World κ σ ε) :
    (entryState host r path).exec world =
      (.ok (.error (.ambiguous target.pathname templates)), world.record (.ambiguous target.pathname templates)) := by
  rw [entryState, hjoin]
  dsimp only
  rw [exec_bind_ok (exec_resolve_error htie world)]
  rfl

/-- The state of an entry tells the route of the target from where the router is. -/
theorem exec_entryState_of_resolved {target : Location} {found : Option Match}
    (hjoin : host.join r.location.value path = .ok target) (hfound : r.tree.resolve target.pathname = .ok found)
    (world : World κ σ ε) :
    (entryState host r path).exec world = (.ok (.ok (r.tree.stateOf path found)), world) := by
  rw [entryState, hjoin]
  dsimp only
  rw [exec_bind_ok (exec_resolve_ok hfound world)]
  cases found <;> rfl

private theorem getElem?_holdRouter (hrouter : world.routers[router]? = some r) :
    (world.holdRouter router).routers[router]? = some { r with holders := r.holders + 1 } := by
  rw [World.holdRouter, World.getElem?_modifyRouter, if_pos rfl, hrouter, Option.map_some]

private theorem exec_navigate (hrouter : world.routers[router]? = some r) :
    (navigate host invoke router path action).exec world =
      ((entryState host r path >>= fun
          | .error error => pure (.error error)
          | .ok state => guardedCommit host invoke r.guard action state path).exec (world.holdRouter router)).map id
        (·.releaseRouter router) := by
  rw [navigate, holdingRouter, exec_between, exec_get_bind, getElem?_holdRouter hrouter]
  rfl

/-- A target that is not even found is refused without a word to anybody. -/
theorem exec_navigate_of_refused (hrouter : world.routers[router]? = some r) {error : RouteError}
    {refused : World κ σ ε}
    (hrefused : (entryState host r path).exec (world.holdRouter router) = (.ok (.error error), refused)) :
    (navigate host invoke router path action).exec world = (.ok (.error error), refused.releaseRouter router) := by
  rw [exec_navigate hrouter, exec_bind_ok hrefused]
  rfl

/-- A navigation to a target that is found is up to the blockers. -/
theorem exec_navigate_of_resolved (hrouter : world.routers[router]? = some r) {target : Location}
    {found : Option Match} (hjoin : host.join r.location.value path = .ok target)
    (hfound : r.tree.resolve target.pathname = .ok found) :
    (navigate host invoke router path action).exec world =
      ((guardedCommit host invoke r.guard action (r.tree.stateOf path found) path).exec
        (world.holdRouter router)).map id (·.releaseRouter router) := by
  rw [exec_navigate hrouter, exec_bind_ok (exec_entryState_of_resolved hjoin hfound _)]

/-- A move by way of a router is up to the blockers at once. -/
theorem exec_move (hrouter : world.routers[router]? = some r) (step : Move) :
    (move invoke router step).exec world =
      ((guardedMove invoke r.guard step).exec (world.holdRouter router)).map id (·.releaseRouter router) := by
  rw [move, holdingRouter, exec_between, exec_get_bind, getElem?_holdRouter hrouter]
  rfl

private theorem map_eq_iff {β : Type} {ended : β × World κ σ ε} {f : World κ σ ε → World κ σ ε} {result : β}
    {after : World κ σ ε} :
    ended.map id f = (result, after) ↔ ∃ world, after = f world ∧ ended = (result, world) := by
  obtain ⟨value, world⟩ := ended
  constructor
  · intro heq
    cases heq
    exact ⟨world, rfl, rfl⟩
  · rintro ⟨_, rfl, heq⟩
    cases heq
    rfl

/-- A target that cannot be followed from where the router is changes nothing. -/
theorem exec_navigate_of_unjoined (hrouter : world.routers[router]? = some r) (hheld : 0 < r.holders)
    {error : RouteError} (hjoin : host.join r.location.value path = .error error) :
    (navigate host invoke router path action).exec world = (.ok (.error error), world) := by
  rw [exec_navigate_of_refused hrouter (exec_entryState_of_unjoined hjoin _),
    World.releaseRouter_holdRouter hrouter hheld]

/-- A target that is a tie changes nothing but that the tie is written down. -/
theorem exec_navigate_of_tied (hrouter : world.routers[router]? = some r) (hheld : 0 < r.holders)
    {target : Location} {templates : List String} (hjoin : host.join r.location.value path = .ok target)
    (htie : r.tree.resolve target.pathname = .error (.ambiguous target.pathname templates)) :
    (navigate host invoke router path action).exec world =
      (.ok (.error (.ambiguous target.pathname templates)), world.record (.ambiguous target.pathname templates)) := by
  rw [exec_navigate_of_refused hrouter (exec_entryState_of_tied hjoin htie _),
    World.record_releaseRouter_holdRouter hrouter hheld]

variable {g : Guard κ}

/-- A navigation to a target that is found takes its course, and then lets go of the router. -/
theorem navigate_eq_iff (hrouter : world.routers[router]? = some r) (hguard : world.guards[r.guard]? = some g)
    {target : Location} {found : Option Match} (hjoin : host.join r.location.value path = .ok target)
    (hfound : r.tree.resolve target.pathname = .ok found) {result : Except Stop (Except RouteError Outcome)}
    {after : World κ σ ε} :
    (navigate host invoke router path action).exec world = (result, after) ↔
      ∃ ended, after = ended.releaseRouter router ∧
        Course invoke r.guard g action.operation
          (committing host invoke action (r.tree.stateOf path found) path) (.ok .blocked) (world.holdRouter router)
          result ended := by
  have hguardHeld : (world.holdRouter router).guards[r.guard]? = some g := hguard
  rw [exec_navigate_of_resolved hrouter hjoin hfound, map_eq_iff, guardedCommit_eq]
  exact exists_congr fun ended => and_congr_right fun _ => guarded_eq_iff hguardHeld

/-- A move takes its course, and then lets go of the router. -/
theorem move_eq_iff (hrouter : world.routers[router]? = some r) (hguard : world.guards[r.guard]? = some g)
    {step : Move} {result : Except Stop Outcome} {after : World κ σ ε} :
    (move invoke router step).exec world = (result, after) ↔
      ∃ ended, after = ended.releaseRouter router ∧
        Course invoke r.guard g step.operation (going invoke step) .blocked (world.holdRouter router) result
          ended := by
  have hguardHeld : (world.holdRouter router).guards[r.guard]? = some g := hguard
  rw [exec_move hrouter, map_eq_iff, guardedMove_eq]
  exact exists_congr fun ended => and_congr_right fun _ => guarded_eq_iff hguardHeld

/-- Only a navigation to a target that was found can have been blocked. -/
theorem resolved_of_blocked (hrouter : world.routers[router]? = some r) (hheld : 0 < r.holders)
    {after : World κ σ ε}
    (hblocked : (navigate host invoke router path action).exec world = (.ok (.ok .blocked), after)) :
    ∃ target found, host.join r.location.value path = .ok target ∧ r.tree.resolve target.pathname = .ok found := by
  rcases hjoin : host.join r.location.value path with error | target
  · rw [exec_navigate_of_unjoined hrouter hheld hjoin] at hblocked
    cases hblocked
  · rcases hresult : r.tree.resolve target.pathname with error | found
    · obtain ⟨templates, rfl⟩ := RouteTree.eq_ambiguous_of_resolve_eq_error hresult
      rw [exec_navigate_of_tied hrouter hheld hjoin hresult] at hblocked
      cases hblocked
    · exact ⟨target, found, rfl, hresult⟩

end Calls

/-- What a router does when it is to navigate, of which a guard has certain blockers. A target that cannot be followed
or that is a tie is refused at once. Then the blockers are asked, and the navigation goes on to the source exactly if
all of them say no; and a navigation that ends before the history is changed leaves everything as the blockers left
it. -/
structure AllOrNothing (host : Host κ σ ε) (invoke : Invoke κ σ ε) (world : World κ σ ε) (router : RouterId)
    (r : Router κ) (g : Guard κ) : Prop where
  /-- A target that cannot be followed from where the router is changes nothing. -/
  unjoined {path : String} {action : Action} {error : RouteError}
    (hjoin : host.join r.location.value path = .error error) :
    (navigate host invoke router path action).exec world = (.ok (.error error), world)
  /-- A target that is a tie changes nothing either, but that it is written down. -/
  tied {path : String} {action : Action} {target : Location} {templates : List String}
    (hjoin : host.join r.location.value path = .ok target)
    (htie : r.tree.resolve target.pathname = .error (.ambiguous target.pathname templates)) :
    (navigate host invoke router path action).exec world =
      (.ok (.error (.ambiguous target.pathname templates)), world.record (.ambiguous target.pathname templates))
  /-- With any other target, it depends on the blockers whether the source is asked to record it. -/
  navigates {path : String} {action : Action} {target : Location} {found : Option Match}
    (hjoin : host.join r.location.value path = .ok target) (hfound : r.tree.resolve target.pathname = .ok found)
    (result : Except Stop (Except RouteError Outcome)) (after : World κ σ ε) :
    (navigate host invoke router path action).exec world = (result, after) ↔
      ∃ ended, after = ended.releaseRouter router ∧
        Course invoke r.guard g action.operation
          (committing host invoke action (r.tree.stateOf path found) path) (.ok .blocked) (world.holdRouter router)
          result ended
  /-- Of a move, too. -/
  moves (step : Move) (result : Except Stop Outcome) (after : World κ σ ε) :
    (move invoke router step).exec world = (result, after) ↔
      ∃ ended, after = ended.releaseRouter router ∧
        Course invoke r.guard g step.operation (going invoke step) .blocked (world.holdRouter router) result ended
  /-- A navigation that is blocked leaves everything as the blocker did that was asked last. -/
  blocked {path : String} {action : Action} {after : World κ σ ε}
    (hblocked : (navigate host invoke router path action).exec world = (.ok (.ok .blocked), after)) :
    ∃ moment, Consults invoke r.guard g (world.holdRouter router) (.ok true) moment ∧
      moment.Undisturbed router after
  /-- So does a move. -/
  moveBlocked {step : Move} {after : World κ σ ε}
    (hblocked : (move invoke router step).exec world = (.ok .blocked, after)) :
    ∃ moment, Consults invoke r.guard g (world.holdRouter router) (.ok true) moment ∧
      moment.Undisturbed router after
  /-- So does a navigation that the source does not record. -/
  failed {path : String} {action : Action} {target : Location} {found : Option Match}
    (hjoin : host.join r.location.value path = .ok target) (hfound : r.tree.resolve target.pathname = .ok found)
    {error : RouteError} {after : World κ σ ε}
    (hfailed : (navigate host invoke router path action).exec world = (.ok (.error error), after)) :
    ∃ moment, Consults invoke r.guard g (world.holdRouter router) (.ok false) moment ∧
      moment.Undisturbed router after
  /-- Between runs, no blocker is asked twice, and those that were registered first are asked first. -/
  ordered : Reached host world → g.blockers.Ordered

/-- Navigations of a router are all or nothing, in every session and whatever its callbacks do. -/
theorem allOrNothing (host : Host κ σ ε) (invoke : Invoke κ σ ε) {world : World κ σ ε} {router : RouterId}
    {r : Router κ} {g : Guard κ} (hrouter : world.routers[router]? = some r) (hheld : 0 < r.holders)
    (hguard : world.guards[r.guard]? = some g) : AllOrNothing host invoke world router r g where
  unjoined := exec_navigate_of_unjoined hrouter hheld
  tied := exec_navigate_of_tied hrouter hheld
  navigates hjoin hfound _ _ := navigate_eq_iff hrouter hguard hjoin hfound
  moves _ _ _ := move_eq_iff hrouter hguard
  blocked hblocked := by
    obtain ⟨target, found, hjoin, hfound⟩ := resolved_of_blocked hrouter hheld hblocked
    obtain ⟨ended, rfl, hcourse⟩ := (navigate_eq_iff hrouter hguard hjoin hfound).1 hblocked
    obtain ⟨moment, hvetoed, rfl⟩ := hcourse.vetoed_of_stopped fun _ => committing_ne_blocked
    exact ⟨moment, hvetoed, World.undisturbed_blocked moment router _⟩
  moveBlocked hblocked := by
    obtain ⟨ended, rfl, hcourse⟩ := (move_eq_iff hrouter hguard).1 hblocked
    obtain ⟨moment, hvetoed, rfl⟩ := hcourse.vetoed_of_stopped fun _ => going_ne_blocked
    exact ⟨moment, hvetoed, World.undisturbed_blocked moment router _⟩
  failed hjoin hfound _ _ hfailed := by
    obtain ⟨ended, rfl, hcourse⟩ := (navigate_eq_iff hrouter hguard hjoin hfound).1 hfailed
    cases hcourse with
    | @reached moment _ _ hcleared hact =>
      rw [committing_eq_error hact]
      exact ⟨moment, hcleared, World.undisturbed_releaseRouter moment router⟩
  ordered hreached := hreached.ordered_blockers hguard

end Run

/-- A blocker that adds another one and says no, and one that says yes to navigations that can be cancelled. -/
inductive Gatekeeper where
  | adding
  | strict
  deriving DecidableEq

/-- The host of both blockers. -/
def gateHost : Host Gatekeeper Unit Unit where
  respond
    | .adding, _ => .ask (.block 0 .strict) fun _ => .done false
    | .strict, cancelable => .done cancelable
  refusal _ := none
  join _ path := .ok ⟨"o", path, path, "", ""⟩

/-- Opens a router, and adds the first of the blockers to it. -/
def openGate : Program Gatekeeper Unit Unit Unit :=
  .ask (.openRouter .nil) fun _ => .ask (.block 0 .adding) fun _ => .done ()

/-- The start of the session. -/
def gateStart : World Gatekeeper Unit Unit where
  history := .single ⟨"o", "a", "a", "", ""⟩
  memory := ()

/-- The session with the first blocker. -/
def gateSession : World Gatekeeper Unit Unit :=
  (openGate.run gateHost 1 gateStart).2

/-- What becomes of a session in which the router goes to a path. -/
def gateVisit (path : String) (session : World Gatekeeper Unit Unit) :
    Except Stop (Except RouteError Outcome) × World Gatekeeper Unit Unit :=
  (Run.navigate gateHost (Run.invoke gateHost 2) 0 path .push).exec session

/-- The blocker that is added while the chain is walked does not stop this navigation, but the next one. -/
theorem gateSession_allOrNothing :
    ∃ r g, gateSession.routers[0]? = some r ∧ 0 < r.holders ∧ gateSession.guards[r.guard]? = some g ∧
      Run.AllOrNothing gateHost (Run.invoke gateHost 2) gateSession 0 r g ∧
      g.blockers.entries = [(0, .adding)] ∧ (gateVisit "b" gateSession).1 = .ok (.ok .committed) ∧
      (gateVisit "c" (gateVisit "b" gateSession).2).1 = .ok (.ok .blocked) := by
  obtain ⟨r, hrouter⟩ : ∃ r, gateSession.routers[0]? = some r := Option.isSome_iff_exists.1 (by decide +kernel)
  obtain ⟨g, hguard⟩ : ∃ g, gateSession.guards[0]? = some g := Option.isSome_iff_exists.1 (by decide +kernel)
  have hopened : gateSession.routers.all (fun r => r.holders = 1 ∧ r.guard = 0) = true := by decide +kernel
  obtain ⟨hholders, hguarded⟩ : r.holders = 1 ∧ r.guard = 0 := by
    simpa using List.all_eq_true.1 hopened r (List.mem_of_getElem? hrouter)
  have hchain : gateSession.guards.all (fun g => g.blockers.entries = [(0, .adding)]) = true := by decide +kernel
  have hblockers : g.blockers.entries = [(0, .adding)] := by
    simpa using List.all_eq_true.1 hchain g (List.mem_of_getElem? hguard)
  have hheld : 0 < r.holders := hholders ▸ Nat.one_pos
  have hguard : gateSession.guards[r.guard]? = some g := hguarded.symm ▸ hguard
  exact ⟨r, g, hrouter, hheld, hguard, Run.allOrNothing gateHost _ hrouter hheld hguard, hblockers,
    by decide +kernel, by decide +kernel⟩

end PageRouter
