import PageRouter.Proofs.Session.Requests

namespace PageRouter

variable {κ σ ε α : Type}

/-- What a listener amounts to: a router what is said of it, a callback of the host nothing. -/
def Listener.amount {M : Type} [Zero M] (ofRouter : RouterId → M) : Listener κ → M
  | .host _ => 0
  | .router id => ofRouter id

/-- An event that replaces no route. -/
def Event.KeepsRoutes : Event ε → Prop
  | .routeReplaced .. => False
  | _ => True

/-- What is written down in the course of a reconciliation, besides what becomes of the route. -/
def Event.IsStep : Event ε → Prop
  | .ran .. | .syncAsked _ | .ambiguous .. => True
  | _ => False

/-- What is written down in the course of a reconciliation replaces no route. -/
theorem Event.IsStep.keepsRoutes {event : Event ε} (h : event.IsStep) : event.KeepsRoutes := by
  cases event <;> first | exact h.elim | trivial

namespace Run

section Telling

variable {R S : World κ σ ε → World κ σ ε → Prop} {invoke : Invoke κ σ ε} {router : RouterId}

/-- Telling the observers of a router is within a relation that the notes about them and the callbacks are within. -/
theorem within_tell (h : Steady R S) {channel : RouterId → Channel} {observers : Router κ → Registry κ}
    (hother : channel router ≠ .changes)
    (hran : ∀ pass id world,
      R world (world.record (.ran pass (channel router) id (world.sightAt? (channel router)))))
    (hinvoke : ∀ callback told, Within R (invoke callback told)) :
    Within R (tell invoke channel observers router) := by
  refine within_get_bind fun world => ?_
  split
  · exact within_pure h.toChains ()
  · exact within_notify h.toChains.graded h (fun _ => ()) (fun _ => ()) (within_startPass h hother) hran
      fun observer _ => within_perform h.toChains (hinvoke observer.2 false)

/-- Telling observers does not panic. -/
theorem calm_tell (invoke : Invoke κ σ ε) (channel : RouterId → Channel) (observers : Router κ → Registry κ)
    (router : RouterId) : Calm (tell invoke channel observers router) := by
  refine calm_get_bind fun world => ?_
  split
  · exact calm_pure ()
  · exact calm_notify _ _ _

/-- The route of a router after it was resolved again: kept if the router is gone, if the path is a tie or if
the route is the same, and replaced otherwise. -/
theorem within_rematch_bind {next : Except RouteError Unit → Run κ σ ε α}
    (hgone : ∀ world, world.routers[router]? = none → Leads S (next (.ok ())) world)
    (htied : ∀ world r templates, world.routers[router]? = some r →
      r.tree.resolve r.location.value.pathname = .error (.ambiguous r.location.value.pathname templates) →
      Leads S (do
        record (.ambiguous r.location.value.pathname templates)
        next (.error (.ambiguous r.location.value.pathname templates))) world)
    (hsame : ∀ world r route, world.routers[router]? = some r →
      r.tree.resolve r.location.value.pathname = .ok route →
      Match.sameRoute? (r.route.map (·.value)) route = true → Leads S (next (.ok ())) world)
    (hreplaced : ∀ world r route, world.routers[router]? = some r →
      r.tree.resolve r.location.value.pathname = .ok route →
      Match.sameRoute? (r.route.map (·.value)) route = false →
      Leads S (do
        modify (·.replaceRoute router route)
        tell invoke .routes (·.routeObservers) router
        next (.ok ())) world) :
    Within S (rematch invoke router >>= next) := by
  intro world
  rw [rematch, bind_assoc]
  rcases hrouter : world.routers[router]? with _ | r
  · have hleads := hgone world hrouter
    rw [Leads, exec_get_bind, hrouter]
    exact hleads
  · rw [Leads, exec_get_bind, hrouter]
    dsimp only
    rw [bind_assoc]
    rcases hresult : r.tree.resolve r.location.value.pathname with error | route
    · obtain ⟨templates, rfl⟩ := RouteTree.eq_ambiguous_of_resolve_eq_error hresult
      rw [exec_bind_ok (exec_resolve_error hresult world)]
      exact htied world r templates hrouter hresult
    · rw [exec_bind_ok (exec_resolve_ok hresult world)]
      dsimp only
      cases hsameRoute : Match.sameRoute? (r.route.map (·.value)) route with
      | true => exact hsame world r route hrouter hresult hsameRoute
      | false =>
        have hleads := hreplaced world r route hrouter hresult hsameRoute
        simp only [Bool.not_false, if_true, bind_assoc, pure_bind]
        exact hleads

/-- Resolving the location that a router shows, case by case: the router is gone, the path is a tie, the route is the
same, or it is replaced and its observers are told. -/
theorem within_rematch
    (hgone : ∀ world, world.routers[router]? = none → S world world)
    (htied : ∀ world r templates, world.routers[router]? = some r →
      r.tree.resolve r.location.value.pathname = .error (.ambiguous r.location.value.pathname templates) →
      S world (world.record (.ambiguous r.location.value.pathname templates)))
    (hsame : ∀ world r route, world.routers[router]? = some r →
      r.tree.resolve r.location.value.pathname = .ok route →
      Match.sameRoute? (r.route.map (·.value)) route = true → S world world)
    (hreplaced : ∀ world r route, world.routers[router]? = some r →
      r.tree.resolve r.location.value.pathname = .ok route →
      Match.sameRoute? (r.route.map (·.value)) route = false →
      Leads S (do
        modify (·.replaceRoute router route)
        tell invoke .routes (·.routeObservers) router) world) :
    Within S (rematch invoke router) := by
  rw [← bind_pure (rematch invoke router)]
  refine within_rematch_bind (fun world hrouter _ => hgone world hrouter)
    (fun world r templates hrouter htie _ => htied world r templates hrouter htie)
    (fun world r route hrouter hroute hsameRoute _ => hsame world r route hrouter hroute hsameRoute)
    fun world r route hrouter hroute hdiffers => ?_
  have hleads := leads_bind_pure (.ok () : Except RouteError Unit) (hreplaced world r route hrouter hroute hdiffers)
  rwa [bind_assoc] at hleads

/-- A route is left as it is only if the path is a tie, and then nothing else happens. -/
theorem rematch_eq_error {error : RouteError} {world after : World κ σ ε}
    (hrematch : (rematch invoke router).exec world = (.ok (.error error), after)) :
    ∃ r templates, world.routers[router]? = some r ∧ r.tree.resolve r.location.value.pathname = .error error ∧
      error = .ambiguous r.location.value.pathname templates ∧
      after = world.record (.ambiguous r.location.value.pathname templates) := by
  rw [rematch, exec_get_bind] at hrematch
  rcases hrouter : world.routers[router]? with _ | r
  · rw [hrouter] at hrematch
    cases hrematch
  · rw [hrouter] at hrematch
    dsimp only at hrematch
    rcases hresult : r.tree.resolve r.location.value.pathname with error' | route
    · obtain ⟨templates, rfl⟩ := RouteTree.eq_ambiguous_of_resolve_eq_error hresult
      rw [exec_bind_ok (exec_resolve_error hresult world)] at hrematch
      cases hrematch
      exact ⟨r, templates, rfl, hresult, rfl, rfl⟩
    · rw [exec_bind_ok (exec_resolve_ok hresult world)] at hrematch
      dsimp only at hrematch
      split at hrematch
      · obtain ⟨_, _, _, hrest⟩ := exec_bind_eq_ok_iff.1 hrematch
        obtain ⟨_, _, _, hdone⟩ := exec_bind_eq_ok_iff.1 hrest
        cases hdone
      · cases hrematch

/-- A reconciliation that fails takes over the location, tells the location observers, and comes upon a tie then. -/
theorem sync_eq_error {error : RouteError} {world after : World κ σ ε}
    (hsync : (sync invoke router).exec world = (.ok (.error error), after)) :
    ∃ told r templates,
      (tell invoke .locations (·.locationObservers) router).exec (world.relocate router) = (.ok (), told) ∧
      told.routers[router]? = some r ∧ r.tree.resolve r.location.value.pathname = .error error ∧
      error = .ambiguous r.location.value.pathname templates ∧
      after = told.record (.ambiguous r.location.value.pathname templates) := by
  rw [sync, exec_bind_ok (exec_modify _ world)] at hsync
  obtain ⟨⟨⟩, told, htold, hrematch⟩ := exec_bind_eq_ok_iff.1 hsync
  obtain ⟨r, templates, hrouter, hresult, herror, hafter⟩ := rematch_eq_error hrematch
  exact ⟨told, r, templates, htold, hrouter, hresult, herror, hafter⟩

/-- Has a router keep the error of a reconciliation that failed. -/
def keepFailure (router : RouterId) : Except RouteError Unit → Run κ σ ε Unit
  | .ok () => pure ()
  | .error error => do
    record (.syncFailed router error)
    modify (·.modifyRouter router fun r => { r with syncError := some error })

/-- What it comes to when a router that somebody holds is told of a change. -/
def heed (invoke : Invoke κ σ ε) (router : RouterId) : Run κ σ ε Unit :=
  sync invoke router >>= keepFailure router

/-- A router that somebody holds is held while it follows a change, and one that is gone does nothing. -/
theorem within_follow_of (h : Steady R R) (hspans : Spans R S)
    (hgone : ∀ world, world.isRouterHeld router = false → S world world)
    (hheed : Within S (heed invoke router)) : Within S (follow invoke router) := by
  intro world
  rw [Leads, follow, exec_get_bind]
  cases hheld : world.isRouterHeld router with
  | false => exact fun _ => hgone world hheld
  | true =>
    rw [if_pos rfl]
    exact within_between hspans (fun world => h.slight (Still.hold world router).toSlight)
      (fun world => h.slight (Still.release world router).toSlight) hheed world

/-- Following a change is a reconciliation, after which the router keeps the error of one that failed. -/
theorem within_follow (h : Steady R R) (hspans : Spans R S)
    (hfail : ∀ world r error, world.routers[router]? = some r → R world (world.fail router error))
    (hgone : ∀ world, world.isRouterHeld router = false → S world world)
    (hsync : Within S (sync invoke router)) : Within S (follow invoke router) := by
  refine within_follow_of h hspans hgone fun world => ?_
  refine leads_bind_of id hspans.after (hsync world) fun result after hexec _ => ?_
  rcases result with error | _
  · -- Only a router that is there can have come upon a tie.
    obtain ⟨told, r, templates, -, hrouter, -, -, rfl⟩ := sync_eq_error hexec
    exact fun _ => hfail _ r error hrouter
  · exact fun _ => h.refl after

end Telling

section Passes

variable {M : Type} [AddMonoid M] {R : M → World κ σ ε → World κ σ ε → Prop}

/-- A listener amounts to what following the change does if it is a router, and to nothing if it is a callback of the
host. -/
theorem within_hear (h : Graded R) {invoke : Invoke κ σ ε}
    (hinvoke : ∀ callback told, Within (R 0) (invoke callback told)) (ofRouter : RouterId → M)
    (hfollow : ∀ router, Within (R (ofRouter router)) (follow invoke router)) (listener : Listener κ) :
    Within (R (listener.amount ofRouter)) (hear invoke listener) := by
  cases listener with
  | host callback => exact within_perform h.chains (hinvoke callback false)
  | router router => exact hfollow router

/-- Telling the listeners of a change amounts to what following it amounts to for the routers among them. -/
theorem within_notify_changes (h : Graded R) (hsteady : Steady (R 0) (R 0)) {invoke : Invoke κ σ ε}
    (hinvoke : ∀ callback told, Within (R 0) (invoke callback told))
    (hstart : Within (R 0) (startPass .changes)) (ofRouter : RouterId → M)
    (hfollow : ∀ router, Within (R (ofRouter router)) (follow invoke router))
    (registry : Registry (Listener κ)) :
    Within (R (registry.entries.map fun entry => entry.2.amount ofRouter).sum)
      (notify .changes (hear invoke) registry) := by
  have hran := ran_of_isMinor hsteady (show Channel.changes.IsMinor from trivial)
  have hpass : Within (R (registry.entries.map fun entry => 0 + entry.2.amount ofRouter).sum)
      (notify .changes (hear invoke) registry) :=
    within_notify h hsteady (fun _ => 0) (Listener.amount ofRouter) hstart hran fun entry _ =>
      within_hear h hinvoke ofRouter hfollow entry.2
  simpa only [zero_add] using hpass

end Passes

/-- A relation that holds across each step of a reconciliation after its router has taken over the location. -/
structure Deciding (R : World κ σ ε → World κ σ ε → Prop) : Prop extends Steady R R where
  look (world : World κ σ ε) : R world (world.record (.looked world.standings))
  step (world : World κ σ ε) {event : Event ε} (hstep : event.IsStep) : R world (world.record event)
  replaceRoute {world : World κ σ ε} {router : RouterId} {r : Router κ} {route : Option Match}
    (hrouter : world.routers[router]? = some r)
    (hdiffers : Match.sameRoute? (r.route.map (·.value)) route = false) :
    R world (world.replaceRoute router route)

/-- A relation that holds across each step of a reconciliation. -/
structure Following (R : World κ σ ε → World κ σ ε → Prop) : Prop extends Deciding R where
  relocate (world : World κ σ ε) (router : RouterId) : R world (world.relocate router)

/-- A relation that holds across everything that can happen to a session at once. -/
structure Stepwise (R : World κ σ ε → World κ σ ε → Prop) : Prop extends Following R where
  fail {world : World κ σ ε} {router : RouterId} {r : Router κ} (hrouter : world.routers[router]? = some r)
    (error : RouteError) : R world (world.fail router error)
  startPass : Within R (startPass .changes)
  changed (world : World κ σ ε) (history : History) :
    R world ({ world with history }.record (.changed history.current))

section Steps

variable {R : World κ σ ε → World κ σ ε → Prop} {invoke : Invoke κ σ ε}

/-- Telling the observers of a router is made of steps of a reconciliation. -/
theorem Deciding.within_tell (h : Deciding R) (hinvoke : ∀ callback told, Within R (invoke callback told))
    {channel : RouterId → Channel} {observers : Router κ → Registry κ} {router : RouterId}
    (hother : channel router ≠ .changes) : Within R (tell invoke channel observers router) :=
  Run.within_tell h.toSteady hother (fun _ _ world => h.step world trivial) hinvoke

/-- Resolving the location that a router shows is made of such steps, too. -/
theorem Deciding.within_rematch (h : Deciding R) (hinvoke : ∀ callback told, Within R (invoke callback told))
    (router : RouterId) : Within R (rematch invoke router) := by
  refine Run.within_rematch (fun world _ => h.refl world) (fun world _ _ _ _ => h.step world trivial)
    (fun world _ _ _ _ _ => h.refl world) fun world r route hrouter _ hdiffers => ?_
  exact leads_bind_calm (calm_modify _) h.trans (fun _ => h.replaceRoute hrouter hdiffers)
    fun _ => h.within_tell hinvoke nofun

/-- What taking over the location comes to is what a reconciliation comes to. -/
theorem Deciding.within_sync {S : World κ σ ε → World κ σ ε → Prop} (h : Deciding R) (hspans : Spans R S)
    (hinvoke : ∀ callback told, Within R (invoke callback told)) {router : RouterId}
    (hrelocate : ∀ world : World κ σ ε, S world (world.relocate router)) : Within S (sync invoke router) := by
  refine within_bind_after hspans (within_modify hrelocate) fun _ => ?_
  exact within_bind h.toChains (h.within_tell hinvoke nofun) fun _ => h.within_rematch hinvoke router

private theorem Following.within_sync (h : Following R) (hinvoke : ∀ callback told, Within R (invoke callback told))
    (router : RouterId) : Within R (sync invoke router) :=
  h.toDeciding.within_sync h.toSpans hinvoke fun world => h.relocate world router

/-- A reconciliation that is asked for is one with a note in front. -/
theorem Following.within_syncAsked (h : Following R)
    (hinvoke : ∀ callback told, Within R (invoke callback told)) (router : RouterId) :
    Within R (do record (.syncAsked router); sync invoke router) :=
  within_bind h.toChains (within_modify fun world => h.step world trivial) fun _ =>
    h.within_sync hinvoke router

/-- Following a change is made of such steps if keeping an error is one. -/
theorem Following.within_follow (h : Following R)
    (hfail : ∀ {world router r}, world.routers[router]? = some r → ∀ error, R world (world.fail router error))
    (hinvoke : ∀ callback told, Within R (invoke callback told)) (router : RouterId) :
    Within R (follow invoke router) :=
  Run.within_follow h.toSteady h.toSpans (fun _ _ error hrouter => hfail hrouter error)
    (fun world _ => h.refl world) (h.within_sync hinvoke router)

/-- What holds across each step holds across whole runs. -/
theorem Stepwise.lasting (h : Stepwise R) : Lasting R where
  toSteady := h.toSteady
  look := h.look
  announce {_} hinvoke {world} {history} _ := by
    have htold := within_notify_changes h.toChains.graded h.toSteady hinvoke h.startPass (fun _ => ())
      (h.within_follow h.fail hinvoke) world.changes
    exact fun hends => h.trans (h.changed world history) (htold _ hends)
  sync := h.within_syncAsked

end Steps

end Run

end PageRouter
