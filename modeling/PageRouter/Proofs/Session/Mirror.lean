import PageRouter.Proofs.Session.Attain
import PageRouter.Proofs.Session.Reached

namespace PageRouter

variable {κ σ ε : Type}

/-- The route of a router is the one of the location that it shows, unless that is a tie. A reconciliation takes over
the location first and decides on the route last, with observers in between that can start further reconciliations,
but whenever it is over, its router is settled. -/
def Router.Settled (r : Router κ) : Prop :=
  ∀ route, r.tree.resolve r.location.value.pathname = .ok route →
    Match.sameRoute? (r.route.map (·.value)) route = true

/-- A router of a session is settled, if it is there. -/
def World.SettledAt (world : World κ σ ε) (router : RouterId) : Prop :=
  ∀ r, world.routers[router]? = some r → r.Settled

/-- A router of a session shows the current location, if it listens to changes. -/
def World.CurrentAt (world : World κ σ ε) (router : RouterId) : Prop :=
  ∀ r, world.routers[router]? = some r → r.subscription ≠ none → r.location.value = world.history.location

/-- A router that shows what it showed is settled if it was. -/
theorem Router.Settled.kept {r after : Router κ} (h : r.Settled) (hkept : r.Kept after) : after.Settled := by
  intro route hroute
  rw [hkept.tree, hkept.location] at hroute
  rw [hkept.route]
  exact h route hroute

namespace World

@[simp] theorem length_modifyRouter (world : World κ σ ε) (router : RouterId) (f : Router κ → Router κ) :
    (world.modifyRouter router f).routers.length = world.routers.length :=
  List.length_modify ..

@[simp] theorem length_detach (world : World κ σ ε) (router : RouterId) :
    (world.detach router).routers.length = world.routers.length := by
  rw [detach]
  split
  · rfl
  · exact length_modifyRouter ..

@[simp] theorem length_releaseRouter (world : World κ σ ε) (router : RouterId) :
    (world.releaseRouter router).routers.length = world.routers.length := by
  rw [releaseRouter]
  split
  · rfl
  · dsimp only
    split
    · exact (length_detach ..).trans (length_modifyRouter ..)
    · exact length_modifyRouter ..

end World

namespace Minor

variable {world after : World κ σ ε}

/-- A router that was not there before was opened at the current location. -/
theorem opened_of_new (hminor : Minor world after) {router : RouterId} {r : Router κ}
    (hnew : world.routers[router]? = none) (hrouter : after.routers[router]? = some r) :
    r.location.value = world.history.location ∧
      r.tree.resolve world.history.location.pathname = .ok (r.route.map (·.value)) := by
  have hbeyond : world.routers.length ≤ router := List.getElem?_eq_none_iff.1 hnew
  have hwithin : router < after.routers.length := (List.getElem?_eq_some_iff.1 hrouter).1
  have hgrown : after.routers.length ≠ world.routers.length :=
    fun hlength => absurd (hlength ▸ hwithin) (Nat.not_lt.2 hbeyond)
  cases hminor with
  | elsewhere _ _ hrouters => exact absurd (congrArg _ hrouters) hgrown
  | record | listen | unlisten => exact absurd rfl hgrown
  | hold | observeLocations | observeRoutes => exact absurd (World.length_modifyRouter ..) hgrown
  | fail | takeError => exact absurd (World.length_modifyRouter ..) hgrown
  | release => exact absurd (World.length_releaseRouter ..) hgrown
  | detach => exact absurd (World.length_detach ..) hgrown
  | opened opening guards nextStamp hlocation hroute =>
    rw [List.getElem?_append_right hbeyond, List.getElem?_singleton] at hrouter
    split at hrouter
    · cases hrouter
      exact ⟨hlocation, hroute⟩
    · cases hrouter

/-- Minor changes leave routers settled. -/
theorem settledAt (hminor : Minor world after) {router : RouterId} (h : world.SettledAt router) :
    after.SettledAt router := by
  intro r' hrouter'
  rcases hrouter : world.routers[router]? with _ | r
  · obtain ⟨hlocation, hroute⟩ := hminor.opened_of_new hrouter hrouter'
    intro route hresult
    rw [hlocation, hroute] at hresult
    exact Except.ok.inj hresult ▸ Match.sameRoute?_refl _
  · obtain ⟨r'', hrouter'', hkept⟩ := hminor.kept router r hrouter
    cases hrouter'.symm.trans hrouter''
    exact (h r hrouter).kept hkept

/-- Minor changes leave routers where the history is. -/
theorem currentAt (hminor : Minor world after) {router : RouterId} (h : world.CurrentAt router) :
    after.CurrentAt router := by
  intro r' hrouter' hlistens
  rw [hminor.history]
  rcases hrouter : world.routers[router]? with _ | r
  · exact (hminor.opened_of_new hrouter hrouter').1
  · obtain ⟨r'', hrouter'', hkept⟩ := hminor.kept router r hrouter
    cases hrouter'.symm.trans hrouter''
    rw [hkept.location]
    exact h r hrouter (hkept.subscription hlistens)

end Minor

namespace World

variable {world : World κ σ ε} {router other : RouterId}

/-- A router that takes over a location leaves other routers settled. -/
theorem settledAt_relocate (hother : other ≠ router) (h : world.SettledAt other) :
    (world.relocate router).SettledAt other := by
  intro r' hrouter'
  rw [getElem?_relocate_of_ne hother] at hrouter'
  exact h r' hrouter'

/-- A route that comes from resolving settles the router that it is stored in. -/
theorem settledAt_replaceRoute {r : Router κ} {route : Option Match} (hrouter : world.routers[router]? = some r)
    (hroute : r.tree.resolve r.location.value.pathname = .ok route) :
    (world.replaceRoute router route).SettledAt router := by
  obtain ⟨stored, hstored, hself, -⟩ := getElem?_replaceRoute_self route hrouter
  intro r' hrouter' route' hroute'
  cases hrouter'.symm.trans hself
  cases hroute.symm.trans hroute'
  rw [hstored]
  exact Match.sameRoute?_refl route

private theorem settledAt_replaceRoute_of_ne (route : Option Match) (hother : other ≠ router)
    (h : world.SettledAt other) : (world.replaceRoute router route).SettledAt other := by
  intro r' hrouter'
  rw [getElem?_replaceRoute_of_ne route hother] at hrouter'
  exact h r' hrouter'

/-- A router that does not listen need not show the current location. -/
theorem currentAt_of_deaf (hdeaf : ∀ r, world.routers[router]? = some r → r.subscription = none) :
    world.CurrentAt router :=
  fun r hrouter hlistens => absurd (hdeaf r hrouter) hlistens

/-- A router that takes over the location of the history is where the history is. -/
theorem currentAt_relocate_self (world : World κ σ ε) (router : RouterId) :
    (world.relocate router).CurrentAt router := by
  intro r' hrouter' _
  rw [history_relocate]
  rcases hrouter : world.routers[router]? with _ | r
  · rw [relocate_of_none hrouter, hrouter] at hrouter'
    cases hrouter'
  · obtain ⟨stored, hstored, hself⟩ := getElem?_relocate_self hrouter
    cases hself.symm.trans hrouter'
    exact hstored

/-- A router that takes over the location of the history leaves all others where they are. -/
theorem currentAt_relocate (h : world.CurrentAt other) : (world.relocate router).CurrentAt other := by
  by_cases hother : other = router
  · exact hother ▸ currentAt_relocate_self world router
  · intro r' hrouter' hlistens
    rw [getElem?_relocate_of_ne hother] at hrouter'
    rw [history_relocate]
    exact h r' hrouter' hlistens

/-- Another route does not take a router elsewhere. -/
theorem currentAt_replaceRoute (route : Option Match) (h : world.CurrentAt other) :
    (world.replaceRoute router route).CurrentAt other := by
  intro r' hrouter' hlistens
  rw [history_replaceRoute]
  by_cases hother : other = router
  · subst hother
    rcases hrouter : world.routers[other]? with _ | r
    · rw [replaceRoute_of_none route hrouter] at hrouter'
      exact h r' hrouter' hlistens
    · obtain ⟨stored, -, hself, -⟩ := getElem?_replaceRoute_self route hrouter
      cases hself.symm.trans hrouter'
      exact h r hrouter hlistens
  · rw [getElem?_replaceRoute_of_ne route hother] at hrouter'
    exact h r' hrouter' hlistens

end World

namespace Run

variable {invoke : Invoke κ σ ε} {router : RouterId}

section Settled

/-- No router is left with a route that is not the one of its location. -/
def KeepsSettled (world after : World κ σ ε) : Prop :=
  ∀ router, world.SettledAt router → after.SettledAt router

/-- Minor changes leave all routers settled. -/
theorem tolerant_keepsSettled : Tolerant (KeepsSettled : World κ σ ε → World κ σ ε → Prop) KeepsSettled :=
  have hchains : Chains (KeepsSettled : World κ σ ε → World κ σ ε → Prop) :=
    ⟨fun _ _ h => h, fun hfirst hsecond router h => hsecond router (hfirst router h)⟩
  { hchains.widens with minor := fun hminor _ h => hminor.settledAt h }

private theorem steady_keepsSettled : Steady (KeepsSettled : World κ σ ε → World κ σ ε → Prop) KeepsSettled :=
  tolerant_keepsSettled.steady

/-- Resolving the location that a router shows settles that router, whatever the route observers do then. -/
theorem settled_rematch (hinvoke : ∀ callback told, Within KeepsSettled (invoke callback told)) :
    Within (fun world after => after.SettledAt router ∧ KeepsSettled world after) (rematch invoke router) := by
  have htold : Within KeepsSettled (tell invoke .routes (·.routeObservers) router) :=
    within_tell steady_keepsSettled nofun (fun _ _ _ _ h => h) hinvoke
  -- The router is gone, its path is a tie, its route is the same, or it is replaced.
  refine within_rematch ?_ ?_ ?_ ?_
  · intro world hgone
    refine ⟨fun r hrouter => ?_, fun _ h => h⟩
    rw [hgone] at hrouter
    cases hrouter
  · intro world r templates hrouter htie
    refine ⟨fun r' hrouter' route hroute => ?_, fun _ h => h⟩
    cases hrouter.symm.trans hrouter'
    rw [htie] at hroute
    cases hroute
  · intro world r route hrouter hroute hsame
    refine ⟨fun r' hrouter' route' hroute' => ?_, fun _ h => h⟩
    cases hrouter.symm.trans hrouter'
    cases hroute.symm.trans hroute'
    exact hsame
  · intro world r route hrouter hroute hdiffers
    have hreplaced : (world.replaceRoute router route).SettledAt router := world.settledAt_replaceRoute hrouter hroute
    have hkept : KeepsSettled world (world.replaceRoute router route) := by
      intro other h
      by_cases hother : other = router
      · exact hother ▸ hreplaced
      · exact world.settledAt_replaceRoute_of_ne route hother h
    intro hends
    have htold := htold (world.replaceRoute router route) hends
    exact ⟨htold router hreplaced, fun other h => htold other (hkept other h)⟩

/-- Whatever observers do in between, a reconciliation leaves its router settled. -/
theorem settled_sync (hinvoke : ∀ callback told, Within KeepsSettled (invoke callback told)) :
    Within KeepsSettled (sync invoke router) := by
  have htold : Within KeepsSettled (tell invoke .locations (·.locationObservers) router) :=
    within_tell steady_keepsSettled nofun (fun _ _ _ _ h => h) hinvoke
  have hdecided : Within (fun world after => after.SettledAt router ∧ KeepsSettled world after)
      (do tell invoke .locations (·.locationObservers) router; rematch invoke router) := fun world =>
    leads_bind_calm (calm_tell invoke _ _ router)
      (fun hfirst hsecond => ⟨hsecond.1, fun other h => hsecond.2 other (hfirst other h)⟩)
      (htold world) fun _ => settled_rematch hinvoke
  -- Relocating may unsettle the router, and no other one.
  intro world hends
  obtain ⟨hsettled, hkept⟩ := hdecided (world.relocate router) hends
  intro other h
  by_cases hother : other = router
  · exact hother ▸ hsettled
  · exact hkept other (World.settledAt_relocate hother h)

/-- Runs leave routers settled that were so before. -/
theorem lasting_keepsSettled : Lasting (KeepsSettled : World κ σ ε → World κ σ ε → Prop) where
  toSteady := steady_keepsSettled
  look _ _ h := h
  announce {invoke} hinvoke {world} {history} _ := by
    have hchains := steady_keepsSettled (κ := κ) (σ := σ) (ε := ε) |>.toChains
    have hfollow (router : RouterId) : Within KeepsSettled (follow invoke router) :=
      within_follow steady_keepsSettled hchains.widens.toSpans
        (fun world _ error _ => tolerant_keepsSettled.minor (.fail world router error)) (fun _ _ _ h => h)
        (settled_sync hinvoke)
    have htold := within_notify_changes hchains.graded steady_keepsSettled hinvoke
      (tolerant_keepsSettled.startPass .changes) (fun _ => ()) hfollow world.changes
    have hchanged : KeepsSettled world ({ world with history }.record (.changed history.current)) := fun _ h => h
    exact fun hends => hchains.trans hchanged (htold _ hends)
  sync hinvoke router := by
    refine within_bind steady_keepsSettled.toChains (within_modify fun _ _ h => h) fun _ => ?_
    exact settled_sync hinvoke

end Settled

section Current

/-- Routers that are up to date stay so, and certain ones get there. -/
abbrev Catches : Multiset RouterId → World κ σ ε → World κ σ ε → Prop :=
  Attains World.CurrentAt

private theorem accrues_catches : Accrues (Catches : Multiset RouterId → World κ σ ε → World κ σ ε → Prop) where
  zero := .zero
  add _ _ _ := .add
  minor hminor := .of_kept fun _ h => hminor.currentAt h

private theorem catches_record (world : World κ σ ε) (event : Event ε) :
    Along (Catches 0) world (world.record event) :=
  (advance_record world event).along fun _ => .of_kept fun _ h => h

private theorem deciding_catches : Deciding (Along (Catches 0) : World κ σ ε → World κ σ ε → Prop) where
  toSteady := accrues_catches.steady
  look world := catches_record world _
  step world _ _ := catches_record world _
  replaceRoute hrouter hdiffers :=
    (advance.replaceRoute hrouter hdiffers).along fun _ => .of_kept fun _ h => World.currentAt_replaceRoute _ h

/-- A router that takes over the location of the history gets up to date. -/
theorem catches_relocate (world : World κ σ ε) (router : RouterId) :
    Along (Catches {router}) world (world.relocate router) :=
  (advance.relocate world router).along fun _ =>
    .of_single (fun _ h => World.currentAt_relocate h) (World.currentAt_relocate_self world router)

/-- A reconciliation takes over the current location, and what observers do after that keeps it so. -/
theorem catches_sync (hinvoke : ∀ callback told, Within (Along (Catches 0)) (invoke callback told)) :
    Within (Along (Catches {router})) (sync invoke router) :=
  deciding_catches.within_sync (accrues_catches.graded.spans {router}) hinvoke (catches_relocate · router)

/-- A router that follows a change gets up to date, if it is still there. -/
theorem catches_follow (hinvoke : ∀ callback told, Within (Along (Catches 0)) (invoke callback told)) :
    Within (Along (Catches {router})) (follow invoke router) := by
  refine within_follow accrues_catches.steady (accrues_catches.graded.spans _)
    (fun world _ error _ => accrues_catches.tolerant.minor (.fail world router error)) (fun world hgone => ?_)
    (catches_sync hinvoke)
  refine (advance.refl world).along fun hsound => .of_single (fun _ h => h) ?_
  exact World.currentAt_of_deaf fun r hrouter => hsound.subscription_of_not_held hrouter hgone

/-- Every router that listens when a change is announced is told of it. -/
theorem catches_announce (hinvoke : ∀ callback told, Within (Along (Catches 0)) (invoke callback told))
    (history : History) :
    Within (Along fun _ after => ∀ router, after.CurrentAt router) (announce invoke history) :=
  attains_announce accrues_catches.toAdds accrues_catches.steady (accrues_catches.tolerant.startPass .changes) id
    World.currentAt_of_deaf hinvoke (fun _ => catches_follow hinvoke) history

/-- Over a whole run, routers that were up to date end up so. -/
theorem lasting_catches : Lasting (Along (Catches 0) : World κ σ ε → World κ σ ε → Prop) where
  toSteady := accrues_catches.steady
  look world := catches_record world _
  announce {_} hinvoke {world} {history} _ hends :=
    (catches_announce hinvoke history world hends).mono fun _ h => .of_kept fun router _ => h router
  sync hinvoke router := by
    have hgraded := accrues_catches (κ := κ) (σ := σ) (ε := ε) |>.graded
    refine within_bind hgraded.chains (within_modify fun world => catches_record world _) fun _ => ?_
    exact fun world hends => (catches_sync hinvoke world hends).mono fun _ h => h.forget

end Current

end Run

namespace Reached

variable {host : Host κ σ ε} {world : World κ σ ε}

/-- Whenever no program is running, routers are settled. -/
theorem settledAt (h : Reached host world) (router : RouterId) : world.SettledAt router := by
  induction h with
  | start location memory => exact fun r hrouter => by simp at hrouter
  | run _ depth program hends ih => exact Run.lasting_keepsSettled.run host depth program hends router ih

/-- Whenever no program is running, routers that listen are where the history is. -/
theorem currentAt (h : Reached host world) (router : RouterId) : world.CurrentAt router := by
  induction h with
  | start location memory => exact fun r hrouter => by simp at hrouter
  | run hworld depth program hends ih =>
    exact (Run.lasting_catches.run host depth program hends hworld.sound).2.1 router ih

/-- Whenever no program is running, a router shows the route of its location, unless that location is a tie;
and a router that was never detached shows the current location of the history. -/
theorem mirrors (h : Reached host world) {router : RouterId} {r : Router κ}
    (hrouter : world.routers[router]? = some r) :
    ((∀ path templates, r.tree.resolve r.location.value.pathname ≠ .error (.ambiguous path templates)) →
      ∃ route, r.tree.resolve r.location.value.pathname = .ok route ∧
        Match.sameRoute? (r.route.map (·.value)) route = true) ∧
    (.detached router ∉ world.journal → r.location.value = world.history.location) := by
  constructor
  · intro hclear
    rcases hresult : r.tree.resolve r.location.value.pathname with error | route
    · obtain ⟨templates, rfl⟩ := RouteTree.eq_ambiguous_of_resolve_eq_error hresult
      exact absurd hresult (hclear _ templates)
    · exact ⟨route, rfl, h.settledAt router r hrouter route hresult⟩
  · intro hattached
    refine h.currentAt router r hrouter fun hgone => hattached ?_
    exact h.sound.detached router r hrouter hgone

end Reached

/-- The session in which an observer reconciles its router once more, in the midst of a reconciliation. -/
theorem mirrors_syncedSession :
    ∃ r, syncedSession.routers[0]? = some r ∧ r.location.value = syncedSession.history.location ∧
      ∃ route, r.tree.resolve r.location.value.pathname = .ok route ∧
        Match.sameRoute? (r.route.map (·.value)) route = true := by
  have hreached : Reached echoHost syncedSession := reached_homeSession.run 2 _ request_sync_ends
  have hopened : syncedSession.routers[0]?.isSome = true := by decide +kernel
  have hclear : syncedSession.routers.all (fun r => (r.tree.resolve r.location.value.pathname).isOk) = true := by
    decide +kernel
  obtain ⟨r, hrouter⟩ := Option.isSome_iff_exists.1 hopened
  obtain ⟨hroute, hlocation⟩ := hreached.mirrors hrouter
  refine ⟨r, hrouter, hlocation detached_notMem_journal_syncedSession, hroute fun path templates htie => ?_⟩
  have hclear := List.all_eq_true.1 hclear r (List.mem_of_getElem? hrouter)
  rw [htie] at hclear
  cases hclear

end PageRouter
