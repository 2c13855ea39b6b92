import PageRouter.Proofs.Session.Journal
import PageRouter.Proofs.Session.Mirror
import PageRouter.Proofs.Session.Throughout

namespace PageRouter

variable {κ σ ε α : Type}

/-- Among the routes of a tree, what a router shows is the route of the location that it shows, unless the path of
that location is a tie. -/
def Sight.Mirrors (tree : RouteTree) (sight : Sight) : Prop :=
  (∃ path templates, tree.resolve sight.location.pathname = .error (.ambiguous path templates)) ∨
    ∃ route, tree.resolve sight.location.pathname = .ok route ∧ Match.sameRoute? sight.route route = true

/-- What a settled router shows belongs together. -/
theorem Router.Settled.mirrors_sight {r : Router κ} (h : r.Settled) : r.sight.Mirrors r.tree := by
  rcases hresult : r.tree.resolve r.location.value.pathname with error | route
  · obtain ⟨templates, rfl⟩ := RouteTree.eq_ambiguous_of_resolve_eq_error hresult
    exact .inl ⟨_, templates, hresult⟩
  · exact .inr ⟨route, hresult, h route hresult⟩

/-- A router keeps its routes. -/
def Router.KeepsTree (r after : Router κ) : Prop :=
  after.tree = r.tree

private theorem Router.KeepsTree.refl (r : Router κ) : r.KeepsTree r :=
  rfl

namespace World

/-- A router of a session is there and settled. -/
def ShowsRoute (world : World κ σ ε) (router : RouterId) : Prop :=
  ∃ r, world.routers[router]? = some r ∧ r.Settled

/-- Whenever a route observer has started to run, its router showed the route of its location. A router takes over a
location in one step and its route in another, with location observers in between, so that the two need not belong
together while those run; route observers run in a pass that starts right after the second step. -/
def Untorn (world : World κ σ ε) : Prop :=
  ∀ pass router id sight, .ran pass (.routes router) id sight ∈ world.journal →
    ∃ r, world.routers[router]? = some r ∧ ∃ shown, sight = some shown ∧ shown.Mirrors r.tree

namespace Untorn

variable {world after : World κ σ ε}

/-- Routers keep their routes, so that it makes no difference when those are looked at. -/
theorem later (h : world.Untorn) (htrees : world.Each Router.KeepsTree after) (events : List (Event ε))
    (hjournal : after.journal = events ++ world.journal)
    (hevents : ∀ pass router id sight, .ran pass (.routes router) id sight ∈ events →
      ∃ r, world.routers[router]? = some r ∧ ∃ shown, sight = some shown ∧ shown.Mirrors r.tree) : after.Untorn := by
  intro pass router id sight hran
  rw [hjournal] at hran
  obtain ⟨r, hrouter, hsight⟩ :=
    (List.mem_append.1 hran).elim (hevents pass router id sight) (h pass router id sight)
  obtain ⟨r', hrouter', htree⟩ := htrees router r hrouter
  exact ⟨r', hrouter', htree ▸ hsight⟩

/-- A note about anything but a route observer keeps a session untorn. -/
theorem record (h : world.Untorn) {event : Event ε}
    (hother : ∀ pass router id sight, event ≠ .ran pass (.routes router) id sight) : (world.record event).Untorn :=
  h.later (each_of_routers_eq .refl rfl) [event] rfl fun pass router id sight hran =>
    absurd (List.mem_singleton.1 hran).symm (hother pass router id sight)

/-- Minor changes keep a session untorn. -/
theorem minor (h : world.Untorn) (hminor : Minor world after) : after.Untorn := by
  obtain ⟨events, hjournal, hquiet⟩ := hminor.journal
  exact h.later (hminor.kept.mono fun hkept => hkept.tree) events hjournal fun _ _ _ _ hran => (hquiet _ hran).elim

/-- No route observer runs when a router takes over a location. -/
theorem relocate (h : world.Untorn) (router : RouterId) : (world.relocate router).Untorn :=
  h.later (each_relocate .refl (fun _ _ => rfl) world router) [] (journal_relocate world router) (by simp)

private theorem replaceRoute (h : world.Untorn) {router : RouterId} {r : Router κ}
    (hrouter : world.routers[router]? = some r) (route : Option Match) : (world.replaceRoute router route).Untorn := by
  obtain ⟨stored, -, -, hjournal⟩ := getElem?_replaceRoute_self route hrouter
  exact h.later (each_replaceRoute .refl (fun _ _ => rfl) world router route) [_] hjournal (by simp)

/-- A route observer of a settled router is about to run. -/
theorem ran (h : world.Untorn) {router : RouterId} (hshows : world.ShowsRoute router) (pass id : Nat) :
    (world.record (.ran pass (.routes router) id (world.sightAt? (.routes router)))).Untorn := by
  obtain ⟨r, hrouter, hsettled⟩ := hshows
  refine h.later (each_of_routers_eq .refl rfl) [_] rfl fun _ _ _ _ hran => ?_
  cases List.mem_singleton.1 hran
  exact ⟨r, hrouter, r.sight, by simp [sightAt?, sight?, hrouter], hsettled.mirrors_sight⟩

end Untorn

/-- A router that is given the route of its location is settled. -/
theorem showsRoute_replaceRoute {world : World κ σ ε} {router : RouterId} {r : Router κ} {route : Option Match}
    (hrouter : world.routers[router]? = some r) (hroute : r.tree.resolve r.location.value.pathname = .ok route) :
    (world.replaceRoute router route).ShowsRoute router := by
  obtain ⟨stored, -, hself, -⟩ := getElem?_replaceRoute_self route hrouter
  exact ⟨_, hself, settledAt_replaceRoute hrouter hroute _ hself⟩

end World

namespace Run

/-- Routers that are there and settled stay so. -/
def StaysSettled (world after : World κ σ ε) : Prop :=
  ∀ router, world.ShowsRoute router → after.ShowsRoute router

private theorem chains_staysSettled : Chains (StaysSettled : World κ σ ε → World κ σ ε → Prop) :=
  ⟨fun _ _ h => h, fun hfirst hsecond router h => hsecond router (hfirst router h)⟩

/-- Callbacks that end leave routers settled, whatever they do. -/
theorem within_staysSettled (host : Host κ σ ε) (depth : Nat) (callback : κ) (told : Bool) :
    Within StaysSettled (invoke host depth callback told) := by
  intro world hends router ⟨r, hrouter, hsettled⟩
  obtain ⟨r', hrouter', -⟩ :=
    (within_invoke advance.lasting host depth callback told world hends).2 router r hrouter
  have hstays := within_invoke lasting_keepsSettled host depth callback told world hends router
  refine ⟨r', hrouter', hstays (fun other hother => ?_) r' hrouter'⟩
  cases hrouter.symm.trans hother
  exact hsettled

private theorem robust_untorn : Robust (World.Untorn : World κ σ ε → Prop) :=
  ⟨fun hminor h => h.minor hminor⟩

variable {invoke : Invoke κ σ ε} {router : RouterId}
  (hwithin : ∀ callback told, Within StaysSettled (invoke callback told))
  (hinvoke : ∀ callback told, Keeps World.Untorn (invoke callback told))

include hinvoke

/-- A pass over location observers runs no route observers of its own. -/
theorem untorn_tell_locations : Keeps World.Untorn (tell invoke .locations (·.locationObservers) router) := by
  refine (composes_keeps World.Untorn).get_bind fun world => ?_
  split
  · exact (composes_keeps World.Untorn).always_pure ()
  · refine robust_untorn.notify (fun pass id world h => h.record fun _ _ _ _ heq => ?_)
      (fun observer => (composes_keeps World.Untorn).perform (hinvoke observer false)) _
    cases heq

include hwithin

/-- A pass over the route observers of a settled router. Each of them leaves the router settled for the next one. -/
theorem untorn_tell_routes {world : World κ σ ε} (hshows : world.ShowsRoute router) (h : world.Untorn) :
    ((tell invoke .routes (·.routeObservers) router).exec world).2.Untorn := by
  have ⟨r, hrouter, _⟩ := hshows
  rw [tell, exec_get_bind, hrouter]
  have hstarted := robust_untorn.startPass (.routes router) world h
  refine of_exec_bind (I := World.Untorn) hstarted fun pass after hexec hafter => ?_
  cases hexec
  refine exec_runObservers_of (P := fun world => world.ShowsRoute router) robust_untorn.panicked
    (fun id world hshows h => ⟨hshows, h.ran hshows _ id⟩) (fun observer world hends hshows => ?_)
    (fun observer => (composes_keeps World.Untorn).perform (hinvoke observer false))
    r.routeObservers.entries hshows hafter
  have hcontained : Within StaysSettled (contain (perform invoke observer)) :=
    within_contain chains_staysSettled.widens.toSpans (fun _ _ _ h => h)
      (within_perform chains_staysSettled (hwithin observer false))
  exact hcontained world hends router hshows

/-- Route observers are told after the route was replaced, when their router is settled. -/
theorem untorn_rematch : Keeps World.Untorn (rematch invoke router) := by
  intro world h
  rw [rematch, exec_get_bind]
  rcases hrouter : world.routers[router]? with _ | r
  · exact h
  · dsimp only
    rcases hresult : r.tree.resolve r.location.value.pathname with error | route
    · obtain ⟨templates, rfl⟩ := RouteTree.eq_ambiguous_of_resolve_eq_error hresult
      rw [exec_bind_ok (exec_resolve_error hresult world)]
      exact h.minor (.record world trivial)
    · rw [exec_bind_ok (exec_resolve_ok hresult world)]
      dsimp only
      split
      · have hreplaced := h.replaceRoute hrouter route
        have hshows := world.showsRoute_replaceRoute hrouter hresult
        have htold := untorn_tell_routes hwithin hinvoke hshows hreplaced
        refine of_exec_bind (I := World.Untorn) hreplaced fun _ replaced hexec _ => ?_
        cases hexec
        exact of_exec_bind (I := World.Untorn) htold fun _ _ _ h => h
      · exact h

/-- A reconciliation keeps a session untorn, at every moment. -/
theorem untorn_sync : Keeps World.Untorn (sync invoke router) := by
  refine (composes_keeps World.Untorn).bind (fun world h => h.relocate router) fun _ => ?_
  exact (composes_keeps World.Untorn).bind (untorn_tell_locations hinvoke) fun _ => untorn_rematch hwithin hinvoke

omit hwithin hinvoke

private theorem enduring_untorn : Enduring StaysSettled (World.Untorn : World κ σ ε → Prop) where
  toRobust := robust_untorn
  announce {_} hwithin hinvoke {world} {history} _ h := by
    have htravelled : World.Untorn { world with history } := h
    exact robust_untorn.announce hinvoke (fun _ => untorn_sync hwithin hinvoke) (htravelled.record (by simp))
  sync hwithin hinvoke _ :=
    (composes_keeps World.Untorn).bind (fun _ h => h.record (by simp)) fun _ => untorn_sync hwithin hinvoke

end Run

/-- Every session that a host can get to is untorn. -/
theorem Reached.untorn {host : Host κ σ ε} {world : World κ σ ε} (h : Reached host world) : world.Untorn := by
  induction h with
  | start location memory => exact fun _ _ _ _ hran => absurd hran (by simp)
  | run _ depth program _ ih => exact Run.enduring_untorn.run (Run.within_staysSettled _) depth program ih

/-- At the moment that a route observer starts to run, in whatever pass and whatever callbacks did before, its router
shows the route of the location that it shows, unless the path of that is a tie. This holds of every run, even of one
that is cut off because callbacks are nested too deep. -/
theorem Reached.route_observers_see_mirrors {host : Host κ σ ε} {world : World κ σ ε} (h : Reached host world)
    (depth : Nat) (program : Program κ σ ε α) {pass : Nat} {router : RouterId} {id : Nat} {sight : Option Sight}
    (hran : .ran pass (.routes router) id sight ∈ (program.run host depth world).2.journal) :
    ∃ r, (program.run host depth world).2.routers[router]? = some r ∧
      ∃ shown, sight = some shown ∧ shown.Mirrors r.tree :=
  Run.enduring_untorn.run (Run.within_staysSettled host) depth program h.untorn pass router id sight hran

/-- A host whose callbacks go to `/home`, the first time that one of them runs. -/
def homingHost : Host Unit Bool Unit where
  respond _ _ := .inspect fun world =>
    if world.memory then .done false
    else .remember (fun _ => true) (.ask (.navigate 0 "/home" .push) fun _ => .done false)
  refusal _ := none

/-- Opens a router with two route observers, and leaves the path of its pattern. -/
def leaveHome : Program Unit Bool Unit Unit :=
  .ask (.openRouter (.leaf "home" homePattern .nil)) fun _ => .ask (.subscribe (.routes 0) ()) fun _ =>
    .ask (.subscribe (.routes 0) ()) fun _ => .ask (.navigate 0 "/away" .push) fun _ => .done ()

/-- A place of the session with its route, which only `/home` has. -/
def homingSight (path : String) : Sight where
  location := ⟨"http://[::1]", "http://[::1]" ++ path, path, "", ""⟩
  route := if path = "/home" then some ⟨homePattern, {}⟩ else none

/-- The start of the session, at `/home`. -/
def homingStart : World Unit Bool Unit where
  history := .single (homingSight "/home").location
  memory := false

/-- The session when the host is back. -/
def homingEnd : World Unit Bool Unit :=
  (leaveHome.run homingHost 3 homingStart).2

/-- Whether a callback is run in a pass, while its router shows something. -/
def Event.isRunSeeing {ε : Type} (pass : Nat) (channel : Channel) (id : Nat) (sight : Option Sight) :
    Event ε → Bool
  | .ran pass' channel' id' sight' => pass' = pass && channel' = channel && id' = id && sight' = sight
  | _ => false

private theorem Event.mem_of_any_isRunSeeing {ε : Type} {journal : List (Event ε)} {pass : Nat} {channel : Channel}
    {id : Nat} {sight : Option Sight} (hany : journal.any (·.isRunSeeing pass channel id sight) = true) :
    .ran pass channel id sight ∈ journal := by
  obtain ⟨event, hevent, hsame⟩ := List.any_eq_true.1 hany
  cases event with
  | ran pass' channel' id' sight' =>
    simp only [isRunSeeing, Bool.and_eq_true, decide_eq_true_eq] at hsame
    obtain ⟨⟨⟨rfl, rfl⟩, rfl⟩, rfl⟩ := hsame
    exact hevent
  | _ => cases hsame

/-- The first observer goes back when it is told of `/away`. The second one runs after that in the same pass, and sees
`/home` with its route. -/
theorem homingEnd_mirrors_home :
    .ran 3 (.routes 0) 0 (some (homingSight "/away")) ∈ homingEnd.journal ∧
      .ran 3 (.routes 0) 1 (some (homingSight "/home")) ∈ homingEnd.journal ∧
      ∃ r, homingEnd.routers[0]? = some r ∧ (homingSight "/home").Mirrors r.tree := by
  have hreached : Reached homingHost homingStart := .start (homingSight "/home").location false
  have hfirst : .ran 3 (.routes 0) 0 (some (homingSight "/away")) ∈ homingEnd.journal :=
    Event.mem_of_any_isRunSeeing (by decide +kernel)
  have hsecond : .ran 3 (.routes 0) 1 (some (homingSight "/home")) ∈ homingEnd.journal :=
    Event.mem_of_any_isRunSeeing (by decide +kernel)
  refine ⟨hfirst, hsecond, ?_⟩
  rw [homingEnd] at hsecond ⊢
  obtain ⟨r, hrouter, shown, hshown, hmirrors⟩ := hreached.route_observers_see_mirrors 3 leaveHome hsecond
  cases hshown
  exact ⟨r, hrouter, hmirrors⟩

end PageRouter
