import PageRouter.Proofs.Session.Mirror
import PageRouter.Proofs.Url.Relative

namespace PageRouter

variable {κ σ ε α : Type}

/-- What is recorded of a path for which a route was found, or none. -/
def RouteTree.stateOf (tree : RouteTree) (path : String) : Option Match → EntryState
  | none => { path }
  | some found => { path, routeName := tree.nameOf? found.pattern, params := found.params }

/-- An entry whose location is no tie, and whose state tells the route of that location. -/
def Entry.TellsRoute (tree : RouteTree) (entry : Entry) : Prop :=
  ∃ path found, tree.resolve entry.location.pathname = .ok found ∧ entry.state = some (tree.stateOf path found)

namespace Run

/-- The state of an entry is that of the route which its path has from where the router is. -/
theorem entryState_eq_ok {host : Host κ σ ε} {r : Router κ} {path : String} {state : EntryState}
    {world after : World κ σ ε} (hstate : (entryState host r path).exec world = (.ok (.ok state), after)) :
    after = world ∧ ∃ target found, host.join r.location.value path = .ok target ∧
      r.tree.resolve target.pathname = .ok found ∧ state = r.tree.stateOf path found := by
  unfold entryState at hstate
  rcases hjoin : host.join r.location.value path with error | target
  · rw [hjoin] at hstate
    cases hstate
  · rw [hjoin] at hstate
    dsimp only at hstate
    rcases hresult : r.tree.resolve target.pathname with error | found
    · obtain ⟨templates, rfl⟩ := RouteTree.eq_ambiguous_of_resolve_eq_error hresult
      rw [exec_bind_ok (exec_resolve_error hresult world)] at hstate
      cases hstate
    · rw [exec_bind_ok (exec_resolve_ok hresult world)] at hstate
      cases found with
      | none =>
        cases hstate
        exact ⟨rfl, target, none, rfl, hresult, rfl⟩
      | some found =>
        cases hstate
        exact ⟨rfl, target, some found, rfl, hresult, rfl⟩

/-- A navigation that is recorded is announced as the entry that its path has from where the history is. -/
theorem sourceCommit_eq_ok {host : Host κ σ ε} {invoke : Invoke κ σ ε} {action : Action} {state : EntryState}
    {path : String} {world after : World κ σ ε}
    (hcommit : (sourceCommit host invoke action state path).exec world = (.ok (.ok ()), after)) :
    ∃ location, host.join world.history.location path = .ok location ∧
      (announce invoke (world.history.commit action ⟨location, some state⟩)).exec world = (.ok (), after) := by
  rw [sourceCommit, exec_get_bind] at hcommit
  split at hcommit
  · cases hcommit
  · rw [commit, exec_get_bind] at hcommit
    rcases hjoin : host.join world.history.location path with error | location
    · rw [hjoin] at hcommit
      cases hcommit
    · rw [hjoin] at hcommit
      obtain ⟨value, middle, hannounce, hdone⟩ := exec_bind_eq_ok_iff.1 hcommit
      cases hdone
      exact ⟨location, rfl, hannounce⟩

/-- It is recorded in the session that the blockers left. -/
theorem guardedCommit_eq_committed {host : Host κ σ ε} {invoke : Invoke κ σ ε} {guard : GuardId} {action : Action}
    {state : EntryState} {path : String} {world after : World κ σ ε}
    (hcommit : (guardedCommit host invoke guard action state path).exec world = (.ok (.ok .committed), after)) :
    ∃ moment location, (isBlocked invoke guard action.operation).exec world = (.ok false, moment) ∧
      host.join moment.history.location path = .ok location ∧
      (announce invoke (moment.history.commit action ⟨location, some state⟩)).exec moment = (.ok (), after) := by
  obtain ⟨blocked, moment, hasked, hrest⟩ := exec_bind_eq_ok_iff.1 hcommit
  cases blocked with
  | true => cases hrest
  | false =>
    obtain ⟨result, ended, hsource, hdone⟩ := exec_bind_eq_ok_iff.1 hrest
    cases result with
    | error error => cases hdone
    | ok =>
      cases hdone
      obtain ⟨location, hjoin, hannounce⟩ := sourceCommit_eq_ok hsource
      exact ⟨moment, location, hasked, hjoin, hannounce⟩

/-- Without blockers, nothing happens to the history while they are asked. -/
theorem history_isBlocked {invoke : Invoke κ σ ε} {guard : GuardId} {operation : Operation}
    {world moment : World κ σ ε} (hempty : ∀ g, world.guards[guard]? = some g → g.blockers.entries = [])
    (hasked : (isBlocked invoke guard operation).exec world = (.ok false, moment)) :
    moment.history = world.history := by
  obtain ⟨vetoed, middle, hvetoed, hrest⟩ := exec_bind_eq_ok_iff.1 hasked
  have hmiddle : middle.history = world.history := by
    rw [askBlockers, exec_get_bind] at hvetoed
    split at hvetoed
    · cases hvetoed
      rfl
    · next g hguard =>
      rw [askAll, hempty g hguard] at hvetoed
      cases hvetoed
      rfl
  cases vetoed with
  | true =>
    obtain ⟨value, recorded, hrecorded, hdone⟩ := exec_bind_eq_ok_iff.1 hrest
    cases hdone
  | false =>
    cases hrest
    exact hmiddle

/-- What a navigation of a router to a path came to. The state of the new entry is made up before the blockers are
asked, from where the router is; the entry itself is made afterwards, from where the history is by then. -/
structure Records (host : Host κ σ ε) (invoke : Invoke κ σ ε) (r : Router κ) (path : String) (action : Action)
    (world moment ended : World κ σ ε) (target : Location) (found : Option Match) (entry : Entry) : Prop where
  targeted : host.join r.location.value path = .ok target
  resolved : r.tree.resolve target.pathname = .ok found
  unblocked : (isBlocked invoke r.guard action.operation).exec world = (.ok false, moment)
  located : host.join moment.history.location path = .ok entry.location
  state : entry.state = some (r.tree.stateOf path found)
  announced : (announce invoke (moment.history.commit action entry)).exec moment = (.ok (), ended)

namespace Records

variable {host : Host κ σ ε} {invoke : Invoke κ σ ε} {r : Router κ} {path : String} {action : Action}
  {world moment ended : World κ σ ε} {target : Location} {found : Option Match} {entry : Entry}

/-- The state tells the route of the entry if both paths are the same. -/
theorem tellsRoute (h : Records host invoke r path action world moment ended target found entry)
    (hsame : entry.location.pathname = target.pathname) : entry.TellsRoute r.tree :=
  ⟨path, found, hsame ▸ h.resolved, h.state⟩

private theorem tellsRoute_of_location_eq (h : Records host invoke r path action world moment ended target found entry)
    (hstill : moment.history.location = r.location.value) : entry.TellsRoute r.tree := by
  have hlocated := h.located
  rw [hstill, h.targeted] at hlocated
  exact h.tellsRoute (congrArg Location.pathname (Except.ok.inj hlocated).symm)

end Records

/-- A navigation that is recorded came to all of this. -/
theorem exists_records {host : Host κ σ ε} {invoke : Invoke κ σ ε} {router : RouterId} {path : String}
    {action : Action} {world after : World κ σ ε}
    (hnavigate : (navigate host invoke router path action).exec world = (.ok (.ok .committed), after)) :
    ∃ r moment ended target found entry, world.routers[router]? = some r ∧ after = ended.releaseRouter router ∧
      Records host invoke r path action (world.holdRouter router) moment ended target found entry := by
  rw [navigate, holdingRouter, exec_between, exec_get_bind] at hnavigate
  have hheld : (world.holdRouter router).routers[router]? =
      world.routers[router]?.map fun r => { r with holders := r.holders + 1 } := by
    rw [World.holdRouter, World.modifyRouter, List.getElem?_modify]
    simp
  rcases hrouter : world.routers[router]? with _ | r
  · rw [hheld, hrouter] at hnavigate
    cases (Prod.mk.inj hnavigate).1
  · rw [hheld, hrouter, Option.map_some] at hnavigate
    obtain ⟨hresult, hafter⟩ := Prod.mk.inj hnavigate
    obtain ⟨state, middle, hstate, hrest⟩ := exec_bind_eq_ok_iff.1 (Prod.ext hresult rfl)
    cases state with
    | error error => cases hrest
    | ok state =>
      obtain ⟨rfl, target, found, htarget, hfound, rfl⟩ := entryState_eq_ok hstate
      obtain ⟨moment, location, hunblocked, hlocation, hannounced⟩ := guardedCommit_eq_committed hrest
      exact ⟨r, moment, _, target, found, ⟨location, some (r.tree.stateOf path found)⟩, rfl, hafter.symm,
        htarget, hfound, hunblocked, hlocation, rfl, hannounced⟩

end Run

/-- A navigation that is recorded records the entry that its path has from where the history is when the blockers
have been asked, with the state of the route that the path had from where the router was before. Whatever callbacks
do in between, this state tells the route of the entry, which is no tie then, if both paths are the same: so if the
history is where the router was, and also if the path begins with one slash and both are on the web. Between runs,
the history is where a router that follows it is, and without blockers it stays there. -/
theorem Run.navigate_tellsRoute {host : Host κ σ ε} {invoke : Invoke κ σ ε} {router : RouterId} {path : String}
    {action : Action} {world after : World κ σ ε}
    (hnavigate : (navigate host invoke router path action).exec world = (.ok (.ok .committed), after)) :
    ∃ r moment ended target found entry, world.routers[router]? = some r ∧ after = ended.releaseRouter router ∧
      Records host invoke r path action (world.holdRouter router) moment ended target found entry ∧
      (entry.location.pathname = target.pathname → entry.TellsRoute r.tree) ∧
      (moment.history.location = r.location.value → entry.TellsRoute r.tree) ∧
      (∀ text, Url.strip path.toList = '/' :: text → (Url.dropBreaks text).head?.any Url.isSlash = false →
        host.join = Location.join → moment.history.location.OnWeb → r.location.value.OnWeb →
        entry.TellsRoute r.tree) ∧
      (Reached host world → r.subscription ≠ none →
        (∀ g, world.guards[r.guard]? = some g → g.blockers.entries = []) → entry.TellsRoute r.tree) := by
  obtain ⟨r, moment, ended, target, found, entry, hrouter, hafter, hrecords⟩ := exists_records hnavigate
  refine ⟨r, moment, ended, target, found, entry, hrouter, hafter, hrecords, hrecords.tellsRoute,
    hrecords.tellsRoute_of_location_eq, ?_, ?_⟩
  · intro text hpath hrooted hjoin hmoment hshown
    refine hrecords.tellsRoute (Location.pathname_eq_of_rooted hmoment hshown hpath hrooted ?_ ?_)
    · exact hjoin ▸ hrecords.located
    · exact hjoin ▸ hrecords.targeted
  · intro hreached hlistens hempty
    refine hrecords.tellsRoute_of_location_eq ?_
    have hstill : moment.history = (world.holdRouter router).history := history_isBlocked hempty hrecords.unblocked
    rw [hstill]
    exact (hreached.currentAt router r hrouter hlistens).symm

/-- A pattern of a path at the root. -/
def topPattern : Pattern where
  serial := 0
  template := "/c"
  layout := ⟨[.literal "c"], false⟩
  ignoreCase := false
  layout_eq := by decide
  nodup_names := by decide
  empty_notMem_names := by decide

/-- A pattern of a path with two segments. -/
def deepPattern : Pattern where
  serial := 1
  template := "/a/c"
  layout := ⟨[.literal "a", .literal "c"], false⟩
  ignoreCase := false
  layout_eq := by decide
  nodup_names := by decide
  empty_notMem_names := by decide

/-- Two routes that a path `c` can lead to, from different places. -/
def driftTree : RouteTree :=
  .leaf "top" topPattern (.leaf "deep" deepPattern .nil)

/-- A host whose blocker goes to `/a/b` when it is asked, and has no objection. -/
def driftHost : Host Unit Unit Unit where
  respond _ _ := .ask (.commit .push { path := "/a/b" } "/a/b") fun _ => .done false
  refusal _ := none

/-- Opens a router, and adds the blocker to it. -/
def openDrift : Program Unit Unit Unit Unit :=
  .ask (.openRouter driftTree) fun _ => .ask (.block 0 ()) fun _ => .done ()

/-- The start of the session, at the root. -/
def driftStart : World Unit Unit Unit where
  history := .single ⟨"http://[::1]", "http://[::1]/", "/", "", ""⟩
  memory := ()

/-- The session with the blocker. -/
def driftSession : World Unit Unit Unit :=
  (openDrift.run driftHost 1 driftStart).2

/-- A place of the session. -/
def driftPlace (path : String) : Location :=
  ⟨"http://[::1]", "http://[::1]" ++ path, path, "", ""⟩

private theorem onWeb_driftPlace : (driftPlace "/").OnWeb ∧ (driftPlace "/a/b").OnWeb :=
  ⟨⟨{ scheme := "http".toList, authority := some { host := "[::1]".toList }, path := "/".toList },
      by decide +kernel, by decide⟩,
    ⟨{ scheme := "http".toList, authority := some { host := "[::1]".toList }, path := "/a/b".toList },
      by decide +kernel, by decide⟩⟩

private theorem exists_eq_mk_of_fst {β : Type} {p : α × β} {a : α} (hfst : p.1 = a) : ∃ b, p = (a, b) :=
  ⟨p.2, Prod.ext hfst rfl⟩

/-- What becomes of the session when the router goes to a path. -/
def driftVisit (path : String) : Except Stop (Except RouteError Outcome) × World Unit Unit Unit :=
  (Run.navigate driftHost (Run.invoke driftHost 1) 0 path .push).exec driftSession

/-- The session when the blocker has been asked. -/
def driftMoment : Except Stop Bool × World Unit Unit Unit :=
  (Run.isBlocked (Run.invoke driftHost 1) 0 .push).exec (driftSession.holdRouter 0)

/-- A target with a slash in front is recorded with its own route, although the history has moved meanwhile. -/
theorem driftVisit_tellsRoute :
    (driftVisit "/c").1 = .ok (.ok .committed) ∧ driftMoment.2.history.location = driftPlace "/a/b" ∧
      ∃ r ended target found entry, driftSession.routers[0]? = some r ∧
        Run.Records driftHost (Run.invoke driftHost 1) r "/c" .push (driftSession.holdRouter 0) driftMoment.2 ended
          target found entry ∧ entry.TellsRoute r.tree := by
  have hcommitted : (driftVisit "/c").1 = .ok (.ok .committed) := by decide +kernel
  have hmoved : driftMoment.2.history.location = driftPlace "/a/b" := by decide +kernel
  have hshown : driftSession.routers[0]?.map (fun r => (r.guard, r.location.value)) = some (0, driftPlace "/") := by
    decide +kernel
  obtain ⟨after, hvisit⟩ := exists_eq_mk_of_fst hcommitted
  obtain ⟨r, moment, ended, target, found, entry, hrouter, -, hrecords, -, -, hrooted, -⟩ :=
    Run.navigate_tellsRoute hvisit
  rw [hrouter, Option.map_some, Option.some.injEq, Prod.mk.injEq] at hshown
  obtain ⟨hguard, hshown⟩ := hshown
  have hasked : driftMoment = (.ok false, moment) := by
    have hunblocked := hrecords.unblocked
    rw [hguard] at hunblocked
    rw [driftMoment]
    exact hunblocked
  rw [hasked] at hmoved ⊢
  refine ⟨hcommitted, hmoved, r, ended, target, found, entry, hrouter, hrecords, ?_⟩
  refine hrooted ['c'] (by decide +kernel) (by decide) rfl ?_ ?_
  · rw [hmoved]
    exact onWeb_driftPlace.2
  · rw [hshown]
    exact onWeb_driftPlace.1

/-- A target that is relative to where the router was is recorded with the route that it had from there, and not with
the one that it has from where the blocker went. -/
theorem driftVisit_misses_route :
    (driftVisit "c").1 = .ok (.ok .committed) ∧ driftSession.routers.map (·.tree) = [driftTree] ∧
      (driftVisit "c").2.history.current = ⟨driftPlace "/a/c", some { path := "c", routeName := some "top" }⟩ ∧
      ¬(driftVisit "c").2.history.current.TellsRoute driftTree := by
  have hcurrent : (driftVisit "c").2.history.current =
      ⟨driftPlace "/a/c", some { path := "c", routeName := some "top" }⟩ := by decide +kernel
  refine ⟨by decide +kernel, by decide +kernel, hcurrent, ?_⟩
  rw [hcurrent]
  rintro ⟨path, found, hfound, hstate⟩
  have hdeep : driftTree.resolve "/a/c" = .ok (some ⟨deepPattern, {}⟩) := by decide +kernel
  obtain rfl : some ⟨deepPattern, {}⟩ = found := Except.ok.inj (hdeep.symm.trans hfound)
  have hdeepName : driftTree.nameOf? deepPattern = some "deep" := by decide +kernel
  have hname : some "top" = driftTree.nameOf? deepPattern := congrArg EntryState.routeName (Option.some.inj hstate)
  rw [hdeepName] at hname
  exact absurd hname (by decide)

end PageRouter
